import Extrittio.Library.Table

/-!
Statements on a table and a selection of its rows. A statement about selected
rows commutes with the selection, a statement about other rows does not show in
it; so the selected part of a table evolves by itself.
-/
namespace Relational

open List

namespace Table

universe u v

variable {Row : Type u} {Key : Type v} {key : Row → Key} {t t' : Table Row key} {q : Row → Bool}
  {r : Row}

theorem filter_filter_comm (t : Table Row key) (p q : Row → Bool) :
    (t.filter p).filter q = (t.filter q).filter p := by
  apply Table.ext
  simp only [rows_filter, filter_filter]
  congr 1
  funext x
  exact Bool.and_comm _ _

theorem filter_filter_of_imp {p : Row → Bool} (h : ∀ x ∈ t, q x → p x) :
    (t.filter p).filter q = t.filter q := by
  apply Table.ext
  simp only [rows_filter, filter_filter]
  refine filter_congr fun x hx => ?_
  cases hq : q x with
  | false => simp
  | true => simp [h x hx hq]

theorem filter_update (t : Table Row key) (p : Row → Bool) {f : Row → Row}
    (hf : ∀ x, key (f x) = key x) (hq : ∀ x, q (f x) = q x) :
    (t.update p f hf).filter q = (t.filter q).update p f hf := by
  apply Table.ext
  simp only [rows_filter, rows_update, filter_map]
  congr 2
  funext x
  simp only [Function.comp_apply]
  split
  · exact hq x
  · rfl

theorem filter_update_of_not {p : Row → Bool} {f : Row → Row} (hf : ∀ x, key (f x) = key x)
    (hq : ∀ x, q (f x) = q x) (h : ∀ x ∈ t, p x → q x = false) :
    (t.update p f hf).filter q = t.filter q := by
  rw [filter_update t p hf hq]
  apply Table.ext
  rw [rows_update]
  conv_rhs => rw [← map_id (t.filter q).rows]
  refine map_congr_left fun x hx => if_neg fun hp => ?_
  obtain ⟨hx, hqx⟩ := mem_filter.mp hx
  simp [h x hx hp] at hqx

section

variable [DecidableEq Key]

theorem find?_filter (t : Table Row key) (q : Row → Bool) (k : Key) :
    (t.filter q).find? k = (t.find? k).filter q := by
  cases hfind : t.find? k with
  | none =>
    rw [find?_eq_none] at hfind
    exact find?_eq_none.mpr fun x hx => hfind x (mem_filter.mp hx).1
  | some x =>
    obtain ⟨hx, rfl⟩ := find?_eq_some.mp hfind
    cases hq : q x with
    | true =>
      rw [Option.filter_some_pos hq]
      exact find?_eq_some.mpr ⟨mem_filter.mpr ⟨hx, hq⟩, rfl⟩
    | false =>
      rw [Option.filter_some_neg (by simp [hq])]
      refine find?_eq_none.mpr fun y hy hkey => ?_
      obtain ⟨hy, hqy⟩ := mem_filter.mp hy
      rw [t.eq_of_key_eq hy hx hkey, hq] at hqy
      cases hqy

theorem find?_filter_of_forall {k : Key} (h : ∀ x ∈ t, key x = k → q x) :
    (t.filter q).find? k = t.find? k := by
  rw [find?_filter]
  cases hfind : t.find? k with
  | none => rfl
  | some x =>
    obtain ⟨hx, hkey⟩ := find?_eq_some.mp hfind
    exact Option.filter_some_pos (h x hx hkey)

/-- Inserting a selected row whose key no other row can take. -/
theorem insert?_filter (hr : q r) (h : ∀ x ∈ t, key x = key r → q x) :
    (t.filter q).insert? r = (t.insert? r).map (·.filter q) := by
  cases hinsert : t.insert? r with
  | none =>
    obtain ⟨x, hx, hkey⟩ := insert?_eq_none.mp hinsert
    exact insert?_eq_none.mpr ⟨x, mem_filter.mpr ⟨hx, h x hx hkey⟩, hkey⟩
  | some t' =>
    obtain ⟨hfree, hrows⟩ := insert?_eq_some.mp hinsert
    refine insert?_eq_some.mpr ⟨fun x hx => hfree x (mem_filter.mp hx).1, ?_⟩
    simp [hrows, hr]

theorem filter_insert?_of_not (h : t.insert? r = some t') (hr : q r = false) :
    t'.filter q = t.filter q := by
  apply Table.ext
  simp [(insert?_eq_some.mp h).2, hr]

theorem filter_upsert {merge : Row → Row} {hm : ∀ x, key (merge x) = key x} (hr : q r)
    (hmerge : ∀ x, q (merge x) = q x) (h : ∀ x ∈ t, key x = key r → q x) :
    (t.upsert r merge hm).filter q = (t.filter q).upsert r merge hm := by
  unfold upsert
  rw [insert?_filter hr h]
  cases t.insert? r with
  | none => exact filter_update t _ hm hmerge
  | some t' => rfl

theorem filter_upsert_of_not {merge : Row → Row} {hm : ∀ x, key (merge x) = key x}
    (hr : q r = false) (hmerge : ∀ x, q (merge x) = q x)
    (h : ∀ x ∈ t, key x = key r → q x = false) :
    (t.upsert r merge hm).filter q = t.filter q := by
  unfold upsert
  cases hinsert : t.insert? r with
  | none => exact filter_update_of_not hm hmerge fun x hx hp => h x hx (by simpa using hp)
  | some t' => exact filter_insert?_of_not hinsert hr

end

end Table

end Relational
