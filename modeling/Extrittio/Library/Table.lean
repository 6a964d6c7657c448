import Mathlib

/-!
Tables under a primary key, as a relational store keeps them. A table carries
the proof that its keys are distinct, so a statement that would store a second
row under one key has no result.
-/
namespace Relational

open List

universe u v

/-- Rows in insertion order, no two of them under the same key. -/
structure Table (Row : Type u) {Key : Type v} (key : Row → Key) where
  rows : List Row
  nodup : (rows.map key).Nodup

namespace Table

variable {Row : Type u} {Key : Type v} {key : Row → Key}

instance : Membership Row (Table Row key) := ⟨fun t r => r ∈ t.rows⟩

variable {r : Row} {p : Row → Bool} {f : Row → Row}

theorem mem_iff {t : Table Row key} : r ∈ t ↔ r ∈ t.rows := Iff.rfl

instance [DecidableEq Row] (t : Table Row key) (r : Row) : Decidable (r ∈ t) :=
  inferInstanceAs (Decidable (r ∈ t.rows))

@[ext] theorem ext {s t : Table Row key} (h : s.rows = t.rows) : s = t := by
  cases s
  cases t
  simp only at h
  subst h
  rfl

def empty : Table Row key := ⟨[], by simp⟩

@[simp] theorem rows_empty : (empty : Table Row key).rows = [] := rfl

@[simp] theorem not_mem_empty (r : Row) : r ∉ (empty : Table Row key) := not_mem_nil

theorem eq_of_key_eq (t : Table Row key) {r' : Row} (hr : r ∈ t) (hr' : r' ∈ t)
    (h : key r = key r') : r = r' :=
  inj_on_of_nodup_map t.nodup hr hr' h

/-- A partial unique index: its entries are distinct when no two rows share one. -/
theorem nodup_filterMap_iff {Slot : Type*} (t : Table Row key) (slot : Row → Option Slot) :
    (t.rows.filterMap slot).Nodup ↔
      ∀ r ∈ t, ∀ r' ∈ t, (slot r).isSome → slot r' = slot r → r' = r := by
  have hrows : t.rows.Nodup := List.Nodup.of_map _ t.nodup
  rw [List.Nodup, pairwise_filterMap]
  constructor
  · intro h r hr r' hr' hsome heq
    by_contra hne
    obtain ⟨k, hk⟩ := Option.isSome_iff_exists.mp hsome
    have : Std.Symm fun a a' : Row => ∀ b, slot a = some b → ∀ b', slot a' = some b' → b ≠ b' :=
      ⟨fun a a' haa b hb b' hb' hbb => haa b' hb' b hb hbb.symm⟩
    exact h.forall hr hr' (Ne.symm hne) k hk k (heq.trans hk) rfl
  · intro h
    refine hrows.imp_of_mem ?_
    intro r r' hr hr' hne b hb b' hb' hbb
    subst hbb
    exact hne (h r' hr' r hr (by simp [hb']) (hb.trans hb'.symm))

/-- `DELETE`, written as what stays. -/
def filter (t : Table Row key) (p : Row → Bool) : Table Row key :=
  ⟨t.rows.filter p, t.nodup.sublist (filter_sublist.map key)⟩

@[simp] theorem rows_filter (t : Table Row key) (p : Row → Bool) :
    (t.filter p).rows = t.rows.filter p := rfl

@[simp] theorem mem_filter {t : Table Row key} :
    r ∈ t.filter p ↔ r ∈ t ∧ p r := List.mem_filter

/-- `UPDATE`: every selected row is rewritten in place and keeps its key. -/
def update (t : Table Row key) (p : Row → Bool) (f : Row → Row)
    (hf : ∀ r, key (f r) = key r) : Table Row key where
  rows := t.rows.map fun r => if p r then f r else r
  nodup := by
    have hkey : (key ∘ fun r => if p r then f r else r) = key := by
      funext r
      simp only [Function.comp_apply]
      split
      · exact hf r
      · rfl
    rw [map_map, hkey]
    exact t.nodup

@[simp] theorem rows_update (t : Table Row key) (p : Row → Bool) (f : Row → Row)
    (hf : ∀ r, key (f r) = key r) :
    (t.update p f hf).rows = t.rows.map fun r => if p r then f r else r := rfl

theorem mem_update {t : Table Row key} {hf : ∀ r, key (f r) = key r} :
    r ∈ t.update p f hf ↔ ∃ r₀ ∈ t, (if p r₀ then f r₀ else r₀) = r := mem_map

/-- Two updates of the rows that one selection picks, where the first does not change the
selection, are one update. -/
theorem update_comp (t : Table Row key) {g : Row → Row}
    (hf : ∀ r, key (f r) = key r) (hg : ∀ r, key (g r) = key r) (hp : ∀ r, p (f r) = p r) :
    (t.update p f hf).update p g hg =
      t.update p (fun r => g (f r)) fun r => (hg (f r)).trans (hf r) := by
  apply Table.ext
  simp only [rows_update, map_map]
  apply map_congr_left
  intro r _
  simp only [Function.comp_apply]
  cases hr : p r with
  | false => simp [hr]
  | true => simp [hp, hr]

theorem update_update (t : Table Row key) (p : Row → Bool)
    (hf : ∀ r, key (f r) = key r) (hff : ∀ r, f (f r) = f r) :
    (t.update p f hf).update p f hf = t.update p f hf := by
  apply Table.ext
  simp only [rows_update, map_map]
  apply map_congr_left
  intro r _
  simp only [Function.comp_apply]
  cases hp : p r with
  | false => simp [hp]
  | true => simp [hff]

theorem countP_update (t : Table Row key) (p : Row → Bool) {q : Row → Bool}
    (hf : ∀ r, key (f r) = key r) (hq : ∀ r, q (f r) = q r) :
    (t.update p f hf).rows.countP q = t.rows.countP q := by
  rw [rows_update, countP_map]
  congr 1
  funext r
  simp only [Function.comp_apply]
  split
  · exact hq r
  · rfl

section

variable [DecidableEq Key]

def find? (t : Table Row key) (k : Key) : Option Row := t.rows.find? fun r => key r = k

variable {k : Key} {r : Row} {merge : Row → Row}

theorem find?_eq_some {t : Table Row key} :
    t.find? k = some r ↔ r ∈ t ∧ key r = k := by
  constructor
  · intro h
    exact ⟨mem_of_find?_eq_some h, by simpa using find?_some h⟩
  · rintro ⟨hr, rfl⟩
    obtain ⟨r', h'⟩ : ∃ r', t.find? (key r) = some r' := by
      rw [← Option.isSome_iff_exists]
      exact find?_isSome.mpr ⟨r, hr, by simp⟩
    have hm : r' ∈ t := mem_of_find?_eq_some h'
    have hk : key r' = key r := by simpa using find?_some h'
    rw [h', t.eq_of_key_eq hm hr hk]

theorem find?_eq_none {t : Table Row key} :
    t.find? k = none ↔ ∀ r ∈ t, key r ≠ k := by
  simp [find?, mem_iff]

theorem find?_update (t : Table Row key) (p : Row → Bool) {f : Row → Row}
    (hf : ∀ r, key (f r) = key r) (k : Key) :
    (t.update p f hf).find? k = (t.find? k).map fun r => if p r then f r else r := by
  unfold find?
  rw [rows_update, find?_map]
  congr 2
  funext r
  simp only [Function.comp_apply]
  split
  · rw [hf]
  · rfl

/-- `INSERT`: refused when the key is taken. -/
def insert? (t : Table Row key) (r : Row) : Option (Table Row key) :=
  if h : key r ∈ t.rows.map key then none
  else some ⟨t.rows ++ [r], by
    simp only [map_append, map_cons, map_nil]
    exact nodup_append.mpr ⟨t.nodup, by simp, by
      intro a ha b hb
      simp only [mem_singleton] at hb
      rintro rfl
      exact h (hb ▸ ha)⟩⟩

theorem insert?_eq_some {t t' : Table Row key} :
    t.insert? r = some t' ↔ (∀ r' ∈ t, key r' ≠ key r) ∧ t'.rows = t.rows ++ [r] := by
  unfold insert?
  split
  next h =>
    obtain ⟨r', hr', hk⟩ := mem_map.mp h
    simp only [reduceCtorEq, false_iff, not_and]
    intro hall
    exact absurd hk (hall r' hr')
  next h =>
    have hfree : ∀ r' ∈ t, key r' ≠ key r := by
      intro r' hr' hk
      exact h (mem_map.mpr ⟨r', hr', hk⟩)
    simp only [Option.some.injEq]
    constructor
    · rintro rfl
      exact ⟨hfree, rfl⟩
    · rintro ⟨-, h'⟩
      exact Table.ext h'.symm

theorem insert?_eq_none {t : Table Row key} :
    t.insert? r = none ↔ ∃ r' ∈ t, key r' = key r := by
  unfold insert?
  split
  next h => simpa [mem_iff] using h
  next h => simpa [mem_iff] using h

theorem mem_of_insert? {t t' : Table Row key} {r' : Row} (h : t.insert? r = some t') :
    r' ∈ t' ↔ r' ∈ t ∨ r' = r := by
  rw [mem_iff, (insert?_eq_some.mp h).2]
  simp [mem_iff]

/-- `INSERT ... ON CONFLICT (key) DO UPDATE`: the new row, or the stored row
under its key rewritten by `merge`. -/
def upsert (t : Table Row key) (r : Row) (merge : Row → Row)
    (hm : ∀ r', key (merge r') = key r') : Table Row key :=
  match t.insert? r with
  | some t' => t'
  | none => t.update (fun r' => key r' = key r) merge hm

theorem mem_upsert {t : Table Row key} {x : Row} {hm : ∀ r', key (merge r') = key r'} :
    x ∈ t.upsert r merge hm ↔
      (x ∈ t ∧ key x ≠ key r) ∨ (t.find? (key r) = none ∧ x = r) ∨
        ∃ r₀, t.find? (key r) = some r₀ ∧ x = merge r₀ := by
  unfold upsert
  split
  next t' h =>
    have hfree := (insert?_eq_some.mp h).1
    have hnone : t.find? (key r) = none := find?_eq_none.mpr hfree
    rw [mem_of_insert? h]
    simp only [hnone, reduceCtorEq, false_and, exists_false, or_false, true_and]
    constructor
    · rintro (hx | rfl)
      · exact .inl ⟨hx, hfree x hx⟩
      · exact .inr rfl
    · rintro (⟨hx, -⟩ | rfl)
      · exact .inl hx
      · exact .inr rfl
  next h =>
    obtain ⟨r₀, hr₀, hk₀⟩ := insert?_eq_none.mp h
    have hsome : t.find? (key r) = some r₀ := find?_eq_some.mpr ⟨hr₀, hk₀⟩
    rw [mem_update]
    simp only [hsome, reduceCtorEq, false_and, false_or, Option.some.injEq,
      exists_eq_left', decide_eq_true_eq]
    constructor
    · rintro ⟨y, hy, rfl⟩
      split
      next hk => exact .inr (by rw [t.eq_of_key_eq hy hr₀ (hk.trans hk₀.symm)])
      next hk => exact .inl ⟨hy, hk⟩
    · rintro (⟨hx, hk⟩ | rfl)
      · exact ⟨x, hx, by simp [hk]⟩
      · exact ⟨r₀, hr₀, by simp [hk₀]⟩

theorem find?_upsert_of_ne {t : Table Row key}
    {hm : ∀ r', key (merge r') = key r'} (h : k ≠ key r) :
    (t.upsert r merge hm).find? k = t.find? k := by
  cases hfind : t.find? k with
  | none =>
    rw [find?_eq_none] at hfind ⊢
    intro x hx
    rcases mem_upsert.mp hx with ⟨hx, -⟩ | ⟨-, rfl⟩ | ⟨r₀, h₀, rfl⟩
    · exact hfind x hx
    · exact Ne.symm h
    · rw [hm, (find?_eq_some.mp h₀).2]
      exact Ne.symm h
  | some y =>
    rw [find?_eq_some] at hfind ⊢
    obtain ⟨hy, rfl⟩ := hfind
    exact ⟨mem_upsert.mpr (.inl ⟨hy, h⟩), rfl⟩

theorem find?_upsert_self {t : Table Row key} {hm : ∀ r', key (merge r') = key r'} :
    (t.upsert r merge hm).find? (key r) = some ((t.find? (key r)).elim r merge) := by
  rw [find?_eq_some, mem_upsert]
  cases h : t.find? (key r) with
  | none => simp
  | some r₀ => simp [hm, (find?_eq_some.mp h).2]

end

end Table

end Relational
