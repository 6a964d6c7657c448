import Extrittio.Library.Table
import Extrittio.Library.OrderBy

/-!
Summaries of stamped values: count, total, range and the latest value. A summary
is correct for a list of values, whatever their order; the summary of several
summaries is correct for all their values together, and a table that absorbs the
values one by one under their classes is correct for each class.
-/
namespace Relational

open List Table

universe u

structure Summary (κ α : Type u) where
  count : ℕ
  total : α
  least : α
  greatest : α
  stamp : κ
  latest : α
  deriving DecidableEq

namespace Summary

variable {κ α : Type u} {ι : Type*} [LinearOrder κ] [LinearOrder α] [AddCommMonoid α] {s t : Summary κ α}
  {l l' : List (κ × α)}

structure Of (s : Summary κ α) (l : List (κ × α)) : Prop where
  count : s.count = l.length
  total : s.total = (l.map Prod.snd).sum
  least : s.least ∈ l.map Prod.snd ∧ ∀ v ∈ l.map Prod.snd, s.least ≤ v
  greatest : s.greatest ∈ l.map Prod.snd ∧ ∀ v ∈ l.map Prod.snd, v ≤ s.greatest
  latest : (s.stamp, s.latest) ∈ l ∧ ∀ x ∈ l, x.1 ≤ s.stamp

theorem Of.perm (h : s.Of l) (hl : l.Perm l') : s.Of l' where
  count := h.count.trans hl.length_eq
  total := h.total.trans (hl.map Prod.snd).sum_eq
  least := by
    obtain ⟨hmem, hle⟩ := h.least
    exact ⟨(hl.map _).mem_iff.mp hmem, fun v hv => hle v ((hl.map _).mem_iff.mpr hv)⟩
  greatest := by
    obtain ⟨hmem, hle⟩ := h.greatest
    exact ⟨(hl.map _).mem_iff.mp hmem, fun v hv => hle v ((hl.map _).mem_iff.mpr hv)⟩
  latest := ⟨hl.mem_iff.mp h.latest.1, fun x hx => h.latest.2 x (hl.mem_iff.mpr hx)⟩

theorem Of.unique (h : s.Of l) (h' : t.Of l) (hstamps : (l.map Prod.fst).Nodup) : s = t := by
  have hleast : s.least = t.least :=
    le_antisymm (h.least.2 _ h'.least.1) (h'.least.2 _ h.least.1)
  have hgreatest : s.greatest = t.greatest :=
    le_antisymm (h'.greatest.2 _ h.greatest.1) (h.greatest.2 _ h'.greatest.1)
  have hstamp : s.stamp = t.stamp :=
    le_antisymm (h'.latest.2 _ h.latest.1) (h.latest.2 _ h'.latest.1)
  have hlatest : (s.stamp, s.latest) = (t.stamp, t.latest) :=
    inj_on_of_nodup_map hstamps h.latest.1 h'.latest.1 hstamp
  obtain ⟨count, total, least, greatest, stamp, latest⟩ := s
  obtain ⟨count', total', least', greatest', stamp', latest'⟩ := t
  have hcount : count = count' := h.count.trans h'.count.symm
  have htotal : total = total' := h.total.trans h'.total.symm
  simp only [Prod.mk.injEq] at hlatest hleast hgreatest
  simp [hcount, htotal, hleast, hgreatest, hlatest]

def single (stamp : κ) (value : α) : Summary κ α := ⟨1, value, value, value, stamp, value⟩

theorem of_single (stamp : κ) (value : α) : (single stamp value).Of [(stamp, value)] := by
  constructor <;> simp [single]

/-- The summary of two; at equal stamps the first keeps its latest value. -/
def merge (s t : Summary κ α) : Summary κ α where
  count := s.count + t.count
  total := s.total + t.total
  least := min s.least t.least
  greatest := max s.greatest t.greatest
  stamp := max s.stamp t.stamp
  latest := if s.stamp < t.stamp then t.latest else s.latest

theorem Of.merge (h : s.Of l) (h' : t.Of l') : (s.merge t).Of (l ++ l') where
  count := by simp [Summary.merge, h.count, h'.count]
  total := by simp [Summary.merge, h.total, h'.total]
  least := by
    simp only [Summary.merge, map_append, mem_append]
    constructor
    · rcases min_choice s.least t.least with hmin | hmin
      · rw [hmin]
        exact .inl h.least.1
      · rw [hmin]
        exact .inr h'.least.1
    · rintro v (hv | hv)
      · exact (min_le_left _ _).trans (h.least.2 v hv)
      · exact (min_le_right _ _).trans (h'.least.2 v hv)
  greatest := by
    simp only [Summary.merge, map_append, mem_append]
    constructor
    · rcases max_choice s.greatest t.greatest with hmax | hmax
      · rw [hmax]
        exact .inl h.greatest.1
      · rw [hmax]
        exact .inr h'.greatest.1
    · rintro v (hv | hv)
      · exact (h.greatest.2 v hv).trans (le_max_left _ _)
      · exact (h'.greatest.2 v hv).trans (le_max_right _ _)
  latest := by
    simp only [Summary.merge, mem_append]
    constructor
    · split_ifs with hlt
      · rw [max_eq_right hlt.le]
        exact .inr h'.latest.1
      · rw [max_eq_left (not_lt.mp hlt)]
        exact .inl h.latest.1
    · rintro x (hx | hx)
      · exact (h.latest.2 x hx).trans (le_max_left _ _)
      · exact (h'.latest.2 x hx).trans (le_max_right _ _)

/-- `count(*), sum, min, max` and the value at the last stamp; none of no values. -/
def ofValues (l : List (κ × α)) : Option (Summary κ α) := do
  let last ← (orderBy Prod.fst l).getLast?
  let least ← (l.map Prod.snd).min?
  let greatest ← (l.map Prod.snd).max?
  return ⟨l.length, (l.map Prod.snd).sum, least, greatest, last.1, last.2⟩

/-- The same of several summaries: `sum` of counts and totals, `min`, `max`, and
the value at the last stamp. -/
def ofRows (rows : List (Summary κ α)) : Option (Summary κ α) := do
  let last ← (orderBy stamp rows).getLast?
  let least ← (rows.map Summary.least).min?
  let greatest ← (rows.map Summary.greatest).max?
  return ⟨(rows.map count).sum, (rows.map total).sum, least, greatest, last.stamp, last.latest⟩

theorem of_ofValues (h : ofValues l = some s) : s.Of l := by
  simp only [ofValues, Option.bind_eq_bind, Option.bind_eq_some_iff, Option.pure_def,
    Option.some.injEq] at h
  obtain ⟨last, hlast, least, hleast, greatest, hgreatest, rfl⟩ := h
  exact ⟨rfl, rfl, min?_eq_some_iff.mp hleast, max?_eq_some_iff.mp hgreatest,
    getLast?_orderBy hlast⟩

/-- The summary of correct summaries is that of all their values. -/
theorem of_ofRows {rows : List ι} {summary : ι → Summary κ α} {values : ι → List (κ × α)}
    (hrows : ∀ i ∈ rows, (summary i).Of (values i)) (h : ofRows (rows.map summary) = some s) :
    s.Of (rows.flatMap values) := by
  simp only [ofRows, Option.bind_eq_bind, Option.bind_eq_some_iff, Option.pure_def,
    Option.some.injEq, map_map] at h
  obtain ⟨last, hlast, least, hleast, greatest, hgreatest, rfl⟩ := h
  obtain ⟨hlastMem, hlastMax⟩ := getLast?_orderBy hlast
  obtain ⟨i, hi, rfl⟩ := mem_map.mp hlastMem
  obtain ⟨hleastMem, hleastMin⟩ := min?_eq_some_iff.mp hleast
  obtain ⟨j, hj, rfl⟩ := mem_map.mp hleastMem
  obtain ⟨hgreatestMem, hgreatestMax⟩ := max?_eq_some_iff.mp hgreatest
  obtain ⟨k, hk, rfl⟩ := mem_map.mp hgreatestMem
  have hvalue : ∀ v, v ∈ (rows.flatMap values).map Prod.snd ↔
      ∃ i ∈ rows, v ∈ (values i).map Prod.snd := by
    intro v
    simp only [mem_map, mem_flatMap]
    constructor
    · rintro ⟨x, ⟨i, hi, hx⟩, rfl⟩
      exact ⟨i, hi, x, hx, rfl⟩
    · rintro ⟨i, hi, x, hx, rfl⟩
      exact ⟨x, ⟨i, hi, hx⟩, rfl⟩
  constructor
  · show _ = (rows.flatMap values).length
    rw [length_flatMap]
    exact congrArg List.sum (map_congr_left fun i hi => (hrows i hi).count)
  · show _ = ((rows.flatMap values).map Prod.snd).sum
    rw [map_flatMap, List.flatMap, sum_flatten, map_map]
    exact congrArg List.sum (map_congr_left fun i hi => (hrows i hi).total)
  · refine ⟨(hvalue _).mpr ⟨j, hj, (hrows j hj).least.1⟩, fun v hv => ?_⟩
    obtain ⟨i, hi, hv⟩ := (hvalue v).mp hv
    exact (hleastMin _ (mem_map_of_mem hi)).trans ((hrows i hi).least.2 v hv)
  · refine ⟨(hvalue _).mpr ⟨k, hk, (hrows k hk).greatest.1⟩, fun v hv => ?_⟩
    obtain ⟨i, hi, hv⟩ := (hvalue v).mp hv
    exact ((hrows i hi).greatest.2 v hv).trans (hgreatestMax _ (mem_map_of_mem hi))
  · refine ⟨mem_flatMap.mpr ⟨i, hi, (hrows i hi).latest.1⟩, fun x hx => ?_⟩
    obtain ⟨i, hi, hx⟩ := mem_flatMap.mp hx
    exact ((hrows i hi).latest.2 x hx).trans (hlastMax _ (mem_map_of_mem hi))

theorem ofValues_eq_none : ofValues l = none ↔ l = [] := by
  refine ⟨fun h => ?_, fun h => by rw [h]; rfl⟩
  by_contra hne
  have hmap : l.map Prod.snd ≠ [] := by simpa using hne
  obtain ⟨last, hlast⟩ := exists_getLast?_orderBy Prod.fst hne
  obtain ⟨least, hleast⟩ := Option.isSome_iff_exists.mp (isSome_min?_of_ne_nil hmap)
  obtain ⟨greatest, hgreatest⟩ := Option.isSome_iff_exists.mp (isSome_max?_of_ne_nil hmap)
  simp [ofValues, hlast, hleast, hgreatest] at h

theorem ofRows_eq_none {rows : List (Summary κ α)} : ofRows rows = none ↔ rows = [] := by
  refine ⟨fun h => ?_, fun h => by rw [h]; rfl⟩
  by_contra hne
  have hleasts : rows.map Summary.least ≠ [] := by simpa using hne
  have hgreatests : rows.map Summary.greatest ≠ [] := by simpa using hne
  obtain ⟨last, hlast⟩ := exists_getLast?_orderBy stamp hne
  obtain ⟨least, hleast⟩ := Option.isSome_iff_exists.mp (isSome_min?_of_ne_nil hleasts)
  obtain ⟨greatest, hgreatest⟩ :=
    Option.isSome_iff_exists.mp (isSome_max?_of_ne_nil hgreatests)
  simp [ofRows, hlast, hleast, hgreatest] at h

theorem eq_of_of {x y : Option (Summary κ α)} (hstamps : (l.map Prod.fst).Nodup)
    (hx : ∀ s, x = some s → s.Of l) (hy : ∀ s, y = some s → s.Of l) (hx' : x = none → l = [])
    (hy' : y = none → l = []) : x = y := by
  have hmem : ∀ {s : Summary κ α}, s.Of l → l ≠ [] := by
    intro s hs hnil
    have hlatest := hs.latest.1
    rw [hnil] at hlatest
    cases hlatest
  cases x with
  | none =>
    cases y with
    | none => rfl
    | some t => exact absurd (hx' rfl) (hmem (hy t rfl))
  | some s =>
    cases y with
    | none => exact absurd (hy' rfl) (hmem (hx s rfl))
    | some t => rw [(hx s rfl).unique (hy t rfl) hstamps]

/-- Summaries of parts give what the values themselves give. -/
theorem ofRows_eq_ofValues {rows : List ι} {summary : ι → Summary κ α} {values : ι → List (κ × α)}
    (hrows : ∀ i ∈ rows, (summary i).Of (values i)) (hperm : (rows.flatMap values).Perm l)
    (hstamps : (l.map Prod.fst).Nodup) : ofRows (rows.map summary) = ofValues l := by
  refine eq_of_of hstamps (fun s hs => (of_ofRows hrows hs).perm hperm) (fun s => of_ofValues) ?_
    ofValues_eq_none.mp
  intro hnone
  have hnil : rows = [] := by simpa using ofRows_eq_none.mp hnone
  rw [hnil, flatMap_nil] at hperm
  exact hperm.symm.eq_nil

theorem ofValues_perm (hperm : l.Perm l') (hstamps : (l'.map Prod.fst).Nodup) :
    ofValues l = ofValues l' := by
  refine eq_of_of hstamps (fun s hs => (of_ofValues hs).perm hperm) (fun s => of_ofValues) ?_
    ofValues_eq_none.mp
  intro hnone
  rw [ofValues_eq_none.mp hnone] at hperm
  exact hperm.symm.eq_nil

end Summary

section

variable {κ α Key : Type*} [DecidableEq Key] {observed : List (Key × κ × α)} {k k' : Key} {x : κ × α}

def valuesOf (observed : List (Key × κ × α)) (k : Key) : List (κ × α) :=
  (observed.filter fun o => o.1 = k).map Prod.snd

theorem flatMap_filter_perm {ι : Type*} (key : ι → Key) (l : List ι) {keys : List Key}
    (h : keys.Nodup) :
    (keys.flatMap fun k => l.filter fun a => key a = k).Perm (l.filter fun a => key a ∈ keys) := by
  induction keys with
  | nil => simp
  | cons k keys ih =>
    obtain ⟨hk, hkeys⟩ := nodup_cons.mp h
    have hsplit := filter_append_perm (fun a => key a = k) (l.filter fun a => key a ∈ k :: keys)
    have hfirst : (l.filter fun a => key a ∈ k :: keys).filter (fun a => key a = k) =
        l.filter fun a => key a = k := by
      rw [filter_filter]
      refine filter_congr fun a _ => ?_
      by_cases ha : key a = k <;> simp [ha]
    have hrest : (l.filter fun a => key a ∈ k :: keys).filter (fun a => !decide (key a = k)) =
        l.filter fun a => key a ∈ keys := by
      rw [filter_filter]
      refine filter_congr fun a _ => ?_
      by_cases ha : key a = k
      · simp [ha, hk]
      · simp [ha]
    rw [hfirst, hrest] at hsplit
    rw [flatMap_cons]
    exact ((ih hkeys).append_left _).trans hsplit

theorem flatMap_valuesOf_perm (observed : List (Key × κ × α)) {keys : List Key} (h : keys.Nodup) :
    (keys.flatMap (valuesOf observed)).Perm
      ((observed.filter fun o => o.1 ∈ keys).map Prod.snd) := by
  have hperm := (flatMap_filter_perm Prod.fst observed h).map Prod.snd
  rwa [map_flatMap] at hperm

@[simp] theorem valuesOf_cons_self : valuesOf ((k, x) :: observed) k = x :: valuesOf observed k := by
  simp [valuesOf]

theorem valuesOf_cons_of_ne (h : k' ≠ k) : valuesOf ((k', x) :: observed) k = valuesOf observed k := by
  simp [valuesOf, h]

theorem valuesOf_eq_nil (h : ∀ o ∈ observed, o.1 ≠ k) : valuesOf observed k = [] := by
  simpa [valuesOf] using h

theorem valuesOf_filter {q : Key → Bool} (h : q k) :
    valuesOf (observed.filter fun o => q o.1) k = valuesOf observed k := by
  rw [valuesOf, valuesOf, filter_filter]
  congr 1
  refine filter_congr fun o _ => ?_
  by_cases ho : o.1 = k
  · simp [ho, h]
  · simp [ho]

end

section

variable {κ α : Type u} [LinearOrder κ] [LinearOrder α] [AddCommMonoid α] {Row Key : Type*}
  [DecidableEq Key] {key : Row → Key} {t : Table Row key} {summary : Row → Summary κ α}
  {observed : List (Key × κ × α)}

/-- Each row summarises what was observed in its class, and every class has a row. -/
structure Tallies (t : Table Row key) (summary : Row → Summary κ α)
    (observed : List (Key × κ × α)) : Prop where
  rows : ∀ r ∈ t, (summary r).Of (valuesOf observed (key r))
  classes : ∀ o ∈ observed, ∃ r ∈ t, key r = o.1

theorem Tallies.upsert (h : Tallies t summary observed) {r : Row} {merge : Row → Row}
    (hmerge : ∀ x, key (merge x) = key x) {stamp : κ} {value : α}
    (hnew : summary r = .single stamp value)
    (hold : ∀ x, key x = key r → summary (merge x) = (summary x).merge (.single stamp value)) :
    Tallies (t.upsert r merge hmerge) summary ((key r, stamp, value) :: observed) where
  rows x hx := by
    rcases mem_upsert.mp hx with ⟨hx, hne⟩ | ⟨hnone, rfl⟩ | ⟨y, hy, rfl⟩
    · rw [valuesOf_cons_of_ne (Ne.symm hne)]
      exact h.rows x hx
    · have hnil : valuesOf observed (key x) = [] := by
        refine valuesOf_eq_nil fun o ho hkey => ?_
        obtain ⟨y, hy, hyo⟩ := h.classes o ho
        exact find?_eq_none.mp hnone y hy (hyo.trans hkey)
      rw [valuesOf_cons_self, hnil, hnew]
      exact Summary.of_single stamp value
    · obtain ⟨hy, hkey⟩ := find?_eq_some.mp hy
      rw [hmerge, hkey, valuesOf_cons_self, hold y hkey, ← hkey]
      refine ((h.rows y hy).merge (Summary.of_single stamp value)).perm ?_
      exact perm_append_comm
  classes o ho := by
    have hfind : (t.upsert r merge hmerge).find? (key r) = some ((t.find? (key r)).elim r merge) :=
      find?_upsert_self
    have hself := find?_eq_some.mp hfind
    rcases mem_cons.mp ho with rfl | ho
    · exact ⟨_, hself⟩
    · obtain ⟨x, hx, hkey⟩ := h.classes o ho
      by_cases heq : key x = key r
      · exact ⟨_, hself.1, hself.2.trans (heq.symm.trans hkey)⟩
      · exact ⟨x, mem_upsert.mpr (.inl ⟨hx, heq⟩), hkey⟩

theorem Tallies.perm {observed' : List (Key × κ × α)} (h : Tallies t summary observed)
    (hperm : observed.Perm observed') : Tallies t summary observed' where
  rows r hr := (h.rows r hr).perm ((hperm.filter _).map _)
  classes o ho := h.classes o (hperm.mem_iff.mpr ho)

theorem Tallies.filter (h : Tallies t summary observed) (q : Key → Bool) :
    Tallies (t.filter fun r => q (key r)) summary (observed.filter fun o => q o.1) where
  rows r hr := by
    obtain ⟨hr, hq⟩ := Table.mem_filter.mp hr
    rw [valuesOf_filter hq]
    exact h.rows r hr
  classes o ho := by
    obtain ⟨ho, hq⟩ := List.mem_filter.mp ho
    obtain ⟨r, hr, hkey⟩ := h.classes o ho
    exact ⟨r, Table.mem_filter.mpr ⟨hr, by rwa [hkey]⟩, hkey⟩

end

end Relational
