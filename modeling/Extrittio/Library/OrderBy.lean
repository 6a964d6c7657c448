import Mathlib

/-!
`ORDER BY` over a list of rows, the rows that a `LIMIT` keeps, and `GROUP BY`.
-/
namespace Relational

open List

variable {α κ : Type*} [LinearOrder κ] {key : α → κ} {l l' : List α} {a : α} {n : ℕ}

def orderBy (key : α → κ) (l : List α) : List α := l.insertionSort fun a b => key a ≤ key b

theorem orderBy_perm (key : α → κ) (l : List α) : (orderBy key l).Perm l :=
  perm_insertionSort _ l

@[simp] theorem mem_orderBy : a ∈ orderBy key l ↔ a ∈ l := (orderBy_perm key l).mem_iff

theorem orderBy_sorted (key : α → κ) (l : List α) :
    (orderBy key l).Pairwise fun a b => key a ≤ key b := by
  have : Std.Total fun a b : α => key a ≤ key b := ⟨fun a b => le_total (key a) (key b)⟩
  have : IsTrans α fun a b => key a ≤ key b := ⟨fun _ _ _ => le_trans⟩
  exact pairwise_insertionSort _ l

theorem orderBy_nodup (h : (l.map key).Nodup) : ((orderBy key l).map key).Nodup :=
  (((orderBy_perm key l).map key).nodup_iff).mpr h

theorem orderBy_strict (h : (l.map key).Nodup) :
    (orderBy key l).Pairwise fun a b => key a < key b := by
  have hne : (orderBy key l).Pairwise fun a b => key a ≠ key b :=
    pairwise_map.mp (orderBy_nodup h)
  exact ((orderBy_sorted key l).and hne).imp fun h => lt_of_le_of_ne h.1 h.2

theorem getLast?_orderBy (h : (orderBy key l).getLast? = some a) :
    a ∈ l ∧ ∀ b ∈ l, key b ≤ key a := by
  obtain ⟨before, heq⟩ := getLast?_eq_some_iff.mp h
  have hmem : ∀ b, b ∈ l ↔ b ∈ before ∨ b = a := by
    intro b
    rw [← (orderBy_perm key l).mem_iff, heq, mem_append, mem_singleton]
  have hsorted := orderBy_sorted key l
  rw [heq, pairwise_append] at hsorted
  refine ⟨(hmem a).mpr (.inr rfl), fun b hb => ?_⟩
  rcases (hmem b).mp hb with hb | rfl
  · exact hsorted.2.2 b hb a (mem_singleton.mpr rfl)
  · exact le_rfl

theorem exists_getLast?_orderBy (key : α → κ) (h : l ≠ []) :
    ∃ a, (orderBy key l).getLast? = some a := by
  rw [← Option.isSome_iff_exists, getLast?_isSome]
  intro hnil
  have hperm := orderBy_perm key l
  rw [hnil] at hperm
  exact h hperm.symm.eq_nil

theorem mem_take_iff_countP_lt (h : l.Pairwise fun a b => key a < key b) (ha : a ∈ l) :
    a ∈ l.take n ↔ l.countP (fun b => key b < key a) < n := by
  induction l generalizing n with
  | nil => exact absurd ha not_mem_nil
  | cons b l ih =>
    obtain ⟨hb, hl⟩ := pairwise_cons.mp h
    cases n with
    | zero => simp
    | succ n =>
      rw [take_succ_cons, mem_cons]
      rcases mem_cons.mp ha with rfl | hal
      · have hzero : l.countP (fun c => key c < key a) = 0 := by
          simp only [countP_eq_zero, decide_eq_true_eq, not_lt]
          exact fun c hc => (hb c hc).le
        simp [hzero]
      · have hne : a ≠ b := fun hab => (hb a hal).ne (by rw [hab])
        rw [countP_cons_of_pos (by simpa using hb a hal), ih hl hal]
        simp only [hne, false_or, Nat.add_lt_add_iff_right]

theorem countP_lt_of_append {l₁ l₂ : List α}
    (h : (l₁ ++ a :: l₂).Pairwise fun a b => key a < key b) :
    (l₁ ++ a :: l₂).countP (fun b => key b < key a) = l₁.length := by
  obtain ⟨-, hl₂, hbefore⟩ := pairwise_append.mp h
  have hall : l₁.countP (fun b => key b < key a) = l₁.length := by
    rw [countP_eq_length]
    exact fun b hb => decide_eq_true (hbefore b hb a mem_cons_self)
  have hnone : (a :: l₂).countP (fun b => key b < key a) = 0 := by
    simp only [countP_eq_zero, decide_eq_true_eq, not_lt, forall_mem_cons, le_refl,
      true_and]
    exact fun b hb => ((pairwise_cons.mp hl₂).1 b hb).le
  rw [countP_append, hall, hnone, Nat.add_zero]

/-- `LIMIT n` keeps exactly the rows with fewer than `n` rows before them. -/
theorem mem_take_orderBy (h : (l.map key).Nodup) (ha : a ∈ l) :
    a ∈ (orderBy key l).take n ↔ l.countP (fun b => key b < key a) < n := by
  rw [mem_take_iff_countP_lt (orderBy_strict h) (mem_orderBy.mpr ha), (orderBy_perm key l).countP_eq]

theorem mem_take_orderBy_of_lt {b : α} (h : (l.map key).Nodup) (hb : b ∈ (orderBy key l).take n)
    (ha : a ∈ l) (hlt : key a < key b) : a ∈ (orderBy key l).take n := by
  have hbl : b ∈ l := mem_orderBy.mp (mem_of_mem_take hb)
  rw [mem_take_orderBy h hbl] at hb
  rw [mem_take_orderBy h ha]
  refine lt_of_le_of_lt (countP_mono_left fun c _ hc => ?_) hb
  simp only [decide_eq_true_eq] at hc ⊢
  exact hc.trans hlt

/-- The last value that a strictly ordered list yields is that of its largest
element that yields one. -/
theorem getLast?_filterMap_of_sorted {β : Type*} {f : α → Option β} {v : β}
    (h : l.Pairwise fun a b => key a < key b) (ha : a ∈ l) (hv : f a = some v)
    (hmax : ∀ b ∈ l, (f b).isSome → key b ≤ key a) :
    (l.filterMap f).getLast? = some v := by
  induction l with
  | nil => cases ha
  | cons b l ih =>
    obtain ⟨hb, hl⟩ := pairwise_cons.mp h
    rcases mem_cons.mp ha with rfl | hal
    · have hnone : l.filterMap f = [] := by
        rw [filterMap_eq_nil_iff]
        intro c hc
        by_contra hsome
        have hle := hmax c (mem_cons_of_mem _ hc) (Option.isSome_iff_ne_none.mpr hsome)
        exact absurd (hb c hc) (not_lt.mpr hle)
      rw [filterMap_cons_some hv, hnone, getLast?_singleton]
    · have hlast := ih hl hal fun c hc => hmax c (mem_cons_of_mem _ hc)
      cases hfb : f b with
      | none => rwa [filterMap_cons_none hfb]
      | some w =>
        rw [filterMap_cons_some hfb, getLast?_cons, hlast]
        rfl

section

/-- `GROUP BY key ORDER BY key`: the keys in order, each with its rows. -/
def groupBy (key : α → κ) (l : List α) : List (κ × List α) :=
  (orderBy id (l.map key).dedup).map fun k => (k, l.filter fun a => key a = k)

/-- Two lists whose groups have the same results have the same keys, so the whole
results agree. -/
theorem groupBy_congr {β γ : Type*} {key' : β → κ} {m : List β} {f : κ × List α → Option γ}
    {g : κ × List β → Option γ} (hf : ∀ k group, f (k, group) = none ↔ group = [])
    (hg : ∀ k group, g (k, group) = none ↔ group = [])
    (hgroups : ∀ k, f (k, l.filter fun a => key a = k) = g (k, m.filter fun b => key' b = k)) :
    (groupBy key l).map f = (groupBy key' m).map g := by
  have hkeys : ∀ k, k ∈ l.map key ↔ k ∈ m.map key' := by
    intro k
    have hnone : (l.filter fun a => key a = k) = [] ↔ (m.filter fun b => key' b = k) = [] := by
      rw [← hf k, ← hg k, hgroups]
    simp only [filter_eq_nil_iff, decide_eq_true_eq] at hnone
    rw [mem_map, mem_map, ← not_iff_not]
    push Not
    exact hnone
  have hperm : (l.map key).dedup.Perm (m.map key').dedup := by
    rw [perm_ext_iff_of_nodup (nodup_dedup _) (nodup_dedup _)]
    intro k
    rw [mem_dedup, mem_dedup, hkeys]
  have horder : orderBy id (l.map key).dedup = orderBy id (m.map key').dedup := by
    refine List.Perm.eq_of_pairwise (fun a b _ _ hab hba => le_antisymm hab hba)
      (orderBy_sorted id _) (orderBy_sorted id _) ?_
    exact (orderBy_perm id _).trans (hperm.trans (orderBy_perm id _).symm)
  rw [groupBy, groupBy, map_map, map_map, horder]
  exact map_congr_left fun k _ => hgroups k

variable {β : Type*} {f : κ × List α → Option β} {key' : β → κ} {k : κ}

theorem map_filterMap_sublist {γ δ : Type*} {f : γ → Option β} {rowKey : γ → δ} {key' : β → δ}
    {rows : List γ} (hkey : ∀ row ∈ rows, ∀ b, f row = some b → key' b = rowKey row) :
    ((rows.filterMap f).map key').Sublist (rows.map rowKey) := by
  induction rows with
  | nil => exact .slnil
  | cons row rows ih =>
    obtain ⟨hrow, hrows⟩ := forall_mem_cons.mp hkey
    cases hf : f row with
    | none =>
      rw [filterMap_cons_none hf]
      exact (ih hrows).cons (rowKey row)
    | some b =>
      rw [filterMap_cons_some hf, map_cons, hrow b hf]
      exact (ih hrows).cons_cons (rowKey row)

theorem nodup_filterMap_groupBy
    (hkey : ∀ k b, f (k, l.filter fun a => key a = k) = some b → key' b = k) :
    (((groupBy key l).filterMap f).map key').Nodup := by
  have hnodup : ((groupBy key l).map Prod.fst).Nodup := by
    rw [groupBy, map_map]
    exact (map_id _).symm ▸ ((orderBy_perm id _).nodup_iff).mpr (nodup_dedup _)
  refine hnodup.sublist (map_filterMap_sublist fun group hgroup b hb => ?_)
  obtain ⟨k, -, rfl⟩ := mem_map.mp hgroup
  exact hkey k b hb

theorem find?_filterMap_groupBy
    (hkey : ∀ k b, f (k, l.filter fun a => key a = k) = some b → key' b = k)
    (hnil : f (k, []) = none) :
    ((groupBy key l).filterMap f).find? (fun b => key' b = k) =
      f (k, l.filter fun a => key a = k) := by
  cases hfind : ((groupBy key l).filterMap f).find? (fun b => key' b = k) with
  | some b =>
    obtain ⟨⟨j, group⟩, hgroup, hf⟩ := mem_filterMap.mp (mem_of_find?_eq_some hfind)
    obtain ⟨i, -, heq⟩ := mem_map.mp hgroup
    obtain ⟨rfl, rfl⟩ := Prod.mk.inj heq
    obtain rfl : i = k := by
      rw [← hkey i b hf]
      simpa using find?_some hfind
    exact hf.symm
  | none =>
    cases hf : f (k, l.filter fun a => key a = k) with
    | none => rfl
    | some b =>
      have hne : (l.filter fun a => key a = k) ≠ [] := by
        intro h
        rw [h, hnil] at hf
        cases hf
      obtain ⟨a, ha⟩ := exists_mem_of_ne_nil _ hne
      have hmem : k ∈ l.map key := by
        obtain ⟨ha, hk⟩ := List.mem_filter.mp ha
        exact mem_map.mpr ⟨a, ha, of_decide_eq_true hk⟩
      have hb : b ∈ (groupBy key l).filterMap f := by
        refine mem_filterMap.mpr ⟨_, mem_map_of_mem ?_, hf⟩
        rwa [mem_orderBy, mem_dedup]
      have hnot := List.find?_eq_none.mp hfind b hb
      exact absurd (decide_eq_true (hkey k b hf)) hnot

end

end Relational
