import Mathlib

/-!
Maps whose entries are listed in key order, as an ordered tree map iterates over
them. The order is part of the value, so a map is determined by its lookups.
-/

universe u v w

section

variable {T : Type u} {U : Type v} {R : T → U → Prop} {items : List T} {images : List U}

theorem exists_left_of_forall₂ (h : List.Forall₂ R items images) {image : U} (hmem : image ∈ images) :
    ∃ item ∈ items, R item image := by
  induction h with
  | nil => cases hmem
  | cons hR _ ih =>
    rcases List.mem_cons.mp hmem with rfl | hmem
    · exact ⟨_, List.mem_cons_self, hR⟩
    · obtain ⟨item, hitem, hR⟩ := ih hmem
      exact ⟨item, List.mem_cons_of_mem _ hitem, hR⟩

theorem exists_right_of_forall₂ (h : List.Forall₂ R items images) {item : T} (hmem : item ∈ items) :
    ∃ image ∈ images, R item image := by
  induction h with
  | nil => cases hmem
  | cons hR _ ih =>
    rcases List.mem_cons.mp hmem with rfl | hmem
    · exact ⟨_, List.mem_cons_self, hR⟩
    · obtain ⟨image, himage, hR⟩ := ih hmem
      exact ⟨image, List.mem_cons_of_mem _ himage, hR⟩

theorem map_eq_of_forall₂ {S : T → T → Prop} {others : List T} (h : List.Forall₂ S items others)
    {f : T → U} (hf : ∀ a b, S a b → f a = f b) : items.map f = others.map f := by
  rw [← List.forall₂_eq_eq_eq]
  exact List.forall₂_map_left_iff.mpr (List.forall₂_map_right_iff.mpr (h.imp hf))

end

/-- Entries in strictly increasing key order: no key occurs twice. -/
def InOrder {K : Type u} {V : Type v} [LT K] (entries : List (K × V)) : Prop :=
  entries.Pairwise fun a b => a.1 < b.1

structure OrderedMap (K : Type u) (V : Type v) [LinearOrder K] where
  entries : List (K × V)
  inOrder : InOrder entries

/-- Insertion in key order; an entry of the same key is replaced. -/
def insertEntry {K : Type u} {V : Type v} [LinearOrder K] (key : K) (value : V) :
    List (K × V) → List (K × V)
  | [] => [(key, value)]
  | (k, v) :: rest =>
    if key < k then (key, value) :: (k, v) :: rest
    else if key = k then (key, value) :: rest
    else (k, v) :: insertEntry key value rest

namespace InOrder

open List

variable {K : Type u} {V : Type v} [LinearOrder K] {l l' : List (K × V)} {k j : K} {v w : V}

theorem lookup_cons_of_ne (h : j ≠ k) : ((k, v) :: l).lookup j = l.lookup j := by
  rw [lookup_cons, beq_false_of_ne h]

theorem of_mem_insertEntry {e : K × V} (h : e ∈ insertEntry k v l) : e = (k, v) ∨ e ∈ l := by
  induction l with
  | nil => simpa [insertEntry] using h
  | cons hd tl ih =>
    obtain ⟨j, w⟩ := hd
    simp only [insertEntry] at h
    split_ifs at h with hlt heq
    · simpa using h
    · simp only [mem_cons] at h ⊢
      tauto
    · rcases mem_cons.mp h with rfl | h
      · exact .inr mem_cons_self
      · exact (ih h).imp id (mem_cons_of_mem _)

theorem lookup_insertEntry_self : (insertEntry k v l).lookup k = some v := by
  induction l with
  | nil => exact lookup_cons_self
  | cons hd tl ih =>
    obtain ⟨i, w⟩ := hd
    simp only [insertEntry]
    split_ifs with hlt heq
    · exact lookup_cons_self
    · exact lookup_cons_self
    · rw [lookup_cons_of_ne heq, ih]

theorem lookup_insertEntry_of_ne (h : j ≠ k) : (insertEntry k v l).lookup j = l.lookup j := by
  induction l with
  | nil => exact lookup_cons_of_ne h
  | cons hd tl ih =>
    obtain ⟨i, w⟩ := hd
    simp only [insertEntry]
    split_ifs with hlt heq
    · exact lookup_cons_of_ne h
    · subst heq
      rw [lookup_cons_of_ne h, lookup_cons_of_ne h]
    · rw [lookup_cons, lookup_cons, ih]

theorem inserted (h : InOrder l) (k : K) (v : V) : InOrder (insertEntry k v l) := by
  induction l with
  | nil => exact pairwise_singleton _ _
  | cons hd tl ih =>
    obtain ⟨i, w⟩ := hd
    obtain ⟨hhd, htl⟩ := pairwise_cons.mp h
    simp only [insertEntry]
    split_ifs with hlt heq
    · refine pairwise_cons.mpr ⟨fun e he => ?_, h⟩
      rcases mem_cons.mp he with rfl | he
      · exact hlt
      · exact hlt.trans (hhd e he)
    · exact pairwise_cons.mpr ⟨fun e he => heq ▸ hhd e he, htl⟩
    · refine pairwise_cons.mpr ⟨fun e he => ?_, ih htl⟩
      rcases of_mem_insertEntry he with rfl | he
      · exact lt_of_le_of_ne (not_lt.mp hlt) (Ne.symm heq)
      · exact hhd e he

theorem filtered (h : InOrder l) (p : K × V → Bool) : InOrder (l.filter p) :=
  List.Pairwise.filter p h

theorem nodup_keys (h : InOrder l) : (l.map Prod.fst).Nodup :=
  pairwise_map.mpr (List.Pairwise.imp (fun hlt => ne_of_lt hlt) h)

theorem lookup_eq_some_iff_of_nodup (h : (l.map Prod.fst).Nodup) :
    l.lookup k = some v ↔ (k, v) ∈ l := by
  induction l with
  | nil => simp
  | cons hd tl ih =>
    obtain ⟨i, w⟩ := hd
    obtain ⟨hhd, htl⟩ := nodup_cons.mp h
    by_cases hk : k = i
    · subst hk
      have hnot : (k, v) ∉ tl := fun hmem => hhd (mem_map.mpr ⟨_, hmem, rfl⟩)
      simp [hnot, eq_comm]
    · simp [lookup_cons_of_ne hk, ih htl, hk]

theorem lookup_eq_some_iff (h : InOrder l) : l.lookup k = some v ↔ (k, v) ∈ l :=
  lookup_eq_some_iff_of_nodup h.nodup_keys

/-- Two lists in key order with the same lookups are the same list. -/
theorem eq_of_lookup_eq (h : InOrder l) (h' : InOrder l') (heq : ∀ k, l.lookup k = l'.lookup k) :
    l = l' := by
  refine List.Perm.eq_of_pairwise (fun a b _ _ hab hba => absurd hab hba.asymm) h h' ?_
  refine (perm_ext_iff_of_nodup h.nodup_keys.of_map h'.nodup_keys.of_map).mpr fun e => ?_
  rw [← h.lookup_eq_some_iff, ← h'.lookup_eq_some_iff, heq]

theorem lookup_filter (h : InOrder l) (p : K × V → Bool) :
    (l.filter p).lookup k = (l.lookup k).filter fun v => p (k, v) := by
  refine Option.ext fun v => ?_
  rw [(h.filtered p).lookup_eq_some_iff, mem_filter, Option.filter_eq_some_iff,
    h.lookup_eq_some_iff]

theorem find?_eq_some_iff (h : InOrder l) {p : K × V → Bool} {e : K × V} :
    l.find? p = some e ↔ e ∈ l ∧ p e ∧ ∀ e' ∈ l, p e' → e.1 ≤ e'.1 := by
  induction l with
  | nil => simp
  | cons hd tl ih =>
    obtain ⟨hhd, htl⟩ := pairwise_cons.mp h
    by_cases hp : p hd
    · rw [find?_cons_of_pos hp, Option.some_inj]
      constructor
      · rintro rfl
        refine ⟨mem_cons_self, hp, fun e' he' _ => ?_⟩
        rcases mem_cons.mp he' with rfl | he'
        · exact le_rfl
        · exact le_of_lt (hhd e' he')
      · rintro ⟨hmem, -, hleast⟩
        rcases mem_cons.mp hmem with rfl | hmem
        · rfl
        · exact absurd (hleast hd mem_cons_self hp) (not_le.mpr (hhd e hmem))
    · rw [find?_cons_of_neg hp, ih htl]
      constructor
      · rintro ⟨hmem, hpe, hleast⟩
        refine ⟨mem_cons_of_mem _ hmem, hpe, fun e' he' hpe' => ?_⟩
        rcases mem_cons.mp he' with rfl | he'
        · exact absurd hpe' hp
        · exact hleast e' he' hpe'
      · rintro ⟨hmem, hpe, hleast⟩
        rcases mem_cons.mp hmem with rfl | hmem
        · exact absurd hpe hp
        · exact ⟨hmem, hpe, fun e' he' => hleast e' (mem_cons_of_mem _ he')⟩

end InOrder

namespace OrderedMap

variable {K : Type u} {V : Type v} {W : Type w} [LinearOrder K]
variable {m m' : OrderedMap K V} {l : List (K × V)} {k j : K} {v : V}

instance [DecidableEq V] : DecidableEq (OrderedMap K V) := fun m m' =>
  decidable_of_iff (m.entries = m'.entries) (by cases m; cases m'; simp)

def empty : OrderedMap K V := ⟨[], .nil⟩

instance : EmptyCollection (OrderedMap K V) := ⟨empty⟩

instance : Inhabited (OrderedMap K V) := ⟨empty⟩

def get? (m : OrderedMap K V) (key : K) : Option V := m.entries.lookup key

/-- The value is put at its place in the order; an old one under its key goes. -/
def insert (m : OrderedMap K V) (key : K) (value : V) : OrderedMap K V :=
  ⟨insertEntry key value m.entries, m.inOrder.inserted key value⟩

def filter (m : OrderedMap K V) (p : K × V → Bool) : OrderedMap K V :=
  ⟨m.entries.filter p, m.inOrder.filtered p⟩

def remove (m : OrderedMap K V) (key : K) : OrderedMap K V := m.filter fun e => e.1 ≠ key

/-- The entries inserted from first to last: of several of one key the last stays. -/
def ofList (l : List (K × V)) : OrderedMap K V := l.foldl (fun m e => m.insert e.1 e.2) ∅

@[simp] theorem get?_empty : (∅ : OrderedMap K V).get? k = none := rfl

theorem get?_insert : (m.insert k v).get? j = if j = k then some v else m.get? j := by
  split_ifs with hj
  · subst hj
    exact InOrder.lookup_insertEntry_self
  · exact InOrder.lookup_insertEntry_of_ne hj

theorem get?_filter (p : K × V → Bool) :
    (m.filter p).get? k = (m.get? k).filter fun v => p (k, v) :=
  m.inOrder.lookup_filter p

theorem get?_remove : (m.remove k).get? j = if j = k then none else m.get? j := by
  rw [remove, get?_filter]
  by_cases hj : j = k <;> cases m.get? j <;> simp [hj]

theorem get?_eq_some_iff : m.get? k = some v ↔ (k, v) ∈ m.entries := m.inOrder.lookup_eq_some_iff

theorem find?_entries_eq_some_iff {p : K × V → Bool} :
    m.entries.find? p = some (k, v) ↔ m.get? k = some v ∧ p (k, v) ∧
      ∀ j w, m.get? j = some w → p (j, w) → k ≤ j := by
  rw [m.inOrder.find?_eq_some_iff, get?_eq_some_iff, Prod.forall]
  simp only [get?_eq_some_iff]

theorem ext_get? (h : ∀ k, m.get? k = m'.get? k) : m = m' := by
  have hentries : m.entries = m'.entries := InOrder.eq_of_lookup_eq m.inOrder m'.inOrder h
  cases m
  cases m'
  simpa using hentries

theorem get?_foldl_insert :
    (l.foldl (fun m e => m.insert e.1 e.2) m).get? k = (l.reverse.lookup k).or (m.get? k) := by
  induction l generalizing m with
  | nil => rfl
  | cons e l ih =>
    obtain ⟨i, w⟩ := e
    rw [List.foldl_cons, ih, get?_insert, List.reverse_cons, List.lookup_append, Option.or_assoc]
    congr 1
    by_cases hk : k = i
    · subst hk
      simp
    · simp [InOrder.lookup_cons_of_ne hk, hk]

theorem get?_ofList : (ofList l).get? k = l.reverse.lookup k := by
  rw [ofList, get?_foldl_insert, get?_empty, Option.or_none]

theorem mem_ofList (h : (l.map Prod.fst).Nodup) : (k, v) ∈ (ofList l).entries ↔ (k, v) ∈ l := by
  have hrev : (l.reverse.map Prod.fst).Nodup := by
    rw [List.map_reverse]
    exact List.nodup_reverse.mpr h
  rw [← get?_eq_some_iff, get?_ofList, InOrder.lookup_eq_some_iff_of_nodup hrev, List.mem_reverse]

theorem get?_ofList_of_nodup (h : (l.map Prod.fst).Nodup) : (ofList l).get? k = l.lookup k := by
  refine Option.ext fun v => ?_
  rw [get?_eq_some_iff, mem_ofList h, InOrder.lookup_eq_some_iff_of_nodup h]

/-- The order in which entries with distinct keys are inserted makes no difference. -/
theorem ofList_congr {l' : List (K × V)} (h : (l.map Prod.fst).Nodup)
    (h' : (l'.map Prod.fst).Nodup) (hmem : ∀ e, e ∈ l ↔ e ∈ l') : ofList l = ofList l' := by
  refine ext_get? fun k => Option.ext fun v => ?_
  rw [get?_eq_some_iff, get?_eq_some_iff, mem_ofList h, mem_ofList h', hmem]

theorem of_mem_ofList {e : K × V} (h : e ∈ (ofList l).entries) : e ∈ l := by
  have hlookup : l.reverse.lookup e.1 = some e.2 := by
    rw [← get?_ofList]
    exact get?_eq_some_iff.mpr h
  obtain ⟨before, after, hl, -⟩ := List.lookup_eq_some_iff.mp hlookup
  have hmem : e ∈ l.reverse := by
    rw [hl]
    simp
  exact List.mem_reverse.mp hmem

@[simp] theorem ofList_entries (m : OrderedMap K V) : ofList m.entries = m := by
  refine ext_get? fun k => Option.ext fun v => ?_
  rw [get?_eq_some_iff, get?_eq_some_iff]
  exact mem_ofList m.inOrder.nodup_keys

theorem ofList_filter (p : K × V → Bool) : ofList (m.entries.filter p) = m.filter p :=
  ofList_entries (m.filter p)

theorem lookup_reverse_entries : m.entries.reverse.lookup k = m.get? k := by
  rw [← get?_ofList, ofList_entries]

/-! Maps built item by item, each entry related to its item and under the item's key. -/

section

variable {T : Type*} {R : T → K × V → Prop} {items : List T} {key : T → K}

theorem exists_item_of_get? (h : List.Forall₂ R items l) (hget : (ofList l).get? k = some v) :
    ∃ item ∈ items, R item (k, v) :=
  exists_left_of_forall₂ h (of_mem_ofList (get?_eq_some_iff.mp hget))

theorem exists_get?_of_item (h : List.Forall₂ R items l)
    (hkey : ∀ item entry, R item entry → entry.1 = key item) (hnodup : (items.map key).Nodup)
    {item : T} (hitem : item ∈ items) :
    ∃ value, R item (key item, value) ∧ (ofList l).get? (key item) = some value := by
  have hkeys : l.map Prod.fst = items.map key := by
    clear hnodup hitem
    induction h with
    | nil => rfl
    | cons hR _ ih => rw [List.map_cons, List.map_cons, hkey _ _ hR, ih]
  obtain ⟨⟨k, v⟩, hmem, hR⟩ := exists_right_of_forall₂ h hitem
  obtain rfl : k = key item := hkey _ _ hR
  exact ⟨v, hR, get?_eq_some_iff.mpr ((mem_ofList (hkeys ▸ hnodup)).mpr hmem)⟩

theorem get?_ofList_map {f : T → K × V} (hkey : ∀ item, (f item).1 = key item)
    (hnodup : (items.map key).Nodup) {item : T} (hitem : item ∈ items) :
    (ofList (items.map f)).get? (key item) = some (f item).2 := by
  rw [get?_eq_some_iff, mem_ofList, ← hkey item]
  · exact List.mem_map_of_mem hitem
  · rw [List.map_map]
    exact (List.map_congr_left fun item _ => hkey item) ▸ hnodup

theorem ofList_map_congr {f : T → K × V} {items' : List T} (hkey : ∀ item, (f item).1 = key item)
    (hnodup : (items.map key).Nodup) (hnodup' : (items'.map key).Nodup)
    (hmem : ∀ e, (∃ item ∈ items, f item = e) ↔ ∃ item ∈ items', f item = e) :
    ofList (items.map f) = ofList (items'.map f) := by
  have hkeys (l : List T) : (l.map f).map Prod.fst = l.map key := by
    rw [List.map_map]
    exact List.map_congr_left fun item _ => hkey item
  refine ofList_congr (hkeys items ▸ hnodup) (hkeys items' ▸ hnodup') fun e => ?_
  rw [List.mem_map, List.mem_map, hmem]

end

end OrderedMap
