import Mathlib

/-!
Rows that refer to each other by foreign keys. A database is kept together with the proof that
every reference finds its row. Deleting rows deletes what refers to them by a cascading key, and
is refused as a whole if a reference would be left without its row at the end of the statement.
-/
namespace Referential

open List Bool

variable {Tbl Col Val : Type} [DecidableEq Tbl] [DecidableEq Col] [DecidableEq Val]

/-- The columns of a row that are not null. -/
abbrev Row (Col Val : Type) := List (Col × Val)

def Row.get (row : Row Col Val) (column : Col) : Option Val := row.lookup column

def Row.values (row : Row Col Val) (columns : List Col) : List (Option Val) := columns.map row.get

abbrev Rows (Tbl Col Val : Type) := Tbl → List (Row Col Val)

inductive OnDelete where
  | cascade
  | noAction
  deriving DecidableEq

structure ForeignKey (Tbl Col : Type) where
  child : Tbl
  columns : List Col
  parent : Tbl
  key : List Col
  onDelete : OnDelete
  deriving DecidableEq

/-- A reference with a null column refers to nothing. -/
def ForeignKey.refers (fk : ForeignKey Tbl Col) (row target : Row Col Val) : Bool :=
  fk.columns.all (fun c => (row.get c).isSome) && row.values fk.columns = target.values fk.key

structure Schema (Tbl Col : Type) where
  required : Tbl → List Col
  uniqueKeys : List (Tbl × List Col)
  foreignKeys : List (ForeignKey Tbl Col)

structure Integral (schema : Schema Tbl Col) (rows : Rows Tbl Col Val) : Prop where
  required : ∀ t, ∀ r ∈ rows t, ∀ c ∈ schema.required t, r.get c ≠ none
  unique : ∀ u ∈ schema.uniqueKeys, (rows u.1).Pairwise fun r r' => r.values u.2 ≠ r'.values u.2
  references : ∀ fk ∈ schema.foreignKeys, ∀ r ∈ rows fk.child, (∀ c ∈ fk.columns, r.get c ≠ none) →
    ∃ p ∈ rows fk.parent, fk.refers r p = true

/-- Rows that keep all constraints of a schema. -/
structure Database (Val : Type) [DecidableEq Val] (schema : Schema Tbl Col) where
  rows : Rows Tbl Col Val
  integral : Integral schema rows

section

variable (schema : Schema Tbl Col) (rows : Rows Tbl Col Val)

/-- Rows that refer to a doomed row by a cascading key are doomed. -/
def spread (doomed : Tbl → Row Col Val → Bool) : Tbl → Row Col Val → Bool := fun t r =>
  doomed t r || schema.foreignKeys.any fun fk => fk.onDelete = .cascade && fk.child = t &&
    (rows fk.parent).any fun p => doomed fk.parent p && fk.refers r p

/-- Round after round. -/
def spreadAll (doomed : Tbl → Row Col Val → Bool) : ℕ → Tbl → Row Col Val → Bool
  | 0 => doomed
  | n + 1 => spread schema rows (spreadAll doomed n)

/-- What a statement that deletes from one table dooms. A chain of references passes no more
tables than there are keys. -/
def doomedBy (t : Tbl) (p : Row Col Val → Bool) : Tbl → Row Col Val → Bool :=
  spreadAll schema rows (fun t' r => t' = t && p r) (schema.foreignKeys.length + 1)

/-- A reference is left without its row. -/
def breaks (doomed : Tbl → Row Col Val → Bool) (fk : ForeignKey Tbl Col) : Bool :=
  (rows fk.child).any fun r => !doomed fk.child r &&
    (rows fk.parent).any fun p => doomed fk.parent p && fk.refers r p

def survivors (doomed : Tbl → Row Col Val → Bool) : Rows Tbl Col Val := fun t =>
  (rows t).filter fun r => !doomed t r

end

section

variable {schema : Schema Tbl Col} {rows : Rows Tbl Col Val} {doomed : Tbl → Row Col Val → Bool}
  {t : Tbl} {r : Row Col Val}

omit [DecidableEq Tbl] in
theorem breaks_eq_true {fk : ForeignKey Tbl Col} :
    breaks rows doomed fk ↔ ∃ r ∈ rows fk.child, doomed fk.child r = false ∧
      ∃ p ∈ rows fk.parent, doomed fk.parent p ∧ fk.refers r p := by
  simp [breaks, any_eq_true]

omit [DecidableEq Tbl] [DecidableEq Col] [DecidableEq Val] in
theorem mem_survivors : r ∈ survivors rows doomed t ↔ r ∈ rows t ∧ doomed t r = false := by
  simp [survivors]

/-- Every invariant that references carry over from the doomed rows holds of all of them. -/
theorem spreadAll_sound {P : Tbl → Row Col Val → Prop} (start : ∀ t, ∀ r ∈ rows t, doomed t r → P t r)
    (step : ∀ fk ∈ schema.foreignKeys, fk.onDelete = .cascade → ∀ r ∈ rows fk.child,
      ∀ p ∈ rows fk.parent, P fk.parent p → fk.refers r p → P fk.child r)
    (n : ℕ) (hr : r ∈ rows t) (h : spreadAll schema rows doomed n t r) : P t r := by
  induction n generalizing t r with
  | zero => exact start t r hr h
  | succ n ih =>
    rw [spreadAll, spread, or_eq_true, any_eq_true] at h
    obtain h | ⟨fk, hfk, h⟩ := h
    · exact ih hr h
    · simp only [and_eq_true, decide_eq_true_eq, any_eq_true] at h
      obtain ⟨⟨hcascade, rfl⟩, p, hp, hdoomed, hrefers⟩ := h
      exact step fk hfk hcascade r hr p hp (ih hp hdoomed) hrefers

theorem spreadAll_of_doomed (n : ℕ) (h : doomed t r) : spreadAll schema rows doomed n t r := by
  induction n with
  | zero => exact h
  | succ n ih => rw [spreadAll, spread, ih, Bool.true_or]

theorem spreadAll_of_refers (n : ℕ) {fk : ForeignKey Tbl Col} {p : Row Col Val}
    (hfk : fk ∈ schema.foreignKeys) (hcascade : fk.onDelete = .cascade) (hp : p ∈ rows fk.parent)
    (hdoomed : doomed fk.parent p) (hrefers : fk.refers r p) :
    spreadAll schema rows doomed (n + 1) fk.child r := by
  rw [spreadAll, spread, or_eq_true, any_eq_true]
  refine .inr ⟨fk, hfk, ?_⟩
  simp only [hcascade, decide_true, Bool.true_and, any_eq_true, Bool.and_eq_true]
  exact ⟨p, hp, spreadAll_of_doomed n hdoomed, hrefers⟩

omit [DecidableEq Tbl] in
theorem Integral.survivors (h : Integral schema rows)
    (hkept : ∀ fk ∈ schema.foreignKeys, breaks rows doomed fk = false) :
    Integral schema (Referential.survivors rows doomed) where
  required := fun t r hr => h.required t r (mem_survivors.mp hr).1
  unique := fun u hu => (h.unique u hu).filter _
  references := by
    intro fk hfk r hr hcolumns
    obtain ⟨hr, hsurvives⟩ := mem_survivors.mp hr
    obtain ⟨p, hp, hrefers⟩ := h.references fk hfk r hr hcolumns
    refine ⟨p, mem_survivors.mpr ⟨hp, ?_⟩, hrefers⟩
    by_contra hdoomed
    rw [not_eq_false] at hdoomed
    have hbreaks := breaks_eq_true.mpr ⟨r, hr, hsurvives, p, hp, hdoomed, hrefers⟩
    rw [hkept fk hfk] at hbreaks
    cases hbreaks

end

namespace Database

variable {schema : Schema Tbl Col}

/-- `DELETE FROM t WHERE p`, with the number of rows of the table that `p` selects. -/
def delete (db : Database Val schema) (t : Tbl) (p : Row Col Val → Bool) :
    Except (ForeignKey Tbl Col) (Database Val schema × ℕ) :=
  match h : schema.foreignKeys.find? (breaks db.rows (doomedBy schema db.rows t p)) with
  | some fk => .error fk
  | none => .ok (⟨survivors db.rows (doomedBy schema db.rows t p), db.integral.survivors fun fk hfk => by
      simpa using List.find?_eq_none.mp h fk hfk⟩, ((db.rows t).filter p).length)

variable {db : Database Val schema} {t : Tbl} {p : Row Col Val → Bool}

theorem delete_ok (h : ∀ fk ∈ schema.foreignKeys, breaks db.rows (doomedBy schema db.rows t p) fk = false) :
    ∃ db', db.delete t p = .ok (db', ((db.rows t).filter p).length) ∧
      db'.rows = survivors db.rows (doomedBy schema db.rows t p) := by
  unfold delete
  split
  · next fk hfound =>
    have hbreaks := find?_some hfound
    rw [h fk (mem_of_find?_eq_some hfound)] at hbreaks
    cases hbreaks
  · exact ⟨_, rfl, rfl⟩

theorem delete_error {fk : ForeignKey Tbl Col} (hfk : fk ∈ schema.foreignKeys)
    (h : breaks db.rows (doomedBy schema db.rows t p) fk) : ∃ fk', db.delete t p = .error fk' := by
  unfold delete
  split
  · exact ⟨_, rfl⟩
  · next hnone =>
    exact absurd h (List.find?_eq_none.mp hnone fk hfk)

end Database

/-!
Rows that belong to owners, where a reference stays with its owner. Deleting an owner's rows from
one table then deletes them from every table that the cascading keys reach from there.
-/
section

variable {Owner : Type} {schema : Schema Tbl Col} {rows : Rows Tbl Col Val}
  {owner : Tbl → Row Col Val → Owner} {t t' : Tbl} {reached : Tbl → Bool} {owners : Owner → Bool}
  {p : Row Col Val → Bool} {r : Row Col Val}

/-- The cascading keys reach these tables from `t`, each by a key of its own. -/
structure Reaches (schema : Schema Tbl Col) (t : Tbl) (reached : Tbl → Bool) : Prop where
  start : reached t = true
  closed : ∀ fk ∈ schema.foreignKeys, fk.onDelete = .cascade → reached fk.parent = true →
    reached fk.child = true
  direct : ∀ t', reached t' = true → t' ≠ t → ∃ fk ∈ schema.foreignKeys, fk.onDelete = .cascade ∧
    fk.child = t' ∧ fk.parent = t ∧ ∀ c ∈ fk.columns, c ∈ schema.required t'

/-- References do not leave their owner. -/
def StaysOwned (schema : Schema Tbl Col) (rows : Rows Tbl Col Val) (owner : Tbl → Row Col Val → Owner) :
    Prop :=
  ∀ fk ∈ schema.foreignKeys, ∀ r ∈ rows fk.child, ∀ p ∈ rows fk.parent, fk.refers r p = true →
    owner fk.child r = owner fk.parent p

theorem doomedBy_owned (hreach : Reaches schema t reached) (howned : StaysOwned schema rows owner)
    (hrows : Integral schema rows) (hp : ∀ r ∈ rows t, p r = owners (owner t r)) (hr : r ∈ rows t') :
    doomedBy schema rows t p t' r = (reached t' && owners (owner t' r)) := by
  rw [Bool.eq_iff_iff, Bool.and_eq_true]
  constructor
  · -- what is doomed is in a reached table and belongs to one of the owners
    refine spreadAll_sound (P := fun t r => reached t ∧ owners (owner t r)) ?_ ?_ _ hr
    · intro t' r hr hstart
      simp only [and_eq_true, decide_eq_true_eq] at hstart
      obtain ⟨rfl, hselected⟩ := hstart
      exact ⟨hreach.start, hp r hr ▸ hselected⟩
    · intro fk hfk hcascade r hr q hq hparent hrefers
      refine ⟨hreach.closed fk hfk hcascade hparent.1, ?_⟩
      rw [howned fk hfk r hr q hq hrefers]
      exact hparent.2
  · rintro ⟨hreached, howner⟩
    by_cases hsame : t' = t
    · subst hsame
      refine spreadAll_of_doomed _ ?_
      rw [hp r hr, howner]
      simp
    · obtain ⟨fk, hfk, hcascade, rfl, rfl, hcolumns⟩ := hreach.direct t' hreached hsame
      obtain ⟨q, hq, hrefers⟩ := hrows.references fk hfk r hr fun c hc =>
        hrows.required _ r hr c (hcolumns c hc)
      refine spreadAll_of_refers _ hfk hcascade hq ?_ hrefers
      rw [hp q hq, ← howned fk hfk r hr q hq hrefers, howner]
      simp

variable {db : Database Val schema}

/-- The owners' rows go, if none is held by a key that does not cascade. -/
theorem Database.delete_owned (hreach : Reaches schema t reached) (howned : StaysOwned schema db.rows owner)
    (hp : ∀ r ∈ db.rows t, p r = owners (owner t r))
    (hfree : ∀ fk ∈ schema.foreignKeys, reached fk.parent → reached fk.child = false →
      ∀ r ∈ db.rows fk.child, owners (owner fk.child r) = false) :
    ∃ db', db.delete t p = .ok (db', ((db.rows t).filter p).length) ∧
      ∀ t', db'.rows t' = (db.rows t').filter fun r => !(reached t' && owners (owner t' r)) := by
  have hdoomed : ∀ {t' r}, r ∈ db.rows t' → doomedBy schema db.rows t p t' r = _ :=
    doomedBy_owned hreach howned db.integral hp
  obtain ⟨db', hdelete, hrows⟩ : ∃ db', db.delete t p = .ok (db', _) ∧ _ := db.delete_ok fun fk hfk => by
    rw [← not_eq_true, breaks_eq_true]
    rintro ⟨r, hr, hsurvives, q, hq, hgone, hrefers⟩
    rw [hdoomed hr] at hsurvives
    rw [hdoomed hq, and_eq_true, ← howned fk hfk r hr q hq hrefers] at hgone
    have hunreached : reached fk.child = false := by simpa [hgone.2] using hsurvives
    rw [hfree fk hfk hgone.1 hunreached r hr] at hgone
    exact absurd hgone.2 (by simp)
  refine ⟨db', hdelete, fun t' => ?_⟩
  rw [hrows, survivors]
  exact filter_congr fun r hr => by rw [hdoomed hr]

theorem Database.delete_held (hreach : Reaches schema t reached) (howned : StaysOwned schema db.rows owner)
    (hp : ∀ r ∈ db.rows t, p r = owners (owner t r)) {fk : ForeignKey Tbl Col}
    (hfk : fk ∈ schema.foreignKeys) (hparent : reached fk.parent) (hchild : reached fk.child = false)
    (hcolumns : ∀ c ∈ fk.columns, c ∈ schema.required fk.child) (hr : r ∈ db.rows fk.child)
    (howner : owners (owner fk.child r)) : ∃ fk', db.delete t p = .error fk' := by
  obtain ⟨q, hq, hrefers⟩ := db.integral.references fk hfk r hr fun c hc =>
    db.integral.required _ r hr c (hcolumns c hc)
  refine db.delete_error hfk (breaks_eq_true.mpr ⟨r, hr, ?_, q, hq, ?_, hrefers⟩)
  · rw [doomedBy_owned hreach howned db.integral hp hr, hchild, Bool.false_and]
  · rw [doomedBy_owned hreach howned db.integral hp hq, hparent, ← howned fk hfk r hr q hq hrefers,
      howner, Bool.true_and]

end

end Referential
