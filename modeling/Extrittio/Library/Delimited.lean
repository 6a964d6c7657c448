import Mathlib

/-!
Encodings that can be read off the front of a longer text: the encoded value and the
rest are determined, whenever the rest begins at a boundary.
-/

universe u v

variable {α : Type u} {χ : Type v}

/-- Two texts that begin with encoded values and go on at boundaries are the same only if
the values and the rests are. -/
def Delimits (boundary : List χ → Prop) (encode : α → List χ) : Prop :=
  ∀ ⦃a b : α⦄ ⦃s t : List χ⦄, boundary s → boundary t → encode a ++ s = encode b ++ t → a = b ∧ s = t

/-- The text does not go on with a character of the class. -/
def NotAhead (P : χ → Prop) (s : List χ) : Prop := ∀ c ∈ s.head?, ¬P c

/-- Encodings that end by themselves. -/
abbrev SelfDelimiting (encode : α → List χ) : Prop := Delimits (fun _ => True) encode

variable {P : χ → Prop} {boundary : List χ → Prop} {encode : α → List χ}

theorem notAhead_nil (P : χ → Prop) : NotAhead P [] := nofun

theorem notAhead_cons {c : χ} {s : List χ} : NotAhead P (c :: s) ↔ ¬P c := by
  simp [NotAhead]

theorem Delimits.injective (h : Delimits boundary encode) (hnil : boundary []) :
    Function.Injective encode := by
  intro a b heq
  exact (h hnil hnil (congrArg (· ++ []) heq)).1

theorem SelfDelimiting.of_append (h : SelfDelimiting encode) {a b : α} {s t : List χ}
    (heq : encode a ++ s = encode b ++ t) : a = b ∧ s = t := h trivial trivial heq

theorem selfDelimiting_of_decode {decode : List χ → Option (α × List χ)}
    (h : ∀ a s, decode (encode a ++ s) = some (a, s)) : SelfDelimiting encode := by
  intro a b s t _ _ heq
  have hsame : some (a, s) = some (b, t) := by rw [← h a s, ← h b t, heq]
  exact Prod.mk.inj (Option.some.inj hsame)

/-- The longest beginning of one class is determined. -/
theorem append_inj_of_class {l m s t : List χ} (hl : ∀ c ∈ l, P c) (hm : ∀ c ∈ m, P c)
    (hs : NotAhead P s) (ht : NotAhead P t) (h : l ++ s = m ++ t) : l = m ∧ s = t := by
  induction l generalizing m with
  | nil =>
    cases m with
    | nil => exact ⟨rfl, h⟩
    | cons d m =>
      rw [List.nil_append] at h
      exact absurd (hm d List.mem_cons_self) (hs d (by rw [h]; rfl))
  | cons c l ih =>
    cases m with
    | nil =>
      rw [List.nil_append] at h
      exact absurd (hl c List.mem_cons_self) (ht c (by rw [← h]; rfl))
    | cons d m =>
      obtain ⟨rfl, hrest⟩ := List.cons.inj h
      obtain ⟨rfl, hst⟩ := ih (fun c hc => hl c (List.mem_cons_of_mem _ hc))
        (fun c hc => hm c (List.mem_cons_of_mem _ hc)) hrest
      exact ⟨rfl, hst⟩

theorem delimits_of_class (hinj : Function.Injective encode) (hclass : ∀ a, ∀ c ∈ encode a, P c) :
    Delimits (NotAhead P) encode := by
  intro a b s t hs ht heq
  obtain ⟨hab, hst⟩ := append_inj_of_class (hclass a) (hclass b) hs ht heq
  exact ⟨hinj hab, hst⟩

/-- A sequence of code words ends at a character that no code word begins with. -/
theorem flatMap_append_inj {stop : χ} (h : SelfDelimiting encode) (hne : ∀ a, encode a ≠ [])
    (hstop : ∀ a, stop ∉ (encode a).head?) {l m : List α} {s t : List χ}
    (heq : l.flatMap encode ++ stop :: s = m.flatMap encode ++ stop :: t) : l = m ∧ s = t := by
  have hbegins (a : α) (s t : List χ) : stop :: s ≠ encode a ++ t := by
    intro heq
    cases hcode : encode a with
    | nil => exact hne a hcode
    | cons c cs =>
      rw [hcode] at heq
      obtain ⟨rfl, -⟩ := List.cons.inj heq
      exact hstop a (by rw [hcode]; rfl)
  induction l generalizing m with
  | nil =>
    cases m with
    | nil => exact ⟨rfl, (List.cons.inj heq).2⟩
    | cons b m =>
      rw [List.flatMap_cons, List.append_assoc] at heq
      exact absurd heq (hbegins b _ _)
  | cons a l ih =>
    cases m with
    | nil =>
      rw [List.flatMap_cons, List.append_assoc] at heq
      exact absurd heq.symm (hbegins a _ _)
    | cons b m =>
      rw [List.flatMap_cons, List.flatMap_cons, List.append_assoc, List.append_assoc] at heq
      obtain ⟨rfl, hrest⟩ := h.of_append heq
      obtain ⟨rfl, hst⟩ := ih hrest
      exact ⟨rfl, hst⟩
