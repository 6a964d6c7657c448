import Mathlib

/-!
Textual replacement of a pattern, from left to right and without overlaps, over
any alphabet.
-/
namespace Template

open List

universe u

variable {α : Type u}

theorem eq_of_append_separator {a b : List α} {x y : List α} {separator : α} (ha : separator ∉ a)
    (hb : separator ∉ b) (h : a ++ separator :: x = b ++ separator :: y) : a = b := by
  induction a generalizing b with
  | nil =>
    cases b with
    | nil => rfl
    | cons d b =>
      simp only [nil_append, cons_append, List.cons.injEq] at h
      exact absurd (h.1 ▸ mem_cons_self) hb
  | cons c a ih =>
    cases b with
    | nil =>
      simp only [nil_append, cons_append, List.cons.injEq] at h
      exact absurd (h.1 ▸ mem_cons_self) ha
    | cons d b =>
      simp only [cons_append, List.cons.injEq] at h
      obtain ⟨rfl, h⟩ := h
      rw [ih (fun hmem => ha (mem_cons_of_mem _ hmem))
        (fun hmem => hb (mem_cons_of_mem _ hmem)) h]

theorem eq_of_separator_append {a b : List α} {x y : List α} {separator : α} (hx : separator ∉ x)
    (hy : separator ∉ y) (h : a ++ separator :: x = b ++ separator :: y) : a = b := by
  have hreverse : x.reverse ++ separator :: a.reverse = y.reverse ++ separator :: b.reverse := by
    simpa using congrArg List.reverse h
  have hxy : x.reverse = y.reverse :=
    eq_of_append_separator (by simpa using hx) (by simpa using hy) hreverse
  rw [hxy, append_cancel_left_eq, List.cons.injEq, reverse_inj] at hreverse
  exact hreverse.2

theorem text_separator_inj {a b x y separator : String} {c : Char}
    (hseparator : separator.toList = [c]) (hx : c ∉ x.toList) (hy : c ∉ y.toList)
    (h : a ++ separator ++ x = b ++ separator ++ y) : a = b ∧ x = y := by
  have hlist := congrArg String.toList h
  simp only [String.toList_append, hseparator, append_assoc, cons_append,
    nil_append] at hlist
  obtain rfl : a = b := String.toList_inj.mp (eq_of_separator_append hx hy hlist)
  exact ⟨rfl, (String.append_right_inj _).mp h⟩

theorem separator_text_inj {a b x y separator : String} {c : Char}
    (hseparator : separator.toList = [c]) (ha : c ∉ a.toList) (hb : c ∉ b.toList)
    (h : a ++ separator ++ x = b ++ separator ++ y) : a = b ∧ x = y := by
  have hlist := congrArg String.toList h
  simp only [String.toList_append, hseparator, append_assoc, cons_append,
    nil_append] at hlist
  obtain rfl : a = b := String.toList_inj.mp (eq_of_append_separator ha hb hlist)
  exact ⟨rfl, (String.append_right_inj _).mp h⟩

/-- Two ways to write one text around a separator are the same, or one splits it further on. -/
theorem append_separator_eq_iff {a b x y : List α} {separator : α} :
    a ++ separator :: x = b ++ separator :: y ↔ (a = b ∧ x = y) ∨
      (∃ m, b = a ++ separator :: m ∧ x = m ++ separator :: y) ∨
      ∃ m, a = b ++ separator :: m ∧ y = m ++ separator :: x := by
  constructor
  · intro h
    rcases append_eq_append_iff.mp h with ⟨m, hb, hx⟩ | ⟨m, ha, hy⟩
    · cases m with
      | nil => exact .inl ⟨by simpa using hb.symm, by simpa using hx⟩
      | cons c m =>
        simp only [cons_append, List.cons.injEq] at hx
        obtain ⟨rfl, hx⟩ := hx
        exact .inr (.inl ⟨m, hb, hx⟩)
    · cases m with
      | nil => exact .inl ⟨by simpa using ha, by simpa using hy.symm⟩
      | cons c m =>
        simp only [cons_append, List.cons.injEq] at hy
        obtain ⟨rfl, hy⟩ := hy
        exact .inr (.inr ⟨m, ha, hy⟩)
  · rintro (⟨rfl, rfl⟩ | ⟨m, rfl, rfl⟩ | ⟨m, rfl, rfl⟩) <;> simp

theorem segment_unique {root a b text : List α} {separator : α} (ha : separator ∉ a)
    (hb : separator ∉ b) (hpa : root ++ a ++ [separator] <+: text)
    (hpb : root ++ b ++ [separator] <+: text) : a = b := by
  obtain ⟨x, hx⟩ := hpa
  obtain ⟨y, hy⟩ := hpb
  have h : root ++ a ++ [separator] ++ x = root ++ b ++ [separator] ++ y := hx.trans hy.symm
  simp only [append_assoc, append_cancel_left_eq, cons_append, nil_append] at h
  exact eq_of_append_separator ha hb h

variable [DecidableEq α] {pattern replacement literal rest : List α} {c : α} {skip : ℕ}

/-- Replaces every occurrence; the first `skip` symbols belong to one already replaced. -/
def replaceFrom (pattern replacement : List α) : ℕ → List α → List α
  | _, [] => []
  | skip + 1, _ :: cs => replaceFrom pattern replacement skip cs
  | 0, c :: cs =>
    if pattern.isPrefixOf (c :: cs) then
      replacement ++ replaceFrom pattern replacement (pattern.length - 1) cs
    else c :: replaceFrom pattern replacement 0 cs

def replaceAll (pattern replacement text : List α) : List α :=
  replaceFrom pattern replacement 0 text

theorem mem_replaceFrom {text : List α} (h : c ∈ replaceFrom pattern replacement skip text) :
    c ∈ replaceFrom pattern [] skip text ∨ c ∈ replacement := by
  induction text generalizing skip with
  | nil => cases skip <;> simp [replaceFrom] at h
  | cons d text ih =>
    cases skip with
    | succ skip => exact ih h
    | zero =>
      simp only [replaceFrom] at h ⊢
      split_ifs at h ⊢ with hstart
      · rcases mem_append.mp h with h | h
        · exact .inr h
        · exact ih h
      · rcases mem_cons.mp h with rfl | h
        · exact .inl mem_cons_self
        · exact (ih h).imp (mem_cons_of_mem _) id

theorem mem_replaceAll {text : List α} (h : c ∈ replaceAll pattern replacement text) :
    c ∈ replaceAll pattern [] text ∨ c ∈ replacement := mem_replaceFrom h

theorem of_mem_replaceFrom_nil {text : List α} (h : c ∈ replaceFrom pattern [] skip text) :
    c ∈ text := by
  induction text generalizing skip with
  | nil => cases skip <;> simp [replaceFrom] at h
  | cons d text ih =>
    cases skip with
    | succ skip => exact mem_cons_of_mem _ (ih h)
    | zero =>
      simp only [replaceFrom] at h
      split_ifs at h
      · exact mem_cons_of_mem _ (ih h)
      · rcases mem_cons.mp h with rfl | h
        · exact mem_cons_self
        · exact mem_cons_of_mem _ (ih h)

theorem of_mem_replaceAll_nil {text : List α} (h : c ∈ replaceAll pattern [] text) : c ∈ text :=
  of_mem_replaceFrom_nil h

theorem replaceFrom_skip : replaceFrom pattern replacement literal.length (literal ++ rest) =
    replaceAll pattern replacement rest := by
  induction literal with
  | nil => rfl
  | cons c literal ih => exact ih

theorem replaceAll_literal (h : ∀ c ∈ literal, pattern.head? ≠ some c) (hne : pattern ≠ []) :
    replaceAll pattern replacement (literal ++ rest) =
      literal ++ replaceAll pattern replacement rest := by
  induction literal with
  | nil => rfl
  | cons c literal ih =>
    have hstart : ¬pattern.isPrefixOf (c :: (literal ++ rest)) := by
      cases pattern with
      | nil => exact absurd rfl hne
      | cons d pattern =>
        have hd : d ≠ c := fun hd => h c mem_cons_self (congrArg some hd)
        simp [List.isPrefixOf, hd]
    show replaceFrom pattern replacement 0 (c :: (literal ++ rest)) = _
    rw [replaceFrom, if_neg hstart, cons_append]
    exact congrArg (c :: ·) (ih fun d hd => h d (mem_cons_of_mem _ hd))

theorem replaceAll_pattern (hne : pattern ≠ []) :
    replaceAll pattern replacement (pattern ++ rest) =
      replacement ++ replaceAll pattern replacement rest := by
  obtain ⟨c, tail, rfl⟩ := exists_cons_of_ne_nil hne
  have hstart : (c :: tail).isPrefixOf (c :: (tail ++ rest)) := by
    rw [ isPrefixOf_iff_prefix]
    exact ⟨rest, rfl⟩
  show replaceFrom (c :: tail) replacement 0 (c :: (tail ++ rest)) = _
  rw [replaceFrom, if_pos hstart]
  exact congrArg (replacement ++ ·) replaceFrom_skip

/-- One occurrence between texts in which the pattern cannot begin. -/
theorem replaceAll_between {tail : List α} (hne : pattern ≠ [])
    (hliteral : ∀ c ∈ literal, pattern.head? ≠ some c) (htail : ∀ c ∈ tail, pattern.head? ≠ some c) :
    replaceAll pattern replacement (literal ++ pattern ++ tail ++ rest) =
      literal ++ replacement ++ tail ++ replaceAll pattern replacement rest := by
  simp only [append_assoc]
  rw [replaceAll_literal hliteral hne, replaceAll_pattern hne, replaceAll_literal htail hne]

end Template
