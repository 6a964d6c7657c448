import Mathlib

/-!
Lists kept by key: a new entry takes the place of the first one under its key, or
comes last. After a sequence of entries the list holds the last one of every key.
-/
namespace Keyed

open List

variable {α κ : Type*} [DecidableEq κ] (key : α → κ)

def put : List α → α → List α
  | [], a => [a]
  | b :: l, a => if key b = key a then a :: l else b :: put l a

variable {key} {l : List α} {a : α} {k : κ}

theorem put_of_fresh (h : ∀ b ∈ l, key b ≠ key a) : put key l a = l ++ [a] := by
  induction l with
  | nil => rfl
  | cons b l ih =>
    have hb : key b ≠ key a := h b mem_cons_self
    rw [put, if_neg hb, ih fun c hc => h c (mem_cons_of_mem b hc), cons_append]

theorem filter_put_of_ne (h : key a ≠ k) :
    (put key l a).filter (fun b => key b = k) = l.filter fun b => key b = k := by
  induction l with
  | nil => simp [put, h]
  | cons b l ih =>
    by_cases hb : key b = key a
    · simp [put, hb, h]
    · rw [put, if_neg hb, filter_cons, filter_cons, ih]

theorem filter_put_self :
    (put key l a).filter (fun b => key b = key a) = a :: (l.filter fun b => key b = key a).tail := by
  induction l with
  | nil => simp [put]
  | cons b l ih =>
    by_cases hb : key b = key a
    · simp [put, hb]
    · rw [put, if_neg hb, filter_cons_of_neg (by simpa using hb), ih,
        filter_cons_of_neg (by simpa using hb)]

theorem foldl_put_of_nodup {entries : List α} (h : ((l ++ entries).map key).Nodup) :
    entries.foldl (put key) l = l ++ entries := by
  induction entries generalizing l with
  | nil => simp
  | cons a entries ih =>
    have hfresh : ∀ b ∈ l, key b ≠ key a := by
      intro b hb hkey
      rw [map_append, nodup_append] at h
      exact h.2.2 (key b) (mem_map_of_mem hb) (key b) (by simp [hkey]) rfl
    rw [foldl_cons, put_of_fresh hfresh, ih (by simpa using h)]
    simp

/-- What is left under a key is the last entry under it. -/
theorem filter_foldl_put (entries : List α) :
    (entries.foldl (put key) []).filter (fun b => key b = k) =
      (entries.filter fun b => key b = k).getLast?.toList := by
  induction entries using List.reverseRecOn with
  | nil => rfl
  | append_singleton entries a ih =>
    rw [foldl_concat, filter_append]
    by_cases ha : key a = k
    · subst ha
      rw [filter_put_self, ih]
      cases (entries.filter fun b => key b = key a).getLast? <;> simp
    · rw [filter_put_of_ne ha, ih]
      simp [ha]

end Keyed
