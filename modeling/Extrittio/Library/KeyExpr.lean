import Mathlib

/-!
Key expressions: texts in chunks between slashes, where a chunk `*` stands for one
chunk, `**` for any number of them and `$*` for any part of a chunk.
-/
namespace KeyExpr

open List

variable {α : Type*}

def anySuffix (p : List α → Bool) : List α → Bool
  | [] => p []
  | a :: l => p (a :: l) || anySuffix p l

def chunkIncludes : List Char → List Char → Bool
  | '$' :: '*' :: pattern, chunk => anySuffix (chunkIncludes pattern) chunk
  | c :: pattern, d :: chunk => c = d && chunkIncludes pattern chunk
  | [], chunk => chunk.isEmpty
  | _ :: _, [] => false

def chunksInclude : List (List Char) → List (List Char) → Bool
  | ['*', '*'] :: patterns, chunks => anySuffix (chunksInclude patterns) chunks
  | ['*'] :: patterns, chunk :: chunks => chunk ≠ ['*', '*'] && chunksInclude patterns chunks
  | pattern :: patterns, chunk :: chunks =>
    chunkIncludes pattern chunk && chunksInclude patterns chunks
  | [], chunks => chunks.isEmpty
  | _ :: _, [] => false

def includes (expression key : String) : Bool :=
  chunksInclude (expression.toList.splitOn '/') (key.toList.splitOn '/')

example : includes "a/*/c" "a/b/c" = true := by decide
example : includes "a/**" "a/b/c" = true := by decide
example : includes "a/b$*" "a/b/c" = false := by decide

section

variable {pattern chunk : List Char} {patterns chunks : List (List Char)}

theorem chunkIncludes_iff_eq (h : '*' ∉ pattern) :
    chunkIncludes pattern chunk ↔ pattern = chunk := by
  induction pattern generalizing chunk with
  | nil => rw [chunkIncludes, List.isEmpty_iff, eq_comm]
  | cons c pattern ih =>
    have hrest : '*' ∉ pattern := fun hmem => h (mem_cons_of_mem _ hmem)
    have hplain : ∀ rest, pattern ≠ '*' :: rest := by
      rintro rest rfl
      exact hrest mem_cons_self
    cases chunk with
    | nil =>
      rw [chunkIncludes]
      · simp
      · exact fun rest _ heq => hplain rest heq
    | cons d chunk =>
      rw [chunkIncludes]
      · simp [ih hrest]
      · exact fun rest _ heq => hplain rest heq

theorem chunksInclude_iff_eq (h : ∀ pattern ∈ patterns, '*' ∉ pattern) :
    chunksInclude patterns chunks ↔ patterns = chunks := by
  induction patterns generalizing chunks with
  | nil => rw [chunksInclude, List.isEmpty_iff, eq_comm]
  | cons pattern patterns ih =>
    obtain ⟨hpattern, hrest⟩ := forall_mem_cons.mp h
    have hone : pattern ≠ ['*'] := by
      rintro rfl
      exact hpattern mem_cons_self
    have hmany : pattern ≠ ['*', '*'] := by
      rintro rfl
      exact hpattern mem_cons_self
    cases chunks with
    | nil =>
      rw [chunksInclude]
      · simp
      · exact hmany
    | cons chunk chunks =>
      rw [chunksInclude]
      · simp [ih hrest, chunkIncludes_iff_eq hpattern]
      · exact hmany
      · exact hone

end

theorem mem_of_mem_splitOn {separator c : Char} {text chunk : List Char}
    (h : chunk ∈ text.splitOn separator) (hc : c ∈ chunk) : c ∈ text := by
  have htext : [separator].intercalate (text.splitOn separator) = text :=
    intercalate_splitOn separator
  rw [← htext]
  generalize text.splitOn separator = chunks at h
  induction chunks with
  | nil => cases h
  | cons first chunks ih =>
    cases chunks with
    | nil =>
      obtain rfl := mem_singleton.mp h
      simpa [List.intercalate] using hc
    | cons second chunks =>
      rw [List.intercalate, intersperse_cons_cons, flatten_cons, flatten_cons]
      rcases mem_cons.mp h with rfl | h
      · exact mem_append_left _ hc
      · exact mem_append_right _ (mem_append_right _ (ih h))

theorem includes_iff_eq {expression key : String} (h : '*' ∉ expression.toList) :
    includes expression key ↔ expression = key := by
  have hchunks : ∀ chunk ∈ expression.toList.splitOn '/', '*' ∉ chunk :=
    fun chunk hchunk hmem => h (mem_of_mem_splitOn hchunk hmem)
  rw [includes, chunksInclude_iff_eq hchunks]
  constructor
  · intro heq
    have htext := congrArg (List.intercalate ['/']) heq
    rw [intercalate_splitOn, intercalate_splitOn] at htext
    exact String.toList_inj.mp htext
  · rintro rfl
    rfl

end KeyExpr
