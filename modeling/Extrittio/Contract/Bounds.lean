import Extrittio.Contract.Semantics

/-!
Integer bounds on integer instances. Both sides are read as doubles before they
are compared, and doubles do not tell all 64-bit integers apart.
-/
namespace Extrittio

theorem doubleOfInt_mono {m n : ℤ} (h : m ≤ n) : doubleOfInt m ≤ doubleOfInt n := by
  unfold doubleOfInt
  exact_mod_cast Rounding.roundInt_mono (by decide) h

theorem doubleOfInt_le_iff {m n : ℤ} :
    doubleOfInt m ≤ doubleOfInt n ↔ m ≤ n ∨ doubleOfInt m = doubleOfInt n := by
  constructor
  · intro h
    by_cases hle : m ≤ n
    · exact .inl hle
    · exact .inr (le_antisymm h (doubleOfInt_mono (by omega)))
  · rintro (h | h)
    · exact doubleOfInt_mono h
    · exact h.le

theorem doubleOfInt_lt_iff {m n : ℤ} :
    doubleOfInt m < doubleOfInt n ↔ m < n ∧ doubleOfInt m ≠ doubleOfInt n := by
  rw [← not_le, doubleOfInt_le_iff, not_or, not_le, ne_comm, ne_eq]

theorem doubleOfInt_of_abs_le {n : ℤ} (h : |n| ≤ 2 ^ 53) : doubleOfInt n = n := by
  unfold doubleOfInt
  rw [Rounding.roundInt_of_abs_le (by decide) h]

namespace Schema

variable {p : Platform} {fields : List (String × Json)} {n : ℤ}

def integerUnder (fields : List (String × Json)) (keyword : String) : Option ℤ :=
  match fields.lookup keyword with
  | some (.integer bound) => some bound
  | _ => none

def withoutBounds (fields : List (String × Json)) : List (String × Json) :=
  fields.filter fun field => field.1 ∉ numericKeywords

/-- The bounds as inequalities between integers. -/
def Respects (fields : List (String × Json)) (n : ℤ) : Prop :=
  (∀ bound ∈ integerUnder fields "minimum", bound ≤ n) ∧
  (∀ bound ∈ integerUnder fields "maximum", n ≤ bound) ∧
  (∀ bound ∈ integerUnder fields "exclusiveMinimum", bound < n) ∧
  (∀ bound ∈ integerUnder fields "exclusiveMaximum", n < bound)

/-- The bounds as inequalities between the doubles. -/
def ReadsWithin (fields : List (String × Json)) (n : ℤ) : Prop :=
  (∀ bound ∈ integerUnder fields "minimum", doubleOfInt bound ≤ doubleOfInt n) ∧
  (∀ bound ∈ integerUnder fields "maximum", doubleOfInt n ≤ doubleOfInt bound) ∧
  (∀ bound ∈ integerUnder fields "exclusiveMinimum", doubleOfInt bound < doubleOfInt n) ∧
  (∀ bound ∈ integerUnder fields "exclusiveMaximum", doubleOfInt n < doubleOfInt bound)

/-- The doubles are good enough for the instance: if it is within the bounds, it
reads differently from each exclusive bound; if it is not, a bound it breaks
reads differently, or an exclusive bound is broken or reads the same. -/
def ToldApart (fields : List (String × Json)) (n : ℤ) : Prop :=
  (Respects fields n →
    (∀ bound ∈ integerUnder fields "exclusiveMinimum", doubleOfInt bound ≠ doubleOfInt n) ∧
    (∀ bound ∈ integerUnder fields "exclusiveMaximum", doubleOfInt n ≠ doubleOfInt bound)) ∧
  (¬Respects fields n →
    (∃ bound ∈ integerUnder fields "minimum", n < bound ∧ doubleOfInt n ≠ doubleOfInt bound) ∨
    (∃ bound ∈ integerUnder fields "maximum", bound < n ∧ doubleOfInt bound ≠ doubleOfInt n) ∨
    (∃ bound ∈ integerUnder fields "exclusiveMinimum",
      n ≤ bound ∨ doubleOfInt n = doubleOfInt bound) ∨
    (∃ bound ∈ integerUnder fields "exclusiveMaximum",
      bound ≤ n ∨ doubleOfInt bound = doubleOfInt n))

theorem readsWithin_of_respects (h : Respects fields n) :
    ReadsWithin fields n ↔
      (∀ bound ∈ integerUnder fields "exclusiveMinimum", doubleOfInt bound ≠ doubleOfInt n) ∧
      (∀ bound ∈ integerUnder fields "exclusiveMaximum", doubleOfInt n ≠ doubleOfInt bound) := by
  obtain ⟨hmin, hmax, hxmin, hxmax⟩ := h
  constructor
  · rintro ⟨-, -, hlow, hhigh⟩
    exact ⟨fun b hb => (hlow b hb).ne, fun b hb => (hhigh b hb).ne⟩
  · rintro ⟨hlow, hhigh⟩
    refine ⟨fun b hb => doubleOfInt_mono (hmin b hb), fun b hb => doubleOfInt_mono (hmax b hb),
      fun b hb => ?_, fun b hb => ?_⟩
    · exact doubleOfInt_lt_iff.mpr ⟨hxmin b hb, hlow b hb⟩
    · exact doubleOfInt_lt_iff.mpr ⟨hxmax b hb, hhigh b hb⟩

theorem not_readsWithin_iff :
    ¬ReadsWithin fields n ↔
      (∃ bound ∈ integerUnder fields "minimum", n < bound ∧ doubleOfInt n ≠ doubleOfInt bound) ∨
      (∃ bound ∈ integerUnder fields "maximum", bound < n ∧ doubleOfInt bound ≠ doubleOfInt n) ∨
      (∃ bound ∈ integerUnder fields "exclusiveMinimum",
        n ≤ bound ∨ doubleOfInt n = doubleOfInt bound) ∨
      (∃ bound ∈ integerUnder fields "exclusiveMaximum",
        bound ≤ n ∨ doubleOfInt bound = doubleOfInt n) := by
  unfold ReadsWithin
  simp only [not_and_or, not_forall, not_le, not_lt, exists_prop]
  simp only [doubleOfInt_lt_iff, doubleOfInt_le_iff]

theorem readsWithin_iff_respects_iff :
    (ReadsWithin fields n ↔ Respects fields n) ↔ ToldApart fields n := by
  unfold ToldApart
  by_cases h : Respects fields n
  · rw [readsWithin_of_respects h]
    simp [h]
  · rw [← not_readsWithin_iff]
    simp [h]

/-! Acceptance is acceptance by the other keywords together with the bounds. -/

theorem lookup_withoutBounds {keyword : String} (h : keyword ∉ numericKeywords) :
    (withoutBounds fields).lookup keyword = fields.lookup keyword := by
  unfold withoutBounds
  induction fields with
  | nil => rfl
  | cons field fields ih =>
    obtain ⟨k, v⟩ := field
    by_cases hk : keyword = k
    · subst hk
      simp [h]
    · by_cases hnum : k ∈ numericKeywords
      · simpa [hnum, InOrder.lookup_cons_of_ne hk] using ih
      · simpa [hnum, InOrder.lookup_cons_of_ne hk] using ih

theorem lookup_withoutBounds_numeric {keyword : String} (h : keyword ∈ numericKeywords) :
    (withoutBounds fields).lookup keyword = none := by
  rw [List.lookup_eq_none_iff]
  intro field hfield
  have hne : field.1 ∉ numericKeywords := by simpa using (List.mem_filter.mp hfield).2
  simp only [bne_iff_ne, ne_eq]
  exact fun heq => hne (heq ▸ h)

def IntegerBounds (fields : List (String × Json)) : Prop :=
  ∀ keyword ∈ numericKeywords, ∀ value, fields.lookup keyword = some value →
    ∃ bound, value = .integer bound

theorem IntegerBounds.numberUnder_eq (h : IntegerBounds fields) {keyword : String}
    (hk : keyword ∈ numericKeywords) :
    numberUnder fields keyword = (integerUnder fields keyword).map doubleOfInt := by
  unfold numberUnder integerUnder
  cases hvalue : fields.lookup keyword with
  | none => rfl
  | some value =>
    obtain ⟨bound, rfl⟩ := h keyword hk value hvalue
    rfl

theorem keywords_withoutBounds_iff (h : IntegerBounds fields) :
    Keywords (withoutBounds fields) ↔ Keywords fields := by
  have htype := @lookup_withoutBounds fields "type" (by decide)
  have hproperties := @lookup_withoutBounds fields "properties" (by decide)
  have hrequired := @lookup_withoutBounds fields "required" (by decide)
  have henum := @lookup_withoutBounds fields "enum" (by decide)
  have hlength (keyword : String) (hk : keyword ∈ lengthKeywords) :
      (withoutBounds fields).lookup keyword = fields.lookup keyword :=
    lookup_withoutBounds ((by decide : ∀ k ∈ lengthKeywords, k ∉ numericKeywords) keyword hk)
  constructor
  · intro hk
    refine ⟨fun field hfield => ?_, htype ▸ hk.type, hproperties ▸ hk.properties,
      hrequired ▸ hk.required, fun keyword hmem value hvalue => ?_,
      fun keyword hmem => hlength keyword hmem ▸ hk.lengths keyword hmem, henum ▸ hk.enum⟩
    · by_cases hnum : field.1 ∈ numericKeywords
      · exact (by decide : ∀ k ∈ numericKeywords, k ∈ supportedKeywords) field.1 hnum
      · exact hk.supported field (List.mem_filter.mpr ⟨hfield, by simpa using hnum⟩)
    · obtain ⟨bound, rfl⟩ := h keyword hmem value hvalue
      exact ⟨_, rfl⟩
  · intro hk
    refine ⟨fun field hfield => hk.supported field (List.mem_of_mem_filter hfield),
      htype.symm ▸ hk.type, hproperties.symm ▸ hk.properties, hrequired.symm ▸ hk.required,
      fun keyword hmem value hvalue => ?_,
      fun keyword hmem => (hlength keyword hmem).symm ▸ hk.lengths keyword hmem,
      henum.symm ▸ hk.enum⟩
    rw [lookup_withoutBounds_numeric hmem] at hvalue
    cases hvalue

theorem wellFormed_object_iff {levels : ℕ} :
    WellFormed (levels + 1) (.object fields) ↔
      Keywords fields ∧
      (∀ children, fields.lookup "properties" = some (.object children) →
        ∀ child ∈ children, WellFormed levels child.2) ∧
      (∀ schema, fields.lookup "additionalProperties" = some schema →
        (∀ accept, schema ≠ .bool accept) → WellFormed levels schema) ∧
      ∀ schema, fields.lookup "items" = some schema → WellFormed levels schema := by
  constructor
  · rintro (_ | ⟨hk, hproperties, hadditional, hitems⟩)
    exact ⟨hk, hproperties, hadditional, hitems⟩
  · rintro ⟨hk, hproperties, hadditional, hitems⟩
    exact .object hk hproperties hadditional hitems

theorem wellFormed_withoutBounds_iff {levels : ℕ} (h : IntegerBounds fields) :
    WellFormed (levels + 1) (.object (withoutBounds fields)) ↔
      WellFormed (levels + 1) (.object fields) := by
  rw [wellFormed_object_iff, wellFormed_object_iff, keywords_withoutBounds_iff h,
    lookup_withoutBounds (by decide), lookup_withoutBounds (by decide),
    lookup_withoutBounds (by decide)]

theorem satisfies_integer_iff : Satisfies (.object fields) (.integer n) ↔ Meets fields (.integer n) := by
  constructor
  · rintro (_ | ⟨hmeets, -⟩)
    exact hmeets
  · intro h
    exact .object h (fun _ h => (nomatch h)) (fun _ h => (nomatch h)) fun _ h => (nomatch h)

theorem meets_integer_iff (h : IntegerBounds fields) :
    Meets fields (.integer n) ↔ Meets (withoutBounds fields) (.integer n) ∧ ReadsWithin fields n := by
  have htype := @lookup_withoutBounds fields "type" (by decide)
  have hconst := @lookup_withoutBounds fields "const" (by decide)
  have henum := @lookup_withoutBounds fields "enum" (by decide)
  have hnone (keyword : String) (hk : keyword ∈ numericKeywords) :
      numberUnder (withoutBounds fields) keyword = none := by
    rw [numberUnder, lookup_withoutBounds_numeric hk]
    rfl
  have hreads : ReadsWithin fields n ↔
      (∀ bound ∈ numberUnder fields "minimum", ∀ number ∈ (Json.integer n).asF64, bound ≤ number) ∧
      (∀ bound ∈ numberUnder fields "maximum", ∀ number ∈ (Json.integer n).asF64, number ≤ bound) ∧
      (∀ bound ∈ numberUnder fields "exclusiveMinimum",
        ∀ number ∈ (Json.integer n).asF64, bound < number) ∧
      (∀ bound ∈ numberUnder fields "exclusiveMaximum",
        ∀ number ∈ (Json.integer n).asF64, number < bound) := by
    rw [h.numberUnder_eq (by decide), h.numberUnder_eq (by decide), h.numberUnder_eq (by decide),
      h.numberUnder_eq (by decide)]
    simp [ReadsWithin, Json.asF64]
  rw [hreads]
  constructor
  · intro hm
    refine ⟨⟨htype.symm ▸ hm.type, hconst.symm ▸ hm.const, henum.symm ▸ hm.enum, ?_, ?_, ?_, ?_,
      fun _ _ _ h => (by cases h), fun _ _ _ h => (by cases h), fun _ _ _ h => (by cases h),
      fun _ _ _ h => (by cases h), fun _ h => (by cases h)⟩,
      hm.minimum, hm.maximum, hm.exclusiveMinimum, hm.exclusiveMaximum⟩
    all_goals
      rw [hnone _ (by decide)]
      simp
  · rintro ⟨hm, hmin, hmax, hxmin, hxmax⟩
    exact ⟨htype ▸ hm.type, hconst ▸ hm.const, henum ▸ hm.enum, hmin, hmax, hxmin, hxmax,
      fun _ _ _ h => (by cases h), fun _ _ _ h => (by cases h), fun _ _ _ h => (by cases h),
      fun _ _ _ h => (by cases h), fun _ h => (by cases h)⟩

/-- With integer bounds, an integer is accepted when the other keywords accept it
and its double is within the doubles of the bounds. -/
theorem validateInstance_integer_iff (h : IntegerBounds fields) :
    validateInstance p (.object fields) (.integer n) = .ok () ↔
      validateInstance p (.object (withoutBounds fields)) (.integer n) = .ok () ∧
        ReadsWithin fields n := by
  rw [validateInstance_eq_ok, validateInstance_eq_ok, satisfies_integer_iff, satisfies_integer_iff,
    meets_integer_iff h, wellFormed_withoutBounds_iff h, and_assoc]

theorem toldApart_of_abs_le (hn : |n| ≤ 2 ^ 53)
    (hbounds : ∀ keyword ∈ numericKeywords, ∀ bound ∈ integerUnder fields keyword,
      |bound| ≤ 2 ^ 53) : ToldApart fields n := by
  rw [← readsWithin_iff_respects_iff]
  have hread (keyword : String) (hk : keyword ∈ numericKeywords) (bound : ℤ)
      (hb : bound ∈ integerUnder fields keyword) : doubleOfInt bound = bound :=
    doubleOfInt_of_abs_le (hbounds keyword hk bound hb)
  unfold ReadsWithin Respects
  rw [doubleOfInt_of_abs_le hn]
  refine and_congr ?_ (and_congr ?_ (and_congr ?_ ?_))
  all_goals
    refine forall₂_congr fun bound hb => ?_
    rw [hread _ (by decide) bound hb]
    norm_cast

/-- An integer that the other keywords accept is accepted exactly when it is
within the integer bounds, if and only if the doubles tell it apart from the
bounds that decide; integers up to `2^53` are told apart. -/
theorem integer_bounds_decided_iff (p : Platform) (fields : List (String × Json)) (n : ℤ)
    (hbounds : IntegerBounds fields)
    (hrest : validateInstance p (.object (withoutBounds fields)) (.integer n) = .ok ()) :
    ((validateInstance p (.object fields) (.integer n) = .ok () ↔ Respects fields n) ↔
      ToldApart fields n) ∧
    (|n| ≤ 2 ^ 53 → (∀ keyword ∈ numericKeywords, ∀ bound ∈ integerUnder fields keyword,
      |bound| ≤ 2 ^ 53) → ToldApart fields n) := by
  refine ⟨?_, toldApart_of_abs_le⟩
  rw [validateInstance_integer_iff hbounds, ← readsWithin_iff_respects_iff]
  simp [hrest]

def counterFields (limit : ℤ) : List (String × Json) :=
  [("maximum", .integer limit), ("type", .string "integer")]

theorem integerBounds_counterFields (limit : ℤ) : IntegerBounds (counterFields limit) := by
  intro keyword hk value hvalue
  obtain ⟨before, after, hfields, -⟩ := List.lookup_eq_some_iff.mp hvalue
  have hmem : (keyword, value) ∈ counterFields limit := by simp [hfields]
  simp only [counterFields, List.mem_cons, Prod.mk.injEq, List.not_mem_nil, or_false] at hmem
  rcases hmem with ⟨-, rfl⟩ | ⟨rfl, -⟩
  · exact ⟨limit, rfl⟩
  · exact absurd hk (by decide)

theorem integer_bounds_decided_iff_counter :
    ((validateInstance default (.object (counterFields 60)) (.integer 61) = .ok () ↔
      Respects (counterFields 60) 61) ↔ ToldApart (counterFields 60) 61) ∧
    ToldApart (counterFields 60) 61 := by
  have h := integer_bounds_decided_iff default (counterFields 60) 61
    (integerBounds_counterFields 60) (by decide +kernel)
  exact ⟨h.1, h.2 (by decide) (by decide)⟩

/-- `2^53 + 1` is accepted under the limit `2^53`: both read as the double `2^53`. -/
theorem counter_above_limit_accepted :
    validateInstance default (.object (counterFields 9007199254740992))
      (.integer 9007199254740993) = .ok () ∧
    ¬Respects (counterFields 9007199254740992) 9007199254740993 := by
  refine ⟨by decide +kernel, fun h => ?_⟩
  exact absurd (h.2.1 9007199254740992 rfl) (by decide)

end Schema

end Extrittio
