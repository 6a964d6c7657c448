import Mathlib
import Extrittio.Library.OrderedMap

/-!
Values and routines the backend takes from the Rust standard library and from
its dependencies. A double is read as the exact rational it denotes. Text
rendering, hashing and zone geometry are routines of a `Platform`: every result
of this development holds for any choice of them.
-/
namespace Extrittio

open List

/-- A 64-bit float: a finite value as an exact rational, an infinity or NaN. -/
inductive F64 where
  | finite (value : ℚ)
  | infinite (negative : Bool)
  | nan
  deriving DecidableEq

def F64.isFinite : F64 → Bool
  | .finite _ => true
  | _ => false

def F64.within (lo hi : ℚ) : F64 → Bool
  | .finite q => decide (lo ≤ q ∧ q ≤ hi)
  | _ => false

/-- `serde_json::Value`. Objects list their fields in map order. -/
inductive Json where
  | null
  | bool (value : Bool)
  | integer (value : ℤ)
  | float (value : ℚ)
  | string (value : String)
  | array (items : List Json)
  | object (fields : List (String × Json))

namespace Json

mutual

/-- Values are compared structurally, field by field in map order. -/
def decEq : (a b : Json) → Decidable (a = b)
  | .null, .null => isTrue rfl
  | .bool a, .bool b => decidable_of_iff (a = b) (by simp)
  | .integer a, .integer b => decidable_of_iff (a = b) (by simp)
  | .float a, .float b => decidable_of_iff (a = b) (by simp)
  | .string a, .string b => decidable_of_iff (a = b) (by simp)
  | .array as, .array bs =>
    have := decEqItems as bs
    decidable_of_iff (as = bs) (by simp)
  | .object as, .object bs =>
    have := decEqFields as bs
    decidable_of_iff (as = bs) (by simp)
  | .null, .bool _ | .null, .integer _ | .null, .float _ | .null, .string _ | .null, .array _
  | .null, .object _ | .bool _, .null | .bool _, .integer _ | .bool _, .float _
  | .bool _, .string _ | .bool _, .array _ | .bool _, .object _ | .integer _, .null
  | .integer _, .bool _ | .integer _, .float _ | .integer _, .string _ | .integer _, .array _
  | .integer _, .object _ | .float _, .null | .float _, .bool _ | .float _, .integer _
  | .float _, .string _ | .float _, .array _ | .float _, .object _ | .string _, .null
  | .string _, .bool _ | .string _, .integer _ | .string _, .float _ | .string _, .array _
  | .string _, .object _ | .array _, .null | .array _, .bool _ | .array _, .integer _
  | .array _, .float _ | .array _, .string _ | .array _, .object _ | .object _, .null
  | .object _, .bool _ | .object _, .integer _ | .object _, .float _ | .object _, .string _
  | .object _, .array _ => isFalse (by simp)

def decEqItems : (as bs : List Json) → Decidable (as = bs)
  | [], [] => isTrue rfl
  | a :: as, b :: bs =>
    have := decEq a b
    have := decEqItems as bs
    decidable_of_iff (a = b ∧ as = bs) (by simp)
  | [], _ :: _ | _ :: _, [] => isFalse (by simp)

def decEqFields : (as bs : List (String × Json)) → Decidable (as = bs)
  | [], [] => isTrue rfl
  | (k, a) :: as, (l, b) :: bs =>
    have := decEq a b
    have := decEqFields as bs
    decidable_of_iff (k = l ∧ a = b ∧ as = bs) (by simp [and_assoc])
  | [], _ :: _ | _ :: _, [] => isFalse (by simp)

end

instance : DecidableEq Json := decEq

def get (name : String) : Json → Option Json
  | .object fields => fields.lookup name
  | _ => none

def asStr : Json → Option String
  | .string value => some value
  | _ => none

def asBool : Json → Option Bool
  | .bool value => some value
  | _ => none

def asU64 : Json → Option ℕ
  | .integer value =>
    if 0 ≤ value ∧ value ≤ 18446744073709551615 then some value.toNat else none
  | _ => none

def asI64 : Json → Option ℤ
  | .integer value =>
    if -9223372036854775808 ≤ value ∧ value ≤ 9223372036854775807 then some value else none
  | _ => none

def asObject : Json → Option (OrderedMap String Json)
  | .object fields => some (.ofList fields)
  | _ => none

def ofMap (map : OrderedMap String Json) : Json := .object map.entries

@[simp] theorem asObject_ofMap (map : OrderedMap String Json) :
    (ofMap map).asObject = some map := by
  simp [ofMap, asObject]

@[simp] theorem get_ofMap (map : OrderedMap String Json) (name : String) :
    (ofMap map).get name = map.get? name := rfl

/-- A float as a JSON number; a non-finite one serialises to null. -/
def ofF64 : F64 → Json
  | .finite q => .float q
  | _ => .null

def ofOption : Option String → Json
  | some value => .string value
  | none => .null

end Json

/-- Zone outlines as the rule cache holds them. -/
inductive ZoneGeometry where
  | circle (centerLat centerLon radiusMeters : F64)
  | polygon (points : List (F64 × F64))
  deriving DecidableEq

structure Platform where
  /-- `str::parse::<f64>`. -/
  parseF64 : String → Option F64
  /-- `{}` of a float. -/
  displayF64 : F64 → String
  /-- `{:.n}` of a float. -/
  displayF64Fixed : ℕ → F64 → String
  /-- `DateTime::to_rfc3339` of an instant in nanoseconds. -/
  toRfc3339 : ℤ → String
  /-- The text `serde_json::to_vec` writes. -/
  jsonText : Json → String
  /-- Lower-case hexadecimal SHA-256 of UTF-8 text. -/
  sha256Hex : String → String
  /-- The text of an instant as `NaiveDateTime` serialises. -/
  naiveText : ℤ → String
  /-- The instant a `NaiveDateTime` deserialises from. -/
  parseNaive : String → Option ℤ
  /-- The message of a value that does not deserialise. -/
  serdeError : Json → String
  /-- `point_in_circle` or `point_in_polygon`, by the zone's shape. -/
  pointInZone : F64 → F64 → ZoneGeometry → Bool

instance : Inhabited Platform where
  default :=
    { parseF64 := fun _ => none
      displayF64 := fun _ => ""
      displayF64Fixed := fun _ _ => ""
      toRfc3339 := fun instant => toString instant
      jsonText := fun _ => ""
      sha256Hex := id
      naiveText := fun instant => toString instant
      parseNaive := String.toInt?
      serdeError := fun _ => ""
      pointInZone := fun _ _ _ => false }

/-! Instants are nanoseconds since the epoch; the stores keep microseconds. -/

/-- `NaiveDateTime::and_utc().timestamp_micros()`, which rounds down. -/
def timestampMicros (instant : ℤ) : ℤ := instant / 1000

/-- `row::datetime`: a stored microsecond count as an instant. -/
def datetime (micros : ℤ) : ℤ := micros * 1000

/-- `TimeDelta::num_seconds`, which rounds toward zero. -/
def numSeconds (delta : ℤ) : ℤ := delta.tdiv 1000000000

@[simp] theorem timestampMicros_datetime (micros : ℤ) : timestampMicros (datetime micros) = micros := by
  simp [timestampMicros, datetime]

theorem timestampMicros_mono {s t : ℤ} (h : s ≤ t) : timestampMicros s ≤ timestampMicros t := by
  unfold timestampMicros
  omega

/-- A whole-second bound on the truncated second count is a bound on the delta. -/
theorem numSeconds_lt_iff {delta seconds : ℤ} (h : 0 < seconds) :
    numSeconds delta < seconds ↔ delta < seconds * 1000000000 := by
  unfold numSeconds
  rcases lt_or_ge delta 0 with hd | hd
  · have hneg : delta.tdiv 1000000000 = -(-delta / 1000000000) := by
      rw [← Int.tdiv_eq_ediv_of_nonneg (by omega), Int.neg_tdiv, neg_neg]
    rw [hneg]
    omega
  · rw [Int.tdiv_eq_ediv_of_nonneg hd]
    omega

/-- The whole seconds that a `NaiveDateTime` can lie in. -/
def inDateRange (instant : ℤ) : Bool :=
  -8334601228800 ≤ instant / 1000000000 ∧ instant / 1000000000 ≤ 8210266876799

def checkedSub (instant delta : ℤ) : Option ℤ :=
  if inDateRange (instant - delta) then some (instant - delta) else none

/-- `Duration::try_days` in nanoseconds; a duration is bounded in milliseconds. -/
def tryDays (days : ℕ) : Option ℤ :=
  if 86400 * days ≤ 9223372036854775 then some (86400000000000 * days) else none

theorem checkedSub_eq_some {instant delta result : ℤ} (h : checkedSub instant delta = some result) :
    result = instant - delta := by
  unfold checkedSub at h
  split at h
  · exact (Option.some.inj h).symm
  · cases h

/-- The whitespace `str::trim` strips. -/
def isWhitespace (c : Char) : Bool :=
  let n := c.toNat
  (9 ≤ n && n ≤ 13) || n == 0x20 || n == 0x85 || n == 0xa0 || n == 0x1680 ||
    (0x2000 ≤ n && n ≤ 0x200a) || n == 0x2028 || n == 0x2029 || n == 0x202f ||
    n == 0x205f || n == 0x3000

def tenantIdNew (value : String) : Except String String :=
  if value.toList.all isWhitespace then .error "tenant id must not be empty" else .ok value

def eqIgnoreAsciiCase (a b : String) : Bool :=
  a.toList.map Char.toLower = b.toList.map Char.toLower

/-- `str::parse::<i64>`: an optional sign, then digits, within the 64-bit range. -/
def parseI64 (text : String) : Option ℤ :=
  let digits (cs : List Char) : Option ℕ :=
    if cs.isEmpty || !cs.all Char.isDigit then none
    else some (cs.foldl (fun n c => 10 * n + (c.toNat - '0'.toNat)) 0)
  let value : Option ℤ := match text.toList with
    | '-' :: cs => (digits cs).map fun n => -(n : ℤ)
    | '+' :: cs => (digits cs).map fun n => (n : ℤ)
    | cs => (digits cs).map fun n => (n : ℤ)
  value.filter fun v => decide (-9223372036854775808 ≤ v ∧ v ≤ 9223372036854775807)

/-- Failures of the persistence ports, with the texts the adapter gives them. -/
inductive PersistenceError where
  | notFound
  | historyExpired
  | uniqueViolation (constraint : String)
  | foreignKeyViolation (constraint : String)
  | checkViolation (constraint : String)
  | unavailable (message : String)
  | corruptData (message : String)
  | internal (message : String)
  deriving DecidableEq

def PersistenceError.message : PersistenceError → String
  | .notFound => "resource was not found"
  | .historyExpired => "requested metric history is outside the retained range"
  | .uniqueViolation c => "unique constraint violated: " ++ c
  | .foreignKeyViolation c => "foreign-key constraint violated: " ++ c
  | .checkViolation c => "check constraint violated: " ++ c
  | .unavailable m => "database is unavailable: " ++ m
  | .corruptData m => "database returned corrupt data: " ++ m
  | .internal m => "internal persistence failure: " ++ m

inductive ApplicationError where
  | notFound (message : String)
  | conflict (message : String)
  | invalidInput (message : String)
  | invalidOperation (message : String)
  | unauthorized
  | forbidden (message : String)
  | authentication (message : String)
  | persistence (error : PersistenceError)
  | internal (message : String)
  deriving DecidableEq

def ApplicationError.message : ApplicationError → String
  | .notFound m | .conflict m | .invalidInput m | .invalidOperation m | .forbidden m
  | .authentication m | .internal m => m
  | .unauthorized => "Unauthorized"
  | .persistence e => e.message

/-- `?` on a persistence result inside an application operation. -/
def liftPersistence {α : Type*} : Except PersistenceError α → Except ApplicationError α
  | .ok value => .ok value
  | .error e => .error (.persistence e)

variable {ε α β β' : Type}

theorem bind_eq_ok_iff {x : Except ε α} {f : α → Except ε β} {b : β} :
    (x >>= f) = .ok b ↔ ∃ a, x = .ok a ∧ f a = .ok b := by
  cases x with
  | error e => simp [bind, Except.bind]
  | ok a => simp [bind, Except.bind]

theorem of_bind_ok {x : Except ε α} {f : α → Except ε β} {b : β} (h : (x >>= f) = .ok b) :
    ∃ a, x = .ok a ∧ f a = .ok b :=
  bind_eq_ok_iff.mp h

theorem guard_eq_ok_iff {c : Prop} [Decidable c] {e : ε} {f : PUnit → Except ε α}
    {x : Except ε α} {a : α} :
    (if c then (throw e : Except ε PUnit) >>= f else x) = .ok a ↔ ¬c ∧ x = .ok a := by
  split_ifs with h
  · simp [h, throw, throwThe, MonadExceptOf.throw, bind, Except.bind]
  · simp [h]

theorem forall₂_of_mapM_eq_ok {f : α → Except ε β} {l : List α} {l' : List β}
    (h : l.mapM f = .ok l') : List.Forall₂ (fun a b => f a = .ok b) l l' := by
  induction l generalizing l' with
  | nil =>
    cases h
    exact .nil
  | cons a l ih =>
    rw [mapM_cons] at h
    obtain ⟨b, hb, h⟩ := of_bind_ok h
    obtain ⟨bs, hbs, h⟩ := of_bind_ok h
    cases h
    exact .cons hb (ih hbs)

theorem mapM_eq_ok {f : α → Except ε β} {g : α → β} {l : List α}
    (h : ∀ a ∈ l, f a = .ok (g a)) : l.mapM f = .ok (l.map g) := by
  induction l with
  | nil => rfl
  | cons a l ih =>
    rw [mapM_cons, h a mem_cons_self, ih fun b hb => h b (mem_cons_of_mem _ hb)]
    rfl

theorem exists_mapM_eq_ok {f : α → Except ε β} {l : List α}
    (h : ∀ a ∈ l, ∃ b, f a = .ok b) : ∃ bs, l.mapM f = .ok bs := by
  induction l with
  | nil => exact ⟨[], rfl⟩
  | cons a l ih =>
    obtain ⟨b, hb⟩ := h a mem_cons_self
    obtain ⟨bs, hbs⟩ := ih fun c hc => h c (mem_cons_of_mem _ hc)
    refine ⟨b :: bs, ?_⟩
    rw [mapM_cons, hb, hbs]
    rfl

theorem mapError_eq_ok {ε' : Type} {x : Except ε α} {f : ε → ε'} {a : α} :
    x.mapError f = .ok a ↔ x = .ok a := by
  cases x with
  | error e => exact ⟨nofun, nofun⟩
  | ok b => simp [Except.mapError]

theorem map_eq_ok_iff {x : Except ε α} {f : α → β} {b : β} :
    x.map f = .ok b ↔ ∃ a, x = .ok a ∧ f a = b := by
  cases x with
  | error e => simp [Except.map]
  | ok a => simp [Except.map]

theorem bind_map {α' : Type} {x : Except ε α} {x' : Except ε α'} {f : α → α'}
    {g : α → Except ε β} {g' : α' → Except ε β'} {h : β → β'} (hx : x' = x.map f)
    (hg : ∀ a, x = .ok a → g' (f a) = (g a).map h) : (x' >>= g') = (x >>= g).map h := by
  subst hx
  cases x with
  | error e => rfl
  | ok a => exact hg a rfl

theorem foldlM_map {f : β → α → Except ε β} {f' : β' → α → Except ε β'}
    {π : β → β'} {I : β → Prop} {l : List α}
    (hf : ∀ b, ∀ a ∈ l, I b → f' (π b) a = (f b a).map π)
    (hI : ∀ b, ∀ a ∈ l, ∀ b', I b → f b a = .ok b' → I b') {b : β} (hb : I b) :
    l.foldlM f' (π b) = (l.foldlM f b).map π := by
  induction l generalizing b with
  | nil => rfl
  | cons a l ih =>
    simp only [foldlM_cons]
    refine bind_map (hf b a mem_cons_self hb) fun b' hb' => ih ?_ ?_ ?_
    · exact fun b a ha => hf b a (mem_cons_of_mem _ ha)
    · exact fun b a ha => hI b a (mem_cons_of_mem _ ha)
    · exact hI b a mem_cons_self b' hb hb'

end Extrittio
