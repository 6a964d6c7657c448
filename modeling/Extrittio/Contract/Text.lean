import Extrittio.Platform
import Extrittio.Library.Delimited

/-!
The text that `serde_json` writes, without white space. A value can be read off the
front of a longer text as long as no numeral goes on, so the text determines the value.
-/
namespace Extrittio

open List

namespace Json

def isNumberChar (c : Char) : Bool := c.isDigit || c = '-' || c = '.' || c = 'e'

/-- How floats are written: different floats differently, with a point or an exponent. -/
structure FloatText where
  text : ℚ → List Char
  injective : Function.Injective text
  numeral : ∀ q, ∀ c ∈ text q, isNumberChar c
  fraction : ∀ q, ∃ c ∈ text q, c = '.' ∨ c = 'e'

def hexDigit (n : ℕ) : Char := Nat.digitChar n

/-- A character of a string, escaped where JSON asks for it. -/
def escapeChar (c : Char) : List Char :=
  if c = '"' then ['\\', '"']
  else if c = '\\' then ['\\', '\\']
  else if c = '\x08' then ['\\', 'b']
  else if c = '\t' then ['\\', 't']
  else if c = '\n' then ['\\', 'n']
  else if c = '\x0c' then ['\\', 'f']
  else if c = '\r' then ['\\', 'r']
  else if c.toNat < 32 then ['\\', 'u', '0', '0', hexDigit (c.toNat / 16), hexDigit (c.toNat % 16)]
  else [c]

def renderString (value : String) : List Char := '"' :: (value.toList.flatMap escapeChar ++ ['"'])

def separator (first : Bool) : List Char := if first then [] else [',']

variable (floats : FloatText)

mutual

def render : Json → List Char
  | .null => ['n', 'u', 'l', 'l']
  | .bool true => ['t', 'r', 'u', 'e']
  | .bool false => ['f', 'a', 'l', 's', 'e']
  | .integer value => value.repr.toList
  | .float value => floats.text value
  | .string value => renderString value
  | .array items => '[' :: renderItems true items
  | .object fields => '{' :: renderFields true fields

def renderItems (first : Bool) : List Json → List Char
  | [] => [']']
  | item :: items => separator first ++ (render item ++ renderItems false items)

def renderFields (first : Bool) : List (String × Json) → List Char
  | [] => ['}']
  | (key, value) :: fields =>
    separator first ++ (renderString key ++ ':' :: (render value ++ renderFields false fields))

end

/-! Strings. -/

/-- What an escape stands for. -/
def unescape : List Char → Option (Char × List Char)
  | '\\' :: 'b' :: s => some ('\x08', s)
  | '\\' :: 't' :: s => some ('\t', s)
  | '\\' :: 'n' :: s => some ('\n', s)
  | '\\' :: 'f' :: s => some ('\x0c', s)
  | '\\' :: 'r' :: s => some ('\r', s)
  | '\\' :: 'u' :: '0' :: '0' :: high :: low :: s =>
    some (Char.ofNat (16 * hexValue high + hexValue low), s)
  | '\\' :: c :: s => some (c, s)
  | c :: s => some (c, s)
  | [] => none
where
  hexValue (c : Char) : ℕ := if c.isDigit then c.toNat - 48 else c.toNat - 87

theorem unescape_plain {c : Char} (h : c ≠ '\\') (s : List Char) :
    unescape (c :: s) = some (c, s) := by
  unfold unescape
  split <;> simp_all

theorem unescape_control {n : ℕ} (h : n < 32) (s : List Char) :
    unescape ('\\' :: 'u' :: '0' :: '0' :: hexDigit (n / 16) :: hexDigit (n % 16) :: s) =
      some (Char.ofNat n, s) := by
  have hvalue : 16 * unescape.hexValue (hexDigit (n / 16)) + unescape.hexValue (hexDigit (n % 16)) =
      n := by
    interval_cases n <;> rfl
  rw [unescape, hvalue]

theorem unescape_escapeChar (c : Char) (s : List Char) :
    unescape (escapeChar c ++ s) = some (c, s) := by
  unfold escapeChar
  split_ifs with hquote hslash hback htab hline hform hreturn hcontrol
  · rw [hquote]; rfl
  · rw [hslash]; rfl
  · rw [hback]; rfl
  · rw [htab]; rfl
  · rw [hline]; rfl
  · rw [hform]; rfl
  · rw [hreturn]; rfl
  · have hread := unescape_control hcontrol s
    rwa [Char.ofNat_toNat] at hread
  · exact unescape_plain hslash s

theorem head?_escapeChar (c : Char) : escapeChar c ≠ [] ∧ '"' ∉ (escapeChar c).head? := by
  unfold escapeChar
  split_ifs <;> simp_all

theorem renderString_append {a b : String} {s t : List Char}
    (h : renderString a ++ s = renderString b ++ t) : a = b ∧ s = t := by
  simp only [renderString, cons_append, append_assoc, nil_append, cons.injEq,
    true_and] at h
  obtain ⟨hlist, hst⟩ := flatMap_append_inj (selfDelimiting_of_decode unescape_escapeChar)
    (fun c => (head?_escapeChar c).1) (fun c => (head?_escapeChar c).2) h
  exact ⟨String.toList_injective hlist, hst⟩

/-! Numerals. -/

section

variable (floats : FloatText)

def numeral : ℤ ⊕ ℚ → List Char
  | .inl value => value.repr.toList
  | .inr value => floats.text value

theorem toList_repr_ofNat (n : ℕ) : (Int.ofNat n).repr.toList = Nat.toDigits 10 n := Nat.toList_repr

theorem toList_repr_negSucc (n : ℕ) :
    (Int.negSucc n).repr.toList = '-' :: Nat.toDigits 10 (n + 1) := by
  rw [Int.repr, String.toList_append, Nat.toList_repr]
  rfl

theorem of_mem_repr {value : ℤ} {c : Char} (h : c ∈ value.repr.toList) : c = '-' ∨ c.isDigit := by
  cases value with
  | ofNat n =>
    rw [toList_repr_ofNat] at h
    exact .inr (Nat.isDigit_of_mem_toDigits (by decide) (by decide) h)
  | negSucc n =>
    rw [toList_repr_negSucc] at h
    rcases mem_cons.mp h with rfl | h
    · exact .inl rfl
    · exact .inr (Nat.isDigit_of_mem_toDigits (by decide) (by decide) h)

theorem numeral_ne_nil (number : ℤ ⊕ ℚ) : numeral floats number ≠ [] := by
  cases number with
  | inl value =>
    show value.repr.toList ≠ []
    cases value with
    | ofNat n =>
      rw [toList_repr_ofNat]
      exact Nat.toDigits_ne_nil
    | negSucc n =>
      rw [toList_repr_negSucc]
      exact cons_ne_nil _ _
  | inr q =>
    obtain ⟨c, hmem, -⟩ := floats.fraction q
    exact ne_nil_of_mem hmem

theorem isNumberChar_of_mem_numeral {number : ℤ ⊕ ℚ} {c : Char} (h : c ∈ numeral floats number) :
    isNumberChar c := by
  cases number with
  | inl value =>
    rcases of_mem_repr h with rfl | hdigit
    · rfl
    · simp [isNumberChar, hdigit]
  | inr value => exact floats.numeral value c h

theorem repr_ne_text (value : ℤ) (q : ℚ) : value.repr.toList ≠ floats.text q := by
  intro heq
  obtain ⟨c, hmem, hc⟩ := floats.fraction q
  rw [← heq] at hmem
  rcases of_mem_repr hmem with rfl | hdigit
  · rcases hc with hc | hc <;> cases hc
  · rcases hc with rfl | rfl <;> cases hdigit

theorem numeral_injective : Function.Injective (numeral floats) := by
  intro a b h
  cases a with
  | inl value =>
    cases b with
    | inl other => rw [Int.repr_injective (String.toList_injective h)]
    | inr q => exact absurd h (repr_ne_text floats value q)
  | inr q =>
    cases b with
    | inl value => exact absurd h.symm (repr_ne_text floats value q)
    | inr other => rw [floats.injective h]

theorem delimits_numeral : Delimits (NotAhead (isNumberChar ·)) (numeral floats) :=
  delimits_of_class (numeral_injective floats) fun _ _ => isNumberChar_of_mem_numeral floats

end

/-! Values. -/

/-- What the first character of a value's text tells. -/
inductive Kind where
  | null
  | bool
  | number
  | string
  | array
  | object
  deriving DecidableEq

def kind : Json → Kind
  | .null => .null
  | .bool _ => .bool
  | .integer _ | .float _ => .number
  | .string _ => .string
  | .array _ => .array
  | .object _ => .object

def Kind.ofChar (c : Char) : Option Kind :=
  if c = 'n' then some .null
  else if c = 't' ∨ c = 'f' then some .bool
  else if c = '"' then some .string
  else if c = '[' then some .array
  else if c = '{' then some .object
  else if isNumberChar c then some .number
  else none

section

variable (floats : FloatText)

theorem Kind.ofChar_of_isNumberChar {c : Char} (h : isNumberChar c) :
    Kind.ofChar c = some .number := by
  have hother (d : Char) (hd : isNumberChar d = false) : c ≠ d := by
    rintro rfl
    cases h.symm.trans hd
  rw [ofChar, if_neg (hother 'n' rfl), if_neg (not_or.mpr ⟨hother 't' rfl, hother 'f' rfl⟩),
    if_neg (hother '"' rfl), if_neg (hother '[' rfl), if_neg (hother '{' rfl), if_pos h]

theorem exists_head (value : Json) :
    ∃ c text, render floats value = c :: text ∧ Kind.ofChar c = some value.kind := by
  have hnumeral (number : ℤ ⊕ ℚ) :
      ∃ c text, numeral floats number = c :: text ∧ Kind.ofChar c = some .number := by
    obtain ⟨c, text, htext⟩ := exists_cons_of_ne_nil (numeral_ne_nil floats number)
    have hmem : c ∈ numeral floats number := by rw [htext]; exact mem_cons_self
    exact ⟨c, text, htext, Kind.ofChar_of_isNumberChar (isNumberChar_of_mem_numeral floats hmem)⟩
  cases value with
  | null => exact ⟨_, _, rfl, rfl⟩
  | bool value => cases value <;> exact ⟨_, _, rfl, rfl⟩
  | integer value => exact hnumeral (.inl value)
  | float value => exact hnumeral (.inr value)
  | string value => exact ⟨_, _, rfl, rfl⟩
  | array items => exact ⟨_, _, rfl, rfl⟩
  | object fields => exact ⟨_, _, rfl, rfl⟩

theorem kind_eq_of_append {a b : Json} {s t : List Char}
    (h : render floats a ++ s = render floats b ++ t) : a.kind = b.kind := by
  obtain ⟨c, text, hc, hkind⟩ := exists_head floats a
  obtain ⟨d, other, hd, hother⟩ := exists_head floats b
  rw [hc, hd] at h
  obtain ⟨rfl, -⟩ := cons.inj h
  exact Option.some.inj (hkind.symm.trans hother)

theorem notAhead_renderItems (items : List Json) (s : List Char) :
    NotAhead (isNumberChar ·) (renderItems floats false items ++ s) := by
  cases items with
  | nil => exact notAhead_cons.mpr (by decide)
  | cons item items => exact notAhead_cons.mpr (by decide)

theorem notAhead_renderFields (fields : List (String × Json)) (s : List Char) :
    NotAhead (isNumberChar ·) (renderFields floats false fields ++ s) := by
  cases fields with
  | nil => exact notAhead_cons.mpr (by decide)
  | cons field fields => exact notAhead_cons.mpr (by decide)

theorem ne_separator_append {c d : Char} (hcomma : c ≠ ',') (hne : c ≠ d) (first : Bool)
    (s t : List Char) : c :: s ≠ separator first ++ (d :: t) := by
  intro heq
  cases first with
  | false => exact hcomma (cons.inj heq).1
  | true => exact hne (cons.inj heq).1

theorem ne_renderItems (first : Bool) (item : Json) (items : List Json) (s t : List Char) :
    renderItems floats first [] ++ s ≠ renderItems floats first (item :: items) ++ t := by
  obtain ⟨c, text, htext, hkind⟩ := exists_head floats item
  have hne : ']' ≠ c := by
    rintro rfl
    cases hkind
  rw [renderItems, renderItems, htext, append_assoc]
  exact ne_separator_append (by decide) hne first _ _

theorem ne_renderFields (first : Bool) (field : String × Json) (fields : List (String × Json))
    (s t : List Char) :
    renderFields floats first [] ++ s ≠ renderFields floats first (field :: fields) ++ t := by
  rw [renderFields, renderFields, append_assoc]
  exact ne_separator_append (by decide) (by decide) first _ _

mutual

/-- Before a boundary, the text of a value determines it. -/
theorem render_append : ∀ (a b : Json) (s t : List Char), NotAhead (isNumberChar ·) s →
    NotAhead (isNumberChar ·) t → render floats a ++ s = render floats b ++ t → a = b ∧ s = t
  | .null, b, s, t, hs, ht, h => by
    cases b with
    | null => exact ⟨rfl, append_cancel_left h⟩
    | _ => cases kind_eq_of_append floats h
  | .bool a, b, s, t, hs, ht, h => by
    cases b with
    | bool b =>
      cases a <;> cases b
      · exact ⟨rfl, append_cancel_left h⟩
      · cases (cons.inj h).1
      · cases (cons.inj h).1
      · exact ⟨rfl, append_cancel_left h⟩
    | _ => cases kind_eq_of_append floats h
  | .integer a, b, s, t, hs, ht, h => by
    cases b with
    | integer b =>
      have hnumeral : numeral floats (.inl a) ++ s = numeral floats (.inl b) ++ t := h
      obtain ⟨hab, hst⟩ := delimits_numeral floats hs ht hnumeral
      exact ⟨congrArg Json.integer (Sum.inl.inj hab), hst⟩
    | float b =>
      have hnumeral : numeral floats (.inl a) ++ s = numeral floats (.inr b) ++ t := h
      cases (delimits_numeral floats hs ht hnumeral).1
    | _ => cases kind_eq_of_append floats h
  | .float a, b, s, t, hs, ht, h => by
    cases b with
    | integer b =>
      have hnumeral : numeral floats (.inr a) ++ s = numeral floats (.inl b) ++ t := h
      cases (delimits_numeral floats hs ht hnumeral).1
    | float b =>
      have hnumeral : numeral floats (.inr a) ++ s = numeral floats (.inr b) ++ t := h
      obtain ⟨hab, hst⟩ := delimits_numeral floats hs ht hnumeral
      exact ⟨congrArg Json.float (Sum.inr.inj hab), hst⟩
    | _ => cases kind_eq_of_append floats h
  | .string a, b, s, t, hs, ht, h => by
    cases b with
    | string b =>
      obtain ⟨rfl, hst⟩ := renderString_append h
      exact ⟨rfl, hst⟩
    | _ => cases kind_eq_of_append floats h
  | .array items, b, s, t, hs, ht, h => by
    cases b with
    | array others =>
      obtain ⟨rfl, hst⟩ := renderItems_append true items others s t (cons.inj h).2
      exact ⟨rfl, hst⟩
    | _ => cases kind_eq_of_append floats h
  | .object fields, b, s, t, hs, ht, h => by
    cases b with
    | object others =>
      obtain ⟨rfl, hst⟩ := renderFields_append true fields others s t (cons.inj h).2
      exact ⟨rfl, hst⟩
    | _ => cases kind_eq_of_append floats h

theorem renderItems_append : ∀ (first : Bool) (items others : List Json) (s t : List Char),
    renderItems floats first items ++ s = renderItems floats first others ++ t → items = others ∧ s = t
  | first, [], [], s, t, h => ⟨rfl, (cons.inj h).2⟩
  | first, [], other :: others, s, t, h => absurd h (ne_renderItems floats first other others s t)
  | first, item :: items, [], s, t, h => absurd h.symm (ne_renderItems floats first item items t s)
  | first, item :: items, other :: others, s, t, h => by
    simp only [renderItems, append_assoc, append_cancel_left_eq] at h
    obtain ⟨rfl, hrest⟩ := render_append item other _ _ (notAhead_renderItems floats items s)
      (notAhead_renderItems floats others t) h
    obtain ⟨rfl, hst⟩ := renderItems_append false items others s t hrest
    exact ⟨rfl, hst⟩

theorem renderFields_append : ∀ (first : Bool) (fields others : List (String × Json))
    (s t : List Char), renderFields floats first fields ++ s = renderFields floats first others ++ t →
      fields = others ∧ s = t
  | first, [], [], s, t, h => ⟨rfl, (cons.inj h).2⟩
  | first, [], other :: others, s, t, h => absurd h (ne_renderFields floats first other others s t)
  | first, field :: fields, [], s, t, h => absurd h.symm (ne_renderFields floats first field fields t s)
  | first, (key, value) :: fields, (otherKey, other) :: others, s, t, h => by
    simp only [renderFields, append_assoc, append_cancel_left_eq, cons_append] at h
    obtain ⟨rfl, hvalue⟩ := renderString_append h
    obtain ⟨rfl, hrest⟩ := render_append value other _ _ (notAhead_renderFields floats fields s)
      (notAhead_renderFields floats others t) (cons.inj hvalue).2
    obtain ⟨rfl, hst⟩ := renderFields_append false fields others s t hrest
    exact ⟨rfl, hst⟩

end

def text (value : Json) : String := String.ofList (render floats value)

/-- The text determines the value. -/
theorem text_injective : Function.Injective (text floats) := by
  intro a b h
  have hdelimits : Delimits (NotAhead (isNumberChar ·)) (render floats) :=
    fun a b s t => render_append floats a b s t
  exact hdelimits.injective (notAhead_nil _) (String.ofList_injective h)

end

end Json

end Extrittio
