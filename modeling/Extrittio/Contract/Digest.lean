import Extrittio.Contract.Validation
import Extrittio.Library.Hex

/-! The text of a contract hash. -/
namespace Extrittio

theorem Blueprint.isHexDigit_eq (c : Char) : isHexDigit c = (Hex.value? c).isSome := by
  rw [Bool.eq_iff_iff]
  simp only [isHexDigit, Char.isDigit, Hex.value?, Bool.or_eq_true, Bool.and_eq_true,
    decide_eq_true_eq, Char.le_def, UInt32.le_iff_toNat_le, ge_iff_le]
  show (48 ≤ c.toNat ∧ c.toNat ≤ 57 ∨ 97 ≤ c.toNat ∧ c.toNat ≤ 102) ∨
    65 ≤ c.toNat ∧ c.toNat ≤ 70 ↔ _
  split_ifs with hdigit hlower hupper
  · simp [hdigit]
  · simp [hlower]
  · simp [hupper]
  · simp [hdigit, hlower, hupper]

structure ContractHash where
  bytes : List UInt8
  size : bytes.length = 32

namespace ContractHash

open Blueprint Hex List String

def asHex (hash : ContractHash) : String := ofList (encode hash.bytes)

/-- The bytes read are written over 32 zeros. -/
def fromStr (value : String) : Except ContractError ContractHash :=
  if value.utf8ByteSize ≠ 64 ∨ value.toList.all isHexDigit = false then
    .error (.invalidContext "contract hash must contain 64 hexadecimal characters")
  else
    match decode value.toList with
    | none => .error (.invalidContext "contract hash is not hexadecimal")
    | some bytes => .ok ⟨(bytes ++ replicate 32 0).take 32, by simp⟩

def IsHash (text : String) : Prop :=
  text.toList.length = 64 ∧ ∀ c ∈ text.toList, isHexDigit c = true

theorem fromStr_of_isHash {text : String} (h : IsHash text) :
    ∃ hash, fromStr text = .ok hash ∧ hash.asHex.toList = text.toList.map Char.toLower := by
  have hdigits : ∀ c ∈ text.toList, (value? c).isSome := fun c hc => by
    rw [← isHexDigit_eq]
    exact h.2 c hc
  obtain ⟨bytes, hdecode, hlength, hwritten⟩ := decode_of_even hdigits (n := 32) h.1
  refine ⟨⟨bytes, hlength⟩, ?_, ?_⟩
  · have hguard : ¬(text.utf8ByteSize ≠ 64 ∨ text.toList.all isHexDigit = false) := by
      rw [utf8ByteSize_eq hdigits, h.1, all_eq_true.mpr h.2]
      simp
    simp only [fromStr, if_neg hguard, hdecode, take_left' hlength]
  · rw [asHex, toList_ofList, hwritten]

theorem isHash_of_fromStr {text : String} {hash : ContractHash} (h : fromStr text = .ok hash) :
    IsHash text := by
  unfold fromStr at h
  split_ifs at h with hguard
  simp only [not_or, not_not, Bool.not_eq_false, all_eq_true] at hguard
  refine ⟨?_, hguard.2⟩
  rw [← utf8ByteSize_eq fun c hc => by rw [← isHexDigit_eq]; exact hguard.2 c hc]
  exact hguard.1

theorem isHash_asHex (hash : ContractHash) : IsHash hash.asHex := by
  rw [IsHash, asHex, toList_ofList, length_encode, hash.size]
  exact ⟨rfl, fun c hc => by rw [isHexDigit_eq, (mem_encode hc).1]⟩

theorem asHex_injective {a b : ContractHash} (h : a.asHex.toList = b.asHex.toList) : a = b := by
  obtain ⟨a, ha⟩ := a
  obtain ⟨b, hb⟩ := b
  simp only [asHex, toList_ofList] at h
  have hsame := decode_encode a
  rw [h, decode_encode] at hsame
  cases hsame
  rfl

theorem toLower_asHex (hash : ContractHash) :
    hash.asHex.toList.map Char.toLower = hash.asHex.toList := by
  rw [asHex, toList_ofList]
  exact (map_congr_left fun c hc => (mem_encode hc).2).trans (map_id _)

/-- Printing and parsing a hash are inverse up to letter case, and parsing accepts 64
hexadecimal digits and nothing else. -/
theorem fromStr_asHex_iff : (∀ hash : ContractHash, fromStr hash.asHex = .ok hash) ∧
    (∀ text, (∃ hash, fromStr text = .ok hash) ↔ IsHash text) ∧
    (∀ text hash, fromStr text = .ok hash →
      hash.asHex = ofList (text.toList.map Char.toLower)) ∧
    ∀ a b hash, fromStr a = .ok hash →
      (fromStr b = .ok hash ↔ IsHash b ∧ a.toList.map Char.toLower = b.toList.map Char.toLower) := by
  have hlower : ∀ text hash, fromStr text = .ok hash →
      hash.asHex.toList = text.toList.map Char.toLower := by
    intro text hash h
    obtain ⟨hash', hparsed, hwritten⟩ := fromStr_of_isHash (isHash_of_fromStr h)
    cases hparsed.symm.trans h
    exact hwritten
  refine ⟨fun hash => ?_, fun text => ⟨fun ⟨hash, h⟩ => isHash_of_fromStr h, fun h => ?_⟩,
    fun text hash h => ?_, fun a b hash ha => ⟨fun hb => ?_, fun ⟨hb, hsame⟩ => ?_⟩⟩
  · obtain ⟨hash', hparsed, hwritten⟩ := fromStr_of_isHash hash.isHash_asHex
    rw [toLower_asHex] at hwritten
    rw [hparsed, asHex_injective hwritten]
  · obtain ⟨hash, hparsed, -⟩ := fromStr_of_isHash h
    exact ⟨hash, hparsed⟩
  · rw [← hlower text hash h, ofList_toList]
  · exact ⟨isHash_of_fromStr hb, (hlower a hash ha).symm.trans (hlower b hash hb)⟩
  · obtain ⟨hash', hparsed, hwritten⟩ := fromStr_of_isHash hb
    rw [hparsed, asHex_injective (hwritten.trans (hsame.symm.trans (hlower a hash ha).symm))]

end ContractHash

end Extrittio
