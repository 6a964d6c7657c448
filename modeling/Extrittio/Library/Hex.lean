import Mathlib.Tactic

/-! Bytes written as pairs of hexadecimal digits, lower case, and read in either case. -/
namespace Hex

open List Nat Option

/-- `char::to_digit(16)` -/
def value? (c : Char) : Option ℕ :=
  if 48 ≤ c.toNat ∧ c.toNat ≤ 57 then some (c.toNat - 48)
  else if 97 ≤ c.toNat ∧ c.toNat ≤ 102 then some (c.toNat - 87)
  else if 65 ≤ c.toNat ∧ c.toNat ≤ 70 then some (c.toNat - 55)
  else none

def encode (bytes : List UInt8) : List Char :=
  bytes.flatMap fun b => [digitChar (b.toNat / 16), digitChar (b.toNat % 16)]

/-- Reads pair by pair; a last odd character is left alone, as by `chunks_exact`. -/
def decode : List Char → Option (List UInt8)
  | high :: low :: rest => do
    return UInt8.ofNat (16 * (← value? high) + (← value? low)) :: (← decode rest)
  | _ => some []

theorem value?_digitChar {d : ℕ} (h : d < 16) : value? (digitChar d) = some d := by
  interval_cases d <;> rfl

theorem of_value? {c : Char} {d : ℕ} (h : value? c = some d) :
    d < 16 ∧ digitChar d = c.toLower ∧ c.utf8Size = 1 := by
  obtain ⟨n, hn, rfl⟩ : ∃ n, n = c.toNat ∧ c = Char.ofNat n := ⟨_, rfl, c.ofNat_toNat.symm⟩
  unfold value? at h
  rw [← hn] at h
  split_ifs at h with hrange hrange hrange
  all_goals
    obtain ⟨hlow, hhigh⟩ := hrange
    cases h
    interval_cases n <;> decide

theorem decode_encode (bytes : List UInt8) : decode (encode bytes) = some bytes := by
  induction bytes with
  | nil => rfl
  | cons b bytes ih =>
    have hb := b.toNat_lt
    have hhigh := value?_digitChar (show b.toNat / 16 < 16 by omega)
    have hlow := value?_digitChar (show b.toNat % 16 < 16 by omega)
    show decode (_ :: _ :: encode bytes) = _
    simp only [decode, hhigh, hlow, ih, bind_eq_bind, bind_some, Option.pure_def]
    rw [div_add_mod, UInt8.ofNat_toNat]

/-- An even number of digits is read, and writes back in lower case. -/
theorem decode_of_even {text : List Char} (h : ∀ c ∈ text, (value? c).isSome) :
    ∀ {n : ℕ}, text.length = 2 * n →
      ∃ bytes, decode text = some bytes ∧ bytes.length = n ∧ encode bytes = text.map Char.toLower := by
  induction text using decode.induct with
  | case1 high low rest ih =>
    intro n hlength
    rw [forall_mem_cons, forall_mem_cons] at h
    obtain ⟨x, hx⟩ := isSome_iff_exists.mp h.1
    obtain ⟨y, hy⟩ := isSome_iff_exists.mp h.2.1
    obtain ⟨m, rfl⟩ : ∃ m, n = m + 1 := ⟨n - 1, by simp only [length_cons] at hlength; omega⟩
    obtain ⟨bytes, hbytes, hcount, hwritten⟩ := ih h.2.2 (n := m) (by
      simp only [length_cons] at hlength
      omega)
    obtain ⟨hxlt, hxc, -⟩ := of_value? hx
    obtain ⟨hylt, hyc, -⟩ := of_value? hy
    have hsmall : (UInt8.ofNat (16 * x + y)).toNat = 16 * x + y := by
      rw [UInt8.toNat_ofNat']
      omega
    refine ⟨UInt8.ofNat (16 * x + y) :: bytes, by simp [decode, hx, hy, hbytes], by simp [hcount], ?_⟩
    show digitChar _ :: digitChar _ :: encode bytes = _
    rw [hsmall, hwritten, show (16 * x + y) / 16 = x by omega, show (16 * x + y) % 16 = y by omega,
      hxc, hyc]
    rfl
  | case2 text hshort =>
    intro n hlength
    match text, hshort with
    | [], _ => exact ⟨[], rfl, by simp only [length_nil] at hlength ⊢; omega, rfl⟩
    | [c], _ => exact absurd hlength (by simp only [length_singleton]; omega)
    | a :: b :: rest, hshort => exact absurd rfl (hshort a b rest)

theorem mem_encode {bytes : List UInt8} {c : Char} (h : c ∈ encode bytes) :
    (value? c).isSome ∧ c.toLower = c := by
  obtain ⟨b, -, hb⟩ := mem_flatMap.mp h
  have hlt := b.toNat_lt
  obtain ⟨d, hd, rfl⟩ : ∃ d < 16, c = digitChar d := by
    rcases mem_pair.mp hb with rfl | rfl <;> exact ⟨_, by omega, rfl⟩
  have hvalue := value?_digitChar hd
  exact ⟨by rw [hvalue]; rfl, (of_value? hvalue).2.1.symm⟩

theorem length_encode (bytes : List UInt8) : (encode bytes).length = 2 * bytes.length := by
  simp [encode, length_flatMap, mul_comm]

/-- Digits are ASCII: as many bytes as characters. -/
theorem utf8ByteSize_eq {text : String} (h : ∀ c ∈ text.toList, (value? c).isSome) :
    text.utf8ByteSize = text.toList.length := by
  obtain ⟨chars, rfl⟩ : ∃ chars, text = String.ofList chars := ⟨_, text.ofList_toList.symm⟩
  rw [String.toList_ofList] at h ⊢
  induction chars with
  | nil => rfl
  | cons c chars ih =>
    rw [forall_mem_cons] at h
    obtain ⟨d, hd⟩ := isSome_iff_exists.mp h.1
    rw [String.ofList_cons, String.utf8ByteSize_append, String.utf8ByteSize_singleton,
      (of_value? hd).2.2, ih h.2, length_cons, add_comm]

end Hex
