import Mathlib
import Tablesmith.Cipher.Basic
import Tablesmith.Text.Characters

/-!
# Written bytes read back

Base64 has one written form for every list of bytes: what is written reads back, and
nothing else is read (`decode?_eq_some_iff`). Both directions go through the values of
the characters, which are numbers below 64.
-/

namespace Tablesmith.Cipher.Base64

variable {value : Nat} {c : Char} {bytes : List UInt8} {chars : List Char}

/-- The characters by their codes. To decide a statement about all values from the string itself, the string would be
    decoded once for each of them. -/
private theorem alphabet_eq : alphabet =
    ((List.range 26).map fun i => Char.ofNat ('A'.toNat + i)) ++ ((List.range 26).map fun i => Char.ofNat ('a'.toNat + i)) ++
      ((List.range 10).map fun i => Char.ofNat ('0'.toNat + i)) ++ ['+', '/'] :=
  String.toList_ofList

theorem valueOf?_charOf : ∀ value < 64, valueOf? (charOf value) = some value := by
  simp only [charOf, alphabet_eq]
  decide +kernel

theorem charOf_ne_filler : ∀ value < 64, charOf value ≠ filler := by
  intro value small filled
  have valued := valueOf?_charOf value small
  have no_value : valueOf? filler = none := by decide
  rw [filled, no_value] at valued
  cases valued

private theorem valueOf?_ascii :
    ∀ code < 128, ∀ value ∈ valueOf? (Char.ofNat code), value < 64 ∧ charOf value = Char.ofNat code := by
  simp only [charOf, alphabet_eq]
  decide +kernel

private theorem ascii_of_valueOf? (valued : valueOf? c = some value) : c.toNat < 128 := by
  have below {last : Char} (le : c ≤ last) (small : last.toNat < 128) : c.toNat < 128 := Nat.lt_of_le_of_lt le small
  unfold valueOf? at valued
  split at valued
  · next capital => exact below capital.2 (by decide)
  split at valued
  · next letter => exact below letter.2 (by decide)
  split at valued
  · next digit => exact below digit.2 (by decide)
  split at valued
  · next plus => subst plus; decide
  split at valued
  · next slash => subst slash; decide
  · cases valued

theorem valueOf?_eq_some_iff : valueOf? c = some value ↔ value < 64 ∧ charOf value = c := by
  constructor
  · intro valued
    have small := ascii_of_valueOf? valued
    have known := valueOf?_ascii c.toNat small value
    rw [Char.ofNat_toNat] at known
    exact known valued
  · rintro ⟨small, rfl⟩
    exact valueOf?_charOf value small

private theorem ofNat_eq {byte : UInt8} {n : Nat} (same : n % 256 = byte.toNat) : UInt8.ofNat n = byte := by
  apply UInt8.toNat.inj
  rw [UInt8.toNat_ofNat']
  exact same

theorem decode?_encode (bytes : List UInt8) : decode? (encode bytes) = some bytes := by
  induction bytes using encode.induct with
  | case1 => rfl
  | case2 a =>
    have small := a.toNat_lt
    have first := valueOf?_charOf (a.toNat / 4) (by omega)
    have second := valueOf?_charOf (a.toNat % 4 * 16) (by omega)
    have bits : a.toNat % 4 * 16 % 16 = 0 := by omega
    have byte : UInt8.ofNat (a.toNat / 4 * 4 + a.toNat % 4 * 16 / 16) = a := ofNat_eq (by omega)
    simp only [encode, decode?, first, second, lastOne?, bits, byte, and_self, ↓reduceIte]
  | case3 a b =>
    have a_small := a.toNat_lt
    have b_small := b.toNat_lt
    generalize number : a.toNat * 256 + b.toNat = n
    have first := valueOf?_charOf (n / 1024) (by omega)
    have second := valueOf?_charOf (n / 16 % 64) (by omega)
    have third := valueOf?_charOf (n % 16 * 4) (by omega)
    have no_filler := charOf_ne_filler (n % 16 * 4) (by omega)
    have bits : n % 16 * 4 % 4 = 0 := by omega
    have back : (n / 1024 * 64 + n / 16 % 64) * 16 + n % 16 * 4 / 4 = n := by omega
    have high : UInt8.ofNat (n / 256) = a := ofNat_eq (by omega)
    have low : UInt8.ofNat n = b := ofNat_eq (by omega)
    simp only [encode, decode?, number, first, second, third, no_filler, lastTwo?, bits, back, high, low, and_self,
      ↓reduceIte, Option.bind_some]
  | case4 a b c rest ih =>
    have a_small := a.toNat_lt
    have b_small := b.toNat_lt
    have c_small := c.toNat_lt
    generalize number : (a.toNat * 256 + b.toNat) * 256 + c.toNat = n at ih
    have first := valueOf?_charOf (n / 262144) (by omega)
    have second := valueOf?_charOf (n / 4096 % 64) (by omega)
    have third := valueOf?_charOf (n / 64 % 64) (by omega)
    have fourth := valueOf?_charOf (n % 64) (by omega)
    have no_filler := charOf_ne_filler (n % 64) (by omega)
    have back : ((n / 262144 * 64 + n / 4096 % 64) * 64 + n / 64 % 64) * 64 + n % 64 = n := by omega
    have high : UInt8.ofNat (n / 65536) = a := ofNat_eq (by omega)
    have middle : UInt8.ofNat (n / 256) = b := ofNat_eq (by omega)
    have low : UInt8.ofNat n = c := ofNat_eq (by omega)
    simp only [encode, decode?, number, first, second, third, fourth, no_filler, ih, back, high, middle, low, and_false,
      ↓reduceIte]

private theorem encode_lastOne? {a b : Nat} (a_small : a < 64) (b_small : b < 64) (read : lastOne? a b = some bytes) :
    encode bytes = [charOf a, charOf b, filler, filler] := by
  unfold lastOne? at read
  split at read
  · next bits =>
    cases read
    have number : (UInt8.ofNat (a * 4 + b / 16)).toNat = a * 4 + b / 16 := by
      rw [UInt8.toNat_ofNat']
      omega
    have high : (a * 4 + b / 16) / 4 = a := by omega
    have low : (a * 4 + b / 16) % 4 * 16 = b := by omega
    simp only [encode, number, high, low]
  · cases read

private theorem encode_lastTwo? {a b c : Nat} (a_small : a < 64) (b_small : b < 64) (c_small : c < 64)
    (read : lastTwo? a b c = some bytes) : encode bytes = [charOf a, charOf b, charOf c, filler] := by
  unfold lastTwo? at read
  split at read
  · next bits =>
    cases read
    have number : (UInt8.ofNat (((a * 64 + b) * 16 + c / 4) / 256)).toNat * 256 +
        (UInt8.ofNat ((a * 64 + b) * 16 + c / 4)).toNat = (a * 64 + b) * 16 + c / 4 := by
      rw [UInt8.toNat_ofNat', UInt8.toNat_ofNat']
      omega
    have first : ((a * 64 + b) * 16 + c / 4) / 1024 = a := by omega
    have second : ((a * 64 + b) * 16 + c / 4) / 16 % 64 = b := by omega
    have third : ((a * 64 + b) * 16 + c / 4) % 16 * 4 = c := by omega
    simp only [encode, number, first, second, third]
  · cases read

/-- Four values that write three bytes. -/
private theorem encode_group {a b c d : Nat} (a_small : a < 64) (b_small : b < 64) (c_small : c < 64) (d_small : d < 64)
    (bytes : List UInt8) :
    encode (UInt8.ofNat ((((a * 64 + b) * 64 + c) * 64 + d) / 65536) ::
        UInt8.ofNat ((((a * 64 + b) * 64 + c) * 64 + d) / 256) ::
        UInt8.ofNat (((a * 64 + b) * 64 + c) * 64 + d) :: bytes) =
      charOf a :: charOf b :: charOf c :: charOf d :: encode bytes := by
  generalize total : ((a * 64 + b) * 64 + c) * 64 + d = n
  have number : ((UInt8.ofNat (n / 65536)).toNat * 256 + (UInt8.ofNat (n / 256)).toNat) * 256 + (UInt8.ofNat n).toNat =
      n := by
    rw [UInt8.toNat_ofNat', UInt8.toNat_ofNat', UInt8.toNat_ofNat']
    omega
  have first : n / 262144 = a := by omega
  have second : n / 4096 % 64 = b := by omega
  have third : n / 64 % 64 = c := by omega
  have fourth : n % 64 = d := by omega
  simp only [encode, number, first, second, third, fourth]

theorem encode_of_decode? : ∀ {chars : List Char} {bytes : List UInt8}, decode? chars = some bytes → encode bytes = chars
  | [], _, read => by
    cases read
    rfl
  | [_], _, read => by cases read
  | [_, _], _, read => by cases read
  | [_, _, _], _, read => by cases read
  | a :: b :: c :: d :: rest, bytes, read => by
    rw [decode?] at read
    split at read
    · next v w first second =>
      obtain ⟨v_small, rfl⟩ := valueOf?_eq_some_iff.mp first
      obtain ⟨w_small, rfl⟩ := valueOf?_eq_some_iff.mp second
      by_cases ends : rest = [] ∧ d = filler
      · rw [if_pos ends] at read
        obtain ⟨rfl, rfl⟩ := ends
        by_cases filled : c = filler
        · rw [if_pos filled] at read
          rw [filled]
          exact encode_lastOne? v_small w_small read
        · rw [if_neg filled] at read
          obtain ⟨x, third, last⟩ := Option.bind_eq_some_iff.mp read
          obtain ⟨x_small, rfl⟩ := valueOf?_eq_some_iff.mp third
          exact encode_lastTwo? v_small w_small x_small last
      · rw [if_neg ends] at read
        split at read
        · next x y more third fourth rest_read =>
          obtain ⟨x_small, rfl⟩ := valueOf?_eq_some_iff.mp third
          obtain ⟨y_small, rfl⟩ := valueOf?_eq_some_iff.mp fourth
          cases read
          rw [encode_group v_small w_small x_small y_small, encode_of_decode? rest_read]
        · cases read
    · cases read

/-- What is read is exactly what is written. -/
theorem decode?_eq_some_iff : decode? chars = some bytes ↔ chars = encode bytes := by
  constructor
  · exact fun read => (encode_of_decode? read).symm
  · rintro rfl
    exact decode?_encode bytes

theorem not_blank_filler : Text.isBlank filler = false := by
  decide

theorem not_blank_charOf (value : Nat) : Text.isBlank (charOf value) = false := by
  have letters : ∀ value < 64, Text.isBlank (charOf value) = false := by
    simp only [charOf, alphabet_eq]
    decide +kernel
  by_cases small : value < 64
  · exact letters value small
  · have beyond : alphabet.length ≤ value := Nat.le_of_not_lt small
    rw [charOf, List.getD_eq_default _ _ beyond]
    exact not_blank_filler

theorem not_blank_of_mem_encode (member : c ∈ encode bytes) : Text.isBlank c = false := by
  have clear : ∀ c ∈ encode bytes, Text.isBlank c = false := by
    clear member
    induction bytes using encode.induct with
    | case1 => exact List.forall_mem_nil _
    | case2 a => simp [encode, not_blank_charOf, not_blank_filler]
    | case3 a b => simp [encode, not_blank_charOf, not_blank_filler]
    | case4 a b c rest ih => simpa [encode, not_blank_charOf] using ih
  exact clear c member

end Tablesmith.Cipher.Base64
