import Mathlib

/-!
# Big-endian octet strings

Numbers of a fixed width as octet strings, most significant octet first, and a
cursor that consumes a known number of octets from the front of a string.
Encoders are written as concatenations and decoders as a sequence of `take`s,
so a round trip is one `take_append` for each field.
-/

namespace Octets

/-- The `width` least significant octets of `value`, most significant first. -/
def bigEndian : (width value : Nat) → List UInt8
  | 0, _ => []
  | width + 1, value => bigEndian width (value / 256) ++ [UInt8.ofNat (value % 256)]

/-- The number an octet string spells, most significant octet first. -/
def ofBigEndian (octets : List UInt8) : Nat :=
  octets.foldl (fun value octet => value * 256 + octet.toNat) 0

@[simp] theorem length_bigEndian (width value : Nat) :
    (bigEndian width value).length = width := by
  induction width generalizing value with
  | zero => rfl
  | succ width ih => simp [bigEndian, ih]

theorem ofBigEndian_concat (octets : List UInt8) (octet : UInt8) :
    ofBigEndian (octets ++ [octet]) = ofBigEndian octets * 256 + octet.toNat := by
  simp [ofBigEndian]

/-- A number that fits the width is the one its encoding spells. -/
theorem ofBigEndian_bigEndian {width value : Nat} (fits : value < 256 ^ width) :
    ofBigEndian (bigEndian width value) = value := by
  induction width generalizing value with
  | zero =>
    have : value = 0 := by simpa using fits
    simp [bigEndian, ofBigEndian, this]
  | succ width ih =>
    have quotientFits : value / 256 < 256 ^ width := by
      rw [Nat.div_lt_iff_lt_mul (by norm_num)]
      simpa [pow_succ] using fits
    rw [bigEndian, ofBigEndian_concat, ih quotientFits]
    have digit : (UInt8.ofNat (value % 256)).toNat = value % 256 := by
      simp
    rw [digit]
    omega

theorem ofBigEndian_lt (octets : List UInt8) : ofBigEndian octets < 256 ^ octets.length := by
  induction octets using List.reverseRecOn with
  | nil => exact Nat.one_pos
  | append_singleton octets octet ih =>
    have digit : octet.toNat < 256 := octet.toNat_lt
    rw [ofBigEndian_concat, List.length_append, List.length_singleton, Nat.pow_succ]
    omega

/-- A string is the encoding of the number it spells, in as many octets. -/
theorem bigEndian_ofBigEndian (octets : List UInt8) :
    bigEndian octets.length (ofBigEndian octets) = octets := by
  induction octets using List.reverseRecOn with
  | nil => rfl
  | append_singleton octets octet ih =>
    have digit : octet.toNat < 256 := octet.toNat_lt
    have quotient : (ofBigEndian octets * 256 + octet.toNat) / 256 = ofBigEndian octets := by omega
    have remainder : (ofBigEndian octets * 256 + octet.toNat) % 256 = octet.toNat := by omega
    rw [List.length_append, List.length_singleton, bigEndian, ofBigEndian_concat, quotient,
      remainder, ih, UInt8.ofNat_toNat]

/-- The more significant octets and the less significant ones, one after the other. -/
theorem bigEndian_add (high low value : Nat) :
    bigEndian (high + low) value = bigEndian high (value / 256 ^ low) ++ bigEndian low value := by
  induction low generalizing value with
  | zero => simp [bigEndian]
  | succ low ih =>
    rw [← Nat.add_assoc, bigEndian, ih, bigEndian, Nat.div_div_eq_div_mul, Nat.pow_succ',
      List.append_assoc]

/-! ## Reading from the front -/

/-- The first `count` octets and the rest, or nothing when the string is shorter. -/
def take? (count : Nat) (octets : List UInt8) : Option (List UInt8 × List UInt8) :=
  if count ≤ octets.length then some (octets.take count, octets.drop count) else none

theorem take?_append {count : Nat} {front : List UInt8} (rest : List UInt8)
    (len : front.length = count) : take? count (front ++ rest) = some (front, rest) := by
  subst len
  simp [take?]

/-- What is read and what is left are the string again. -/
theorem append_of_take? {count : Nat} {octets front rest : List UInt8}
    (read : take? count octets = some (front, rest)) :
    octets = front ++ rest ∧ front.length = count := by
  unfold take? at read
  split at read
  · rename_i long
    obtain ⟨rfl, rfl⟩ : octets.take count = front ∧ octets.drop count = rest := by
      simpa using read
    exact ⟨(List.take_append_drop _ _).symm, List.length_take_of_le long⟩
  · simp at read

/-- Reading consumes: what is left is no longer than the string. -/
theorem length_le_of_take? {count : Nat} {octets front rest : List UInt8}
    (read : take? count octets = some (front, rest)) : rest.length ≤ octets.length := by
  obtain ⟨rfl, -⟩ := append_of_take? read
  simp

/-- A field cut out of an octet is no larger than its mask, cut out alike. -/
theorem field_le (octet mask shift : UInt8) : (octet &&& mask) >>> shift ≤ mask >>> shift := by
  rw [UInt8.le_iff_toNat_le, UInt8.toNat_shiftRight, UInt8.toNat_shiftRight, UInt8.toNat_and]
  simp only [Nat.shiftRight_eq_div_pow]
  exact Nat.div_le_div_right Nat.and_le_right

/-- What holds of all 256 octets holds of any. -/
theorem forall_octet {p : UInt8 → Prop} (all : ∀ n : Fin 256, p (UInt8.ofNat n)) (octet : UInt8) :
    p octet := by
  have this := all ⟨octet.toNat, octet.toNat_lt⟩
  rwa [UInt8.ofNat_toNat] at this

end Octets
