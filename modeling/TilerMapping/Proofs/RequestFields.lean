/-
Module: TilerMapping.Proofs.RequestFields
Purpose: What the fields of a request code hold, also where an argument is too wide for its field.
Main exports: RequestCode.bits, RequestCode.Holds, RequestCode.Fits, RequestCode.testBit_pack,
  RequestCode.holds_pack, RequestCode.holds_pack_readWrite, request_fields_decodable
-/
import TilerMapping.RequestCode

namespace TilerMapping

/-!
The arguments of a request are joined without masks, so a bit of a code is set by whichever argument
reaches that far (`RequestCode.testBit_pack`).  A field holds its own argument where no other one
reaches into it.  Nothing but the direction lies above the size, so a size that is too wide for its
field spills into the direction or leaves the word; and a direction with both bits set is not
changed by what spills into it.
-/

namespace RequestCode

/-- The bits of a code from a position on, read as a number of the given width. -/
def bits (code : UInt32) (position width : Nat) : Nat :=
  (code.toBitVec.extractLsb' position width).toNat

/-- What the four fields of a code hold. -/
structure Holds (code : UInt32) (direction letter number size : Nat) : Prop where
  direction : bits code 30 2 = direction
  letter : bits code 8 8 = letter
  number : bits code 0 8 = number
  size : bits code 16 14 = size

/-- Every argument is as narrow as its field. -/
structure Fits (direction letter number : UInt32) (size : UInt64) : Prop where
  direction : direction < 4
  letter : letter < 256
  number : number < 256
  size : size < 16384

theorem testBit_bits (code : UInt32) (position width index : Nat) :
    (bits code position width).testBit index =
      (decide (index < width) && code.toNat.testBit (position + index)) := by
  rw [bits, BitVec.testBit_toNat, BitVec.getLsbD_extractLsb', UInt32.toNat, BitVec.testBit_toNat]

/-- Codes hold one number in each field. -/
theorem Holds.unique {code : UInt32}
    {direction letter number size direction' letter' number' size' : Nat}
    (holds : Holds code direction letter number size)
    (other : Holds code direction' letter' number' size') :
    direction = direction' ∧ letter = letter' ∧ number = number' ∧ size = size' :=
  ⟨holds.direction.symm.trans other.direction, holds.letter.symm.trans other.letter,
    holds.number.symm.trans other.number, holds.size.symm.trans other.size⟩

/-- What a code is read as is what its fields hold. -/
theorem holds_read (code : UInt32) :
    Holds code (direction code).toNat (letter code).toNat (number code).toNat
      (size code).toNat := by
  constructor
  case direction =>
    have short : code.toNat >>> 30 < 4 := by
      have bound := code.toNat_lt
      rw [Nat.shiftRight_eq_div_pow]
      omega
    rw [bits, BitVec.extractLsb'_toNat, RequestCode.direction, UInt32.toNat_shiftRight]
    exact Nat.mod_eq_of_lt short
  case letter =>
    rw [bits, BitVec.extractLsb'_toNat, RequestCode.letter, UInt32.toNat_and,
      UInt32.toNat_shiftRight]
    exact (Nat.and_two_pow_sub_one_eq_mod _ 8).symm
  case number =>
    rw [bits, BitVec.extractLsb'_toNat, RequestCode.number, UInt32.toNat_and]
    exact (Nat.and_two_pow_sub_one_eq_mod _ 8).symm
  case size =>
    rw [bits, BitVec.extractLsb'_toNat, RequestCode.size, UInt32.toNat_and,
      UInt32.toNat_shiftRight]
    exact (Nat.and_two_pow_sub_one_eq_mod _ 14).symm

/-! ### Packed codes -/

/-- A bit of a code is set by whichever argument reaches that far. -/
theorem testBit_pack (direction letter number : UInt32) (size : UInt64) {index : Nat}
    (inside : index < 32) :
    (pack direction letter number size).toNat.testBit index =
      (decide (30 ≤ index) && direction.toNat.testBit (index - 30) ||
        decide (8 ≤ index) && letter.toNat.testBit (index - 8) ||
        number.toNat.testBit index ||
        decide (16 ≤ index) && size.toNat.testBit (index - 16)) := by
  have directionPlace : directionShift.toNat % 32 = 30 := rfl
  have letterPlace : letterShift.toNat % 32 = 8 := rfl
  have sizePlace : sizeShift.toNat % 32 = 16 := rfl
  -- The size is cut to a word before it is shifted, but none of the bits cut off stays in the code.
  have kept : index - 16 < 32 := by omega
  simp only [pack, UInt32.toNat_or, Nat.testBit_or, UInt32.toNat_shiftLeft,
    Nat.testBit_mod_two_pow, Nat.testBit_shiftLeft, UInt64.toNat_toUInt32, directionPlace,
    letterPlace, sizePlace, inside, kept, decide_true, Bool.true_and, ge_iff_le]

/-- A letter or number has no bit beyond its field. -/
theorem testBit_of_lt_256 {word : UInt32} (short : word < 256) {index : Nat} (beyond : 8 ≤ index) :
    word.toNat.testBit index = false := by
  apply Nat.testBit_lt_two_pow
  exact Nat.lt_of_lt_of_le (UInt32.lt_iff_toNat_lt.mp short)
    (Nat.pow_le_pow_right (by decide : 0 < 2) beyond)

variable {direction letter number : UInt32} {size : UInt64}

/-- Nothing reaches into the number. -/
theorem bits_number (number_lt : number < 256) :
    bits (pack direction letter number size) 0 8 = number.toNat := by
  apply Nat.eq_of_testBit_eq
  intro index
  rw [testBit_bits, Nat.zero_add]
  by_cases inside : index < 8
  · rw [testBit_pack _ _ _ _ (by omega)]
    simp [inside, show ¬30 ≤ index by omega, show ¬8 ≤ index by omega, show ¬16 ≤ index by omega]
  · simp [inside, testBit_of_lt_256 number_lt (Nat.not_lt.mp inside)]

theorem bits_letter (letter_lt : letter < 256) (number_lt : number < 256) :
    bits (pack direction letter number size) 8 8 = letter.toNat := by
  apply Nat.eq_of_testBit_eq
  intro index
  rw [testBit_bits]
  by_cases inside : index < 8
  · rw [testBit_pack _ _ _ _ (by omega), testBit_of_lt_256 number_lt (by omega)]
    simp [inside, show ¬30 ≤ 8 + index by omega, show ¬16 ≤ 8 + index by omega]
  · simp [inside, testBit_of_lt_256 letter_lt (Nat.not_lt.mp inside)]

/-- A size that is too wide leaves its low bits in the field. -/
theorem bits_size (letter_lt : letter < 256) (number_lt : number < 256) :
    bits (pack direction letter number size) 16 14 = size.toNat % 16384 := by
  apply Nat.eq_of_testBit_eq
  intro index
  rw [testBit_bits, show 16384 = 2 ^ 14 from rfl, Nat.testBit_mod_two_pow]
  by_cases inside : index < 14
  · rw [testBit_pack _ _ _ _ (by omega), testBit_of_lt_256 number_lt (by omega),
      testBit_of_lt_256 letter_lt (by omega)]
    simp [inside, show ¬30 ≤ 16 + index by omega]
  · simp [inside]

/-- The size spills into the direction with the bits that its field does not hold. -/
theorem bits_direction (letter_lt : letter < 256) (number_lt : number < 256) :
    bits (pack direction letter number size) 30 2 =
      (direction.toNat ||| size.toNat / 16384) % 4 := by
  apply Nat.eq_of_testBit_eq
  intro index
  rw [testBit_bits, show 16384 = 2 ^ 14 from rfl, show 4 = 2 ^ 2 from rfl,
    Nat.testBit_mod_two_pow, Nat.testBit_or, Nat.testBit_div_two_pow]
  by_cases inside : index < 2
  · rw [testBit_pack _ _ _ _ (by omega), testBit_of_lt_256 number_lt (by omega),
      testBit_of_lt_256 letter_lt (by omega), show 30 + index - 16 = index + 14 by omega]
    simp [show 16 ≤ 30 + index by omega]
  · simp [inside]

theorem holds_pack (fits : Fits direction letter number size) :
    Holds (pack direction letter number size) direction.toNat letter.toNat number.toNat
      size.toNat := by
  have direction_lt : direction.toNat < 4 := UInt32.lt_iff_toNat_lt.mp fits.direction
  have size_lt : size.toNat < 16384 := UInt64.lt_iff_toNat_lt.mp fits.size
  constructor
  case direction =>
    rw [bits_direction fits.letter fits.number, Nat.div_eq_of_lt size_lt, Nat.or_zero]
    exact Nat.mod_eq_of_lt direction_lt
  case letter => exact bits_letter fits.letter fits.number
  case number => exact bits_number fits.number
  case size =>
    rw [bits_size fits.letter fits.number]
    exact Nat.mod_eq_of_lt size_lt

/-- A direction with both bits set absorbs what spills into it. -/
theorem holds_pack_readWrite (letter_lt : letter < 256) (number_lt : number < 256) :
    Holds (pack 3 letter number size) 3 letter.toNat number.toNat (size.toNat % 16384) := by
  constructor
  case direction =>
    have spilt : size.toNat / 16384 % 4 < 4 := Nat.mod_lt _ (by decide)
    have absorbed : ∀ spilt < 4, 3 ||| spilt = 3 := by decide
    rw [bits_direction letter_lt number_lt]
    exact (Nat.or_mod_two_pow (n := 2)).trans (absorbed _ spilt)
  case letter => exact bits_letter letter_lt number_lt
  case number => exact bits_number number_lt
  case size => exact bits_size letter_lt number_lt

end RequestCode

/-- Request codes can be decoded.  Where every argument is as narrow as its field, the four fields
hold exactly the arguments, so different arguments have different codes.  A request in both
directions keeps its direction, letter and number whatever the size is, and of a size that is too
wide the low bits.  What a code is read as is what its fields hold. -/
theorem request_fields_decodable :
    (∀ direction letter number size, RequestCode.Fits direction letter number size →
      RequestCode.Holds (RequestCode.pack direction letter number size) direction.toNat
        letter.toNat number.toNat size.toNat) ∧
    (∀ direction letter number size direction' letter' number' size',
      RequestCode.Fits direction letter number size →
      RequestCode.Fits direction' letter' number' size' →
      RequestCode.pack direction letter number size =
        RequestCode.pack direction' letter' number' size' →
      direction = direction' ∧ letter = letter' ∧ number = number' ∧ size = size') ∧
    (∀ letter number size, letter < 256 → number < 256 →
      RequestCode.Holds (RequestCode.pack 3 letter number size) 3 letter.toNat number.toNat
        (size.toNat % 16384)) ∧
    (∀ code, RequestCode.Holds code (RequestCode.direction code).toNat
      (RequestCode.letter code).toNat (RequestCode.number code).toNat
      (RequestCode.size code).toNat) := by
  refine ⟨fun _ _ _ _ => RequestCode.holds_pack, ?injective,
    fun _ _ _ => RequestCode.holds_pack_readWrite, RequestCode.holds_read⟩
  intro direction letter number size direction' letter' number' size' fits fits' same
  have held := RequestCode.holds_pack fits
  rw [same] at held
  obtain ⟨directions, letters, numbers, sizes⟩ := held.unique (RequestCode.holds_pack fits')
  exact ⟨UInt32.toNat_inj.mp directions, UInt32.toNat_inj.mp letters,
    UInt32.toNat_inj.mp numbers, UInt64.toNat_inj.mp sizes⟩

/-- The code of a block query holds its four arguments, and no other arguments that fit give it.  A
size of 35 bits that spills over the direction and beyond the word leaves its lowest bits. -/
theorem request_fields_decodable_blockQuery :
    RequestCode.Holds (RequestCode.pack 3 122 108 32) 3 122 108 32 ∧
      (∀ direction letter number size, RequestCode.Fits direction letter number size →
        RequestCode.pack direction letter number size = RequestCode.pack 3 122 108 32 →
        size = 32) ∧
      RequestCode.Holds (RequestCode.pack 3 122 108 0x40000c005) 3 122 108 5 := by
  obtain ⟨decodable, injective, spilt, _⟩ := request_fields_decodable
  have fits : RequestCode.Fits 3 122 108 32 := ⟨by decide, by decide, by decide, by decide⟩
  refine ⟨decodable 3 122 108 32 fits, fun _ _ _ _ others same => ?_,
    spilt 122 108 0x40000c005 (by decide) (by decide)⟩
  exact (injective _ _ _ _ _ _ _ _ others fits same).2.2.2

end TilerMapping
