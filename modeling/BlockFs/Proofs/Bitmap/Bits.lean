import BlockFs.Bitmap.Basic
import BlockFs.Proofs.Bytes

namespace BlockFs

theorem testBit_byte_not (byte : UInt8) {place : Nat} (inByte : place < 8) :
    (~~~byte).toNat.testBit place = !byte.toNat.testBit place := by
  have complement : (~~~byte).toNat = 2 ^ 8 - (byte.toNat + 1) := by
    rw [UInt8.toNat_not]
    have := byte.toNat_lt
    change 255 - byte.toNat = 256 - (byte.toNat + 1)
    omega
  rw [complement, Nat.testBit_two_pow_sub_succ byte.toNat_lt, decide_eq_true inByte, Bool.true_and]

theorem testBit_lowBits {count place : Nat} (inByte : place < 8) :
    (lowBits count).toNat.testBit place = decide (place < count) := by
  change ((1 <<< count - 1) % 2 ^ 8).testBit place = _
  rw [Nat.one_shiftLeft, Nat.testBit_mod_two_pow, Nat.testBit_two_pow_sub_one,
    decide_eq_true inByte, Bool.true_and]

/-- The mask of one bit. -/
theorem testBit_singleBit {bit place : Nat} (inByte : place < 8) :
    (lowBits (bit + 1) &&& ~~~lowBits bit).toNat.testBit place = decide (place = bit) := by
  rw [UInt8.toNat_and, Nat.testBit_and, testBit_byte_not _ inByte, testBit_lowBits inByte,
    testBit_lowBits inByte, ← decide_not, ← Bool.decide_and]
  exact decide_eq_decide.mpr (by omega)

theorem eq_of_testBit_byte {left right : UInt8}
    (same : ∀ place < 8, left.toNat.testBit place = right.toNat.testBit place) : left = right := by
  apply UInt8.toNat_inj.mp
  apply Nat.eq_of_testBit_eq
  intro place
  by_cases inByte : place < 8
  · exact same place inByte
  · have high : ∀ byte : UInt8, byte.toNat.testBit place = false := fun byte =>
      Nat.testBit_lt_two_pow (Nat.lt_of_lt_of_le byte.toNat_lt
        (Nat.pow_le_pow_right (by decide) (by omega : 8 ≤ place)))
    rw [high, high]

theorem ext_bitAt {left right : ByteArray} (size : left.size = right.size)
    (same : ∀ position < 8 * left.size, bitAt left position = bitAt right position) :
    left = right := by
  apply ext_byteAt size
  intro index inside
  apply eq_of_testBit_byte
  intro place inByte
  have found := same (8 * index + place) (by omega)
  rwa [bitAt, bitAt, show (8 * index + place) / 8 = index by omega,
    show (8 * index + place) % 8 = place by omega] at found

/-- Bits lie where their bytes lie. -/
theorem bitAt_congr {left right : ByteArray} {position other : Nat}
    (same : byteAt left (position / 8) = byteAt right (other / 8))
    (place : position % 8 = other % 8) : bitAt left position = bitAt right other := by
  rw [bitAt, bitAt, same, place]

theorem bitAt_bitRange {size start stop : Nat} (ordered : start ≤ stop) (fits : stop ≤ 8 * size)
    (position : Nat) :
    bitAt (bitRange size start stop).bytes position =
      decide (start ≤ position ∧ position < stop) := by
  have inByte : position % 8 < 8 := Nat.mod_lt _ (by decide)
  rw [bitAt, bitRange, Octets.byteAt_fit]
  by_cases inside : position / 8 < size
  · rw [if_pos inside]
    by_cases apart : start / 8 < stop / 8
    · rw [if_pos apart]
      simp only [byteAt_push, byteAt_pad, size_pad, ByteArray.size_push, size_fill,
        byteAt_fill_zero]
      by_cases last : position / 8 = stop / 8
      · rw [if_pos (by omega), testBit_lowBits inByte]
        exact decide_eq_decide.mpr (by omega)
      · rw [if_neg (by omega)]
        by_cases between : start / 8 + 1 ≤ position / 8 ∧ position / 8 < stop / 8
        · rw [if_pos (by omega)]
          rw [decide_eq_true (by omega : start ≤ position ∧ position < stop)]
          exact (Nat.testBit_two_pow_sub_one 8 _).trans (decide_eq_true inByte)
        · rw [if_neg (by omega)]
          by_cases first : position / 8 = start / 8
          · rw [if_pos first, testBit_byte_not _ inByte, testBit_lowBits inByte, ← decide_not]
            exact decide_eq_decide.mpr (by omega)
          · rw [if_neg first, decide_eq_false (by omega)]
            exact Nat.zero_testBit _
    · rw [if_neg apart, byteAt_push, size_fill, byteAt_fill_zero]
      by_cases first : position / 8 = start / 8
      · rw [if_pos first, UInt8.toNat_and, Nat.testBit_and, testBit_byte_not _ inByte,
          testBit_lowBits inByte, testBit_lowBits inByte, ← decide_not, ← Bool.decide_and]
        exact decide_eq_decide.mpr (by omega)
      · rw [if_neg first, decide_eq_false (by omega)]
        exact Nat.zero_testBit _
  · rw [if_neg inside, decide_eq_false (by omega)]
    exact Nat.zero_testBit _

theorem bitAt_clearFrom {bytes : ByteArray} {stop : Nat} (fits : stop ≤ 8 * bytes.size)
    (position : Nat) :
    bitAt (clearFrom bytes stop).bytes position =
      (decide (position < stop) && bitAt bytes position) := by
  have inByte : position % 8 < 8 := Nat.mod_lt _ (by decide)
  have front : (bytes.extract 0 (stop / 8)).size = stop / 8 := by
    rw [ByteArray.size_extract]
    omega
  rw [bitAt, clearFrom, Octets.byteAt_fit]
  by_cases inside : position / 8 < bytes.size
  · rw [if_pos inside, byteAt_push, front]
    by_cases edge : position / 8 = stop / 8
    · rw [if_pos edge, UInt8.toNat_and, Nat.testBit_and, testBit_lowBits inByte, bitAt, edge,
        Bool.and_comm]
      exact congrArg (· && _) (decide_eq_decide.mpr (by omega))
    · rw [if_neg edge, byteAt_extract]
      by_cases before : position / 8 < stop / 8
      · rw [if_pos (by omega), Nat.zero_add, decide_eq_true (by omega), Bool.true_and, bitAt]
      · rw [if_neg (by omega), decide_eq_false (by omega), Bool.false_and]
        exact Nat.zero_testBit _
  · rw [if_neg inside, decide_eq_false (by omega), Bool.false_and]
    exact Nat.zero_testBit _

theorem byteAt_set {bytes : ByteArray} {index : Nat} (inside : index < bytes.size) (byte : UInt8)
    (position : Nat) :
    byteAt (bytes.set index byte inside) position =
      if position = index then byte else byteAt bytes position := by
  have size := Bitmap.size_set bytes index byte inside
  by_cases within : position < bytes.size
  · rw [byteAt_of_lt (size.symm ▸ within), byteAt_of_lt within]
    simp only [ByteArray.getElem_eq_getElem_data, ByteArray.set, Array.getElem_set,
      @eq_comm _ index]
  · rw [byteAt_of_size_le (by omega), byteAt_of_size_le (by omega), if_neg (by omega)]

/-- Changing a byte in one bit changes one bit of the byte string. -/
theorem bitAt_set {bytes : ByteArray} {bit : Nat} (inside : bit / 8 < bytes.size) {byte : UInt8}
    {value : Bool} (changed : ∀ place < 8, byte.toNat.testBit place =
      if place = bit % 8 then value else (byteAt bytes (bit / 8)).toNat.testBit place)
    (position : Nat) :
    bitAt (bytes.set (bit / 8) byte inside) position =
      if position = bit then value else bitAt bytes position := by
  have inByte : position % 8 < 8 := Nat.mod_lt _ (by decide)
  rw [bitAt, byteAt_set]
  by_cases sameByte : position / 8 = bit / 8
  · rw [if_pos sameByte, changed _ inByte, bitAt, sameByte]
    by_cases samePlace : position % 8 = bit % 8
    · rw [if_pos samePlace, if_pos (by omega)]
    · rw [if_neg samePlace, if_neg (by omega)]
  · rw [if_neg sameByte, if_neg (by rintro rfl; exact sameByte rfl), bitAt]

end BlockFs
