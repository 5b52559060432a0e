import BlockFs.Proofs.Bitmap.Bits
import BlockFs.Proofs.Word

/-!
A free-space map as the set of its free units.

`freeUnits` counts this set.  `Sealed` says that no bit behind the last unit is set; both
constructors make sealed maps and every change keeps them sealed, so that counting bits counts
units.  `Assigns` says that two maps differ in one unit at most.
-/

namespace BlockFs

theorem lowestBit_spec {byte : UInt8} (nonzero : byte ≠ 0) :
    lowestBit byte < 8 ∧ byte.toNat.testBit (lowestBit byte) = true ∧
      ∀ place < lowestBit byte, byte.toNat.testBit place = false := by
  have some_bit : ∃ place ∈ List.range 8, byte.toNat.testBit place = true := by
    apply Classical.byContradiction
    intro none
    apply nonzero
    apply eq_of_testBit_byte
    intro place inByte
    rw [Bool.eq_false_iff.mpr fun set => none ⟨place, List.mem_range.mpr inByte, set⟩]
    exact (Nat.zero_testBit _).symm
  have inByte : lowestBit byte < (List.range 8).length := List.findIdx_lt_length_of_exists some_bit
  have found : byte.toNat.testBit (List.range 8)[lowestBit byte] = true :=
    List.findIdx_getElem (w := inByte)
  rw [List.getElem_range] at found
  rw [List.length_range] at inByte
  refine ⟨inByte, found, fun place below => ?_⟩
  have absent := List.not_of_lt_findIdx below
  rwa [List.getElem_range] at absent

theorem firstBit_eq_some {bytes : ByteArray} {count position found : Nat}
    (first : firstBit bytes count position = some found) :
    found < 8 * (position + count) ∧ bitAt bytes found = true ∧
      ∀ earlier, 8 * position ≤ earlier → earlier < found → bitAt bytes earlier = false := by
  induction count generalizing position with
  | zero => contradiction
  | succ count ih =>
      rw [firstBit] at first
      split at first
      · rename_i zero
        obtain ⟨bound, set, least⟩ := ih first
        refine ⟨by omega, set, fun earlier low high => ?_⟩
        by_cases here : earlier < 8 * (position + 1)
        · rw [bitAt, show earlier / 8 = position by omega, zero]
          exact Nat.zero_testBit _
        · exact least earlier (by omega) high
      · rename_i nonzero
        obtain ⟨inByte, set, least⟩ := lowestBit_spec nonzero
        rw [Option.some.injEq] at first
        subst first
        refine ⟨by omega, ?_, fun earlier low high => ?_⟩
        · rw [bitAt, Nat.mul_add_div (by decide), Nat.mul_add_mod, Nat.div_eq_of_lt inByte,
            Nat.mod_eq_of_lt inByte]
          exact set
        · rw [bitAt, show earlier / 8 = position by omega]
          exact least _ (by omega)

theorem firstBit_eq_none {bytes : ByteArray} {count position : Nat}
    (absent : firstBit bytes count position = none) {index : Nat} (low : 8 * position ≤ index)
    (high : index < 8 * (position + count)) : bitAt bytes index = false := by
  induction count generalizing position with
  | zero => omega
  | succ count ih =>
      rw [firstBit] at absent
      split at absent
      · rename_i zero
        by_cases here : index < 8 * (position + 1)
        · rw [bitAt, show index / 8 = position by omega, zero]
          exact Nat.zero_testBit _
        · exact ih absent (by omega) (by omega)
      · contradiction

theorem countP_range_succ (test : Nat → Bool) (count : Nat) :
    (List.range (count + 1)).countP test =
      (List.range count).countP test + if test count then 1 else 0 := by
  rw [List.range_succ, List.countP_append, List.countP_singleton]

theorem countP_range_congr {left right : Nat → Bool} {count : Nat}
    (same : ∀ index < count, left index = right index) :
    (List.range count).countP left = (List.range count).countP right := by
  apply List.countP_congr
  intro index member
  rw [same index (List.mem_range.mp member)]

theorem countP_range_le (start count : Nat) :
    (List.range count).countP (fun index => decide (start ≤ index)) = count - start := by
  induction count with
  | zero => exact (Nat.zero_sub start).symm
  | succ count ih =>
      rw [countP_range_succ, ih]
      by_cases within : start ≤ count
      · rw [if_pos (decide_eq_true within), Nat.sub_add_comm within]
      · rw [if_neg (by simpa using within)]
        omega

/-- Of two tests that differ at one index, the one that holds there counts one more. -/
theorem countP_range_update {holds fails : Nat → Bool} {count index : Nat} (inside : index < count)
    (yes : holds index = true) (no : fails index = false)
    (same : ∀ other, other ≠ index → holds other = fails other) :
    (List.range count).countP holds = (List.range count).countP fails + 1 := by
  induction count with
  | zero => omega
  | succ count ih =>
      rw [countP_range_succ, countP_range_succ]
      by_cases last : index = count
      · have below : (List.range count).countP holds = (List.range count).countP fails :=
          countP_range_congr fun other small => same other (by omega)
        rw [below, ← last, yes, no]
        rfl
      · rw [ih (by omega), same count (fun equal => last equal.symm)]
        omega

/-- Indices behind which a test fails everywhere add nothing to a count. -/
theorem countP_range_add {test : Nat → Bool} {count : Nat}
    (none : ∀ index, count ≤ index → test index = false) (more : Nat) :
    (List.range (count + more)).countP test = (List.range count).countP test := by
  induction more with
  | zero => rfl
  | succ more ih =>
      rw [← Nat.add_assoc, countP_range_succ, ih, none _ (by omega)]
      rfl

theorem countBits_eq (bytes : ByteArray) (count total : Nat) :
    countBits bytes count total = total + (List.range (8 * count)).countP (bitAt bytes) := by
  induction count generalizing total with
  | zero => rfl
  | succ count ih =>
      have last : (List.range 8).countP (bitAt bytes ∘ fun place => 8 * count + place) =
          bitCount (byteAt bytes count) := by
        rw [bitCount_eq]
        apply List.countP_congr
        intro place member
        have inByte := List.mem_range.mp member
        rw [Function.comp_apply, bitAt, show (8 * count + place) / 8 = count by omega,
          show (8 * count + place) % 8 = place by omega]
      rw [countBits, ih, show 8 * (count + 1) = 8 * count + 8 by omega, List.range_add,
        List.countP_append, List.countP_map, last]
      omega

namespace Bitmap

variable (bitmap : Bitmap)

/-- No bit behind the last unit is set. -/
def Sealed : Prop :=
  ∀ position, bitmap.length.toNat ≤ position → bitAt bitmap.bytes position = false

/-- The number of units that are free. -/
def freeUnits : Nat := (List.range bitmap.length.toNat).countP (bitAt bitmap.bytes)

variable {bitmap}

theorem countFree_eq_freeUnits (tight : bitmap.Sealed) : bitmap.countFree = bitmap.freeUnits := by
  obtain ⟨rest, size⟩ := Nat.exists_eq_add_of_le bitmap.length_le
  rw [countFree, countBits_eq, Nat.zero_add, size]
  exact countP_range_add tight rest

theorem freeUnits_le (bitmap : Bitmap) : bitmap.freeUnits ≤ bitmap.length.toNat :=
  Nat.le_trans List.countP_le_length (Nat.le_of_eq List.length_range)

/-- Maps of one size that agree in every bit, those behind the last unit included. -/
theorem eq_of_bits {other : Bitmap} (length : bitmap.length = other.length)
    (size : bitmap.bytes.size = other.bytes.size)
    (bits : ∀ position, bitAt bitmap.bytes position = bitAt other.bytes position) :
    bitmap = other := by
  have bytes : bitmap.bytes = other.bytes := ext_bitAt size fun position _ => bits position
  cases bitmap
  cases other
  cases length
  cases bytes
  rfl

theorem ext_bits {other : Bitmap} (length : bitmap.length = other.length)
    (size : bitmap.bytes.size = other.bytes.size) (tight : bitmap.Sealed)
    (otherTight : other.Sealed)
    (same : ∀ index < bitmap.length.toNat,
      bitAt bitmap.bytes index = bitAt other.bytes index) : bitmap = other := by
  refine eq_of_bits length size fun position => ?_
  by_cases inside : position < bitmap.length.toNat
  · exact same position inside
  · rw [tight position (by omega), otherTight position (by rw [← length]; omega)]

theorem test_of_lt {index : UInt32} (inside : index < bitmap.length) :
    bitmap.test index = .ok (bitAt bitmap.bytes index.toNat) :=
  if_pos inside

theorem lt_of_test {index : UInt32} {free : Bool} (tested : bitmap.test index = .ok free) :
    index < bitmap.length := by
  unfold test at tested
  split at tested
  · assumption
  · cases tested

/-- Loading clears the bits behind the last unit and keeps all others. -/
theorem load_eq_ok_iff {bytes : ByteArray} {length : UInt32} :
    load bytes length = .ok bitmap ↔
      length.toNat ≤ 8 * bytes.size ∧ bitmap.length = length ∧ bitmap.bytes.size = bytes.size ∧
        bitmap.Sealed ∧
        ∀ index < length.toNat, bitAt bitmap.bytes index = bitAt bytes index := by
  by_cases fits : length.toNat ≤ 8 * bytes.size
  · have cut (index : Nat) := bitAt_clearFrom fits index
    constructor
    · intro loaded
      rw [load, dif_pos fits, Except.ok.injEq] at loaded
      subst loaded
      refine ⟨fits, rfl, Octets.size_bytes _, fun position behind => ?_, fun index inside => ?_⟩
      · rw [cut, decide_eq_false (Nat.not_lt.mpr behind), Bool.false_and]
      · rw [cut, decide_eq_true inside, Bool.true_and]
    · rintro ⟨_, rfl, size, tight, same⟩
      rw [load, dif_pos fits, Except.ok.injEq]
      symm
      refine ext_bits rfl ?_ tight ?_ ?_
      · exact size.trans (Octets.size_bytes _).symm
      · intro position behind
        rw [cut, decide_eq_false (Nat.not_lt.mpr behind), Bool.false_and]
      · intro index inside
        rw [cut, decide_eq_true inside, Bool.true_and, same index inside]
  · constructor
    · intro loaded
      rw [load, dif_neg fits] at loaded
      contradiction
    · intro accepted
      exact absurd accepted.1 fits

theorem load_eq_error_iff {bytes : ByteArray} {length : UInt32} {error : Error} :
    load bytes length = .error error ↔
      8 * bytes.size < length.toNat ∧ error = .outOfRange length.toNat (8 * bytes.size) := by
  rw [load]
  by_cases fits : length.toNat ≤ 8 * bytes.size
  · simp [fits, Nat.not_lt.mpr fits]
  · simp [fits, Nat.lt_of_not_le fits, eq_comm]

theorem load_exists {bytes : ByteArray} {length : UInt32}
    (fits : length.toNat ≤ 8 * bytes.size) : ∃ bitmap, load bytes length = .ok bitmap :=
  ⟨_, dif_pos fits⟩

/-- A map of the bits of some bytes, up to the last unit. -/
structure Copies (bitmap : Bitmap) (bytes : ByteArray) (units : UInt32) : Prop where
  length : bitmap.length = units
  size : bitmap.bytes.size = bytes.size
  bits : ∀ position, bitAt bitmap.bytes position =
    (decide (position < units.toNat) && bitAt bytes position)

theorem copies_of_load {bytes : ByteArray} {length : UInt32}
    (loaded : load bytes length = .ok bitmap) : bitmap.Copies bytes length := by
  obtain ⟨_, rfl, size, tight, same⟩ := load_eq_ok_iff.mp loaded
  refine ⟨rfl, size, fun position => ?_⟩
  by_cases inside : position < bitmap.length.toNat
  · rw [decide_eq_true inside, Bool.true_and, same position inside]
  · rw [decide_eq_false inside, Bool.false_and, tight position (Nat.le_of_not_lt inside)]

/-- A fresh map has its first units taken and all others free; it is refused for units that do not
fit in its blocks, or blocks that do not fit in memory. -/
theorem fresh_cases (bufferLimit : Nat) (blocks length used : UInt32) :
    (bitsPerBlock * blocks.toNat < length.toNat ∧ fresh bufferLimit blocks length used =
      .error (.outOfRange length.toNat (bitsPerBlock * blocks.toNat))) ∨
    length.toNat ≤ bitsPerBlock * blocks.toNat ∧
      (bufferLimit < blocks.toNat * blockSize ∧ fresh bufferLimit blocks length used =
        .error (.outOfMemory (blocks.toNat * blockSize)) ∨
      blocks.toNat * blockSize ≤ bufferLimit ∧ ∃ bitmap,
        fresh bufferLimit blocks length used = .ok bitmap ∧ bitmap.length = length ∧
        bitmap.bytes.size = blocks.toNat * blockSize ∧
        ∀ position, bitAt bitmap.bytes position =
          decide (used.toNat ≤ position ∧ position < length.toNat)) := by
  have bits : bitsPerBlock * blocks.toNat = 8 * (blocks.toNat * blockSize) := by
    rw [Nat.mul_comm blocks.toNat, ← Nat.mul_assoc]
  unfold fresh
  simp only [bits]
  split
  · rename_i fits
    refine .inr ⟨fits, ?_⟩
    split
    · rename_i room
      refine .inr ⟨room, _, rfl, rfl, Octets.size_bytes _, fun position => ?_⟩
      rw [bitAt_bitRange (Nat.min_le_right _ _) fits]
      exact decide_eq_decide.mpr (by omega)
    · exact .inl ⟨Nat.lt_of_not_le ‹_›, rfl⟩
  · exact .inl ⟨Nat.lt_of_not_le ‹_›, rfl⟩

theorem fresh_exists (used : UInt32) {bufferLimit : Nat} {blocks length : UInt32}
    (fits : length.toNat ≤ bitsPerBlock * blocks.toNat)
    (room : blocks.toNat * blockSize ≤ bufferLimit) :
    ∃ bitmap, fresh bufferLimit blocks length used = .ok bitmap := by
  obtain ⟨many, _⟩ | ⟨_, ⟨small, _⟩ | ⟨_, bitmap, made, _⟩⟩ :=
    fresh_cases bufferLimit blocks length used
  · exact absurd fits (Nat.not_le.mpr many)
  · exact absurd room (Nat.not_le.mpr small)
  · exact ⟨bitmap, made⟩

theorem fresh_spec {bufferLimit : Nat} {blocks length used : UInt32}
    (made : fresh bufferLimit blocks length used = .ok bitmap) :
    bitmap.length = length ∧ bitmap.bytes.size = blocks.toNat * blockSize ∧
      ∀ position, bitAt bitmap.bytes position =
        decide (used.toNat ≤ position ∧ position < length.toNat) := by
  obtain ⟨_, refused⟩ | ⟨_, ⟨_, refused⟩ | ⟨_, _, same, spec⟩⟩ :=
    fresh_cases bufferLimit blocks length used
  · cases made.symm.trans refused
  · cases made.symm.trans refused
  · cases made.symm.trans same
    exact spec

theorem freeUnits_fresh {bufferLimit : Nat} {blocks length used : UInt32}
    (made : fresh bufferLimit blocks length used = .ok bitmap) :
    bitmap.freeUnits = length.toNat - used.toNat := by
  obtain ⟨sameLength, _, bits⟩ := fresh_spec made
  rw [freeUnits, sameLength, ← countP_range_le]
  apply countP_range_congr
  intro index inside
  rw [bits, decide_eq_decide]
  exact and_iff_left inside

/-- Two maps of which the second has a unit free or taken as told, and all others as the first. -/
structure Assigns (before after : Bitmap) (index : UInt32) (free : Bool) : Prop where
  inside : index < before.length
  length : after.length = before.length
  size : after.bytes.size = before.bytes.size
  bits : ∀ position, bitAt after.bytes position =
    if position = index.toNat then free else bitAt before.bytes position

theorem update_assigns {after : Bitmap} {change : (byte mask : UInt8) → UInt8} {index : UInt32}
    {value : Bool} (changes : ∀ byte mask : UInt8, ∀ place < 8,
      (change byte mask).toNat.testBit place =
        if mask.toNat.testBit place then value else byte.toNat.testBit place)
    (updated : bitmap.update change index = .ok after) : Assigns bitmap after index value := by
  unfold update at updated
  split at updated
  · rename_i inside
    have inBytes : index.toNat / 8 < bitmap.bytes.size := by
      have := bitmap.length_le
      have := UInt32.lt_iff_toNat_lt.mp inside
      omega
    rw [Except.ok.injEq] at updated
    subst updated
    refine ⟨inside, rfl, size_set _ _ _ _, bitAt_set inBytes fun place inByte => ?_⟩
    rw [changes _ _ place inByte, testBit_singleBit inByte, byteAt_of_lt inBytes]
    simp only [decide_eq_true_eq]
  · contradiction

theorem markUsed_assigns {after : Bitmap} {index : UInt32}
    (marked : bitmap.markUsed index = .ok after) : Assigns bitmap after index false := by
  refine update_assigns (fun byte mask place inByte => ?_) marked
  rw [UInt8.toNat_and, Nat.testBit_and, testBit_byte_not _ inByte]
  cases mask.toNat.testBit place <;> simp

theorem markFree_assigns {after : Bitmap} {index : UInt32}
    (marked : bitmap.markFree index = .ok after) : Assigns bitmap after index true := by
  refine update_assigns (fun byte mask place _ => ?_) marked
  rw [UInt8.toNat_or, Nat.testBit_or]
  cases mask.toNat.testBit place <;> simp

theorem update_exists (change : (byte mask : UInt8) → UInt8) {index : UInt32}
    (inside : index < bitmap.length) : ∃ after, bitmap.update change index = .ok after :=
  ⟨_, dif_pos inside⟩

namespace Assigns

variable {after : Bitmap} {index : UInt32} {free : Bool}

theorem tight (assigned : Assigns bitmap after index free) (before : bitmap.Sealed) :
    after.Sealed := by
  intro position behind
  rw [assigned.length] at behind
  have inside := UInt32.lt_iff_toNat_lt.mp assigned.inside
  rw [assigned.bits, if_neg (by omega), before position behind]

theorem freeUnits_take (assigned : Assigns bitmap after index false)
    (was : bitAt bitmap.bytes index.toNat = true) : after.freeUnits + 1 = bitmap.freeUnits := by
  rw [freeUnits, freeUnits, assigned.length]
  symm
  apply countP_range_update (UInt32.lt_iff_toNat_lt.mp assigned.inside) was
  · rw [assigned.bits, if_pos rfl]
  · intro other differs
    rw [assigned.bits, if_neg differs]

theorem freeUnits_give (assigned : Assigns bitmap after index true)
    (was : bitAt bitmap.bytes index.toNat = false) : after.freeUnits = bitmap.freeUnits + 1 := by
  rw [freeUnits, freeUnits, assigned.length]
  apply countP_range_update (UInt32.lt_iff_toNat_lt.mp assigned.inside) _ was
  · intro other differs
    rw [assigned.bits, if_neg differs]
  · rw [assigned.bits, if_pos rfl]

end Assigns

/-- The unit that a search finds is free, and no lower one is. -/
theorem firstFree_eq_ok {index : UInt32} (found : bitmap.firstFree = .ok index) :
    index < bitmap.length ∧ bitAt bitmap.bytes index.toNat = true ∧
      ∀ lower < index.toNat, bitAt bitmap.bytes lower = false := by
  unfold firstFree at found
  split at found
  · contradiction
  · rename_i position first
    split at found
    · rename_i inside
      rw [Except.ok.injEq] at found
      subst found
      have same : (UInt32.ofNat position).toNat = position :=
        toNat_ofNat_of_lt (Nat.lt_trans inside bitmap.length.toNat_lt)
      obtain ⟨_, set, least⟩ := firstBit_eq_some first
      rw [UInt32.lt_iff_toNat_lt, same]
      exact ⟨inside, set, fun lower below => least lower (Nat.zero_le _) below⟩
    · contradiction

theorem firstFree_eq_error {error : Error} (failed : bitmap.firstFree = .error error) :
    error = .exhausted ∧ ∀ index < bitmap.length.toNat, bitAt bitmap.bytes index = false := by
  unfold firstFree at failed
  split at failed
  · rename_i absent
    cases failed
    exact ⟨rfl, fun index inside => firstBit_eq_none absent (Nat.zero_le _) (by omega)⟩
  · rename_i position first
    split at failed
    · contradiction
    · cases failed
      obtain ⟨_, _, least⟩ := firstBit_eq_some first
      exact ⟨rfl, fun index inside => least index (Nat.zero_le _) (by omega)⟩

theorem freeUnits_pos {index : UInt32} (found : bitmap.firstFree = .ok index) :
    0 < bitmap.freeUnits := by
  obtain ⟨inside, free, _⟩ := firstFree_eq_ok found
  exact List.countP_pos_iff.mpr
    ⟨index.toNat, List.mem_range.mpr (UInt32.lt_iff_toNat_lt.mp inside), free⟩

theorem freeUnits_eq_zero {error : Error} (failed : bitmap.firstFree = .error error) :
    bitmap.freeUnits = 0 := by
  apply List.countP_eq_zero.mpr
  intro index member
  rw [(firstFree_eq_error failed).2 index (List.mem_range.mp member)]
  exact Bool.false_ne_true

theorem firstFree_eq_exhausted_iff :
    bitmap.firstFree = .error .exhausted ↔ bitmap.freeUnits = 0 := by
  constructor
  · exact freeUnits_eq_zero
  · intro none
    cases found : bitmap.firstFree with
    | ok index => exact absurd none (Nat.ne_of_gt (freeUnits_pos found))
    | error error => rw [(firstFree_eq_error found).1]

/-- Units that are known to be in use bound the number of free ones. -/
theorem freeUnits_le_of_used (bitmap : Bitmap) (start : Nat)
    (used : ∀ index < start, bitAt bitmap.bytes index = false) :
    bitmap.freeUnits ≤ bitmap.length.toNat - start := by
  rw [freeUnits, ← countP_range_le]
  apply List.countP_mono_left
  intro index _ free
  apply decide_eq_true
  apply Nat.le_of_not_lt
  intro low
  rw [used index low] at free
  contradiction

theorem countP_used (bitmap : Bitmap) :
    (List.range bitmap.length.toNat).countP (fun index => !bitAt bitmap.bytes index) +
      bitmap.freeUnits = bitmap.length.toNat := by
  have split := List.length_eq_countP_add_countP (bitAt bitmap.bytes)
    (l := List.range bitmap.length.toNat)
  have same : (fun index => decide ¬bitAt bitmap.bytes index = true) =
      fun index => !bitAt bitmap.bytes index := by
    funext index
    cases bitAt bitmap.bytes index <;> rfl
  rw [List.length_range, same] at split
  rw [freeUnits]
  omega

end Bitmap

end BlockFs
