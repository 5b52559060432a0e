import BlockFs.Proofs.Bitmap.UnitSet
import Mathlib.Algebra.Order.Interval.Finset.SuccPred
import Mathlib.Data.Nat.SuccPred

namespace BlockFs.Bitmap

/-- The map in which all units are taken. -/
def taken (blocks length : UInt32) (fits : length.toNat ≤ bitsPerBlock * blocks.toNat) :
    Bitmap where
  bytes := fill 0 (blockSize * blocks.toNat)
  length
  length_le := by rwa [size_fill, ← Nat.mul_assoc]

/-- Frees `count` units from `unit` on, one after the other. -/
def freeEach (bitmap : Bitmap) : (count unit : Nat) → Bitmap
  | 0, _ => bitmap
  | count + 1, unit => freeEach (bitmap.edit (.free (.ofNat unit))) count (unit + 1)

/-- What is seen of a map of `blocks` blocks whose first units, `used` of them, are taken. -/
structure PrefixTaken (bitmap : Bitmap) (blocks length used : UInt32) : Prop where
  size : bitmap.bytes.size = blockSize * blocks.toNat
  bits : ∀ position, bitAt bitmap.bytes position =
    decide (min used.toNat length.toNat ≤ position ∧ position < length.toNat)
  countFree : bitmap.countFree = length.toNat - min used.toNat length.toNat
  firstFree : bitmap.firstFree = if used < length then .ok used else .error .exhausted
  length : bitmap.length = length

variable {bitmap : Bitmap} {units : Finset Nat} {bufferLimit : Nat} {blocks length used : UInt32}

theorem taken_holds (fits : length.toNat ≤ bitsPerBlock * blocks.toNat) :
    (taken blocks length fits).Holds ∅ where
  inside unit member := by simp at member
  bits position := by simp [bitAt, taken]

/-- One more unit is free after one more step, and the rest follows. -/
theorem holds_freeEach (holds : bitmap.Holds units) (count unit : Nat)
    (inside : unit + count ≤ bitmap.length.toNat) :
    (bitmap.freeEach count unit).Holds (units ∪ Finset.Ico unit (unit + count)) ∧
      (bitmap.freeEach count unit).length = bitmap.length ∧
      (bitmap.freeEach count unit).bytes.size = bitmap.bytes.size := by
  induction count generalizing bitmap units unit with
  | zero => simpa [Bitmap.freeEach] using holds
  | succ count ih =>
      have word : (UInt32.ofNat unit).toNat = unit :=
        toNat_ofNat_of_lt (Nat.lt_of_lt_of_le (by omega) (Nat.le_of_lt bitmap.length.toNat_lt))
      have unitInside : UInt32.ofNat unit < bitmap.length := by
        rw [UInt32.lt_iff_toNat_lt, word]
        omega
      obtain ⟨edited, sameLength, sameSize⟩ := holds.edit (.free (.ofNat unit))
      have step : Edit.onSet bitmap.length units (.free (.ofNat unit)) = insert unit units := by
        rw [Edit.onSet, if_pos unitInside, word]
      have all : insert unit units ∪ Finset.Ico (unit + 1) (unit + 1 + count) =
          units ∪ Finset.Ico unit (unit + (count + 1)) := by
        rw [Finset.insert_union, ← Finset.union_insert, Nat.add_right_comm,
          Finset.insert_Ico_add_one_left_eq_Ico (by omega), Nat.add_assoc]
      obtain ⟨freed, lengthKept, sizeKept⟩ := ih edited (unit + 1) (by rw [sameLength]; omega)
      rw [step, all] at freed
      exact ⟨freed, lengthKept.trans sameLength, sizeKept.trans sameSize⟩

theorem fresh_eq_error_iff {error : Error} (room : blocks.toNat * blockSize ≤ bufferLimit) :
    fresh bufferLimit blocks length used = .error error ↔
      bitsPerBlock * blocks.toNat < length.toNat ∧
        error = .outOfRange length.toNat (bitsPerBlock * blocks.toNat) := by
  obtain ⟨many, refused⟩ | ⟨fits, ⟨small, _⟩ | ⟨_, _, made, _⟩⟩ :=
    fresh_cases bufferLimit blocks length used
  · rw [refused, Except.error.injEq, eq_comm, iff_and_self]
    exact fun _ => many
  · exact absurd room (Nat.not_le.mpr small)
  · rw [made]
    exact ⟨nofun, fun refused => absurd fits (Nat.not_le.mpr refused.1)⟩

theorem prefixTaken_of_fresh (made : fresh bufferLimit blocks length used = .ok bitmap) :
    bitmap.PrefixTaken blocks length used := by
  obtain ⟨sameLength, size, bits⟩ := fresh_spec made
  have reflects := (Begins.fresh made).holds.reflects
  constructor
  case length => exact sameLength
  case size => rw [size, Nat.mul_comm]
  case bits =>
    intro position
    rw [bits, decide_eq_decide]
    omega
  case countFree =>
    rw [reflects.countFree, Nat.card_Ico]
    omega
  case firstFree =>
    by_cases some : used < length
    · rw [if_pos some, reflects.firstFree]
      have below := UInt32.lt_iff_toNat_lt.mp some
      exact ⟨by simpa using below, fun unit member => (Finset.mem_Ico.mp member).1⟩
    · rw [if_neg some, reflects.exhausted]
      have behind := UInt32.le_iff_toNat_le.mp (UInt32.not_lt.mp some)
      exact ⟨Finset.Ico_eq_empty (Nat.not_lt.mpr behind), rfl⟩

/-- The units that are left are freed one by one to make the map that is filled at once. -/
theorem fresh_eq_freeEach (made : fresh bufferLimit blocks length used = .ok bitmap)
    (fits : length.toNat ≤ bitsPerBlock * blocks.toNat) :
    bitmap = (taken blocks length fits).freeEach (length.toNat - min used.toNat length.toNat)
      (min used.toNat length.toNat) := by
  have filled := prefixTaken_of_fresh made
  obtain ⟨freed, sameLength, sameSize⟩ := holds_freeEach (taken_holds fits)
    (length.toNat - min used.toNat length.toNat) (min used.toNat length.toNat)
    (Nat.le_of_eq (Nat.add_sub_of_le (Nat.min_le_right _ _)))
  have units : ∅ ∪ Finset.Ico (min used.toNat length.toNat)
      (min used.toNat length.toNat + (length.toNat - min used.toNat length.toNat)) =
      Finset.Ico used.toNat length.toNat := by
    ext unit
    simp only [Finset.empty_union, Finset.mem_Ico]
    omega
  rw [units] at freed
  refine freed.unique (Begins.fresh made).holds ?_ ?_
  · rw [filled.length, sameLength]
    rfl
  · rw [filled.size, sameSize]
    exact (size_fill _ _).symm

/-- A fresh map is refused exactly when its blocks have too few bits.  Otherwise it is the map that
is made unit by unit, and it has just the units from `used` on free, in all ways to look at it. -/
theorem fresh_unitwise (blocks length used : UInt32)
    (room : blocks.toNat * blockSize ≤ bufferLimit) :
    (∀ error, fresh bufferLimit blocks length used = .error error ↔
      bitsPerBlock * blocks.toNat < length.toNat ∧
        error = .outOfRange length.toNat (bitsPerBlock * blocks.toNat)) ∧
    ∀ fits : length.toNat ≤ bitsPerBlock * blocks.toNat, ∃ bitmap,
      fresh bufferLimit blocks length used = .ok bitmap ∧
      bitmap = (taken blocks length fits).freeEach (length.toNat - min used.toNat length.toNat)
        (min used.toNat length.toNat) ∧
      bitmap.PrefixTaken blocks length used := by
  refine ⟨fun error => fresh_eq_error_iff room, fun fits => ?_⟩
  obtain ⟨bitmap, made⟩ := fresh_exists used fits room
  exact ⟨bitmap, made, fresh_eq_freeEach made fits, prefixTaken_of_fresh made⟩

/-- Both ends of the free units in the last byte of the first block. -/
theorem fresh_unitwise_ragged : ∃ bitmap, fresh (2 * blockSize) 2 32767 32763 = .ok bitmap ∧
    bitmap = (taken 2 32767 (by decide)).freeEach 4 32763 ∧
    bitmap.PrefixTaken 2 32767 32763 :=
  (fresh_unitwise 2 32767 32763 (by decide)).2 (by decide)

end BlockFs.Bitmap
