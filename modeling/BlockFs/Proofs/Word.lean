import BlockFs.Word
import BlockFs.Proofs.Bytes

namespace BlockFs

theorem narrow_of_lt {number : Nat} (fits : number < UInt32.size) :
    narrow number = .ok (.ofNat number) :=
  if_pos fits

theorem narrow_exists (number : Nat) (fits : number < UInt32.size) :
    ∃ word, narrow number = .ok word ∧ word.toNat = number :=
  ⟨_, narrow_of_lt fits, toNat_of_narrow (narrow_of_lt fits)⟩

theorem toNat_ofNat_of_lt {number : Nat} (fits : number < UInt32.size) :
    (UInt32.ofNat number).toNat = number :=
  toNat_of_narrow (narrow_of_lt fits)

theorem toNat_eq_zero_iff {number : UInt32} : number.toNat = 0 ↔ number = rootInode := by
  rw [← UInt32.toNat_inj]
  rfl

theorem predecessor_exists {word : UInt32} (positive : 0 < word.toNat) :
    ∃ before, predecessor word = .ok before ∧ before.toNat + 1 = word.toNat := by
  have nonzero : word ≠ 0 := by
    rintro rfl
    exact absurd positive (by decide)
  have one : (1 : UInt32) ≤ word := UInt32.le_iff_toNat_le.mpr positive
  refine ⟨word - 1, if_neg nonzero, ?_⟩
  rw [UInt32.toNat_sub_of_le _ _ one]
  exact Nat.sub_add_cancel positive

theorem toNat_saturatingPred (word : UInt32) : (saturatingPred word).toNat = word.toNat - 1 := by
  unfold saturatingPred
  split
  · rename_i zero
    rw [zero]
    rfl
  · rename_i nonzero
    have positive : 0 < word.toNat := Nat.pos_of_ne_zero fun zero =>
      nonzero (UInt32.toNat_inj.mp zero)
    exact UInt32.toNat_sub_of_le _ _ (UInt32.le_iff_toNat_le.mpr positive)

theorem toNat_saturatingSucc {word : UInt32} (room : word.toNat + 1 < UInt32.size) :
    (saturatingSucc word).toNat = word.toNat + 1 := by
  have sum : (word + 1).toNat = word.toNat + 1 := by
    rw [UInt32.toNat_add]
    exact Nat.mod_eq_of_lt room
  have nonzero : word + 1 ≠ 0 := by
    intro zero
    rw [zero] at sum
    exact absurd sum.symm (Nat.succ_ne_zero _)
  rw [saturatingSucc, if_neg nonzero, sum]

theorem toNat_saturatingSucc_eq_min (word : UInt32) :
    (saturatingSucc word).toNat = min (word.toNat + 1) (UInt32.size - 1) := by
  have bound := word.toNat_lt
  have size : UInt32.size = 2 ^ 32 := rfl
  by_cases room : word.toNat + 1 < UInt32.size
  · rw [toNat_saturatingSucc room]
    omega
  · have last : word + 1 = 0 := by
      apply UInt32.toNat_inj.mp
      rw [UInt32.toNat_add, show word.toNat = 2 ^ 32 - 1 by omega]
      rfl
    rw [saturatingSucc, if_pos last]
    omega

theorem wordAt_congr {left right : ByteArray} {position other : Nat}
    (same : ∀ offset < 4, byteAt left (position + offset) = byteAt right (other + offset)) :
    wordAt left position = wordAt right other := by
  have first := same 0 (by decide)
  rw [Nat.add_zero, Nat.add_zero] at first
  simp only [wordAt, first, same 1 (by decide), same 2 (by decide), same 3 (by decide)]

theorem toNat_wordAt (bytes : ByteArray) (position : Nat) :
    (wordAt bytes position).toNat =
      (byteAt bytes position).toNat + 0x100 * (byteAt bytes (position + 1)).toNat +
        0x10000 * (byteAt bytes (position + 2)).toNat +
        0x1000000 * (byteAt bytes (position + 3)).toNat := by
  have first := (byteAt bytes position).toNat_lt
  have second := (byteAt bytes (position + 1)).toNat_lt
  have third := (byteAt bytes (position + 2)).toNat_lt
  have fourth := (byteAt bytes (position + 3)).toNat_lt
  have size : UInt32.size = 2 ^ 32 := rfl
  exact toNat_ofNat_of_lt (by omega)

/-- Equal words lie in equal bytes. -/
theorem byteAt_of_wordAt_eq {left right : ByteArray} {position other offset : Nat}
    (same : wordAt left position = wordAt right other) (inWord : offset < 4) :
    byteAt left (position + offset) = byteAt right (other + offset) := by
  have digits := congrArg UInt32.toNat same
  simp only [toNat_wordAt] at digits
  have bound (bytes : ByteArray) (place : Nat) := (byteAt bytes place).toNat_lt
  have firstLeft := bound left position
  have firstRight := bound right other
  have secondLeft := bound left (position + 1)
  have secondRight := bound right (other + 1)
  have thirdLeft := bound left (position + 2)
  have thirdRight := bound right (other + 2)
  apply UInt8.toNat_inj.mp
  match offset with
  | 0 => simp only [Nat.add_zero]; omega
  | 1 => omega
  | 2 => omega
  | 3 => omega

theorem wordAt_pushWord (word : UInt32) : wordAt (pushWord .empty word) 0 = word := by
  have first : byteAt (pushWord .empty word) 0 = word.toUInt8 := by
    simp +arith [pushWord, byteAt_push]
  have second : byteAt (pushWord .empty word) 1 = (word >>> 8).toUInt8 := by
    simp +arith [pushWord, byteAt_push]
  have third : byteAt (pushWord .empty word) 2 = (word >>> 16).toUInt8 := by
    simp +arith [pushWord, byteAt_push]
  have fourth : byteAt (pushWord .empty word) 3 = (word >>> 24).toUInt8 := by
    simp +arith [pushWord, byteAt_push]
  have digits : word.toNat % 256 + 0x100 * (word.toNat / 2 ^ 8 % 256) +
      0x10000 * (word.toNat / 2 ^ 16 % 256) + 0x1000000 * (word.toNat / 2 ^ 24 % 256) =
      word.toNat := by
    have := word.toNat_lt
    omega
  rw [wordAt, first, second, third, fourth]
  simp only [UInt32.toNat_toUInt8, UInt32.toNat_shiftRight, UInt32.reduceToNat, Nat.reduceMod,
    Nat.shiftRight_eq_div_pow]
  exact (congrArg UInt32.ofNat digits).trans UInt32.ofNat_toNat

theorem pushWord_eq_append (bytes : ByteArray) (word : UInt32) :
    pushWord bytes word = bytes ++ pushWord .empty word := by
  apply ByteArray.ext
  simp only [pushWord, ByteArray.data_append, ByteArray.data_push, Array.append_push]
  rfl

theorem foldl_pushWord (words : List UInt32) (bytes : ByteArray) :
    words.foldl pushWord bytes = bytes ++ packWords words := by
  induction words generalizing bytes with
  | nil => exact ByteArray.append_empty.symm
  | cons word rest ih =>
      have first : packWords (word :: rest) = pushWord .empty word ++ packWords rest := ih _
      rw [List.foldl_cons, ih, pushWord_eq_append, ByteArray.append_assoc, first]

theorem packWords_cons (word : UInt32) (rest : List UInt32) :
    packWords (word :: rest) = pushWord .empty word ++ packWords rest :=
  foldl_pushWord rest _

/-- A packed word is found at its place, whatever follows the words. -/
theorem wordAt_packWords {words : List UInt32} {index : Nat} {word : UInt32}
    (found : words[index]? = some word) (tail : ByteArray) :
    wordAt (packWords words ++ tail) (4 * index) = word := by
  induction words generalizing index with
  | nil => simp at found
  | cons head rest ih =>
      have size : (pushWord .empty head).size = 4 := size_pushWord _ _
      rw [packWords_cons, ByteArray.append_assoc]
      cases index with
      | zero =>
          rw [List.getElem?_cons_zero, Option.some.injEq] at found
          subst found
          have front (offset : Nat) (small : offset < 4) :
              byteAt (pushWord .empty head ++ (packWords rest ++ tail)) (4 * 0 + offset) =
                byteAt (pushWord .empty head) (0 + offset) := byteAt_append_left (by omega)
          rw [wordAt_congr front, wordAt_pushWord]
      | succ index =>
          rw [List.getElem?_cons_succ] at found
          rw [← ih found]
          refine wordAt_congr fun offset small => ?_
          rw [byteAt_append_right (by omega), size]
          congr 1
          omega

/-- The words that a byte string holds from a position on. -/
def wordsAt (bytes : ByteArray) (start count : Nat) : List UInt32 :=
  (List.range count).map fun index => wordAt bytes (start + 4 * index)

/-- Packing words that were read gives the bytes that they were read from, whatever follows. -/
theorem byteAt_packWords_wordsAt (bytes : ByteArray) (start count : Nat) (tail : ByteArray)
    {position : Nat} (inside : position < 4 * count) :
    byteAt (packWords (wordsAt bytes start count) ++ tail) position =
      byteAt bytes (start + position) := by
  have inWords : position / 4 < count := by omega
  have found : (wordsAt bytes start count)[position / 4]? =
      some (wordAt bytes (start + 4 * (position / 4))) := by
    simp only [wordsAt, List.getElem?_map, List.getElem?_range inWords, Option.map_some]
  have packed := byteAt_of_wordAt_eq (wordAt_packWords found tail)
    (Nat.mod_lt position (by decide : 0 < 4))
  rwa [Nat.add_assoc, Nat.div_add_mod] at packed

namespace Octets

variable {n offset : Nat} {octets after : Octets n} {words : List UInt32}

theorem putWords_exists (octets : Octets n) (offset : Nat) (words : List UInt32)
    (inside : offset + 4 * words.length ≤ n) :
    ∃ after, octets.putWords offset words = .ok after := by
  induction words generalizing octets offset with
  | nil => exact ⟨octets, rfl⟩
  | cons word rest ih =>
      have size : (pushWord .empty word).size = 4 := size_pushWord _ _
      rw [List.length_cons] at inside
      obtain ⟨next, spliced⟩ := octets.splice_exists offset (pushWord .empty word) (by omega)
      obtain ⟨after, put⟩ := ih next (offset + 4) (by omega)
      exact ⟨after, by rw [putWords, spliced]; exact put⟩

/-- Words that are put one by one lie as they are packed. -/
theorem byteAt_putWords (put : octets.putWords offset words = .ok after) (position : Nat) :
    byteAt after.bytes position =
      if offset ≤ position ∧ position < offset + 4 * words.length then
        byteAt (packWords words) (position - offset)
      else byteAt octets.bytes position := by
  induction words generalizing octets offset with
  | nil =>
      cases put
      rw [List.length_nil, if_neg (by omega)]
  | cons word rest ih =>
      have size : (pushWord .empty word).size = 4 := size_pushWord _ _
      cases spliced : octets.splice offset (pushWord .empty word) with
      | error error =>
          rw [putWords, spliced] at put
          contradiction
      | ok next =>
          rw [putWords, spliced] at put
          rw [ih put, byteAt_splice spliced, packWords_cons, byteAt_append, size,
            List.length_cons]
          by_cases inWord : offset ≤ position ∧ position < offset + 4
          · rw [if_neg (by omega), if_pos inWord, if_pos (by omega), if_pos (by omega)]
          · rw [if_neg inWord]
            by_cases behind : offset + 4 ≤ position ∧ position < offset + 4 + 4 * rest.length
            · rw [if_pos behind, if_pos (by omega), if_neg (by omega), Nat.sub_add_eq]
            · rw [if_neg behind, if_neg (by omega)]

end Octets

@[simp] theorem wordAt_fill_zero (count position : Nat) : wordAt (fill 0 count) position = 0 := by
  simp only [wordAt, byteAt_fill_zero]
  rfl

end BlockFs
