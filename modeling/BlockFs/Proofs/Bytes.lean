import BlockFs.Bytes

namespace BlockFs

/-- A position lies in one slot only of a row of slots of the same width. -/
theorem slot_unique {width slot other position : Nat} (inSlot : position < width)
    (low : slot * width ≤ other * width + position)
    (high : other * width + position < slot * width + width) : other = slot := by
  have wide : 0 < width := by omega
  rw [← Nat.succ_mul] at high
  rw [← Nat.div_eq_of_lt_le low high, Nat.mul_comm, Nat.mul_add_div wide,
    Nat.div_eq_of_lt inSlot, Nat.add_zero]

theorem byteAt_of_size_le {bytes : ByteArray} {position : Nat} (outside : bytes.size ≤ position) :
    byteAt bytes position = 0 :=
  dif_neg (by omega)

theorem byteAt_of_lt {bytes : ByteArray} {position : Nat} (inside : position < bytes.size) :
    byteAt bytes position = bytes[position] :=
  dif_pos inside

theorem ext_byteAt {left right : ByteArray} (size : left.size = right.size)
    (same : ∀ position < left.size, byteAt left position = byteAt right position) :
    left = right := by
  apply ByteArray.ext_getElem size
  intro position insideLeft insideRight
  rw [← byteAt_of_lt insideLeft, ← byteAt_of_lt insideRight, same position insideLeft]

theorem byteAt_append (left right : ByteArray) (position : Nat) :
    byteAt (left ++ right) position =
      if position < left.size then byteAt left position
      else byteAt right (position - left.size) := by
  by_cases inside : position < (left ++ right).size
  · rw [byteAt_of_lt inside]
    split
    · rename_i before
      rw [ByteArray.getElem_append_left before, byteAt_of_lt before]
    · rename_i behind
      rw [ByteArray.size_append] at inside
      rw [ByteArray.getElem_append_right (by omega), byteAt_of_lt (by omega)]
  · rw [ByteArray.size_append] at inside
    rw [byteAt_of_size_le (by rw [ByteArray.size_append]; omega), if_neg (by omega),
      byteAt_of_size_le (by omega)]

theorem byteAt_append_left {left right : ByteArray} {position : Nat}
    (before : position < left.size) : byteAt (left ++ right) position = byteAt left position := by
  rw [byteAt_append, if_pos before]

theorem byteAt_append_right {left right : ByteArray} {position : Nat}
    (behind : left.size ≤ position) :
    byteAt (left ++ right) position = byteAt right (position - left.size) := by
  rw [byteAt_append, if_neg (by omega)]

theorem byteAt_extract (bytes : ByteArray) (start stop position : Nat) :
    byteAt (bytes.extract start stop) position =
      if position < stop - start then byteAt bytes (start + position) else 0 := by
  by_cases inside : position < (bytes.extract start stop).size
  · rw [byteAt_of_lt inside, ByteArray.getElem_extract]
    rw [ByteArray.size_extract] at inside
    rw [if_pos (by omega), byteAt_of_lt]
  · rw [byteAt_of_size_le (by omega)]
    rw [ByteArray.size_extract] at inside
    split
    · exact (byteAt_of_size_le (by omega)).symm
    · rfl

theorem byteAt_push (bytes : ByteArray) (byte : UInt8) (position : Nat) :
    byteAt (bytes.push byte) position =
      if position = bytes.size then byte else byteAt bytes position := by
  by_cases inside : position < bytes.size + 1
  · rw [byteAt_of_lt (by rw [ByteArray.size_push]; exact inside)]
    have data : bytes.data.size = bytes.size := rfl
    simp only [ByteArray.getElem_eq_getElem_data, ByteArray.data_push, Array.getElem_push, data]
    by_cases before : position < bytes.size
    · rw [dif_pos before, if_neg (by omega), byteAt_of_lt before,
        ByteArray.getElem_eq_getElem_data]
    · rw [dif_neg before, if_pos (by omega)]
  · rw [byteAt_of_size_le (by rw [ByteArray.size_push]; omega), if_neg (by omega),
      byteAt_of_size_le (by omega)]

theorem byteAt_pad (value : UInt8) (count : Nat) (bytes : ByteArray) (position : Nat) :
    byteAt (pad value count bytes) position =
      if bytes.size ≤ position ∧ position < bytes.size + count then value
      else byteAt bytes position := by
  induction count generalizing bytes with
  | zero => rw [pad, if_neg (by omega)]
  | succ count ih =>
      rw [pad, ih, byteAt_push, ByteArray.size_push]
      by_cases next : position = bytes.size
      · rw [if_neg (by omega), if_pos next, if_pos (by omega)]
      · rw [if_neg next]
        by_cases within : bytes.size ≤ position ∧ position < bytes.size + (count + 1)
        · rw [if_pos (by omega), if_pos within]
        · rw [if_neg (by omega), if_neg within]

theorem byteAt_fill (value : UInt8) (count position : Nat) :
    byteAt (fill value count) position = if position < count then value else 0 := by
  have empty : (ByteArray.emptyWithCapacity count).size = 0 := rfl
  have outside : byteAt (ByteArray.emptyWithCapacity count) position = 0 :=
    byteAt_of_size_le (by omega)
  rw [fill, byteAt_pad, empty, outside]
  simp only [Nat.zero_le, true_and, Nat.zero_add]

@[simp] theorem byteAt_fill_zero (count position : Nat) : byteAt (fill 0 count) position = 0 := by
  rw [byteAt_fill]
  split <;> rfl

theorem window_of_le {bytes : ByteArray} {offset length : Nat}
    (inside : offset + length ≤ bytes.size) :
    window bytes offset length = .ok (bytes.extract offset (offset + length)) :=
  if_pos inside

theorem window_eq_ok {bytes found : ByteArray} {offset length : Nat} (size : found.size = length)
    (inside : offset + length ≤ bytes.size)
    (same : ∀ position < length, byteAt bytes (offset + position) = byteAt found position) :
    window bytes offset length = .ok found := by
  have cut : (bytes.extract offset (offset + length)).size = length := by
    rw [ByteArray.size_extract]
    omega
  rw [window_of_le inside, Except.ok.injEq]
  apply ext_byteAt (cut.trans size.symm)
  intro position within
  rw [cut] at within
  rw [byteAt_extract, if_pos (by omega), same position within]

theorem ok_bind {α β : Type} (value : α) (next : α → Except Error β) :
    (Except.ok value >>= next) = next value :=
  rfl

namespace Octets

variable {n : Nat}

@[simp] theorem byteAt_zero (n position : Nat) : byteAt (zero n).bytes position = 0 :=
  byteAt_fill_zero n position

theorem byteAt_fit (bytes : ByteArray) (position : Nat) :
    byteAt (fit n bytes).bytes position = if position < n then byteAt bytes position else 0 := by
  rw [fit, byteAt_append, ByteArray.size_extract, byteAt_extract, byteAt_fill_zero]
  by_cases inside : position < n
  · rw [if_pos inside]
    by_cases within : position < bytes.size
    · rw [if_pos (by omega), if_pos (by omega), Nat.zero_add]
    · rw [if_neg (by omega), byteAt_of_size_le (by omega)]
  · rw [if_neg inside, if_neg (by omega : ¬ position < n - 0)]
    split <;> rfl

/-- A piece that is cut out of a longer byte string. -/
theorem byteAt_fit_extract (bytes : ByteArray) {start stop position : Nat}
    (wide : start + n ≤ stop) (inside : position < n) :
    byteAt (fit n (bytes.extract start stop)).bytes position = byteAt bytes (start + position) := by
  rw [byteAt_fit, if_pos inside, byteAt_extract, if_pos (by omega)]

theorem ext_byteAt_lt {left right : Octets n}
    (same : ∀ position < n, byteAt left.bytes position = byteAt right.bytes position) :
    left = right := by
  rcases left with ⟨left, size_left⟩
  rcases right with ⟨right, size_right⟩
  obtain rfl := BlockFs.ext_byteAt (size_left.trans size_right.symm) fun position inside =>
    same position (size_left ▸ inside)
  rfl

protected theorem ext_byteAt {left right : Octets n}
    (same : ∀ position, byteAt left.bytes position = byteAt right.bytes position) :
    left = right :=
  ext_byteAt_lt fun position _ => same position

theorem splice_exists (octets : Octets n) (offset : Nat) (patch : ByteArray)
    (inside : offset + patch.size ≤ n) : ∃ after, octets.splice offset patch = .ok after :=
  ⟨_, dif_pos inside⟩

theorem byteAt_splice {octets after : Octets n} {offset : Nat} {patch : ByteArray}
    (spliced : octets.splice offset patch = .ok after) (position : Nat) :
    byteAt after.bytes position =
      if offset ≤ position ∧ position < offset + patch.size then byteAt patch (position - offset)
      else byteAt octets.bytes position := by
  unfold splice at spliced
  split at spliced
  · rename_i inside
    cases spliced
    have front : (octets.bytes.extract 0 offset).size = offset := by
      rw [ByteArray.size_extract, octets.size_bytes]
      omega
    have size := octets.size_bytes
    rw [byteAt_append, byteAt_append, ByteArray.size_append, front, byteAt_extract, byteAt_extract]
    by_cases before : position < offset
    · rw [if_pos (by omega), if_pos before, if_pos (by omega), if_neg (by omega), Nat.zero_add]
    · by_cases within : position < offset + patch.size
      · rw [if_pos within, if_neg before, if_pos (by omega)]
      · have behind : offset + patch.size ≤ position := by omega
        have outside : ¬ (offset ≤ position ∧ position < offset + patch.size) := by omega
        rw [if_neg within, if_neg outside]
        have shifted : offset + patch.size + (position - (offset + patch.size)) = position :=
          Nat.add_sub_of_le behind
        rw [shifted]
        split
        · rfl
        · exact (byteAt_of_size_le (by omega)).symm
  · contradiction

theorem map_splice_eq_ok {octets : Octets n} {offset : Nat} {patch found : ByteArray}
    (inside : offset + patch.size ≤ n) (size : found.size = n)
    (same : ∀ position < n, byteAt found position =
      if offset ≤ position ∧ position < offset + patch.size then byteAt patch (position - offset)
      else byteAt octets.bytes position) :
    (octets.splice offset patch).map bytes = .ok found := by
  obtain ⟨after, spliced⟩ := octets.splice_exists offset patch inside
  have equal : after.bytes = found := by
    refine BlockFs.ext_byteAt (after.size_bytes.trans size.symm) fun position within => ?_
    rw [size_bytes] at within
    rw [byteAt_splice spliced, same position within]
  rw [spliced, ← equal]
  rfl

theorem ofBuffer_bytes (octets : Octets n) : ofBuffer n octets.bytes = .ok octets :=
  dif_pos octets.size_bytes

theorem clear_exists (octets : Octets n) {offset : Nat} (inside : offset ≤ n) :
    ∃ after, octets.clear offset = .ok after :=
  octets.splice_exists offset _ (by rw [size_fill]; omega)

theorem byteAt_clear {octets after : Octets n} {offset : Nat}
    (cleared : octets.clear offset = .ok after) (position : Nat) :
    byteAt after.bytes position =
      if offset ≤ position then 0 else byteAt octets.bytes position := by
  rw [byteAt_splice cleared, size_fill, byteAt_fill_zero]
  by_cases behind : offset ≤ position
  · rw [if_pos behind]
    split
    · rfl
    · exact byteAt_of_size_le (by rw [octets.size_bytes]; omega)
  · rw [if_neg behind, if_neg (by omega)]

end Octets

theorem blocksOf_exists {data : ByteArray} {count : Nat} (size : data.size = count * blockSize) :
    ∃ blocks, blocksOf data = .ok blocks ∧ blocks.length = count := by
  refine ⟨_, if_pos (by rw [size]; exact Nat.mul_mod_left _ _), ?_⟩
  rw [List.length_map, List.length_range, size]
  exact Nat.mul_div_cancel _ (by decide)

theorem length_blocksOf {data : ByteArray} {blocks : List Block}
    (divided : blocksOf data = .ok blocks) : data.size = blocks.length * blockSize := by
  unfold blocksOf at divided
  split at divided
  · rename_i whole
    cases divided
    rw [List.length_map, List.length_range]
    exact (Nat.div_mul_cancel (Nat.dvd_of_mod_eq_zero whole)).symm
  · contradiction

theorem byteAt_blocksOf {data : ByteArray} {blocks : List Block} {index : Nat} {block : Block}
    (divided : blocksOf data = .ok blocks) (found : blocks[index]? = some block) {position : Nat}
    (inside : position < blockSize) :
    byteAt block.bytes position = byteAt data (index * blockSize + position) := by
  unfold blocksOf at divided
  split at divided
  · cases divided
    rw [List.getElem?_map] at found
    obtain ⟨_, at_index, rfl⟩ := Option.map_eq_some_iff.mp found
    obtain ⟨_, rfl⟩ := List.getElem?_eq_some_iff.mp at_index
    rw [List.getElem_range]
    exact Octets.byteAt_fit_extract data (Nat.le_of_eq (Nat.succ_mul _ _).symm) inside
  · contradiction

end BlockFs
