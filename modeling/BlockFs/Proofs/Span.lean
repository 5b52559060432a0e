import BlockFs.Proofs.Bitmap.Bits

namespace BlockFs

/-- The bytes of the `count` blocks from `start` on. -/
def spanBytes (disk : Nat → Block) (start : Nat) : (count : Nat) → ByteArray
  | 0 => .empty
  | count + 1 => (disk start).bytes ++ spanBytes disk (start + 1) count

/-- The disk after blocks were written from `start` on. -/
def overlay (disk : Nat → Block) (start : Nat) (blocks : List Block) : Nat → Block :=
  fun index => if start ≤ index then blocks[index - start]?.getD (disk index) else disk index

variable {disk other : Nat → Block} {start : Nat} {blocks : List Block}

@[simp] theorem size_spanBytes (disk : Nat → Block) (start count : Nat) :
    (spanBytes disk start count).size = count * blockSize := by
  induction count generalizing start with
  | zero => rw [Nat.zero_mul]; rfl
  | succ count ih =>
      rw [spanBytes, ByteArray.size_append, ih, Octets.size_bytes, Nat.succ_mul, Nat.add_comm]

theorem byteAt_spanBytes {count position : Nat} (inside : position < count * blockSize) :
    byteAt (spanBytes disk start count) position =
      byteAt (disk (start + position / blockSize)).bytes (position % blockSize) := by
  induction count generalizing start position with
  | zero => omega
  | succ count ih =>
      rw [Nat.succ_mul] at inside
      rw [spanBytes, byteAt_append, Octets.size_bytes]
      by_cases first : position < blockSize
      · rw [if_pos first, Nat.div_eq_of_lt first, Nat.mod_eq_of_lt first, Nat.add_zero]
      · have shifted := Nat.sub_add_cancel (Nat.le_of_not_lt first)
        rw [if_neg first, ih (by omega)]
        generalize position - blockSize = rest at shifted ⊢
        subst shifted
        rw [Nat.add_div_right rest (by decide), Nat.add_mod_right,
          show start + 1 + rest / blockSize = start + (rest / blockSize + 1) by omega]

theorem bitAt_spanBytes {count position : Nat} (inside : position < count * bitsPerBlock) :
    bitAt (spanBytes disk start count) position =
      bitAt (disk (start + position / bitsPerBlock)).bytes (position % bitsPerBlock) := by
  simp only [bitsPerBlock, blockSize] at inside ⊢
  have within : position / 8 < count * blockSize := by
    simp only [blockSize]
    omega
  refine bitAt_congr ?_ (by omega)
  rw [byteAt_spanBytes within]
  simp only [blockSize]
  rw [show position / 8 / 4096 = position / (8 * 4096) by omega,
    show position / 8 % 4096 = position % (8 * 4096) / 8 by omega]

theorem spanBytes_congr {count : Nat}
    (same : ∀ index, start ≤ index → index < start + count → disk index = other index) :
    spanBytes disk start count = spanBytes other start count := by
  induction count generalizing start with
  | zero => rfl
  | succ count ih =>
      rw [spanBytes, spanBytes, same start (Nat.le_refl _) (by omega),
        ih fun index low high => same index (by omega) (by omega)]

@[simp] theorem overlay_nil (disk : Nat → Block) (start : Nat) : overlay disk start [] = disk := by
  funext index
  rw [overlay]
  split <;> rfl

theorem overlay_cons (disk : Nat → Block) (start : Nat) (block : Block) (rest : List Block) :
    overlay disk start (block :: rest) = overlay (overlay disk start [block]) (start + 1) rest := by
  funext index
  simp only [overlay]
  by_cases later : start + 1 ≤ index
  · rw [if_pos (by omega), if_pos later, if_pos (by omega)]
    obtain ⟨rank, place⟩ := Nat.exists_eq_add_of_le later
    rw [show index - start = rank + 1 by omega, show index - (start + 1) = rank by omega]
    simp
  · rw [if_neg later]
    by_cases here : start ≤ index
    · rw [if_pos here, if_pos here, show index - start = 0 by omega]
      rfl
    · rw [if_neg here, if_neg here]

theorem overlay_of_found {rank : Nat} {block : Block} (found : blocks[rank]? = some block) :
    overlay disk start blocks (start + rank) = block := by
  rw [overlay, if_pos (Nat.le_add_right _ _), Nat.add_sub_cancel_left, found]
  rfl

@[simp] theorem overlay_first (disk : Nat → Block) (start : Nat) (block : Block)
    (rest : List Block) : overlay disk start (block :: rest) start = block := by
  rw [overlay, if_pos (Nat.le_refl start), Nat.sub_self]
  rfl

theorem overlay_of_outside {index : Nat}
    (outside : index < start ∨ start + blocks.length ≤ index) :
    overlay disk start blocks index = disk index := by
  rw [overlay]
  split
  · rw [List.getElem?_eq_none (by omega)]
    rfl
  · rfl

/-- A span that was written holds what was written. -/
theorem spanBytes_overlay {data : ByteArray} (divided : blocksOf data = .ok blocks) :
    spanBytes (overlay disk start blocks) start blocks.length = data := by
  have size := length_blocksOf divided
  apply ext_byteAt (by rw [size_spanBytes, size])
  intro position inside
  rw [size_spanBytes] at inside
  have within : position / blockSize < blocks.length :=
    Nat.div_lt_of_lt_mul (by rwa [Nat.mul_comm])
  have found := List.getElem?_eq_getElem within
  rw [byteAt_spanBytes inside, overlay_of_found found,
    byteAt_blocksOf divided found (Nat.mod_lt _ (by decide)), Nat.mul_comm, Nat.div_add_mod]

/-- A disk that agrees with some data in its first bits agrees with them also when only a part of
the blocks of the data was written. -/
theorem bitAt_overlay_prefix {data : ByteArray} {written : List Block} {limit : Nat}
    (divided : blocksOf data = .ok blocks) (part : written <+: blocks)
    (bound : limit ≤ blocks.length * bitsPerBlock)
    (agrees : ∀ position < limit,
      bitAt (spanBytes disk start blocks.length) position = bitAt data position)
    {position : Nat} (inside : position < limit) :
    bitAt (spanBytes (overlay disk start written) start blocks.length) position =
      bitAt data position := by
  have low : position < blocks.length * bitsPerBlock := Nat.lt_of_lt_of_le inside bound
  have before := agrees position inside
  rw [bitAt_spanBytes low] at before ⊢
  generalize rank : position / bitsPerBlock = index at before ⊢
  -- The bit is the disk's or the data's, and these two agree.
  cases found : written[index]? with
  | none =>
      have behind : written.length ≤ index := List.getElem?_eq_none_iff.mp found
      rw [overlay_of_outside (.inr (by omega)), before]
  | some block =>
      have original : blocks[index]? = some block := by
        obtain ⟨short, rfl⟩ := List.getElem?_eq_some_iff.mp found
        exact List.prefix_iff_getElem?.mp part index short
      have whole : spanBytes (overlay disk start blocks) start blocks.length = data :=
        spanBytes_overlay divided
      rw [overlay_of_found found, ← whole, bitAt_spanBytes low, rank, overlay_of_found original]

end BlockFs
