import BlockFs.Device.Lawful
import BlockFs.Proofs.Span

namespace BlockFs

namespace Image

variable {image after : Image} {index offset position : Nat} {data : ByteArray} {block : Block}

/-- The byte at a position of the pages, also behind the end of the image. -/
def byteAt (image : Image) (position : Nat) : UInt8 :=
  BlockFs.byteAt (image.page (position / blockSize)).bytes (position % blockSize)

theorem lt_pages (image : Image) : image.size < (image.size / blockSize + 1) * blockSize :=
  (Nat.div_lt_iff_lt_mul (by decide)).mp (Nat.lt_succ_self _)

/-- The image as one byte string, whose slices are the pages. -/
def bytes (image : Image) : ByteArray :=
  (spanBytes image.page 0 (image.size / blockSize + 1)).extract 0 image.size

@[simp] theorem size_bytes (image : Image) : image.bytes.size = image.size := by
  have room := image.lt_pages
  rw [bytes, ByteArray.size_extract, size_spanBytes]
  omega

def octets (image : Image) : Octets image.size := ⟨image.bytes, image.size_bytes⟩

/-- The pages hold nothing behind the end of the image. -/
def Tidy (image : Image) : Prop :=
  ∀ position, image.size ≤ position → image.byteAt position = 0

theorem byteAt_bytes (image : Image) (position : Nat) :
    BlockFs.byteAt image.bytes position =
      if position < image.size then image.byteAt position else 0 := by
  by_cases inside : position < image.size
  · have room := image.lt_pages
    rw [if_pos inside, bytes, byteAt_extract, if_pos (by omega), Nat.zero_add,
      byteAt_spanBytes (by omega), Nat.zero_add, byteAt]
  · rw [if_neg inside, byteAt_of_size_le (by rw [size_bytes]; omega)]

/-- A page holds the bytes that the image has at its place. -/
theorem byteAt_slice (inside : position < blockSize) :
    image.byteAt (index * blockSize + position) =
      BlockFs.byteAt (image.page index).bytes position := by
  rw [byteAt, Nat.mul_comm, Nat.mul_add_div (by decide), Nat.mul_add_mod, Nat.div_eq_of_lt inside,
    Nat.mod_eq_of_lt inside, Nat.add_zero]

@[simp] theorem page_zeros (size index : Nat) : (zeros size).page index = .zero blockSize :=
  Std.ExtTreeMap.getD_empty

theorem byteAt_setPage (image : Image) (index position : Nat) (block : Block) :
    (image.setPage index block).byteAt position =
      if position / blockSize = index then BlockFs.byteAt block.bytes (position % blockSize)
      else image.byteAt position := by
  rw [byteAt, page_setPage]
  split
  · rfl
  · rw [byteAt]

theorem byteAt_setPage_slice (image : Image) (index position : Nat) (block : Block) :
    (image.setPage index block).byteAt position =
      if index * blockSize ≤ position ∧ position < index * blockSize + blockSize then
        BlockFs.byteAt block.bytes (position - index * blockSize)
      else image.byteAt position := by
  have place := Nat.div_add_mod' position blockSize
  have within : position % blockSize < blockSize := Nat.mod_lt _ (by decide)
  rw [byteAt_setPage]
  by_cases here : position / blockSize = index
  · rw [here] at place
    rw [if_pos here, if_pos (by omega), ← Nat.eq_sub_of_add_eq' place]
  · have away : ¬ (index * blockSize ≤ position ∧ position < index * blockSize + blockSize) := by
      rintro ⟨low, high⟩
      exact here (Nat.div_eq_of_lt_le low (by rwa [Nat.succ_mul]))
    rw [if_neg here, if_neg away]

/-- A patch of one page changes the bytes at its place that lie on the page. -/
theorem byteAt_patchPage (image : Image) (offset index position : Nat) (data : ByteArray) :
    (image.patchPage offset data index).byteAt position =
      if position / blockSize = index ∧ offset ≤ position ∧ position < offset + data.size then
        BlockFs.byteAt data (position - offset)
      else image.byteAt position := by
  have place := Nat.div_add_mod' position blockSize
  have within : position % blockSize < blockSize := Nat.mod_lt _ (by decide)
  simp only [patchPage]
  generalize low : max offset (index * blockSize) = first
  generalize high : min (offset + data.size) ((index + 1) * blockSize) = last
  generalize cut : data.extract (first - offset) (last - offset) = part
  have size : part.size = _ := cut ▸ ByteArray.size_extract
  rw [Nat.succ_mul] at high
  cases spliced : (image.page index).splice (first - index * blockSize) part with
  | ok block =>
      rw [byteAt_setPage]
      by_cases here : position / blockSize = index
      · rw [here] at place
        rw [if_pos here, Octets.byteAt_splice spliced, byteAt, here]
        by_cases patched : offset ≤ position ∧ position < offset + data.size
        · rw [if_pos (by omega), if_pos ⟨rfl, patched⟩, ← cut, byteAt_extract, if_pos (by omega)]
          congr 1
          omega
        · rw [if_neg (by omega), if_neg (patched ·.2)]
      · rw [if_neg here, if_neg (here ·.1)]
  | error cause =>
      -- Where the part touches the page it also fits, so a refused part changes nothing here.
      refine (if_neg ?_).symm
      rintro ⟨here, before, behind⟩
      rw [here] at place
      have inside : first - index * blockSize + part.size ≤ blockSize := by omega
      obtain ⟨_, fits⟩ := (image.page index).splice_exists _ part inside
      cases fits.symm.trans spliced

theorem size_patchPages (image : Image) (offset : Nat) (data : ByteArray) (indices : List Nat) :
    (indices.foldl (fun patched index => patched.patchPage offset data index) image).size =
      image.size := by
  induction indices generalizing image with
  | nil => rfl
  | cons index rest ih =>
      rw [List.foldl_cons, ih]
      simp only [patchPage]
      split <;> rfl

/-- Patching a row of pages changes the bytes at the patch's place that lie on these pages. -/
theorem byteAt_patchPages (image : Image) (offset position first count : Nat) (data : ByteArray) :
    ((List.range' first count).foldl (fun patched index => patched.patchPage offset data index)
        image).byteAt position =
      if (first ≤ position / blockSize ∧ position / blockSize < first + count) ∧
          offset ≤ position ∧ position < offset + data.size then
        BlockFs.byteAt data (position - offset)
      else image.byteAt position := by
  induction count generalizing image first with
  | zero => rw [if_neg (by omega)]; rfl
  | succ count ih =>
      rw [List.range'_succ, List.foldl_cons, ih, byteAt_patchPage]
      by_cases patched : offset ≤ position ∧ position < offset + data.size
      · by_cases later : first + 1 ≤ position / blockSize ∧ position / blockSize < first + 1 + count
        · rw [if_pos ⟨later, patched⟩, if_pos ⟨by omega, patched⟩]
        · rw [if_neg (later ·.1)]
          by_cases here : position / blockSize = first
          · rw [if_pos ⟨here, patched⟩, if_pos ⟨by omega, patched⟩]
          · rw [if_neg (here ·.1), if_neg (by omega)]
      · rw [if_neg (patched ·.2), if_neg (patched ·.2), if_neg (patched ·.2)]

theorem poke_ok (poked : image.poke offset data = .ok after) :
    offset + data.size ≤ image.size ∧ after.size = image.size ∧
      ∀ position, after.byteAt position =
        if offset ≤ position ∧ position < offset + data.size then
          BlockFs.byteAt data (position - offset)
        else image.byteAt position := by
  unfold poke at poked
  split at poked
  · rename_i inside
    cases poked
    refine ⟨inside, size_patchPages _ _ _ _, fun position => ?_⟩
    rw [byteAt_patchPages]
    simp only [blockSize]
    by_cases patched : offset ≤ position ∧ position < offset + data.size
    · rw [if_pos (by omega), if_pos patched]
    · rw [if_neg (patched ·.2), if_neg patched]
  · contradiction

@[simp] theorem size_resize (image : Image) (size : Nat) : (image.resize size).size = size := by
  simp only [resize]
  split <;> rfl

/-- Cutting an image keeps the pages that begin inside the new size, whole. -/
theorem page_cut (image : Image) (size index : Nat) :
    ({ image with
      size
      pages := image.pages.filter fun index _ => index * blockSize < size } : Image).page index =
      if index * blockSize < size then image.page index else .zero blockSize := by
  simp only [Image.page, Std.ExtTreeMap.getD_eq_getD_getElem?, Std.ExtTreeMap.getElem?_filter']
  cases image.pages[index]? with
  | none => split <;> rfl
  | some block => split <;> simp [Option.filter, *]

theorem byteAt_resize (image : Image) (size position : Nat) :
    (image.resize size).byteAt position =
      if position < size then image.byteAt position else 0 := by
  have place := Nat.div_add_mod' position blockSize
  have within : position % blockSize < blockSize := Nat.mod_lt _ (by decide)
  have cut := Nat.div_add_mod' size blockSize
  have page := image.page_cut size
  simp only [resize]
  generalize kept : ({ image with
    size
    pages := image.pages.filter fun index _ => index * blockSize < size } : Image) = front
  rw [kept] at page
  have size_front : front.size = size := kept ▸ rfl
  have front_byteAt : front.byteAt position =
      if position / blockSize * blockSize < size then image.byteAt position else 0 := by
    rw [byteAt, page]
    split
    · rfl
    · exact Octets.byteAt_zero _ _
  by_cases whole : size % blockSize = 0
  · have begins : position / blockSize * blockSize < size ↔ position < size := by
      simp only [blockSize] at whole ⊢
      omega
    rw [if_pos whole, front_byteAt]
    simp only [begins]
  · have begins : size / blockSize * blockSize < size := by omega
    rw [if_neg whole, byteAt_setPage]
    by_cases last : position / blockSize = size / blockSize
    · rw [if_pos last, Octets.byteAt_fit, if_pos within, chunk, byteAt_extract, size_front, page,
        if_pos begins, Nat.zero_add, byteAt, last]
      rw [last] at place
      by_cases inside : position < size
      · rw [if_pos (by omega), if_pos inside]
      · rw [if_neg (by omega), if_neg inside]
    · have before : position / blockSize * blockSize < size ↔ position < size := by
        simp only [blockSize] at last ⊢
        omega
      rw [if_neg last, front_byteAt]
      simp only [before]

/-- An image of zeros is a string of zeros. -/
theorem bytes_zeros (size : Nat) : (zeros size).bytes = fill 0 size := by
  refine ext_byteAt (by rw [size_bytes, size_fill]; rfl) fun position _ => ?_
  rw [byteAt_bytes, byteAt_fill_zero, byteAt, page_zeros, Octets.byteAt_zero, ite_self]

/-- A page is the slice at its place, if the image has all of it. -/
theorem window_bytes (inside : (index + 1) * blockSize ≤ image.size) :
    window image.bytes (index * blockSize) blockSize = .ok (image.page index).bytes := by
  rw [Nat.succ_mul] at inside
  refine window_eq_ok (Octets.size_bytes _) (by rwa [size_bytes]) fun position within => ?_
  rw [byteAt_bytes, if_pos (by omega), byteAt_slice within]

/-- Looking at a block takes the slice at its place. -/
theorem peek_eq_window (image : Image) (index : Nat) :
    (image.peek index).map Octets.bytes =
      window image.bytes (index * blockSize) blockSize := by
  unfold peek
  split
  · rename_i inside
    exact (window_bytes inside).symm
  · rename_i outside
    rw [Nat.succ_mul] at outside
    rw [window, size_bytes, if_neg outside]
    rfl

theorem chunk_eq_extract (image : Image) (index : Nat) :
    image.chunk index = image.bytes.extract (index * blockSize) ((index + 1) * blockSize) := by
  have room : (index + 1) * blockSize = index * blockSize + blockSize := Nat.succ_mul _ _
  refine ext_byteAt ?_ fun position inside => ?_
  · simp only [chunk, ByteArray.size_extract, Octets.size_bytes, size_bytes, room]
    omega
  · simp only [chunk, ByteArray.size_extract, Octets.size_bytes] at inside
    rw [chunk, byteAt_extract, byteAt_extract, if_pos (by omega), if_pos (by omega), Nat.zero_add,
      byteAt_bytes, if_pos (by omega), byteAt_slice (by omega)]

/-- Putting a page in place splices it in at its place. -/
theorem splice_page (inside : (index + 1) * blockSize ≤ image.size) (block : Block) :
    (image.octets.splice (index * blockSize) block.bytes).map Octets.bytes =
      .ok (image.setPage index block).bytes := by
  rw [Nat.succ_mul] at inside
  have size : (image.setPage index block).size = image.size := rfl
  refine Octets.map_splice_eq_ok (by rwa [Octets.size_bytes]) (size_bytes _)
    fun position within => ?_
  rw [byteAt_bytes, size, if_pos within, byteAt_setPage_slice, Octets.size_bytes, octets,
    byteAt_bytes, if_pos within]

/-- Overwriting bytes splices them in at their place. -/
theorem poke_eq_splice (image : Image) (offset : Nat) (data : ByteArray) :
    (image.poke offset data).map bytes =
      (image.octets.splice offset data).map Octets.bytes := by
  cases poked : image.poke offset data with
  | ok after =>
      obtain ⟨inside, size, same⟩ := poke_ok poked
      symm
      refine Octets.map_splice_eq_ok inside ((size_bytes _).trans size) fun position within => ?_
      rw [byteAt_bytes, size, if_pos within, same, octets, byteAt_bytes, if_pos within]
  | error cause =>
      unfold poke at poked
      split at poked
      · contradiction
      · rename_i outside
        cases poked
        rw [Octets.splice, dif_neg outside]
        rfl

/-- Resizing cuts the byte string, or lengthens it with zeros. -/
theorem bytes_resize (tidy : image.Tidy) (size : Nat) :
    (image.resize size).bytes = (Octets.fit size image.bytes).bytes := by
  refine ext_byteAt (by rw [size_bytes, size_resize, Octets.size_bytes]) fun position inside => ?_
  rw [size_bytes, size_resize] at inside
  rw [byteAt_bytes, size_resize, byteAt_resize, Octets.byteAt_fit, if_pos inside, if_pos inside,
    if_pos inside, byteAt_bytes]
  split
  · rfl
  · exact tidy position (by omega)

theorem Tidy.zeros (size : Nat) : (zeros size).Tidy := by
  intro position _
  rw [byteAt, page_zeros, Octets.byteAt_zero]

theorem Tidy.setPage (tidy : image.Tidy) (inside : (index + 1) * blockSize ≤ image.size)
    (block : Block) : (image.setPage index block).Tidy := by
  rw [Nat.succ_mul] at inside
  intro position behind
  have outside : image.size ≤ position := behind
  rw [byteAt_setPage_slice, if_neg (by omega)]
  exact tidy position outside

theorem Tidy.poke (tidy : image.Tidy) (poked : image.poke offset data = .ok after) :
    after.Tidy := by
  obtain ⟨inside, size, same⟩ := poke_ok poked
  intro position behind
  rw [same, if_neg (by omega)]
  exact tidy position (by omega)

theorem Tidy.resize (image : Image) (size : Nat) : (image.resize size).Tidy := by
  intro position behind
  rw [size_resize] at behind
  rw [byteAt_resize, if_neg (by omega)]

end Image

namespace ImageFile

variable {file after : ImageFile} {block : UInt32} {length : Nat} {data : ByteArray}

/-- A block that is read is the slice at its place. -/
theorem window_of_read {found : Block} (succeeded : file.read block length = .ok found) :
    window file.image.bytes (block.toNat * blockSize) blockSize = .ok found.bytes := by
  unfold ImageFile.read at succeeded
  split at succeeded
  · contradiction
  · split at succeeded
    · contradiction
    · split at succeeded
      · rename_i inside
        cases succeeded
        exact Image.window_bytes inside
      · contradiction

theorem byteAt_write (written : file.write block data = .ok after) (position : Nat) :
    after.image.byteAt position =
      if block.toNat * blockSize ≤ position ∧ position < block.toNat * blockSize + data.size then
        byteAt data (position - block.toNat * blockSize)
      else file.image.byteAt position := by
  obtain ⟨_, size_bytes, image⟩ := write_ok written
  rw [image, size_bytes]
  exact file.image.byteAt_setPage_slice block.toNat position ⟨data, size_bytes⟩

/-- A block that is written is spliced in at its place, in a string that was lengthened with zeros
to have that place. -/
theorem splice_of_write (tidy : file.image.Tidy) (written : file.write block data = .ok after) :
    ((Octets.fit (max file.image.size ((block.toNat + 1) * blockSize)) file.image.bytes).splice
      (block.toNat * blockSize) data).map Octets.bytes = .ok after.image.bytes := by
  obtain ⟨_, size_bytes, image⟩ := write_ok written
  have size : after.image.size = max file.image.size ((block.toNat + 1) * blockSize) :=
    congrArg Image.size image
  have room : (block.toNat + 1) * blockSize = block.toNat * blockSize + blockSize :=
    Nat.succ_mul _ _
  refine Octets.map_splice_eq_ok (by omega) ((Image.size_bytes _).trans size)
    fun position within => ?_
  rw [Image.byteAt_bytes, if_pos (by omega), byteAt_write written, Octets.byteAt_fit,
    if_pos within, Image.byteAt_bytes]
  by_cases inside : position < file.image.size
  · rw [if_pos inside]
  · rw [if_neg inside, tidy position (by omega)]

theorem tidy_write (tidy : file.image.Tidy) (written : file.write block data = .ok after) :
    after.image.Tidy := by
  obtain ⟨_, size_bytes, image⟩ := write_ok written
  have size : after.image.size = max file.image.size ((block.toNat + 1) * blockSize) :=
    congrArg Image.size image
  have room : (block.toNat + 1) * blockSize = block.toNat * blockSize + blockSize :=
    Nat.succ_mul _ _
  intro position behind
  rw [byteAt_write written, if_neg (by omega)]
  exact tidy position (by omega)

end ImageFile

end BlockFs
