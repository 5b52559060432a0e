import BlockFs.Format
import BlockFs.Proofs.Mount.Lifetime

namespace BlockFs

open Engine

/-- The metadata of an empty filesystem: the root directory's inode is taken, and the blocks up to
its listing. -/
structure Mount.Empty (geometry : Geometry) (mount : Mount) : Prop where
  superblock : Superblock.fresh geometry = .ok mount.superblock
  inodes : ∃ bufferLimit, Bitmap.fresh bufferLimit geometry.inodeBitmapBlocks
    geometry.totalInodes 1 = .ok mount.inodeBitmap
  blocks : ∃ bufferLimit reserved, geometry.reservedBlocks = .ok reserved ∧
    Bitmap.fresh bufferLimit geometry.blockBitmapBlocks geometry.totalBlocks reserved =
      .ok mount.blockBitmap

/-- What a format leaves on the disk, whatever the disk held before. -/
structure Formatted (geometry : Geometry) (mirror : Mount) (disk : Nat → Block) : Prop where
  planned : geometry.Planned
  empty : mirror.Empty geometry
  persisted : mirror.Persisted disk
  table : ∃ table, Format.inodeTable geometry = .ok table ∧
    ∀ rank block, table[rank]? = some block → disk (Geometry.inodeTableStart.toNat + rank) = block
  listing : ∃ start, geometry.dataStart = .ok start ∧ disk start.toNat = Listing.empty

namespace Mount.Empty

variable {geometry : Geometry} {mount : Mount}

theorem geometry_eq (empty : mount.Empty geometry) (planned : geometry.Planned) :
    mount.geometry = geometry :=
  (Superblock.fresh_eq_ok planned empty.superblock).2.1

theorem shaped (empty : mount.Empty geometry) (planned : geometry.Planned) : mount.Shaped := by
  have same := empty.geometry_eq planned
  obtain ⟨_, inodes⟩ := empty.inodes
  obtain ⟨_, _, _, blocks⟩ := empty.blocks
  have inodesBacked := Bitmap.Backed.of_fresh inodes
  have blocksBacked := Bitmap.Backed.of_fresh blocks
  rw [← same] at inodesBacked blocksBacked
  exact ⟨(Superblock.fresh_eq_ok planned empty.superblock).1, same ▸ planned.hasData, inodesBacked,
    blocksBacked⟩

theorem fits (empty : mount.Empty geometry) (planned : geometry.Planned) : mount.TableFits := by
  have inodes := planned.inodes
  rw [← empty.geometry_eq planned, Nat.mul_comm] at inodes
  exact Nat.le_of_eq inodes

theorem inodes_length (empty : mount.Empty geometry) (planned : geometry.Planned) :
    mount.inodeBitmap.length = geometry.totalInodes :=
  (empty.shaped planned).inodes.length.trans
    (congrArg Geometry.totalInodes (empty.geometry_eq planned))

theorem blocks_length (empty : mount.Empty geometry) (planned : geometry.Planned) :
    mount.blockBitmap.length = geometry.totalBlocks :=
  (empty.shaped planned).blocks.length.trans
    (congrArg Geometry.totalBlocks (empty.geometry_eq planned))

theorem bitAt_inodeBitmap (empty : mount.Empty geometry) (position : Nat) :
    bitAt mount.inodeBitmap.bytes position =
      decide (1 ≤ position ∧ position < geometry.totalInodes.toNat) := by
  obtain ⟨_, made⟩ := empty.inodes
  exact (Bitmap.fresh_spec made).2.2 position

theorem bitAt_blockBitmap (empty : mount.Empty geometry) (planned : geometry.Planned)
    (position : Nat) : bitAt mount.blockBitmap.bytes position =
      decide (geometry.metadata + 1 ≤ position ∧ position < geometry.totalBlocks.toNat) := by
  obtain ⟨_, _, found, made⟩ := empty.blocks
  rw [← Geometry.toNat_reservedBlocks planned.hasData found]
  exact (Bitmap.fresh_spec made).2.2 position

theorem freeInodes_eq (empty : mount.Empty geometry) (planned : geometry.Planned) :
    mount.superblock.freeInodes.toNat = mount.inodeBitmap.freeUnits := by
  obtain ⟨_, made⟩ := empty.inodes
  have counted := (Superblock.fresh_eq_ok planned empty.superblock).2.2.1
  rw [Bitmap.freeUnits_fresh made]
  exact Nat.eq_sub_of_add_eq counted

theorem freeBlocks_eq (empty : mount.Empty geometry) (planned : geometry.Planned) :
    mount.superblock.freeBlocks.toNat = mount.blockBitmap.freeUnits := by
  obtain ⟨_, _, found, made⟩ := empty.blocks
  have counted := (Superblock.fresh_eq_ok planned empty.superblock).2.2.2
  have filled := planned.blocks
  rw [Bitmap.freeUnits_fresh made, Geometry.toNat_reservedBlocks planned.hasData found]
  omega

end Mount.Empty

namespace Format

variable {geometry : Geometry} {start : UInt32}

theorem inodeTable_eq_ok (begun : geometry.dataStart = .ok start) :
    ∃ first, (Octets.zero blockSize).splice 0 (Inode.root start).encode.bytes = .ok first ∧
      inodeTable geometry =
        .ok ((List.replicate geometry.inodeTableBlocks.toNat (.zero blockSize)).set 0 first) := by
  obtain ⟨first, spliced⟩ := (Octets.zero blockSize).splice_exists 0
    (Inode.root start).encode.bytes (by rw [Octets.size_bytes]; decide)
  refine ⟨first, spliced, ?_⟩
  have offset : (Inode.address rootInode).offset = 0 := rfl
  have index : narrow ((Inode.address rootInode).block.toNat - Geometry.inodeTableStart.toNat) =
      .ok 0 := rfl
  simp only [inodeTable, begun, offset, spliced, index, bind, Except.bind]
  rfl

theorem length_inodeTable (room : geometry.HasData) {table : List Block}
    (made : inodeTable geometry = .ok table) : table.length = geometry.inodeTableBlocks.toNat := by
  obtain ⟨start, begun, _⟩ := Geometry.dataStart_exists room
  obtain ⟨first, _, same⟩ := inodeTable_eq_ok begun
  cases made.symm.trans same
  rw [List.length_set, List.length_replicate]

/-- The records of the inode table: the root directory's, and zeros. -/
theorem window_inodeTable (begun : geometry.dataStart = .ok start) {table : List Block}
    (made : inodeTable geometry = .ok table) {number : Nat}
    (inside : number < inodesPerBlock * geometry.inodeTableBlocks.toNat) :
    ∃ block, table[number / inodesPerBlock]? = some block ∧
      window block.bytes (number % inodesPerBlock * inodeSize) inodeSize =
        .ok (if number = 0 then (Inode.root start).encode.bytes else fill 0 inodeSize) := by
  obtain ⟨first, spliced, same⟩ := inodeTable_eq_ok begun
  cases made.symm.trans same
  have rank : number / inodesPerBlock < geometry.inodeTableBlocks.toNat :=
    Nat.div_lt_of_lt_mul inside
  have place : number % inodesPerBlock * inodeSize + inodeSize ≤ blockSize := by
    have below := Nat.mod_lt number (show 0 < inodesPerBlock by decide)
    change number % 60 * 68 + 68 ≤ 4096
    change number % 60 < 60 at below
    omega
  have size : (Inode.root start).encode.bytes.size = inodeSize := Octets.size_bytes _
  rw [List.getElem?_set, List.length_replicate, List.getElem?_replicate]
  by_cases inFirst : 0 = number / inodesPerBlock
  · refine ⟨first, by rw [if_pos inFirst, if_pos (by omega)], ?_⟩
    by_cases root : number = 0
    · subst root
      rw [if_pos rfl]
      apply window_eq_ok size (by rw [first.size_bytes]; decide)
      intro position within
      have front : 0 % inodesPerBlock * inodeSize + position = position := Nat.zero_add position
      rw [front, Octets.byteAt_splice spliced, size, if_pos (by omega), Nat.sub_zero]
    · rw [if_neg root]
      apply window_eq_ok (size_fill 0 inodeSize) (by rw [first.size_bytes]; exact place)
      intro position _
      have later : number % inodesPerBlock = number :=
        Nat.mod_eq_of_lt (Nat.lt_of_div_eq_zero (by decide) inFirst.symm)
      have behind : inodeSize ≤ number * inodeSize :=
        Nat.le_mul_of_pos_left _ (Nat.pos_of_ne_zero root)
      rw [later, Octets.byteAt_splice spliced, size, if_neg (by omega), byteAt_fill_zero,
        Octets.byteAt_zero]
  · have notRoot : number ≠ 0 := by
      rintro rfl
      exact inFirst rfl
    refine ⟨.zero blockSize, by rw [if_neg inFirst, if_pos rank], ?_⟩
    rw [if_neg notRoot]
    apply window_eq_ok (size_fill 0 inodeSize) (by rw [Octets.size_bytes]; exact place)
    intro position _
    rw [Octets.byteAt_zero, byteAt_fill_zero]

variable {δ : Type} [BlockDevice δ] [LawfulBlockDevice δ] {host after : Host δ}

theorem writeSuperblock_eq_ok {superblock : Superblock}
    (ran : (writeSuperblock superblock).run.run host = (.ok (), after)) :
    after.disk = overlay host.disk superblockBlock.toNat [superblock.encode] := by
  rw [writeSuperblock, run_bind_of_ok (run_report _ _)] at ran
  obtain ⟨_, put⟩ | ⟨⟨_, failed⟩, _⟩ := writeBlock_cases ran
  · exact put
  · cases failed

theorem writeInodeTable_eq_ok (ran : (writeInodeTable geometry).run.run host = (.ok (), after)) :
    ∃ table, inodeTable geometry = .ok table ∧
      after.disk = overlay host.disk Geometry.inodeTableStart.toNat table := by
  obtain ⟨_, reserved, room, ran⟩ := bind_eq_ok ran
  obtain ⟨table, made, ran⟩ := lift_bind_eq_ok ran
  rw [run_bind_of_ok (run_report _ _)] at ran
  have put := (writeBlocks_wrote ran).whole rfl
  exact ⟨table, made, put.trans (by rw [← ((untouched_reserve _).of_run room).disk]; rfl)⟩

theorem writeInodeBitmap_eq_ok (ran : (writeInodeBitmap geometry).run.run host = (.ok (), after)) :
    ∃ bitmap start blocks,
      Bitmap.fresh host.bufferLimit geometry.inodeBitmapBlocks geometry.totalInodes 1 = .ok bitmap ∧
      geometry.inodeBitmapStart = .ok start ∧ blocksOf bitmap.bytes = .ok blocks ∧
      after.disk = overlay host.disk start.toNat blocks := by
  rw [writeInodeBitmap, run_bind_of_ok (run_get host)] at ran
  obtain ⟨bitmap, made, ran⟩ := lift_bind_eq_ok ran
  rw [run_bind_of_ok (run_report _ _)] at ran
  obtain ⟨start, begun, ran⟩ := lift_bind_eq_ok ran
  obtain ⟨blocks, divided, put⟩ := writeSpan_eq_ok ran
  exact ⟨bitmap, start, blocks, made, begun, divided, put⟩

theorem writeBlockBitmap_eq_ok (ran : (writeBlockBitmap geometry).run.run host = (.ok (), after)) :
    ∃ reserved bitmap start blocks, geometry.reservedBlocks = .ok reserved ∧
      Bitmap.fresh host.bufferLimit geometry.blockBitmapBlocks geometry.totalBlocks reserved =
        .ok bitmap ∧
      geometry.blockBitmapStart = .ok start ∧ blocksOf bitmap.bytes = .ok blocks ∧
      after.disk = overlay host.disk start.toNat blocks := by
  obtain ⟨reserved, found, ran⟩ := lift_bind_eq_ok ran
  rw [run_bind_of_ok (run_get host)] at ran
  obtain ⟨bitmap, made, ran⟩ := lift_bind_eq_ok ran
  rw [run_bind_of_ok (run_report _ _)] at ran
  obtain ⟨start, begun, ran⟩ := lift_bind_eq_ok ran
  obtain ⟨blocks, divided, put⟩ := writeSpan_eq_ok ran
  exact ⟨reserved, bitmap, start, blocks, found, made, begun, divided, put⟩

theorem writeListing_eq_ok (ran : (writeListing geometry).run.run host = (.ok (), after)) :
    ∃ start, geometry.dataStart = .ok start ∧
      after.disk = overlay host.disk start.toNat [Listing.empty] := by
  obtain ⟨start, begun, ran⟩ := lift_bind_eq_ok ran
  rw [run_bind_of_ok (run_report _ _)] at ran
  obtain ⟨_, put⟩ | ⟨⟨_, failed⟩, _⟩ := writeBlock_cases ran
  · exact ⟨start, begun, put⟩
  · cases failed

/-- The five regions, written one behind the other, make an empty filesystem. -/
theorem formatted_overlay {mirror : Mount} {disk : Nat → Block} {inodeStart blockStart : UInt32}
    {table inodeBlocks blockBlocks : List Block} (planned : geometry.Planned)
    (empty : mirror.Empty geometry) (tableMade : inodeTable geometry = .ok table)
    (inodeBegun : geometry.inodeBitmapStart = .ok inodeStart)
    (blockBegun : geometry.blockBitmapStart = .ok blockStart)
    (inodeDivided : blocksOf mirror.inodeBitmap.bytes = .ok inodeBlocks)
    (blockDivided : blocksOf mirror.blockBitmap.bytes = .ok blockBlocks)
    (dataBegun : geometry.dataStart = .ok start) :
    Formatted geometry mirror
      (overlay (overlay (overlay (overlay (overlay disk superblockBlock.toNat
        [mirror.superblock.encode]) Geometry.inodeTableStart.toNat table)
        inodeStart.toNat inodeBlocks) blockStart.toNat blockBlocks)
        start.toNat [Listing.empty]) := by
  have same := empty.geometry_eq planned
  have shaped := empty.shaped planned
  have tableLength := length_inodeTable planned.hasData tableMade
  have inodeLength := shaped.inodes.length_content inodeDivided
  have blockLength := shaped.blocks.length_content blockDivided
  obtain ⟨_, again, dataPlace⟩ := Geometry.dataStart_exists planned.hasData
  cases dataBegun.symm.trans again
  subst same
  have inodePlace := Geometry.toNat_inodeBitmapStart inodeBegun
  have blockPlace := Geometry.toNat_blockBitmapStart blockBegun
  have zero : superblockBlock.toNat = 0 := rfl
  have one : Geometry.inodeTableStart.toNat = 1 := rfl
  have metadata : mirror.geometry.metadata = 1 + mirror.geometry.inodeTableBlocks.toNat +
    mirror.geometry.inodeBitmapBlocks.toNat + mirror.geometry.blockBitmapBlocks.toNat := rfl
  change inodeBlocks.length = mirror.geometry.inodeBitmapBlocks.toNat at inodeLength
  change blockBlocks.length = mirror.geometry.blockBitmapBlocks.toNat at blockLength
  -- What was written first is looked for behind all that was written later.
  refine ⟨planned, empty, ⟨?_, ⟨inodeStart, inodeBegun, ?_⟩, blockStart, blockBegun, ?_⟩,
    ⟨table, tableMade, ?_⟩, start, dataBegun, ?_⟩
  · rw [overlay_of_outside (.inl (by omega)), overlay_of_outside (.inl (by omega)),
      overlay_of_outside (.inl (by omega)), overlay_of_outside (.inl (by omega)),
      overlay_first, Superblock.decode_encode shaped.magic]
  · change Bitmap.load (spanBytes _ _ mirror.geometry.inodeBitmapBlocks.toNat) _ = _
    rw [spanBytes_congr fun index _ high => (overlay_of_outside (.inl (by omega))).trans
      (overlay_of_outside (.inl (by omega)))]
    exact shaped.inodes.load_overlay inodeDivided
  · change Bitmap.load (spanBytes _ _ mirror.geometry.blockBitmapBlocks.toNat) _ = _
    rw [spanBytes_congr fun index _ high => overlay_of_outside (.inl (by omega))]
    exact shaped.blocks.load_overlay blockDivided
  · intro rank block found
    have inside := (List.getElem?_eq_some_iff.mp found).1
    rw [overlay_of_outside (.inl (by omega)), overlay_of_outside (.inl (by omega)),
      overlay_of_outside (.inl (by omega)), overlay_of_found found]
  · exact overlay_first _ _ _ _

end Format

open Format in
/-- A format that succeeds leaves an empty filesystem, of the geometry that the device asks for. -/
theorem format_eq_ok {δ : Type} [BlockDevice δ] [LawfulBlockDevice δ] {host after : Host δ}
    {superblock : Superblock} (ran : format.run.run host = (.ok superblock, after)) :
    ∃ geometry mirror, Geometry.ofSize (BlockDevice.byteSize host.device) = .ok geometry ∧
      mirror.superblock = superblock ∧ Formatted geometry mirror after.disk := by
  rw [format, run_bind_of_ok (run_get host)] at ran
  obtain ⟨geometry, sized, ran⟩ := lift_bind_eq_ok ran
  obtain ⟨_, _, ran⟩ := lift_bind_eq_ok ran
  rw [run_bind_of_ok (run_report _ _)] at ran
  obtain ⟨_, made, ran⟩ := lift_bind_eq_ok ran
  obtain ⟨_, first, wroteSuperblock, ran⟩ := bind_eq_ok ran
  obtain ⟨_, second, wroteTable, ran⟩ := bind_eq_ok ran
  obtain ⟨_, third, wroteInodes, ran⟩ := bind_eq_ok ran
  obtain ⟨_, fourth, wroteBlocks, ran⟩ := bind_eq_ok ran
  obtain ⟨_, fifth, wroteListing, ran⟩ := bind_eq_ok ran
  obtain ⟨_, sixth, flushed, ran⟩ := bind_eq_ok ran
  rw [run_bind_of_ok (run_report _ _), run_pure] at ran
  cases ran
  have firstDisk := writeSuperblock_eq_ok wroteSuperblock
  obtain ⟨table, tableMade, secondDisk⟩ := writeInodeTable_eq_ok wroteTable
  obtain ⟨inodeBitmap, inodeStart, inodeBlocks, inodesMade, inodeBegun, inodeDivided, thirdDisk⟩ :=
    writeInodeBitmap_eq_ok wroteInodes
  obtain ⟨reserved, blockBitmap, blockStart, blockBlocks, found, blocksMade, blockBegun,
    blockDivided, fourthDisk⟩ := writeBlockBitmap_eq_ok wroteBlocks
  obtain ⟨start, begun, fifthDisk⟩ := writeListing_eq_ok wroteListing
  have sixthDisk := ((untouched_flush _).of_run flushed).disk
  refine ⟨geometry, ⟨superblock, inodeBitmap, blockBitmap, Inode.root start, 0, 0⟩, sized, rfl, ?_⟩
  change Formatted geometry _ sixth.disk
  rw [sixthDisk, fifthDisk, fourthDisk, thirdDisk, secondDisk, firstDisk]
  exact formatted_overlay (Geometry.ofSize_planned sized).1
    ⟨made, ⟨_, inodesMade⟩, _, reserved, found, blocksMade⟩ tableMade inodeBegun blockBegun
    inodeDivided blockDivided begun

end BlockFs
