import BlockFs.Mount.Basic
import BlockFs.Proofs.Bitmap.FreeSet
import BlockFs.Proofs.Codec
import BlockFs.Proofs.Geometry
import BlockFs.Proofs.Span

/-!
The metadata in memory and the metadata on the disk.

`Mount.Shaped` is what holds of the metadata of every mount, whatever happens to it.
`Mount.Persisted` says that the disk holds them.  `SyncPlan` names what a sync writes, and
`SyncPlan.apply` the disk after some of it was written.
-/

namespace BlockFs

/-- A map that fills its blocks and has a bit for each unit. -/
structure Bitmap.Backed (bitmap : Bitmap) (blocks length : UInt32) : Prop where
  size : bitmap.bytes.size = blocks.toNat * blockSize
  length : bitmap.length = length
  tight : bitmap.Sealed

namespace Bitmap.Backed

variable {bitmap after : Bitmap} {blocks length : UInt32} {disk : Nat → Block} {start : Nat}
  {content written : List Block}

theorem of_load (loaded : load (spanBytes disk start blocks.toNat) length = .ok bitmap) :
    bitmap.Backed blocks length := by
  obtain ⟨_, same, size, tight, _⟩ := load_eq_ok_iff.mp loaded
  exact ⟨size.trans (size_spanBytes _ _ _), same, tight⟩

theorem of_fresh {bufferLimit : Nat} {used : UInt32}
    (made : fresh bufferLimit blocks length used = .ok bitmap) : bitmap.Backed blocks length := by
  obtain ⟨same, size, bits⟩ := fresh_spec made
  refine ⟨size, same, fun position behind => ?_⟩
  rw [same] at behind
  rw [bits, decide_eq_false (by omega)]

theorem assigns {index : UInt32} {free : Bool} (backed : bitmap.Backed blocks length)
    (assigned : bitmap.Assigns after index free) : after.Backed blocks length :=
  ⟨assigned.size.trans backed.size, assigned.length.trans backed.length,
    assigned.tight backed.tight⟩

theorem blocksOf_exists (backed : bitmap.Backed blocks length) :
    ∃ content, blocksOf bitmap.bytes = .ok content ∧ content.length = blocks.toNat :=
  BlockFs.blocksOf_exists backed.size

theorem length_content (backed : bitmap.Backed blocks length)
    (divided : blocksOf bitmap.bytes = .ok content) : content.length = blocks.toNat := by
  have size := length_blocksOf divided
  rw [backed.size] at size
  exact (Nat.eq_of_mul_eq_mul_right (by decide) size).symm

theorem load_iff (backed : bitmap.Backed blocks length) :
    load (spanBytes disk start blocks.toNat) length = .ok bitmap ↔
      ∀ index < length.toNat,
        bitAt (spanBytes disk start blocks.toNat) index = bitAt bitmap.bytes index := by
  have fits : length.toNat ≤ 8 * (spanBytes disk start blocks.toNat).size := by
    rw [size_spanBytes, ← backed.size, ← backed.length]
    exact bitmap.length_le
  have size : bitmap.bytes.size = (spanBytes disk start blocks.toNat).size := by
    rw [size_spanBytes, backed.size]
  rw [load_eq_ok_iff]
  constructor
  · rintro ⟨_, _, _, _, same⟩ index inside
    exact (same index inside).symm
  · intro same
    exact ⟨fits, backed.length, size, backed.tight, fun index inside => (same index inside).symm⟩

theorem load_overlay (backed : bitmap.Backed blocks length)
    (divided : blocksOf bitmap.bytes = .ok content) :
    load (spanBytes (overlay disk start content) start blocks.toNat) length = .ok bitmap := by
  have count := backed.length_content divided
  rw [backed.load_iff, ← count, spanBytes_overlay divided]
  exact fun _ _ => rfl

/-- A region that loads as a map still does when a part of the map is written to it. -/
theorem load_overlay_prefix (backed : bitmap.Backed blocks length)
    (divided : blocksOf bitmap.bytes = .ok content) (part : written <+: content)
    (held : load (spanBytes disk start blocks.toNat) length = .ok bitmap) :
    load (spanBytes (overlay disk start written) start blocks.toNat) length = .ok bitmap := by
  have count := backed.length_content divided
  have bound : length.toNat ≤ content.length * bitsPerBlock := by
    have fits := bitmap.length_le
    rw [backed.length, backed.size] at fits
    rw [count, Nat.mul_left_comm]
    exact fits
  rw [backed.load_iff, ← count] at held ⊢
  exact fun index inside => bitAt_overlay_prefix divided part bound held inside

end Bitmap.Backed

namespace Mount

variable (mount : Mount)

/-- The metadata of an accepted superblock: its regions have room for each other, and its maps fill
their regions. -/
structure Shaped : Prop where
  magic : mount.superblock.magic = formatMagic
  room : mount.geometry.HasData
  inodes : mount.inodeBitmap.Backed mount.superblock.inodeBitmapBlocks mount.superblock.inodes
  blocks : mount.blockBitmap.Backed mount.superblock.blockBitmapBlocks mount.superblock.blocks

/-- Every inode that has a number has its record in the inode table. -/
def TableFits : Prop :=
  mount.superblock.inodes.toNat ≤ inodesPerBlock * mount.superblock.inodeTableBlocks.toNat

structure Persisted (disk : Nat → Block) : Prop where
  superblock : Superblock.decode (disk superblockBlock.toNat).bytes = .ok mount.superblock
  inodeBitmap : ∃ start, mount.geometry.inodeBitmapStart = .ok start ∧
    Bitmap.load (spanBytes disk start.toNat mount.superblock.inodeBitmapBlocks.toNat)
      mount.superblock.inodes = .ok mount.inodeBitmap
  blockBitmap : ∃ start, mount.geometry.blockBitmapStart = .ok start ∧
    Bitmap.load (spanBytes disk start.toNat mount.superblock.blockBitmapBlocks.toNat)
      mount.superblock.blocks = .ok mount.blockBitmap

/-- Mounts with the same metadata: all that a sync writes is equal. -/
structure Twin (one two : Mount) : Prop where
  superblock : two.superblock = one.superblock
  inodeBitmap : two.inodeBitmap = one.inodeBitmap
  blockBitmap : two.blockBitmap = one.blockBitmap

namespace Twin

variable {one two three : Mount}

theorem refl (mount : Mount) : mount.Twin mount :=
  ⟨rfl, rfl, rfl⟩

theorem trans (first : one.Twin two) (second : two.Twin three) : one.Twin three :=
  ⟨second.superblock.trans first.superblock, second.inodeBitmap.trans first.inodeBitmap,
    second.blockBitmap.trans first.blockBitmap⟩

theorem geometry_eq (twin : one.Twin two) : two.geometry = one.geometry :=
  congrArg Superblock.geometry twin.superblock

end Twin

end Mount

/-- A block that a sync writes: it holds the superblock or a part of a map. -/
def Geometry.Synced (geometry : Geometry) (index : Nat) : Prop :=
  index = superblockBlock.toNat ∨
    1 + geometry.inodeTableBlocks.toNat ≤ index ∧ index < geometry.metadata

structure SyncPlan (mount : Mount) where
  inodeStart : UInt32
  blockStart : UInt32
  inodeBlocks : List Block
  blockBlocks : List Block
  inodeStart_eq : mount.geometry.inodeBitmapStart = .ok inodeStart
  blockStart_eq : mount.geometry.blockBitmapStart = .ok blockStart
  inodeStart_toNat : inodeStart.toNat = 1 + mount.superblock.inodeTableBlocks.toNat
  blockStart_toNat :
    blockStart.toNat = inodeStart.toNat + mount.superblock.inodeBitmapBlocks.toNat
  inodeBlocks_eq : blocksOf mount.inodeBitmap.bytes = .ok inodeBlocks
  blockBlocks_eq : blocksOf mount.blockBitmap.bytes = .ok blockBlocks
  inodeBlocks_length : inodeBlocks.length = mount.superblock.inodeBitmapBlocks.toNat

/-- The disk after blocks were written to the three regions of a sync. -/
def SyncPlan.apply {mount : Mount} (plan : SyncPlan mount) (disk : Nat → Block)
    (first second third : List Block) : Nat → Block :=
  overlay (overlay (overlay disk superblockBlock.toNat first) plan.inodeStart.toNat second)
    plan.blockStart.toNat third

namespace Mount

variable {mount second : Mount} {disk other : Nat → Block}

theorem Shaped.of_twin (shaped : mount.Shaped) (twin : mount.Twin second) : second.Shaped := by
  obtain ⟨superblock, inodeBitmap, blockBitmap⟩ := twin
  refine ⟨?_, ?_, ?_, ?_⟩
  · rw [superblock]
    exact shaped.magic
  · rw [geometry, superblock]
    exact shaped.room
  · rw [inodeBitmap, superblock]
    exact shaped.inodes
  · rw [blockBitmap, superblock]
    exact shaped.blocks

theorem TableFits.of_twin (fits : mount.TableFits) (twin : mount.Twin second) :
    second.TableFits := by
  rw [TableFits, twin.superblock]
  exact fits

theorem Persisted.of_twin (persisted : mount.Persisted disk) (twin : mount.Twin second) :
    second.Persisted disk := by
  obtain ⟨superblock, inodeBitmap, blockBitmap⟩ := twin
  refine ⟨?_, ?_, ?_⟩
  · rw [superblock]
    exact persisted.superblock
  · rw [geometry, inodeBitmap, superblock]
    exact persisted.inodeBitmap
  · rw [geometry, blockBitmap, superblock]
    exact persisted.blockBitmap

theorem Shaped.syncPlan (shaped : mount.Shaped) : Nonempty (SyncPlan mount) := by
  obtain ⟨inodeStart, inodeStart_eq⟩ := Geometry.inodeBitmapStart_exists shaped.room
  obtain ⟨blockStart, blockStart_eq⟩ := Geometry.blockBitmapStart_exists shaped.room
  obtain ⟨inodeBlocks, inodeBlocks_eq, inodeBlocks_length⟩ := shaped.inodes.blocksOf_exists
  obtain ⟨blockBlocks, blockBlocks_eq, _⟩ := shaped.blocks.blocksOf_exists
  have inodeStart_toNat := Geometry.toNat_inodeBitmapStart inodeStart_eq
  exact ⟨{
    inodeStart, blockStart, inodeBlocks, blockBlocks, inodeStart_eq, blockStart_eq,
    inodeStart_toNat, inodeBlocks_eq, blockBlocks_eq, inodeBlocks_length
    blockStart_toNat := by
      rw [Geometry.toNat_blockBitmapStart blockStart_eq, inodeStart_toNat]
      rfl }⟩

/-- A disk holds the metadata of one mount only. -/
theorem Persisted.unique (one : mount.Persisted disk) (two : second.Persisted disk) :
    mount.Twin second := by
  obtain ⟨superblock, ⟨inodeStart, inodeBegun, inodes⟩, blockStart, blockBegun, blocks⟩ := one
  obtain ⟨superblock', ⟨inodeStart', inodeBegun', inodes'⟩, blockStart', blockBegun', blocks'⟩ :=
    two
  have same : second.superblock = mount.superblock :=
    Except.ok.inj (superblock'.symm.trans superblock)
  have geometry : second.geometry = mount.geometry := congrArg Superblock.geometry same
  rw [geometry] at inodeBegun' blockBegun'
  cases inodeBegun.symm.trans inodeBegun'
  cases blockBegun.symm.trans blockBegun'
  rw [same] at inodes' blocks'
  exact ⟨same, Except.ok.inj (inodes'.symm.trans inodes), Except.ok.inj (blocks'.symm.trans blocks)⟩

/-- Only the superblock and the maps matter. -/
theorem Persisted.congr (persisted : mount.Persisted disk)
    (same : ∀ index, mount.geometry.Synced index → other index = disk index) :
    mount.Persisted other := by
  obtain ⟨superblock, ⟨inodeStart, inodeBegun, inodes⟩, blockStart, blockBegun, blocks⟩ := persisted
  have inodePlace := Geometry.toNat_inodeBitmapStart inodeBegun
  have blockPlace := Geometry.toNat_blockBitmapStart blockBegun
  change inodeStart.toNat = 1 + mount.superblock.inodeTableBlocks.toNat at inodePlace
  change blockStart.toNat = 1 + mount.superblock.inodeTableBlocks.toNat +
    mount.superblock.inodeBitmapBlocks.toNat at blockPlace
  change ∀ index, _ ∨ 1 + mount.superblock.inodeTableBlocks.toNat ≤ index ∧
    index < 1 + mount.superblock.inodeTableBlocks.toNat +
      mount.superblock.inodeBitmapBlocks.toNat + mount.superblock.blockBitmapBlocks.toNat → _
    at same
  refine ⟨?_, ⟨inodeStart, inodeBegun, ?_⟩, blockStart, blockBegun, ?_⟩
  · rw [same _ (.inl rfl), superblock]
  · rw [spanBytes_congr fun index low high => same index (.inr (by omega)), inodes]
  · rw [spanBytes_congr fun index low high => same index (.inr (by omega)), blocks]

end Mount

/-- Maps that have a bit for each unit can be loaded from any disk. -/
theorem Superblock.persisted_exists {disk : Nat → Block} (stored : Superblock)
    (room : stored.geometry.HasData)
    (inodeBits : stored.inodes.toNat ≤ bitsPerBlock * stored.inodeBitmapBlocks.toNat)
    (blockBits : stored.blocks.toNat ≤ bitsPerBlock * stored.blockBitmapBlocks.toNat)
    (decoded : decode (disk superblockBlock.toNat).bytes = .ok stored) :
    ∃ mirror : Mount, mirror.superblock = stored ∧ mirror.Persisted disk := by
  obtain ⟨inodeStart, inodeBegun⟩ := Geometry.inodeBitmapStart_exists room
  obtain ⟨blockStart, blockBegun⟩ := Geometry.blockBitmapStart_exists room
  have bits (start units blocks : Nat) (fits : units ≤ bitsPerBlock * blocks) :
      units ≤ 8 * (spanBytes disk start blocks).size := by
    rwa [size_spanBytes, Nat.mul_left_comm, Nat.mul_comm]
  obtain ⟨inodes, inodesLoaded⟩ := Bitmap.load_exists (bits inodeStart.toNat _ _ inodeBits)
  obtain ⟨blocks, blocksLoaded⟩ := Bitmap.load_exists (bits blockStart.toNat _ _ blockBits)
  exact ⟨⟨stored, inodes, blocks, .blank, 0, 0⟩, rfl, decoded,
    ⟨inodeStart, inodeBegun, inodesLoaded⟩, blockStart, blockBegun, blocksLoaded⟩

namespace SyncPlan

variable {mount : Mount} {disk : Nat → Block} {first second third : List Block}

theorem apply_superblock (plan : SyncPlan mount) :
    plan.apply disk first second third superblockBlock.toNat =
      overlay disk superblockBlock.toNat first superblockBlock.toNat := by
  have inodePlace := plan.inodeStart_toNat
  have blockPlace := plan.blockStart_toNat
  have zero : superblockBlock.toNat = 0 := rfl
  rw [apply, overlay_of_outside (.inl (by omega)), overlay_of_outside (.inl (by omega))]

theorem apply_inodeBitmap (plan : SyncPlan mount) :
    spanBytes (plan.apply disk first second third) plan.inodeStart.toNat
        mount.superblock.inodeBitmapBlocks.toNat =
      spanBytes (overlay (overlay disk superblockBlock.toNat first) plan.inodeStart.toNat second)
        plan.inodeStart.toNat mount.superblock.inodeBitmapBlocks.toNat := by
  have blockPlace := plan.blockStart_toNat
  exact spanBytes_congr fun index _ high => overlay_of_outside (.inl (by omega))

variable (plan : SyncPlan mount)

theorem persisted_apply
    (superblock : Superblock.decode
      (overlay disk superblockBlock.toNat first superblockBlock.toNat).bytes = .ok mount.superblock)
    (inodes : Bitmap.load (spanBytes
        (overlay (overlay disk superblockBlock.toNat first) plan.inodeStart.toNat second)
        plan.inodeStart.toNat mount.superblock.inodeBitmapBlocks.toNat)
      mount.superblock.inodes = .ok mount.inodeBitmap)
    (blocks : Bitmap.load (spanBytes (plan.apply disk first second third)
        plan.blockStart.toNat mount.superblock.blockBitmapBlocks.toNat)
      mount.superblock.blocks = .ok mount.blockBitmap) :
    mount.Persisted (plan.apply disk first second third) :=
  ⟨by rw [plan.apply_superblock, superblock],
    ⟨plan.inodeStart, plan.inodeStart_eq, by rw [plan.apply_inodeBitmap, inodes]⟩,
    plan.blockStart, plan.blockStart_eq, blocks⟩

/-- A complete sync leaves the metadata on the disk, whatever was there before. -/
theorem persisted_apply_whole (disk : Nat → Block) (shaped : mount.Shaped) :
    mount.Persisted
      (plan.apply disk [mount.superblock.encode] plan.inodeBlocks plan.blockBlocks) := by
  apply plan.persisted_apply
  · rw [overlay_first, Superblock.decode_encode shaped.magic]
  · exact shaped.inodes.load_overlay plan.inodeBlocks_eq
  · exact shaped.blocks.load_overlay plan.blockBlocks_eq

/-- A sync that stops part of the way does not disturb a disk that holds the metadata already. -/
theorem persisted_apply_prefix (shaped : mount.Shaped) (persisted : mount.Persisted disk)
    (superblock : first <+: [mount.superblock.encode]) (inodes : second <+: plan.inodeBlocks)
    (blocks : third <+: plan.blockBlocks) :
    mount.Persisted (plan.apply disk first second third) := by
  obtain ⟨oldSuperblock, ⟨inodeStart, inodeBegun, oldInodes⟩, blockStart, blockBegun, oldBlocks⟩ :=
    persisted
  obtain rfl : plan.inodeStart = inodeStart :=
    Except.ok.inj (plan.inodeStart_eq.symm.trans inodeBegun)
  obtain rfl : plan.blockStart = blockStart :=
    Except.ok.inj (plan.blockStart_eq.symm.trans blockBegun)
  have short : first.length ≤ 1 := superblock.length_le
  have fits : second.length ≤ mount.superblock.inodeBitmapBlocks.toNat :=
    plan.inodeBlocks_length ▸ inodes.length_le
  have zero : superblockBlock.toNat = 0 := rfl
  have inodePlace := plan.inodeStart_toNat
  have blockPlace := plan.blockStart_toNat
  -- Each region is old, new, or new in front and old behind.
  apply plan.persisted_apply
  · obtain rfl | ⟨rest, rfl⟩ : first = [] ∨ ∃ rest, first = mount.superblock.encode :: rest := by
      cases first with
      | nil => exact .inl rfl
      | cons head rest =>
          rw [(List.cons_prefix_cons.mp superblock).1]
          exact .inr ⟨rest, rfl⟩
    · rw [overlay_nil, oldSuperblock]
    · rw [overlay_first, Superblock.decode_encode shaped.magic]
  · apply shaped.inodes.load_overlay_prefix plan.inodeBlocks_eq inodes
    rw [spanBytes_congr fun index low _ => overlay_of_outside (.inr (by omega)), oldInodes]
  · apply shaped.blocks.load_overlay_prefix plan.blockBlocks_eq blocks
    rw [spanBytes_congr fun index low _ => (overlay_of_outside (.inr (by omega))).trans
      (overlay_of_outside (.inr (by omega))), oldBlocks]

end SyncPlan

end BlockFs
