import BlockFs.Device.Lawful
import BlockFs.Proofs.Directory
import BlockFs.Proofs.Format
import BlockFs.Proofs.Mount.Acceptance

namespace BlockFs

open Engine

structure Geometry.BuffersFit (geometry : Geometry) (bufferLimit : Nat) : Prop where
  table : geometry.inodeTableBlocks.toNat * blockSize ≤ bufferLimit
  inodes : geometry.inodeBitmapBlocks.toNat * blockSize ≤ bufferLimit
  blocks : geometry.blockBitmapBlocks.toNat * blockSize ≤ bufferLimit

variable {δ : Type} [BlockDevice δ] [LawfulBlockDevice δ] {host : Host δ} {limit : Nat}
  {geometry : Geometry}

theorem Geometry.BuffersFit.block {bufferLimit : Nat} (buffers : geometry.BuffersFit bufferLimit)
    (planned : geometry.Planned) : blockSize ≤ bufferLimit :=
  Nat.le_trans (Nat.le_mul_of_pos_left blockSize planned.tableBlocks) buffers.table

namespace Format

theorem completes_writeSuperblock (healthy : Healthy limit host.device)
    (covered : superblockBlock.toNat < limit) (superblock : Superblock) :
    Completes limit Host.Alike (writeSuperblock superblock) host () :=
  (completes_report healthy _).alike.bind .trans fun _ healthy _ =>
    completes_writeBlock healthy covered _

theorem completes_writeInodeTable (healthy : Healthy limit host.device)
    (planned : geometry.Planned) (covered : geometry.metadata < limit)
    (room : geometry.inodeTableBlocks.toNat * blockSize ≤ host.bufferLimit) :
    Completes limit Host.Alike (writeInodeTable geometry) host () := by
  have hasData := planned.hasData
  obtain ⟨start, begun, _⟩ := Geometry.dataStart_exists hasData
  obtain ⟨_, _, made⟩ := inodeTable_eq_ok begun
  have length := length_inodeTable hasData made
  have bound := geometry.totalBlocks.toNat_lt
  have wordSize : UInt32.size = 2 ^ 32 := rfl
  have one : Geometry.inodeTableStart.toNat = 1 := rfl
  unfold Geometry.HasData Geometry.metadata at hasData
  unfold Geometry.metadata at covered
  refine (completes_reserve healthy room).alike.bind .trans fun _ healthy _ => ?_
  refine (completes_lift healthy made).alike.bind .trans fun _ healthy _ => ?_
  refine (completes_report healthy _).alike.bind .trans fun _ healthy _ => ?_
  exact completes_writeBlocks healthy (by omega) (by omega)

theorem completes_writeInodeBitmap (healthy : Healthy limit host.device)
    (planned : geometry.Planned) (covered : geometry.metadata < limit)
    (room : geometry.inodeBitmapBlocks.toNat * blockSize ≤ host.bufferLimit) :
    Completes limit Host.Alike (writeInodeBitmap geometry) host () := by
  have hasData := planned.hasData
  obtain ⟨start, begun⟩ := Geometry.inodeBitmapStart_exists hasData
  obtain ⟨bitmap, made⟩ := Bitmap.fresh_exists 1 planned.inodeBits room
  obtain ⟨blocks, divided, length⟩ := (Bitmap.Backed.of_fresh made).blocksOf_exists
  have place := Geometry.toNat_inodeBitmapStart begun
  have bound := geometry.totalBlocks.toNat_lt
  have wordSize : UInt32.size = 2 ^ 32 := rfl
  unfold Geometry.HasData Geometry.metadata at hasData
  unfold Geometry.metadata at covered
  refine (completes_get healthy).alike.bind .trans fun _ healthy _ => ?_
  refine (completes_lift healthy made).alike.bind .trans fun _ healthy _ => ?_
  refine (completes_report healthy _).alike.bind .trans fun _ healthy _ => ?_
  refine (completes_lift healthy begun).alike.bind .trans fun _ healthy _ => ?_
  exact completes_writeSpan healthy divided (by omega) (by omega)

theorem completes_writeBlockBitmap (healthy : Healthy limit host.device)
    (planned : geometry.Planned) (covered : geometry.metadata < limit)
    (room : geometry.blockBitmapBlocks.toNat * blockSize ≤ host.bufferLimit) :
    Completes limit Host.Alike (writeBlockBitmap geometry) host () := by
  have hasData := planned.hasData
  obtain ⟨reserved, found, _⟩ := Geometry.reservedBlocks_exists hasData
  obtain ⟨start, begun⟩ := Geometry.blockBitmapStart_exists hasData
  obtain ⟨bitmap, made⟩ := Bitmap.fresh_exists reserved planned.blockBits room
  obtain ⟨blocks, divided, length⟩ := (Bitmap.Backed.of_fresh made).blocksOf_exists
  have place := Geometry.toNat_blockBitmapStart begun
  have bound := geometry.totalBlocks.toNat_lt
  have wordSize : UInt32.size = 2 ^ 32 := rfl
  unfold Geometry.HasData Geometry.metadata at hasData
  unfold Geometry.metadata at covered
  refine (completes_lift healthy found).alike.bind .trans fun _ healthy kept => ?_
  refine (completes_get healthy).alike.bind .trans fun _ healthy _ => ?_
  rw [← kept.bufferLimit] at made
  refine (completes_lift healthy made).alike.bind .trans fun _ healthy _ => ?_
  refine (completes_report healthy _).alike.bind .trans fun _ healthy _ => ?_
  refine (completes_lift healthy begun).alike.bind .trans fun _ healthy _ => ?_
  exact completes_writeSpan healthy divided (by omega) (by omega)

theorem completes_writeListing (healthy : Healthy limit host.device)
    (planned : geometry.Planned) (covered : geometry.metadata < limit) :
    Completes limit Host.Alike (writeListing geometry) host () := by
  obtain ⟨start, begun, place⟩ := Geometry.dataStart_exists planned.hasData
  refine (completes_lift healthy begun).alike.bind .trans fun _ healthy _ => ?_
  refine (completes_report healthy _).alike.bind .trans fun _ healthy _ => ?_
  exact completes_writeBlock healthy (by rw [place]; exact covered) _

end Format

open Format in
theorem completes_format {superblock : Superblock} (healthy : Healthy limit host.device)
    (sized : Geometry.ofSize (BlockDevice.byteSize host.device) = .ok geometry)
    (covered : geometry.metadata < limit) (buffers : geometry.BuffersFit host.bufferLimit)
    (made : Superblock.fresh geometry = .ok superblock) :
    Completes limit Host.Alike format host superblock := by
  have planned := (Geometry.ofSize_planned sized).1
  obtain ⟨start, begun, _⟩ := Geometry.dataStart_exists planned.hasData
  have kept := Host.Alike.refl host
  refine (completes_get healthy).alike.thread .trans kept fun _ healthy kept => ?_
  refine (completes_lift healthy sized).alike.thread .trans kept fun _ healthy kept => ?_
  refine (completes_lift healthy begun).alike.thread .trans kept fun _ healthy kept => ?_
  refine (completes_report healthy _).alike.thread .trans kept fun _ healthy kept => ?_
  refine (completes_lift healthy made).alike.thread .trans kept fun _ healthy kept => ?_
  refine (completes_writeSuperblock healthy (Nat.zero_lt_of_lt covered) superblock).thread .trans
    kept fun _ healthy kept => ?_
  refine (completes_writeInodeTable healthy planned covered
    (by rw [kept.bufferLimit]; exact buffers.table)).thread .trans kept fun _ healthy kept => ?_
  refine (completes_writeInodeBitmap healthy planned covered
    (by rw [kept.bufferLimit]; exact buffers.inodes)).thread .trans kept fun _ healthy kept => ?_
  refine (completes_writeBlockBitmap healthy planned covered
    (by rw [kept.bufferLimit]; exact buffers.blocks)).thread .trans kept fun _ healthy kept => ?_
  refine (completes_writeListing healthy planned covered).thread .trans kept
    fun _ healthy _ => ?_
  refine (completes_flush healthy).alike.bind .trans fun _ healthy _ => ?_
  exact (completes_report healthy _).alike.bind .trans fun _ healthy _ =>
    (completes_pure healthy superblock).alike

theorem Formatted.record {mirror : Mount} {disk : Nat → Block} {start number : UInt32}
    (formatted : Formatted geometry mirror disk) (begun : geometry.dataStart = .ok start)
    (inside : number < geometry.totalInodes) :
    window (disk (Inode.address number).block.toNat).bytes (Inode.address number).offset inodeSize =
      .ok (if number = rootInode then (Inode.root start).encode.bytes else fill 0 inodeSize) := by
  obtain ⟨table, made, stored⟩ := formatted.table
  have within := UInt32.lt_iff_toNat_lt.mp inside
  rw [formatted.planned.inodes, Nat.mul_comm] at within
  obtain ⟨block, found, cut⟩ := Format.window_inodeTable begun made within
  rw [← stored _ _ found] at cut
  simp only [toNat_eq_zero_iff] at cut
  rw [toNat_address_block]
  exact cut

theorem Formatted.decode_root {mirror : Mount} {disk : Nat → Block} {start : UInt32}
    (formatted : Formatted geometry mirror disk) (begun : geometry.dataStart = .ok start) :
    (window (disk (Inode.address rootInode).block.toNat).bytes (Inode.address rootInode).offset
      inodeSize >>= Inode.decode) = .ok (.root start) := by
  have inside : rootInode < geometry.totalInodes :=
    UInt32.lt_iff_toNat_lt.mpr formatted.planned.inodes_pos
  have cut := formatted.record begun inside
  rw [if_pos rfl] at cut
  simp only [cut, bind, Except.bind]
  exact Inode.decode_encode_root start

theorem Formatted.decode_other {mirror : Mount} {disk : Nat → Block} {number : UInt32}
    (formatted : Formatted geometry mirror disk) (other : rootInode < number)
    (inside : number < geometry.totalInodes) :
    (window (disk (Inode.address number).block.toNat).bytes (Inode.address number).offset
      inodeSize >>= Inode.decode) = .ok .blank := by
  obtain ⟨start, begun, _⟩ := formatted.listing
  have cut := formatted.record begun inside
  rw [if_neg (UInt32.ne_of_lt other).symm] at cut
  simp only [cut, bind, Except.bind]
  exact Inode.decode_zeros

theorem Formatted.valid {mirror : Mount} {disk : Nat → Block}
    (formatted : Formatted geometry mirror disk) : mirror.superblock.validate = .ok () := by
  obtain ⟨_, same, inodes, blocks⟩ :=
    Superblock.fresh_eq_ok formatted.planned formatted.empty.superblock
  apply Superblock.validate_of
  · rw [UInt32.lt_iff_toNat_lt, show mirror.superblock.inodes = geometry.totalInodes from
      congrArg Geometry.totalInodes same]
    omega
  · rw [UInt32.lt_iff_toNat_lt, same]
    omega

theorem Formatted.completes_mount {mirror : Mount} {start : UInt32}
    (formatted : Formatted geometry mirror host.disk)
    (healthy : Healthy (geometry.metadata + 1) host.device)
    (buffers : geometry.BuffersFit host.bufferLimit) (begun : geometry.dataStart = .ok start) :
    Completes (geometry.metadata + 1) Host.Untouched mount host
      { mirror with root := .root start, generation := 0, synced := 0 } := by
  have root := formatted.decode_root begun
  have persisted := formatted.persisted
  have valid := formatted.valid
  obtain rfl := formatted.empty.geometry_eq formatted.planned
  exact BlockFs.completes_mount healthy persisted valid (Nat.lt_succ_self _) buffers.inodes
    buffers.blocks root

theorem format_exists (sized : Geometry.ofSize (BlockDevice.byteSize host.device) = .ok geometry)
    (healthy : Healthy (geometry.metadata + 1) host.device)
    (buffers : geometry.BuffersFit host.bufferLimit) :
    ∃ mirror after, Superblock.fresh geometry = .ok mirror.superblock ∧
      format.run.run host = (.ok mirror.superblock, after) ∧
      Formatted geometry mirror after.disk ∧ Healthy (geometry.metadata + 1) after.device ∧
      Host.Alike host after := by
  obtain ⟨superblock, made, _⟩ := Superblock.fresh_exists (Geometry.ofSize_planned sized).1
  obtain ⟨after, ran, stays, alike⟩ :=
    completes_format healthy sized (Nat.lt_succ_self _) buffers made
  obtain ⟨_, mirror, again, rfl, formatted⟩ := format_eq_ok ran
  cases sized.symm.trans again
  exact ⟨mirror, after, made, ran, formatted, stays, alike⟩

/-- What a mount of an empty filesystem answers. -/
structure EmptyFilesystem (geometry : Geometry) (mount : Mount) (host : Host δ) : Prop where
  geometry_eq : mount.geometry = geometry
  clean : mount.isDirty = false
  root : ∃ listing, geometry.dataStart = .ok listing ∧ mount.root = .root listing ∧
    ∃ after, (mount.readInode rootInode).run.run host = (.ok (.root listing), after)
  others : ∀ number, rootInode < number → number < geometry.totalInodes →
    ∃ inode after, Inode.decode (fill 0 inodeSize) = .ok inode ∧
      (mount.readInode number).run.run host = (.ok inode, after)
  inodes : mount.inodeBitmap.length = geometry.totalInodes ∧
    ∀ number < geometry.totalInodes,
      mount.inodeBitmap.test number = .ok (decide (number ≠ rootInode))
  blocks : mount.blockBitmap.length = geometry.totalBlocks ∧
    ∃ reserved, geometry.reservedBlocks = .ok reserved ∧
      ∀ number < geometry.totalBlocks,
        mount.blockBitmap.test number = .ok (decide (reserved ≤ number))
  freeInodes : mount.inodeBitmap.countFree = geometry.totalInodes.toNat - 1 ∧
    mount.superblock.freeInodes.toNat = geometry.totalInodes.toNat - 1
  freeBlocks : mount.blockBitmap.countFree = geometry.dataBlocks.toNat - 1 ∧
    mount.superblock.freeBlocks.toNat = geometry.dataBlocks.toNat - 1
  listing : ∃ start, geometry.dataStart = .ok start ∧ ∃ block after,
    (readBlock .dataBlocks start).run.run host = (.ok block, after) ∧
      Listing.isEmpty block.bytes = true

namespace Mount.Empty

variable {mount : Mount} {number : UInt32}

theorem test_inodeBitmap (empty : mount.Empty geometry) (planned : geometry.Planned)
    (inside : number < geometry.totalInodes) :
    mount.inodeBitmap.test number = .ok (decide (number ≠ rootInode)) := by
  have within := UInt32.lt_iff_toNat_lt.mp inside
  rw [Bitmap.test_of_lt (by rw [empty.inodes_length planned]; exact inside),
    empty.bitAt_inodeBitmap, Except.ok.injEq, decide_eq_decide, ne_eq, ← toNat_eq_zero_iff]
  omega

theorem test_blockBitmap (empty : mount.Empty geometry) (planned : geometry.Planned)
    {reserved : UInt32} (found : geometry.reservedBlocks = .ok reserved)
    (inside : number < geometry.totalBlocks) :
    mount.blockBitmap.test number = .ok (decide (reserved ≤ number)) := by
  have within := UInt32.lt_iff_toNat_lt.mp inside
  rw [Bitmap.test_of_lt (by rw [empty.blocks_length planned]; exact inside),
    empty.bitAt_blockBitmap planned, Except.ok.injEq, decide_eq_decide, UInt32.le_iff_toNat_le,
    Geometry.toNat_reservedBlocks planned.hasData found]
  omega

end Mount.Empty

theorem Formatted.completes_readInode {mirror : Mount} {number : UInt32} {inode : Inode}
    (formatted : Formatted geometry mirror host.disk)
    (healthy : Healthy (geometry.metadata + 1) host.device)
    (room : blockSize ≤ host.bufferLimit) (inside : number < geometry.totalInodes)
    (stored : (window (host.disk (Inode.address number).block.toNat).bytes
      (Inode.address number).offset inodeSize >>= Inode.decode) = .ok inode) :
    Completes (geometry.metadata + 1) Host.Untouched (mirror.superblock.readInode number) host
      inode := by
  obtain rfl := formatted.empty.geometry_eq formatted.planned
  have tableEnd := ((formatted.empty.fits formatted.planned).address_block inside).2
  refine BlockFs.completes_readInode healthy room inside ?_ stored
  change _ < 1 + mirror.superblock.inodeTableBlocks.toNat +
    mirror.superblock.inodeBitmapBlocks.toNat + mirror.superblock.blockBitmapBlocks.toNat + 1
  omega

theorem Formatted.listing_read {mirror : Mount} {start : UInt32}
    (formatted : Formatted geometry mirror host.disk)
    (healthy : Healthy (geometry.metadata + 1) host.device)
    (room : blockSize ≤ host.bufferLimit) (begun : geometry.dataStart = .ok start) :
    ∃ block after, (readBlock .dataBlocks start).run.run host = (.ok block, after) ∧
      Listing.isEmpty block.bytes = true := by
  obtain ⟨_, again, held⟩ := formatted.listing
  cases begun.symm.trans again
  obtain ⟨_, begun, place⟩ := Geometry.dataStart_exists formatted.planned.hasData
  cases again.symm.trans begun
  have read : Completes (geometry.metadata + 1) Host.Untouched (readBlock .dataBlocks start) host
      (host.disk start.toNat) := completes_readBlock healthy room (by omega)
  obtain ⟨after, ran, _⟩ := read
  exact ⟨_, after, ran, held ▸ Listing.isEmpty_empty⟩

theorem Formatted.emptyFilesystem {mirror : Mount} {start : UInt32}
    (formatted : Formatted geometry mirror host.disk)
    (healthy : Healthy (geometry.metadata + 1) host.device)
    (room : blockSize ≤ host.bufferLimit) (begun : geometry.dataStart = .ok start) :
    EmptyFilesystem geometry { mirror with root := .root start, generation := 0, synced := 0 }
      host := by
  have planned := formatted.planned
  have empty := formatted.empty
  have shaped := empty.shaped planned
  have rootInside : rootInode < geometry.totalInodes :=
    UInt32.lt_iff_toNat_lt.mpr planned.inodes_pos
  obtain ⟨_, _, inodesCounted, blocksCounted⟩ := Superblock.fresh_eq_ok planned empty.superblock
  have freeInodes := Nat.eq_sub_of_add_eq inodesCounted
  have freeBlocks := Nat.eq_sub_of_add_eq blocksCounted
  obtain ⟨reserved, found, _⟩ := Geometry.reservedBlocks_exists planned.hasData
  refine ⟨empty.geometry_eq planned, rfl, ⟨start, begun, rfl, ?_⟩, ?_,
    ⟨empty.inodes_length planned, fun number => empty.test_inodeBitmap planned⟩,
    ⟨empty.blocks_length planned, reserved, found,
      fun number => empty.test_blockBitmap planned found⟩,
    ⟨?_, freeInodes⟩, ⟨?_, freeBlocks⟩, start, begun, ?_⟩
  · obtain ⟨after, ran, _⟩ :=
      formatted.completes_readInode healthy room rootInside (formatted.decode_root begun)
    exact ⟨after, ran⟩
  · intro number other inside
    obtain ⟨after, ran, _⟩ :=
      formatted.completes_readInode healthy room inside (formatted.decode_other other inside)
    exact ⟨_, after, Inode.decode_zeros, ran⟩
  · rw [Bitmap.countFree_eq_freeUnits shaped.inodes.tight, ← empty.freeInodes_eq planned,
      freeInodes]
  · rw [Bitmap.countFree_eq_freeUnits shaped.blocks.tight, ← empty.freeBlocks_eq planned,
      freeBlocks]
  · exact formatted.listing_read healthy room begun

/-- The smallest disk that can be formatted, with room for its metadata in memory. -/
def leastHost : Host RamDisk where
  device := .ofBlocks (minBlocks + 1)
  bufferLimit := 2 * blockSize

def leastGeometry : Geometry where
  totalBlocks := 101
  totalInodes := 120
  inodeTableBlocks := 2
  inodeBitmapBlocks := 1
  blockBitmapBlocks := 1
  dataBlocks := 96

theorem leastHost_sized : Geometry.ofSize (BlockDevice.byteSize leastHost.device) =
    .ok leastGeometry := by
  have bytes : BlockDevice.byteSize leastHost.device = 413696 := by decide
  rw [bytes, Geometry.ofSize]
  exact if_neg (by decide)

theorem leastHost_healthy : Healthy (leastGeometry.metadata + 1) leastHost.device :=
  RamDisk.healthy rfl rfl (by decide)

theorem leastGeometry_buffersFit : leastGeometry.BuffersFit leastHost.bufferLimit :=
  ⟨by decide, by decide, by decide⟩

theorem leastHost_session : ∃ mirror formatted mounted start,
    format.run.run leastHost = (.ok mirror.superblock, formatted) ∧
      Formatted leastGeometry mirror formatted.disk ∧ mirror.Twin mounted ∧
      mount.run.run formatted = (.ok mounted, start) ∧ Host.Untouched formatted start ∧
      Healthy (leastGeometry.metadata + 1) start.device ∧ Host.Alike leastHost start := by
  obtain ⟨mirror, formatted, _, ran, outcome, healthy, alike⟩ :=
    format_exists leastHost_sized leastHost_healthy leastGeometry_buffersFit
  obtain ⟨listing, begun, _⟩ := Geometry.dataStart_exists outcome.planned.hasData
  obtain ⟨start, accepted, stays, kept⟩ := outcome.completes_mount healthy
    (by rw [alike.bufferLimit]; exact leastGeometry_buffersFit) begun
  exact ⟨mirror, formatted, { mirror with root := .root listing, generation := 0, synced := 0 },
    start, ran, outcome, ⟨rfl, rfl, rfl⟩, accepted, kept, stays, alike.trans kept.toAlike⟩

theorem leastHost_mounts : ∃ superblock formatted mounted start,
    format.run.run leastHost = (.ok superblock, formatted) ∧
      mount.run.run formatted = (.ok mounted, start) ∧ mounted.TableFits := by
  obtain ⟨_, formatted, mounted, start, ran, outcome, twin, accepted, _⟩ := leastHost_session
  exact ⟨_, formatted, mounted, start, ran, accepted,
    (outcome.empty.fits outcome.planned).of_twin twin⟩

/-- Formatting a device and mounting it succeed, and give an empty filesystem, if the metadata's
blocks and the one behind them are healthy. -/
theorem mount_of_format (sized : Geometry.ofSize (BlockDevice.byteSize host.device) = .ok geometry)
    (healthy : Healthy (geometry.metadata + 1) host.device)
    (buffers : geometry.BuffersFit host.bufferLimit) :
    ∃ superblock formatted mounted ready, Superblock.fresh geometry = .ok superblock ∧
      format.run.run host = (.ok superblock, formatted) ∧
      mount.run.run formatted = (.ok mounted, ready) ∧ mounted.superblock = superblock ∧
      EmptyFilesystem geometry mounted ready := by
  obtain ⟨mirror, formatted, made, ran, outcome, stays, alike⟩ :=
    format_exists sized healthy buffers
  obtain ⟨start, begun, _⟩ := Geometry.dataStart_exists outcome.planned.hasData
  rw [← alike.bufferLimit] at buffers
  obtain ⟨ready, mounted, ready_healthy, kept⟩ := outcome.completes_mount stays buffers begun
  refine ⟨_, formatted, _, ready, made, ran, mounted, rfl, ?_⟩
  have room := buffers.block outcome.planned
  rw [← kept.disk] at outcome
  rw [← kept.bufferLimit] at room
  exact outcome.emptyFilesystem ready_healthy room begun

theorem mount_of_format_least : ∃ superblock formatted mounted ready,
    Superblock.fresh leastGeometry = .ok superblock ∧
      format.run.run leastHost = (.ok superblock, formatted) ∧
      mount.run.run formatted = (.ok mounted, ready) ∧ mounted.superblock = superblock ∧
      EmptyFilesystem leastGeometry mounted ready :=
  mount_of_format leastHost_sized leastHost_healthy leastGeometry_buffersFit

end BlockFs
