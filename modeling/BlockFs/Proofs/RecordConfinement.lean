import BlockFs.Proofs.EmptyFilesystem
import BlockFs.Proofs.Mount.Ending

/-!
Where a write of an inode's record lands.

It changes the bytes of the record and no others.  Whether the record lies in the inode table is a
matter of two counts of the superblock, the inodes and the blocks of the table, which a mount does
not compare: `TableFits` is what it would have to ask for.
-/

namespace BlockFs

open Engine

/-- The disk after the record of an inode was put in its place, and nothing else was changed. -/
def RecordWritten (number : UInt32) (inode : Inode) (before after : Nat → Block) : Prop :=
  ∀ index position, byteAt (after index).bytes position =
    if index = (Inode.address number).block.toNat ∧ (Inode.address number).offset ≤ position ∧
        position < (Inode.address number).offset + inodeSize then
      byteAt inode.encode.bytes (position - (Inode.address number).offset)
    else byteAt (before index).bytes position

variable {number : UInt32} {inode : Inode} {disk changed : Nat → Block}

theorem recordWritten_of_splice {block : Block}
    (spliced : (disk (Inode.address number).block.toNat).splice (Inode.address number).offset
      inode.encode.bytes = .ok block) :
    RecordWritten number inode disk
      (overlay disk (Inode.address number).block.toNat [block]) := by
  intro index position
  by_cases here : index = (Inode.address number).block.toNat
  · subst here
    simp only [overlay_first, Octets.byteAt_splice spliced, Octets.size_bytes, true_and]
  · rw [if_neg fun within => here within.1,
      overlay_of_outside (by simp only [List.length_singleton]; omega)]

theorem RecordWritten.others (written : RecordWritten number inode disk changed) {index : Nat}
    (elsewhere : index ≠ (Inode.address number).block.toNat) : changed index = disk index := by
  apply Octets.ext_byteAt
  intro position
  rw [written, if_neg fun within => elsewhere within.1]

/-- The block of a record is one of the table's exactly while the table has room for its number. -/
theorem address_block_le_iff (number : UInt32) (blocks : Nat) :
    (Inode.address number).block.toNat ≤ blocks ↔ number.toNat < inodesPerBlock * blocks := by
  have positive : 0 < inodesPerBlock := by decide
  rw [toNat_address_block, Nat.add_comm, Nat.succ_le_iff, Nat.div_lt_iff_lt_mul positive,
    Nat.mul_comm]

theorem Mount.tableFits_iff (mount : Mount) : mount.TableFits ↔
    ∀ number < mount.superblock.inodes,
      (Inode.address number).block.toNat ≤ mount.superblock.inodeTableBlocks.toNat := by
  unfold TableFits
  constructor
  · intro fits number inside
    have below := UInt32.lt_iff_toNat_lt.mp inside
    exact (address_block_le_iff _ _).mpr (Nat.lt_of_lt_of_le below fits)
  · intro confined
    -- The last of the inodes lies furthest behind.
    apply Nat.le_of_not_lt
    intro more
    have word : mount.superblock.inodes.toNat < UInt32.size := mount.superblock.inodes.toNat_lt
    have last : (UInt32.ofNat (mount.superblock.inodes.toNat - 1)).toNat =
      mount.superblock.inodes.toNat - 1 := toNat_ofNat_of_lt (by omega)
    have within := (address_block_le_iff _ _).mp
      (confined (.ofNat (mount.superblock.inodes.toNat - 1))
        (UInt32.lt_iff_toNat_lt.mpr (by omega)))
    omega

variable {δ : Type} [BlockDevice δ] [LawfulBlockDevice δ] {host start last after : Host δ}
  {mounted current next : Mount} {durability : Durability} {answer : Except Error Answer}

theorem writeInode_written {mount : Mount} {value : Answer} (shaped : mount.Shaped)
    (stepped : (Operation.writeInode number inode durability).step (mount, host) =
      (.ok value, next, after)) :
    number < mount.superblock.inodes ∧ RecordWritten number inode host.disk after.disk := by
  have change := step_change shaped stepped
  generalize host.disk = disk at change ⊢
  generalize after.disk = changed at change ⊢
  cases change with
  | answered query => cases query
  | wroteInode inside spliced => exact ⟨inside, recordWritten_of_splice spliced⟩

theorem writeInode_refused {mount : Mount} {error : Error} (shaped : mount.Shaped)
    (stepped : (Operation.writeInode number inode durability).step (mount, host) =
      (.error error, next, after)) : after.disk = host.disk := by
  have change := step_change shaped stepped
  generalize host.disk = disk at change ⊢
  generalize after.disk = changed at change ⊢
  cases change with
  | failed => rfl

/-- A healthy device takes the record of every inode whose block it covers. -/
theorem step_writeInode {mount : Mount} {limit : Nat} (inode : Inode) (durability : Durability)
    (healthy : Healthy limit host.device) (room : blockSize ≤ host.bufferLimit)
    (inside : number < mount.superblock.inodes)
    (covered : (Inode.address number).block.toNat < limit) :
    ∃ next after, (Operation.writeInode number inode durability).step (mount, host) =
        (.ok .done, next, after) ∧ mount.Twin next ∧ Healthy limit after.device := by
  obtain ⟨after, ran, stays, _⟩ := completes_writeInode inode durability healthy room inside covered
  refine ⟨_, after, step_of_ok ((run_bind_of_ok ran).trans (run_pure _ _)), ?_, stays⟩
  split <;> exact ⟨rfl, rfl, rfl⟩

/-- A write of an inode changes its record and nothing else, or nothing at all, and a healthy device
takes it.  The superblock, the maps and the data are safe as long as the table has room for the
number; it has room for all numbers of a mount exactly if the mount's superblock says so. -/
theorem writeInode_frame (accepted : BlockFs.mount.run.run host = (.ok mounted, start))
    (reached : Reaches (mounted, start) (current, last))
    (stepped : (Operation.writeInode number inode durability).step (current, last) =
      (answer, next, after)) :
    (∀ error, answer = .error error → after.disk = last.disk) ∧
    (∀ limit, Healthy limit last.device → number < mounted.superblock.inodes →
      (Inode.address number).block.toNat < limit → answer = .ok .done) ∧
    (∀ value, answer = .ok value →
      number < mounted.superblock.inodes ∧ RecordWritten number inode last.disk after.disk ∧
      1 ≤ (Inode.address number).block.toNat ∧
      ((Inode.address number).block.toNat ≤ mounted.superblock.inodeTableBlocks.toNat ↔
        number.toNat < inodesPerBlock * mounted.superblock.inodeTableBlocks.toNat) ∧
      (number.toNat < inodesPerBlock * mounted.superblock.inodeTableBlocks.toNat →
        ∀ index, index = superblockBlock.toNat ∨
          mounted.superblock.inodeTableBlocks.toNat < index →
          after.disk index = last.disk index)) ∧
    (mounted.TableFits ↔ ∀ number < mounted.superblock.inodes,
      (Inode.address number).block.toNat ≤ mounted.superblock.inodeTableBlocks.toNat) := by
  rcases reached.shaped (mount_eq_ok accepted).1 with ⟨shaped, same⟩
  have inodes : current.superblock.inodes = mounted.superblock.inodes :=
    congrArg Geometry.totalInodes same
  have positive : 1 ≤ (Inode.address number).block.toNat := by
    rw [toNat_address_block]
    exact Nat.le_add_right _ _
  refine ⟨?_, fun limit healthy inside covered => ?_, ?_, mounted.tableFits_iff⟩
  · rintro error rfl
    exact writeInode_refused shaped stepped
  · have room : blockSize ≤ last.bufferLimit := by
      rw [reached.alike.bufferLimit]
      exact room_of_mount accepted
    obtain ⟨_, _, completed, _⟩ :=
      step_writeInode inode durability healthy room (inodes ▸ inside) covered
    exact congrArg Prod.fst (stepped.symm.trans completed)
  · rintro value rfl
    rcases writeInode_written shaped stepped with ⟨inside, written⟩
    have confined := address_block_le_iff number mounted.superblock.inodeTableBlocks.toNat
    refine ⟨inodes ▸ inside, written, positive, confined, fun within index outside => ?_⟩
    have front := confined.mpr within
    have zero : superblockBlock.toNat = 0 := rfl
    exact written.others (by omega)

theorem writeInode_frame_least : ∃ (mounted next : Mount) (start after : Host RamDisk),
    (Operation.writeInode 61 (.root 5) .writeBack).step (mounted, start) =
        (.ok .done, next, after) ∧
      RecordWritten 61 (.root 5) start.disk after.disk ∧ mounted.TableFits ∧
      ∀ index, index = superblockBlock.toNat ∨ 2 < index →
        after.disk index = start.disk index := by
  obtain ⟨mirror, formatted, mounted, start, _, outcome, twin, accepted, _, healthy, _⟩ :=
    leastHost_session
  have same := twin.geometry_eq.trans (outcome.empty.geometry_eq outcome.planned)
  have inodes : mounted.superblock.inodes = 120 := congrArg Geometry.totalInodes same
  have table : mounted.superblock.inodeTableBlocks = 2 := congrArg Geometry.inodeTableBlocks same
  obtain ⟨next, after, stepped, _⟩ := step_writeInode (.root 5) .writeBack healthy
    (room_of_mount accepted)
    (show (61 : UInt32) < mounted.superblock.inodes by rw [inodes]; decide) (by decide)
  obtain ⟨_, _, wrote, _⟩ := writeInode_frame accepted .start stepped
  obtain ⟨_, written, _, _, kept⟩ := wrote _ rfl
  rw [table] at kept
  exact ⟨mounted, next, start, after, stepped, written,
    (outcome.empty.fits outcome.planned).of_twin twin, kept (by decide)⟩

/-- On a formatted disk every inode but the root directory's is marked as free. -/
theorem Formatted.bitAt_map {geometry : Geometry} {mirror : Mount}
    (formatted : Formatted geometry mirror disk) {position : Nat}
    (inside : position < geometry.totalInodes.toNat) :
    bitAt (disk (1 + geometry.inodeTableBlocks.toNat + position / bitsPerBlock)).bytes
      (position % bitsPerBlock) = decide (1 ≤ position) := by
  obtain rfl := formatted.empty.geometry_eq formatted.planned
  have within : position < mirror.superblock.inodeBitmapBlocks.toNat * bitsPerBlock := by
    rw [Nat.mul_comm]
    exact Nat.lt_of_lt_of_le inside formatted.planned.inodeBits
  obtain ⟨begin, begun, loaded⟩ := formatted.persisted.inodeBitmap
  have free := formatted.empty.bitAt_inodeBitmap position
  have held := (Bitmap.load_eq_ok_iff.mp loaded).2.2.2.2 position inside
  rw [bitAt_spanBytes within, Geometry.toNat_inodeBitmapStart begun] at held
  rw [← held, free, decide_eq_decide]
  exact and_iff_left inside

/-- A healed disk, one block of which was replaced by somebody else. -/
def Host.withBlock (host : Host RamDisk) (index : Nat) (block : Block) : Host RamDisk :=
  { host with device := { host.device.heal with
      image := host.device.image.setPage index block } }

theorem Host.disk_withBlock (host : Host RamDisk) (index : Nat) (block : Block) :
    (host.withBlock index block).disk = overlay host.disk index [block] := by
  funext other
  change (host.device.image.setPage _ _).page other = _
  rw [Image.page_setPage]
  by_cases here : other = index
  · rw [if_pos here, here, overlay_first]
  · rw [if_neg here, overlay_of_outside (by simp only [List.length_singleton]; omega)]
    rfl

/-- The smallest disk, formatted, is accepted with one other block in it as long as its superblock
is valid and it holds the metadata that the superblock tells of. -/
theorem leastHost_withBlock {index : Nat} {block : Block} {stored : Superblock}
    (decoded : Superblock.decode (((format.run.run leastHost).2.withBlock index block).disk
      superblockBlock.toNat).bytes = .ok stored) (valid : stored.validate = .ok ())
    (inodeBits : stored.inodes.toNat ≤ bitsPerBlock * stored.inodeBitmapBlocks.toNat)
    (blockBits : stored.blocks.toNat ≤ bitsPerBlock * stored.blockBitmapBlocks.toNat)
    (room : stored.geometry.HasData) (covered : stored.geometry.metadata < 101)
    (inodeRoom : stored.inodeBitmapBlocks.toNat ≤ 2)
    (blockRoom : stored.blockBitmapBlocks.toNat ≤ 2) :
    ∃ mounted start,
      BlockFs.mount.run.run ((format.run.run leastHost).2.withBlock index block) =
        (.ok mounted, start) ∧
      mounted.superblock = stored ∧ Healthy 101 start.device ∧
      start.disk = ((format.run.run leastHost).2.withBlock index block).disk := by
  obtain ⟨_, formatted, _, start, ran, _, _, _, kept, _, alike⟩ := leastHost_session
  rw [ran] at decoded ⊢
  have size : formatted.device.blockCount = 101 :=
    kept.blockCount.symm.trans alike.blockCount
  have limit : formatted.bufferLimit = 2 * blockSize :=
    kept.bufferLimit.symm.trans alike.bufferLimit
  have healthy : Healthy 101 (formatted.withBlock index block).device :=
    RamDisk.healthy rfl rfl (Nat.le_of_eq size.symm)
  have fits {blocks : Nat} (few : blocks ≤ 2) :
      blocks * blockSize ≤ (formatted.withBlock index block).bufferLimit :=
    Nat.le_trans (Nat.mul_le_mul_right blockSize few) (Nat.le_of_eq limit.symm)
  obtain ⟨copy, rfl, persisted⟩ := stored.persisted_exists room inodeBits blockBits decoded
  obtain ⟨_, begun, accepted, ready, untouched⟩ := persisted.completes_mount valid healthy
    covered (fits inodeRoom) (fits blockRoom)
  exact ⟨_, begun, accepted, rfl, ready, untouched.disk⟩

/-- The superblock of the smallest disk, but with inodes for three blocks in a table of two. -/
def overstatedSuperblock : Superblock where
  magic := formatMagic
  blocks := 101
  inodes := 180
  inodeTableBlocks := 2
  inodeBitmapBlocks := 1
  blockBitmapBlocks := 1
  freeInodes := 119
  freeBlocks := 95

/-- The smallest disk, formatted, with this superblock. -/
def overstatedHost : Host RamDisk :=
  (format.run.run leastHost).2.withBlock superblockBlock.toNat overstatedSuperblock.encode

theorem overstatedHost_accepted : ∃ mounted start,
    BlockFs.mount.run.run overstatedHost = (.ok mounted, start) ∧
      mounted.superblock = overstatedSuperblock ∧ Healthy 101 start.device ∧
      bitAt (start.disk 3).bytes 1 = true := by
  obtain ⟨mirror, formatted, _, _, ran, outcome, _⟩ := leastHost_session
  have decoded : Superblock.decode (overstatedHost.disk superblockBlock.toNat).bytes =
      .ok overstatedSuperblock := by
    rw [overstatedHost, Host.disk_withBlock, overlay_first]
    exact Superblock.decode_encode rfl
  obtain ⟨mounted, begun, accepted, same, ready, disk⟩ := leastHost_withBlock decoded rfl
    (by decide) (by decide) (show (5 : Nat) < 101 by decide) (by decide) (by decide) (by decide)
  have marked := outcome.bitAt_map (show 1 < leastGeometry.totalInodes.toNat by decide)
  have place : 1 + leastGeometry.inodeTableBlocks.toNat + 1 / bitsPerBlock = 3 := by decide
  have rank : 1 % bitsPerBlock = 1 := by decide
  rw [place, rank] at marked
  refine ⟨mounted, begun, accepted, same, ready, ?_⟩
  rw [disk, ran, Host.disk_withBlock, overlay_of_outside (.inr (by decide)), marked]
  rfl

/-- A mount accepts the disk, and a write of an inode then destroys the map of the inodes. -/
theorem writeInode_escapes : ∃ (mounted next : Mount) (start after : Host RamDisk),
    BlockFs.mount.run.run overstatedHost = (.ok mounted, start) ∧
      (Operation.writeInode 120 .blank .writeThrough).step (mounted, start) =
        (.ok .done, next, after) ∧
      mounted.geometry.inodeBitmapStart = .ok 3 ∧
      mounted.superblock.inodeTableBlocks.toNat < (Inode.address 120).block.toNat ∧
      after.disk 3 ≠ start.disk 3 := by
  obtain ⟨mounted, start, accepted, same, healthy, marked⟩ := overstatedHost_accepted
  obtain ⟨next, after, stepped, _⟩ := step_writeInode .blank .writeThrough healthy
    (room_of_mount accepted)
    (show (120 : UInt32) < mounted.superblock.inodes by rw [same]; decide) (by decide)
  refine ⟨mounted, next, start, after, accepted, stepped, ?_, ?_, fun unchanged => ?_⟩
  · rw [Mount.geometry, same]
    rfl
  · rw [same]
    decide
  · -- Bit 1 of the map was set, and is a bit of the blank record now.
    have written := (writeInode_written (mount_eq_ok accepted).1 stepped).2 3 0
    have put : byteAt (after.disk 3).bytes 0 = 0 := written.trans (if_pos (by decide))
    rw [unchanged] at put
    have cleared : bitAt (start.disk 3).bytes 1 = (byteAt (start.disk 3).bytes 0).toNat.testBit 1 :=
      rfl
    rw [cleared, put] at marked
    exact absurd marked (by decide)

end BlockFs
