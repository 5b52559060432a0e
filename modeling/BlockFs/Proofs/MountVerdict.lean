import BlockFs.Proofs.EmptyFilesystem
import BlockFs.Proofs.Mount.Demands

namespace BlockFs

open Engine

/-- Devices that fail to read exactly the blocks of a set, each with its cause, however often they
are read. -/
structure Unreadable {δ : Type} [BlockDevice δ] (causes : Nat → Option DeviceError)
    (devices : δ → Prop) : Prop where
  stays {device : δ} (member : devices device) (block : UInt32) :
    devices (BlockDevice.read device block blockSize).2
  fails {device : δ} {block : UInt32} {cause : DeviceError} (member : devices device) :
    (BlockDevice.read device block blockSize).1 = .error cause ↔ causes block.toNat = some cause

theorem Unreadable.readings {δ : Type} [BlockDevice δ] {causes : Nat → Option DeviceError}
    {devices : δ → Prop} (unreadable : Unreadable causes devices) :
    Readings (causes · = none) (causes · = some ·) devices where
  stays := unreadable.stays
  served {device block found} member read := by
    cases absent : causes block.toNat with
    | none => rfl
    | some cause => cases read.symm.trans ((unreadable.fails member).mpr absent)
  refused member failed := (unreadable.fails member).mp failed

namespace RamDisk

/-- Why a block of the disk cannot be read: it is past the end, or told to fail. -/
def causes (disk : RamDisk) (block : Nat) : Option DeviceError :=
  if disk.blockCount ≤ block then some (.pastEnd (.ofNat block) disk.blockCount)
  else if disk.failingReads.contains block then some (.injected .read)
  else none

theorem unreadable (disk : RamDisk) : Unreadable disk.causes (· = disk) where
  stays member _ := member
  fails {device block cause} member := by
    subst member
    simp only [BlockDevice.read, RamDisk.read, BlockDevice.checkTransfer, causes,
      UInt32.ofNat_toNat]
    by_cases outside : device.blockCount ≤ block.toNat
    · rw [if_pos outside, if_pos outside, Except.error.injEq, Option.some.injEq]
    · rw [if_neg outside, if_neg outside, if_pos trivial]
      dsimp only
      split
      · rw [Except.error.injEq, Option.some.injEq]
      · exact ⟨nofun, nofun⟩

end RamDisk

/-- What there is to say against a demand when some blocks cannot be read. -/
def Demand.objection (causes : Nat → Option DeviceError) : Demand → Option Error
  | .check objection => objection
  | .read region block => (causes block).map (.device region)

variable {causes : Nat → Option DeviceError}

theorem Demand.Yields.objection_eq {demand : Demand} {outcome : Option Error}
    (yields : demand.Yields (causes · = none) (causes · = some ·) outcome) :
    demand.objection causes = outcome := by
  cases yields with
  | check => rfl
  | served serve => rw [Demand.objection, serve, Option.map_none]
  | refused refuse => rw [Demand.objection, refuse, Option.map_some]

theorem Follows.first_objection {demands : List Demand} {outcome : Option Error}
    (follows : Follows (causes · = none) (causes · = some ·) demands outcome) :
    demands.findSome? (·.objection causes) = outcome := by
  induction follows with
  | nil => rfl
  | refuse yields => rw [List.findSome?_cons, yields.objection_eq]
  | pass yields _ ih => rw [List.findSome?_cons, yields.objection_eq, ih]

/-- A superblock that a mount accepts while some blocks of the device cannot be read. -/
structure Superblock.WellFormed (superblock : Superblock) (causes : Nat → Option DeviceError) :
    Prop where
  readable : causes 0 = none
  magic : superblock.magic = formatMagic
  room : superblock.metadataBlocks < superblock.blocks.toNat
  freeInodes : superblock.freeInodes.toNat < superblock.inodes.toNat
  freeBlocks : superblock.freeBlocks.toNat < superblock.blocks.toNat - superblock.metadataBlocks
  inodeBitmap : ∀ index < superblock.inodeBitmapBlocks.toNat,
    causes (1 + superblock.inodeTableBlocks.toNat + index) = none
  inodeBits : superblock.inodes.toNat ≤ bitsPerBlock * superblock.inodeBitmapBlocks.toNat
  blockBitmap : ∀ index < superblock.blockBitmapBlocks.toNat,
    causes (1 + superblock.inodeTableBlocks.toNat + superblock.inodeBitmapBlocks.toNat + index) =
      none
  blockBits : superblock.blocks.toNat ≤ bitsPerBlock * superblock.blockBitmapBlocks.toNat
  inodeTable : causes 1 = none

namespace Demand

theorem objection_that {holds : Prop} [Decidable holds] {error : Error} :
    (that holds error).objection causes = none ↔ holds := by
  rw [that, objection]
  split <;> simp_all

theorem objection_read {region : Region} {block : Nat} :
    (read region block).objection causes = none ↔ causes block = none :=
  Option.map_eq_none_iff

theorem objection_span {region : Region} {start count : Nat} :
    (∀ demand ∈ span region start count, demand.objection causes = none) ↔
      ∀ index < count, causes (start + index) = none := by
  induction count generalizing start with
  | zero => exact ⟨fun _ _ => nofun, fun _ _ => nofun⟩
  | succ count ih =>
      rw [span, List.forall_mem_cons, objection_read, ih]
      constructor
      · rintro ⟨first, others⟩ index inside
        cases index with
        | zero => exact first
        | succ index =>
            rw [Nat.add_succ, ← Nat.succ_add]
            exact others index (Nat.lt_of_succ_lt_succ inside)
      · intro all
        refine ⟨all 0 (Nat.zero_lt_succ count), fun index inside => ?_⟩
        have later := all (index + 1) (Nat.succ_lt_succ inside)
        rwa [Nat.add_succ, ← Nat.succ_add] at later

theorem objection_map {region : Region} {start blocks length : Nat} :
    (∀ demand ∈ map region start blocks length, demand.objection causes = none) ↔
      (∀ index < blocks, causes (start + index) = none) ∧ length ≤ bitsPerBlock * blocks := by
  rw [map, List.forall_mem_append, objection_span, List.forall_mem_singleton, objection_that]

end Demand

theorem Mount.demands_met_iff {disk : Nat → Block} :
    (demands disk).findSome? (·.objection causes) = none ↔
      (Superblock.found (disk 0)).WellFormed causes := by
  rw [List.findSome?_eq_none_iff]
  unfold demands Demand.sizes
  simp only [List.forall_mem_cons, List.forall_mem_append, Demand.objection_that,
    Demand.objection_read, Demand.objection_map]
  constructor
  · rintro ⟨readable, magic, ⟨room, freeInodes, freeBlocks, _⟩, ⟨inodeBitmap, inodeBits⟩,
      ⟨blockBitmap, blockBits⟩, inodeTable, _⟩
    exact ⟨readable, magic, room, freeInodes, freeBlocks, inodeBitmap, inodeBits, blockBitmap,
      blockBits, inodeTable⟩
  · rintro ⟨readable, magic, room, freeInodes, freeBlocks, inodeBitmap, inodeBits, blockBitmap,
      blockBits, inodeTable⟩
    exact ⟨readable, magic, ⟨room, freeInodes, freeBlocks, nofun⟩, ⟨inodeBitmap, inodeBits⟩,
      ⟨blockBitmap, blockBits⟩, inodeTable, nofun⟩

/-- A mount that was read off a disk and not used yet. -/
structure Mount.Mirrors (mount : Mount) (disk : Nat → Block) : Prop where
  superblock : mount.superblock = Superblock.found (disk 0)
  inodeBitmap : mount.inodeBitmap.Copies
    (spanBytes disk (1 + mount.superblock.inodeTableBlocks.toNat)
      mount.superblock.inodeBitmapBlocks.toNat) mount.superblock.inodes
  blockBitmap : mount.blockBitmap.Copies
    (spanBytes disk (1 + mount.superblock.inodeTableBlocks.toNat +
      mount.superblock.inodeBitmapBlocks.toNat) mount.superblock.blockBitmapBlocks.toNat)
    mount.superblock.blocks
  root : (window (disk 1).bytes 0 inodeSize >>= Inode.decode) = .ok mount.root
  generation : mount.generation = 0
  synced : mount.synced = 0

variable {δ : Type} [BlockDevice δ] [LawfulBlockDevice δ] {devices : δ → Prop} {host : Host δ}

theorem mirrors_of_mount {mounted : Mount} {after : Host δ}
    (accepted : mount.run.run host = (.ok mounted, after)) : mounted.Mirrors host.disk := by
  obtain ⟨_, persisted, _, root, generation, synced⟩ := mount_eq_ok accepted
  obtain ⟨superblock, ⟨inodeStart, inodeBegun, inodes⟩, blockStart, blockBegun, blocks⟩ := persisted
  rw [Geometry.toNat_inodeBitmapStart inodeBegun] at inodes
  rw [Geometry.toNat_blockBitmapStart blockBegun] at blocks
  refine ⟨?_, Bitmap.copies_of_load inodes, Bitmap.copies_of_load blocks, root, generation, synced⟩
  rw [Superblock.decode_eq_found] at superblock
  split at superblock
  · exact (Except.ok.inj superblock).symm
  · cases superblock

/-- Blocks that the device does not have are among those that cannot be read. -/
theorem Unreadable.pastEnd (unreadable : Unreadable causes devices) (member : devices host.device)
    {block : UInt32} (outside : BlockDevice.blockCount host.device ≤ block.toNat) :
    causes block.toNat = some (.pastEnd block (BlockDevice.blockCount host.device)) :=
  (unreadable.fails member).mp (LawfulBlockDevice.checkTransfer_read (if_pos outside))

/-- A mount accepts exactly the well-formed disks, names the first defect of the others, and mirrors
what it accepted. -/
theorem mount_verdict (unreadable : Unreadable causes devices) (member : devices host.device)
    (memory : ∀ bytes, (mount.run.run host).1 ≠ .error (.outOfMemory bytes)) :
    ((∃ mounted, (mount.run.run host).1 = .ok mounted) ↔
      (Superblock.found (host.disk 0)).WellFormed causes) ∧
    (∀ error, (mount.run.run host).1 = .error error ↔
      (Mount.demands host.disk).findSome? (·.objection causes) = some error) ∧
    (∀ block : UInt32, BlockDevice.blockCount host.device ≤ block.toNat →
      causes block.toNat = some (.pastEnd block (BlockDevice.blockCount host.device))) ∧
    ∀ mounted, (mount.run.run host).1 = .ok mounted → mounted.Mirrors host.disk := by
  rw [← Mount.demands_met_iff]
  cases ran : mount.run.run host with
  | mk answer after =>
      rw [ran] at memory
      obtain ⟨_, _, outcome⟩ := meets_mount unreadable.readings member answer after ran
      cases answer with
      | ok mounted =>
          have met := outcome.1.first_objection
          refine ⟨⟨fun _ => met, fun _ => ⟨mounted, rfl⟩⟩, fun error => ⟨nofun, fun objected => ?_⟩,
            fun _ => unreadable.pastEnd member, fun other same => ?_⟩
          · cases met.symm.trans objected
          · cases same
            exact mirrors_of_mount ran
      | error error =>
          obtain ⟨bytes, rfl, _⟩ | follows := outcome
          · exact absurd rfl (memory bytes)
          · have objected := follows.first_objection
            refine ⟨⟨nofun, fun met => ?_⟩, fun other => ?_,
              fun _ => unreadable.pastEnd member, nofun⟩
            · cases met.symm.trans objected
            · rw [objected, Except.error.injEq, Option.some.injEq]

theorem mount_verdict_least : ∃ (formatted : Host RamDisk) (mounted : Mount),
    (mount.run.run formatted).1 = .ok mounted ∧
      (Superblock.found (formatted.disk 0)).WellFormed formatted.device.causes ∧
      mounted.Mirrors formatted.disk := by
  obtain ⟨_, formatted, mounted, start, _, accepted, _⟩ := leastHost_mounts
  have answered : (mount.run.run formatted).1 = .ok mounted := by rw [accepted]
  obtain ⟨wellFormed, _, _, mirrors⟩ := mount_verdict formatted.device.unreadable rfl
    fun bytes => by rw [answered]; exact nofun
  exact ⟨formatted, mounted, answered, wellFormed.mp ⟨mounted, answered⟩, mirrors mounted answered⟩

end BlockFs
