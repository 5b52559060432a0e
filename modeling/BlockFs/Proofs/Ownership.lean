import BlockFs.Proofs.EmptyFilesystem
import BlockFs.Proofs.Session

namespace BlockFs

open Engine

namespace Session

variable {δ : Type} [BlockDevice δ] [LawfulBlockDevice δ] {first last : Session δ}
  {geometry : Geometry} {ledger : Ledger}

/-- Every operation of a run was one on a sound mount. -/
theorem Run.incident {trace before rest : List Incident} {incident : Incident}
    (run : Run first trace last) (sound : first.Sound geometry ledger)
    (split : trace = before ++ incident :: rest) :
    ∃ mount next disk changed, Mount.Tracked mount disk ∧
      mount.Sound geometry (ledger.replay before) ∧
      Change mount disk incident.1 incident.2 next changed := by
  -- The operation is the last one of the run, or one of the run before.
  induction run generalizing rest with
  | start => simp at split
  | @operate trace mount next _ _ operation answer run stepped ih =>
      obtain rfl | ⟨shorter, final, rfl⟩ := rest.eq_nil_or_concat
      · obtain ⟨rfl, same⟩ := List.append_inj' split rfl
        obtain ⟨tracked, sound⟩ := run.sound sound
        cases same
        exact ⟨mount, next, _, _, tracked, sound, step_change tracked.shaped stepped⟩
      · rw [List.concat_eq_append, ← List.cons_append, ← List.append_assoc] at split
        exact ih (List.append_inj' split rfl).1
  | mount _ _ ih => exact ih split
  | refuse _ _ ih => exact ih split
  | unmount _ _ _ ih => exact ih split
  | drop _ _ _ ih => exact ih split
  | disturb _ _ ih => exact ih split

end Session

def IsLowestUnused (used : UInt32 → Bool) (number : UInt32) : Prop :=
  used number = false ∧ ∀ lower < number, used lower = true

/-- A block that may be handed out: a data block of the device behind the reserved ones. -/
structure MayHandOutBlock (superblock : Superblock) (reserved : UInt32) (blockCount : Nat)
    (used : UInt32 → Bool) (number : UInt32) : Prop where
  lowest : IsLowestUnused used number
  notReserved : reserved ≤ number
  inside : number < superblock.blocks
  onDevice : number.toNat < blockCount

/-- An inode that may be handed out: its record lies in the inode table. -/
structure MayHandOutInode (superblock : Superblock) (used : UInt32 → Bool) (number : UInt32) :
    Prop where
  lowest : IsLowestUnused used number
  notRoot : rootInode < number
  inside : number < superblock.inodes
  firstBlock : Geometry.inodeTableStart ≤ (Inode.address number).block
  lastBlock : (Inode.address number).block ≤ superblock.inodeTableBlocks
  inBlock : (Inode.address number).offset + inodeSize ≤ blockSize

namespace Mount.Sound

variable {geometry : Geometry} {ledger : Ledger} {mount : Mount} {superblock : Superblock}
  {number : UInt32}

theorem mayHandOutBlock {reserved : UInt32} (sound : mount.Sound geometry ledger)
    (shaped : mount.Shaped) (found : mount.blockBitmap.firstFree = .ok number)
    (limit : geometry.reservedBlocks = .ok reserved) (same : superblock.geometry = geometry) :
    MayHandOutBlock superblock reserved geometry.totalBlocks.toNat ledger.blocks number := by
  have lowest := sound.blocks.least found
  have inside := (Bitmap.firstFree_eq_ok found).1
  rw [sound.blocks_length shaped] at inside
  refine ⟨lowest, ?_, ?_, UInt32.lt_iff_toNat_lt.mp inside⟩
  · rw [UInt32.le_iff_toNat_le, Geometry.toNat_reservedBlocks sound.planned.hasData limit]
    apply Nat.lt_of_not_le
    intro low
    have used := sound.reserved number low
    rw [lowest.1] at used
    contradiction
  · exact UInt32.lt_of_lt_of_le inside
      (UInt32.le_of_eq (congrArg Geometry.totalBlocks same).symm)

theorem mayHandOutInode {disk : Nat → Block} (sound : mount.Sound geometry ledger)
    (tracked : mount.Tracked disk) (found : mount.inodeBitmap.firstFree = .ok number)
    (same : superblock.geometry = geometry) :
    MayHandOutInode superblock ledger.inodes number := by
  have lowest := sound.inodes.least found
  have inside := (Bitmap.firstFree_eq_ok found).1
  have inodes : superblock.inodes = mount.superblock.inodes :=
    congrArg Geometry.totalInodes (same.trans sound.geometry_eq.symm)
  have table : superblock.inodeTableBlocks = mount.superblock.inodeTableBlocks :=
    congrArg Geometry.inodeTableBlocks (same.trans sound.geometry_eq.symm)
  rw [tracked.shaped.inodes.length] at inside
  obtain ⟨low, high⟩ := tracked.fits.address_block inside
  refine ⟨lowest, ?_, inodes ▸ inside, UInt32.le_iff_toNat_le.mpr low, ?_, address_offset_le number⟩
  · apply UInt32.lt_of_le_of_ne UInt32.zero_le
    rintro rfl
    exact Bool.false_ne_true (lowest.1.symm.trans sound.root)
  · rw [table, UInt32.le_iff_toNat_le]
    omega

end Mount.Sound

/-- What the history of a formatted device says about the units that were handed out. -/
structure Custody (superblock : Superblock) (reserved : UInt32) (blockCount : Nat)
    (trace : List Incident) : Prop where
  blocks : ∀ before number rest, trace = before ++ (.takeBlock, .ok (.number number)) :: rest →
    MayHandOutBlock superblock reserved blockCount
      ((Ledger.initial reserved).replay before).blocks number ∧
    ∀ middle later, rest = middle ++ (.takeBlock, .ok (.number number)) :: later →
      (.freeBlock number, .ok .done) ∈ middle
  inodes : ∀ before number rest, trace = before ++ (.takeInode, .ok (.number number)) :: rest →
    MayHandOutInode superblock ((Ledger.initial reserved).replay before).inodes number ∧
    ∀ middle later, rest = middle ++ (.takeInode, .ok (.number number)) :: later →
      (.freeInode number, .ok .done) ∈ middle

namespace Session.Run

variable {δ : Type} [BlockDevice δ] [LawfulBlockDevice δ] {first last : Session δ}
  {geometry : Geometry} {ledger : Ledger} {trace before rest : List Incident}
  {superblock : Superblock} {reserved number : UInt32}

theorem mayHandOutBlock (run : Run first trace last) (sound : first.Sound geometry ledger)
    (limit : geometry.reservedBlocks = .ok reserved) (same : superblock.geometry = geometry)
    (split : trace = before ++ (.takeBlock, .ok (.number number)) :: rest) :
    MayHandOutBlock superblock reserved geometry.totalBlocks.toNat (ledger.replay before).blocks
      number := by
  obtain ⟨_, _, _, _, tracked, atTake, change⟩ := run.incident sound split
  exact atTake.mayHandOutBlock tracked.shaped (change.firstFree .blocks) limit same

theorem mayHandOutInode (run : Run first trace last) (sound : first.Sound geometry ledger)
    (same : superblock.geometry = geometry)
    (split : trace = before ++ (.takeInode, .ok (.number number)) :: rest) :
    MayHandOutInode superblock (ledger.replay before).inodes number := by
  obtain ⟨_, _, _, _, tracked, atTake, change⟩ := run.incident sound split
  exact atTake.mayHandOutInode tracked (change.firstFree .inodes) same

theorem custody (run : Run first trace last) (sound : first.Sound geometry (.initial reserved))
    (limit : geometry.reservedBlocks = .ok reserved) (same : superblock.geometry = geometry) :
    Custody superblock reserved geometry.totalBlocks.toNat trace where
  blocks := by
    intro before number rest split
    refine ⟨run.mayHandOutBlock sound limit same split, ?_⟩
    rintro middle later rfl
    -- The block is free when it is taken again, so the ledger has let go of it since.
    rw [← List.cons_append, ← List.append_assoc] at split
    have unused := (run.mayHandOutBlock sound limit same split).lowest.1
    rw [Ledger.replay_append] at unused
    exact Ledger.mem_of_units_replay .blocks unused
  inodes := by
    intro before number rest split
    refine ⟨run.mayHandOutInode sound same split, ?_⟩
    rintro middle later rfl
    rw [← List.cons_append, ← List.append_assoc] at split
    have unused := (run.mayHandOutInode sound same split).lowest.1
    rw [Ledger.replay_append] at unused
    exact Ledger.mem_of_units_replay .inodes unused

end Session.Run

namespace Mount.Sound

variable {geometry : Geometry} {ledger : Ledger} {mount : Mount}

theorem test_root (sound : mount.Sound geometry ledger) (shaped : mount.Shaped) :
    mount.inodeBitmap.test rootInode = .ok false := by
  rw [Bitmap.test_of_lt (sound.root_inside shaped), sound.root_used shaped]

theorem test_metadata (sound : mount.Sound geometry ledger) (shaped : mount.Shaped)
    {number : UInt32} (low : number.toNat ≤ geometry.metadata) :
    mount.blockBitmap.test number = .ok false := by
  rw [Bitmap.test_of_lt (sound.metadata_inside shaped low), sound.metadata_used shaped low]

end Mount.Sound

/-- What is handed out is free, and metadata never are, whatever was done to a formatted device. -/
theorem custody_of_run {δ : Type} [BlockDevice δ] [LawfulBlockDevice δ] {host start : Host δ}
    {superblock : Superblock} {trace : List Incident} {last : Session δ}
    (whole : BlockDevice.byteSize host.device / blockSize = BlockDevice.blockCount host.device)
    (formatted : format.run.run host = (.ok superblock, start))
    (run : Session.Run (.idle start) trace last) :
    ∃ reserved, superblock.geometry.reservedBlocks = .ok reserved ∧
      Custody superblock reserved (BlockDevice.blockCount host.device) trace ∧
      ∀ mount after, last = .active mount after →
        mount.inodeBitmap.test rootInode = .ok false ∧
        ∀ number < reserved, mount.blockBitmap.test number = .ok false := by
  obtain ⟨geometry, mirror, sized, rfl, outcome⟩ := format_eq_ok formatted
  have same : mirror.superblock.geometry = geometry := outcome.empty.geometry_eq outcome.planned
  obtain ⟨reserved, limit, place⟩ := Geometry.reservedBlocks_exists outcome.planned.hasData
  have sound := outcome.sound limit
  have custody : Custody mirror.superblock reserved geometry.totalBlocks.toNat trace :=
    run.custody sound limit same
  rw [(Geometry.ofSize_planned sized).2.trans whole] at custody
  refine ⟨reserved, same.symm ▸ limit, custody, ?_⟩
  rintro mount after rfl
  obtain ⟨tracked, atEnd⟩ := run.sound sound
  refine ⟨atEnd.test_root tracked.shaped, fun number before => ?_⟩
  apply atEnd.test_metadata tracked.shaped
  have bound := UInt32.lt_iff_toNat_lt.mp before
  omega

theorem custody_of_run_least : ∃ (mounted : Mount) (formatted start : Host RamDisk)
    (superblock : Superblock) (reserved : UInt32),
    format.run.run leastHost = (.ok superblock, formatted) ∧
      mount.run.run formatted = (.ok mounted, start) ∧
      superblock.geometry.reservedBlocks = .ok reserved ∧
      Custody superblock reserved (minBlocks + 1)
        [(.takeBlock, (Operation.takeBlock.step (mounted, start)).1)] := by
  obtain ⟨superblock, formatted, mounted, start, ran, accepted, _⟩ := leastHost_mounts
  have run : Session.Run (.idle formatted)
      [(.takeBlock, (Operation.takeBlock.step (mounted, start)).1)] _ :=
    .operate (.mount .start accepted) rfl
  obtain ⟨reserved, limit, custody, _⟩ := custody_of_run (by decide) ran run
  exact ⟨mounted, formatted, start, superblock, reserved, ran, accepted, limit, custody⟩

end BlockFs
