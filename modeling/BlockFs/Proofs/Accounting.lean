import BlockFs.Proofs.EmptyFilesystem
import BlockFs.Proofs.Session

namespace BlockFs

/-- A counter of the free units of a map. -/
structure Bitmap.Counted (bitmap : Bitmap) (counter units : UInt32) : Prop where
  length : bitmap.length = units
  free : counter.toNat = (List.range units.toNat).countP (bitAt bitmap.bytes)
  countFree : bitmap.countFree = counter.toNat

namespace Mount

/-- The counters of a mount are exact: they agree with the maps, no sum or difference of them has
saturated, and they tell when nothing is left. -/
structure Lockstep (mount : Mount) : Prop where
  inodes : mount.inodeBitmap.Counted mount.superblock.freeInodes mount.superblock.inodes
  blocks : mount.blockBitmap.Counted mount.superblock.freeBlocks mount.superblock.blocks
  inodesLeft : mount.superblock.freeInodes < mount.superblock.inodes
  blocksLeft : mount.superblock.freeBlocks < mount.geometry.dataBlocks
  files : mount.stats.files.toNat = (List.range mount.superblock.inodes.toNat).countP
    fun index => !bitAt mount.inodeBitmap.bytes index
  filesExact : mount.stats.files.toNat + mount.superblock.freeInodes.toNat =
    mount.superblock.inodes.toNat
  takenInode : ∀ number next, mount.takeInode = .ok (number, next) →
    next.superblock.freeInodes.toNat + 1 = mount.superblock.freeInodes.toNat
  freedInode : ∀ number next, mount.freeInode number = .ok (some next) →
    next.superblock.freeInodes.toNat = mount.superblock.freeInodes.toNat + 1
  takenBlock : ∀ number next, mount.takeBlock = .ok (number, next) →
    next.superblock.freeBlocks.toNat + 1 = mount.superblock.freeBlocks.toNat
  freedBlock : ∀ number next, mount.freeBlock number = .ok (some next) →
    next.superblock.freeBlocks.toNat = mount.superblock.freeBlocks.toNat + 1
  noInodes : mount.takeInode = .error .exhausted ↔ mount.superblock.freeInodes = 0
  noBlocks : mount.takeBlock = .error .exhausted ↔ mount.superblock.freeBlocks = 0
  takeInodeError : ∀ error, mount.takeInode = .error error → error = .exhausted
  takeBlockError : ∀ error, mount.takeBlock = .error error → error = .exhausted

end Mount

namespace Bitmap.Agrees

variable {bitmap after : Bitmap} {counter number units : UInt32} {used : UInt32 → Bool}

theorem count (agrees : bitmap.Agrees counter used) (tight : bitmap.Sealed)
    (length : bitmap.length = units) : bitmap.Counted counter units := by
  refine ⟨length, ?_, ?_⟩
  · rw [agrees.counted, freeUnits, length]
  · rw [countFree_eq_freeUnits tight, agrees.counted]

theorem pred_exact (agrees : bitmap.Agrees counter used) (found : bitmap.firstFree = .ok number) :
    (saturatingPred counter).toNat + 1 = counter.toNat := by
  have positive := freeUnits_pos found
  rw [toNat_saturatingPred, agrees.counted]
  exact Nat.sub_add_cancel positive

theorem succ_exact (agrees : bitmap.Agrees counter used)
    (wasUsed : bitAt bitmap.bytes number.toNat = false)
    (assigned : bitmap.Assigns after number true) :
    (saturatingSucc counter).toNat = counter.toNat + 1 := by
  rw [(agrees.give wasUsed assigned).counted, assigned.freeUnits_give wasUsed, agrees.counted]

theorem exhausted_iff (agrees : bitmap.Agrees counter used) :
    bitmap.firstFree = .error .exhausted ↔ counter = 0 := by
  rw [firstFree_eq_exhausted_iff, ← agrees.counted]
  exact UInt32.toNat_inj (b := 0)

end Bitmap.Agrees

namespace Mount.Sound

variable {geometry : Geometry} {ledger : Ledger} {mount : Mount}

theorem freeInodes_lt (sound : mount.Sound geometry ledger) (shaped : mount.Shaped) :
    mount.superblock.freeInodes < mount.superblock.inodes := by
  have bound := mount.inodeBitmap.freeUnits_le_of_used 1 fun index low => by
      obtain rfl : index = 0 := by omega
      exact sound.root_used shaped
  have positive := sound.planned.inodes_pos
  rw [← sound.inodes_length shaped] at positive
  rw [UInt32.lt_iff_toNat_lt, ← shaped.inodes.length, sound.inodes.counted]
  omega

theorem freeBlocks_lt (sound : mount.Sound geometry ledger) (shaped : mount.Shaped) :
    mount.superblock.freeBlocks < mount.geometry.dataBlocks := by
  have room : geometry.metadata < geometry.totalBlocks.toNat := sound.planned.hasData
  have word := geometry.totalBlocks.toNat_lt
  -- The block behind the metadata, which lists the root directory, is never free.
  have bound := mount.blockBitmap.freeUnits_le_of_used (geometry.metadata + 1)
    fun index low => by
      have exact : (UInt32.ofNat index).toNat = index :=
        toNat_ofNat_of_lt (show index < 2 ^ 32 by omega)
      rw [← exact]
      exact sound.metadata_used shaped (by omega)
  rw [sound.blocks_length shaped] at bound
  have filled := sound.planned.blocks
  rw [UInt32.lt_iff_toNat_lt, sound.blocks.counted, sound.geometry_eq]
  omega

theorem lockstep (sound : mount.Sound geometry ledger) (shaped : mount.Shaped) :
    mount.Lockstep := by
  have inodesLeft := sound.freeInodes_lt shaped
  have counted := sound.inodes.counted
  have usedInodes := mount.inodeBitmap.countP_used
  rw [shaped.inodes.length, ← counted] at usedInodes
  have files : mount.stats.files.toNat =
      mount.superblock.inodes.toNat - mount.superblock.freeInodes.toNat :=
    toNat_ofNat_of_lt (Nat.lt_of_le_of_lt (Nat.sub_le _ _) mount.superblock.inodes.toNat_lt)
  exact {
    inodes := sound.inodes.count shaped.inodes.tight shaped.inodes.length
    blocks := sound.blocks.count shaped.blocks.tight shaped.blocks.length
    inodesLeft
    blocksLeft := sound.freeBlocks_lt shaped
    files := by omega
    filesExact := by omega
    takenInode := by
      intro number next taken
      obtain ⟨_, found, _, rfl⟩ := Pool.inodes.takes_eq_ok taken
      exact sound.inodes.pred_exact found
    freedInode := by
      intro number next freed
      rw [← Pool.gives_inodes] at freed
      obtain ⟨_, _, _, _, ⟨_, failed⟩ | ⟨used, bitmap, assigned, done⟩⟩ :=
        Pool.inodes.gives_eq_ok freed
      · cases failed
      · cases done
        exact sound.inodes.succ_exact used assigned
    takenBlock := by
      intro number next taken
      obtain ⟨_, found, _, rfl⟩ := Pool.blocks.takes_eq_ok taken
      exact sound.blocks.pred_exact found
    freedBlock := by
      intro number next freed
      obtain ⟨_, _, _, _, ⟨_, failed⟩ | ⟨used, bitmap, assigned, done⟩⟩ :=
        Pool.blocks.gives_eq_ok freed
      · cases failed
      · cases done
        exact sound.blocks.succ_exact used assigned
    noInodes := Pool.inodes.takes_eq_error.trans sound.inodes.exhausted_iff
    noBlocks := Pool.blocks.takes_eq_error.trans sound.blocks.exhausted_iff
    takeInodeError := fun error failed =>
      (Bitmap.firstFree_eq_error (Pool.inodes.takes_eq_error.mp failed)).1
    takeBlockError := fun error failed =>
      (Bitmap.firstFree_eq_error (Pool.blocks.takes_eq_error.mp failed)).1 }

end Mount.Sound

/-- The counters of every mount of a formatted device are exact, after whatever was done to it. -/
theorem lockstep_of_run {δ : Type} [BlockDevice δ] [LawfulBlockDevice δ]
    {host start last : Host δ} {superblock : Superblock} {trace : List Incident} {mount : Mount}
    (formatted : format.run.run host = (.ok superblock, start))
    (run : Session.Run (.idle start) trace (.active mount last)) : mount.Lockstep := by
  obtain ⟨geometry, ledger, tracked, sound⟩ := run.sound_of_format formatted
  exact sound.lockstep tracked.shaped

theorem lockstep_of_run_least : ∃ (mounted : Mount) (formatted start : Host RamDisk)
    (superblock : Superblock), format.run.run leastHost = (.ok superblock, formatted) ∧
      mount.run.run formatted = (.ok mounted, start) ∧
      (Operation.takeBlock.step (mounted, start)).2.1.Lockstep := by
  obtain ⟨superblock, formatted, mounted, start, ran, accepted, _⟩ := leastHost_mounts
  exact ⟨mounted, formatted, start, superblock, ran, accepted,
    lockstep_of_run ran (.operate (.mount .start accepted) rfl)⟩

end BlockFs
