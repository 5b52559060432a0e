import BlockFs.Proofs.EmptyFilesystem
import BlockFs.Proofs.Lives
import BlockFs.Proofs.Mount.InPlace
import BlockFs.Proofs.Mount.SyncRow

/-!
A counter that goes past its bound.

When a sync stops behind the superblock the counter of free inodes is the new one and the map the
old one.  An inode that was given back is then used on the disk and counted as free.  Giving it back
once more counts it a second time, and the counter reaches the number of all inodes.
-/

namespace BlockFs

open Engine

namespace Mount

variable {mount : Mount} {number : UInt32}

theorem takes_of_left (pool : Pool) (left : 0 < (pool.map mount).freeUnits) :
    ∃ number bitmap, (pool.map mount).firstFree = .ok number ∧
      (pool.map mount).Assigns bitmap number false ∧
      pool.takes mount = .ok (number, pool.assign bitmap saturatingPred mount) := by
  obtain ⟨_, failed, _⟩ | taken := pool.takes_cases mount
  · exact absurd (Bitmap.freeUnits_eq_zero failed) (Nat.ne_of_gt left)
  · exact taken

/-- An inode that is in use and can be given back, behind counters that a mount accepts. -/
structure Uses (mount : Mount) (number : UInt32) : Prop where
  valid : mount.superblock.validate = .ok ()
  notRoot : number ≠ rootInode
  inside : number < mount.inodeBitmap.length
  used : bitAt mount.inodeBitmap.bytes number.toNat = false

end Mount

variable {δ : Type} [BlockDevice δ] {mount next mirror : Mount} {host after : Host δ}
  {number : UInt32} {geometry : Geometry}

/-- A device whose calls all succeed and which holds the metadata of a mount. -/
structure Rests (geometry : Geometry) (mirror : Mount) (host : Host δ) : Prop where
  geometry_eq : mirror.geometry = geometry
  shaped : mirror.Shaped
  persisted : mirror.Persisted host.disk
  healthy : Healthy geometry.totalBlocks.toNat host.device
  buffers : geometry.BuffersFit host.bufferLimit

theorem Rests.withEvents (rests : Rests geometry mirror host) (events : Array Event) :
    Rests geometry mirror { host with events } :=
  ⟨rests.geometry_eq, rests.shaped, rests.persisted, rests.healthy, rests.buffers⟩

namespace Rests

theorem room (rests : Rests geometry mirror host) (some : 0 < mirror.superblock.inodes) :
    blockSize ≤ host.bufferLimit := by
  obtain ⟨rfl, _, persisted, _, buffers⟩ := rests
  obtain ⟨_, _, loaded⟩ := persisted.inodeBitmap
  exact room_of_load loaded some buffers.inodes

variable [LawfulBlockDevice δ] {first : Session δ}

theorem mounts (rests : Rests geometry mirror host)
    (valid : mirror.superblock.validate = .ok ()) :
    ∃ mounted after, BlockFs.mount.run.run host = (.ok mounted, after) ∧
      Rests geometry mounted after ∧ mounted.superblock = mirror.superblock ∧
      mounted.inodeBitmap = mirror.inodeBitmap := by
  obtain ⟨rfl, shaped, persisted, healthy, buffers⟩ := rests
  obtain ⟨root, after, ran, stays, untouched⟩ :=
    persisted.completes_mount valid healthy shaped.room buffers.inodes buffers.blocks
  rw [← untouched.disk] at persisted
  rw [← untouched.bufferLimit] at buffers
  have twin : mirror.Twin { mirror with root, generation := 0, synced := 0 } := ⟨rfl, rfl, rfl⟩
  exact ⟨_, after, ran,
    ⟨rfl, shaped.of_twin twin, persisted.of_twin twin, stays, buffers⟩, rfl, rfl⟩

/-- Unmounting what was changed in memory puts it on the disk. -/
theorem unmounts (rests : Rests geometry mirror host) (shaped : mount.Shaped)
    (same : mount.geometry = geometry) :
    ∃ after, (Ending.unmount.finish mount).run.run host = (.ok (), after) ∧
      Rests geometry mount after := by
  subst same
  obtain ⟨after, ended, stays, alike⟩ :=
    completes_unmount rests.healthy shaped (Nat.le_of_lt shaped.room)
  refine ⟨after, ended, rfl, shaped, ?_, stays, ?_⟩
  · obtain ⟨synced, between, ran, reported⟩ := bind_eq_ok ended
    rw [((untouched_report _).of_run reported).disk]
    exact persisted_of_sync shaped ran
  · rw [alike.bufferLimit]
    exact rests.buffers

/-- A mount that takes an inode and is unmounted. -/
theorem takes (rests : Rests geometry mirror host)
    (lives : Session.Lives first (.idle host)) (valid : mirror.superblock.validate = .ok ())
    (left : 0 < mirror.inodeBitmap.freeUnits)
    (rootUsed : bitAt mirror.inodeBitmap.bytes rootInode.toNat = false) :
    ∃ number changed after, Session.Lives first (.idle after) ∧ Rests geometry changed after ∧
      changed.Uses number ∧ changed.superblock = { mirror.superblock with
        freeInodes := saturatingPred mirror.superblock.freeInodes } := by
  obtain ⟨mounted, used, accepted, inUse, superblock, inodeBitmap⟩ := rests.mounts valid
  rw [← superblock] at valid ⊢
  rw [← inodeBitmap] at left rootUsed
  obtain ⟨number, bitmap, found, assigned, taken⟩ := Mount.takes_of_left .inodes left
  obtain ⟨inside, free, _⟩ := Bitmap.firstFree_eq_ok found
  have shaped := inUse.shaped.assign .inodes assigned saturatingPred
  obtain ⟨after, ended, settled⟩ := (inUse.withEvents _).unmounts shaped inUse.geometry_eq
  refine ⟨number, _, after,
    ((lives.mount accepted).operate (Pool.inodes.step_take_of_ok used taken)).finish ended,
    settled, ?_, rfl⟩
  obtain ⟨_, fewer, fits⟩ := Superblock.validate_eq_ok valid
  refine ⟨Superblock.validate_of ?_ fits, ?_, ?_, ?_⟩
  · rw [UInt32.lt_iff_toNat_lt] at fewer ⊢
    change (saturatingPred mounted.superblock.freeInodes).toNat < mounted.superblock.inodes.toNat
    rw [toNat_saturatingPred]
    exact Nat.lt_of_le_of_lt (Nat.sub_le _ _) fewer
  · rintro rfl
    exact absurd (rootUsed.symm.trans free) Bool.false_ne_true
  · exact assigned.length ▸ inside
  · exact (assigned.bits _).trans (if_pos rfl)

/-- A mount that gives an inode back. -/
theorem gives (rests : Rests geometry mirror host)
    (lives : Session.Lives first (.idle host)) (uses : mirror.Uses number) :
    ∃ mounted next used, Session.Lives first (.active next used) ∧ Rests geometry mounted used ∧
      mounted.superblock = mirror.superblock ∧ mounted.inodeBitmap = mirror.inodeBitmap ∧
      next.Shaped ∧ next.superblock = { mirror.superblock with
        freeInodes := saturatingSucc mirror.superblock.freeInodes } := by
  obtain ⟨valid, notRoot, inside, used⟩ := uses
  obtain ⟨mounted, after, accepted, inUse, superblock, inodeBitmap⟩ := rests.mounts valid
  rw [← inodeBitmap] at inside used
  have behind := Pool.behind_root_iff.mpr notRoot
  obtain ⟨bitmap, assigned, freed⟩ := Pool.inodes.gives_exists rfl behind inside used
  refine ⟨mounted, _, _, (lives.mount accepted).operate (Pool.inodes.step_give_of_some after freed),
    inUse.withEvents _, superblock, inodeBitmap, inUse.shaped.assign .inodes assigned _, ?_⟩
  rw [← superblock]
  rfl

/-- When the counter is as high as a mount accepts, though an inode beside the root's is in use,
giving that one back makes the device refuse the next mount. -/
theorem refuses (rests : Rests geometry mirror host)
    (lives : Session.Lives first (.idle host)) (uses : mirror.Uses number)
    (full : mirror.superblock.freeInodes.toNat + 1 = mirror.superblock.inodes.toNat) :
    ∃ last : Host δ, Session.Lives first (.idle last) ∧
      Healthy geometry.totalBlocks.toNat last.device ∧ (BlockFs.mount.run.run last).1 =
        .error (.outOfRange mirror.superblock.inodes.toNat mirror.superblock.inodes.toNat) := by
  obtain ⟨mounted, next, used, lives, inUse, _, _, shaped, counter⟩ := rests.gives lives uses
  have same : next.geometry = geometry := by
    rw [← rests.geometry_eq, Mount.geometry, counter]
    rfl
  obtain ⟨last, ended, settled⟩ := inUse.unmounts shaped same
  have inodes : next.superblock.inodes = mirror.superblock.inodes := by rw [counter]
  have counted : next.superblock.freeInodes.toNat = next.superblock.inodes.toNat := by
    have word := mirror.superblock.inodes.toNat_lt
    rw [counter]
    exact (toNat_saturatingSucc (by rw [full]; exact word)).trans full
  have refused := Superblock.validate_of_inodes (Superblock.dataBlocks_ne_zero shaped.room)
    (UInt32.le_iff_toNat_le.mpr (Nat.le_of_eq counted.symm))
  have covered : superblockBlock.toNat < geometry.totalBlocks.toNat :=
    Nat.zero_lt_of_lt (same ▸ shaped.room)
  have room := settled.room (UInt32.lt_iff_toNat_lt.mpr (by
    rw [inodes, ← full]
    exact Nat.succ_pos _))
  obtain ⟨_, ran⟩ :=
    mount_refuses settled.persisted.superblock refused settled.healthy room covered
  exact ⟨last, lives.finish ended, settled.healthy, by rw [ran, counted, inodes]⟩

end Rests

/-- The metadata of a mount but for the counter of free inodes. -/
def Mount.recount (mount : Mount) (freeInodes : UInt32) : Mount :=
  { mount with superblock := { mount.superblock with freeInodes } }

theorem Mount.Shaped.recount (shaped : mount.Shaped) (freeInodes : UInt32) :
    (mount.recount freeInodes).Shaped :=
  ⟨shaped.magic, shaped.room, shaped.inodes, shaped.blocks⟩

theorem Mount.Persisted.recount {disk : Nat → Block} (persisted : mount.Persisted disk)
    (magic : mount.superblock.magic = formatMagic) (freeInodes : UInt32) :
    (mount.recount freeInodes).Persisted
      (overlay disk superblockBlock.toNat [(mount.recount freeInodes).superblock.encode]) := by
  obtain ⟨_, ⟨inodeStart, inodeBegun, inodes⟩, blockStart, blockBegun, blocks⟩ := persisted
  have zero : superblockBlock.toNat = 0 := rfl
  have inodePlace := Geometry.toNat_inodeBitmapStart inodeBegun
  have blockPlace := Geometry.toNat_blockBitmapStart blockBegun
  have behind {start count : Nat} (low : 1 ≤ start) :
      spanBytes (overlay disk superblockBlock.toNat [(mount.recount freeInodes).superblock.encode])
        start count = spanBytes disk start count :=
    spanBytes_congr fun index _ _ =>
      overlay_of_outside (.inr (by rw [List.length_singleton]; omega))
  refine ⟨?_, ⟨inodeStart, inodeBegun, ?_⟩, blockStart, blockBegun, ?_⟩
  · rw [overlay_first]
    exact Superblock.decode_encode magic
  · rw [behind (by omega)]
    exact inodes
  · rw [behind (by omega)]
    exact blocks

/-- A disk in memory can refuse a write so that an unmount stops behind the superblock. -/
theorem RamDisk.stops_unmount {host : Host RamDisk} (planned : geometry.Planned)
    (shaped : mount.Shaped) (same : mount.geometry = geometry)
    (covered : geometry.totalBlocks.toNat ≤ host.device.blockCount) :
    ∃ broken error after, Host.Untouched host broken ∧
      (Ending.unmount.finish mount).run.run broken = (.error error, after) ∧
      after.disk = overlay host.disk superblockBlock.toNat [mount.superblock.encode] := by
  subst same
  have bits : _ ≤ 32768 * mount.geometry.inodeBitmapBlocks.toNat := planned.inodeBits
  have positive := planned.inodes_pos
  obtain ⟨plan⟩ := shaped.syncPlan
  obtain ⟨first, refused, rest, split, block, content, _, allowed, refusal⟩ :=
    plan.row_of_broken shaped (by omega) covered
  have stopped := progress_of_refused (List.forall_mem_singleton.mpr allowed) refusal rest
  rw [← split] at stopped
  let broken : Host RamDisk :=
    { host with device := host.device.heal.failWrites [plan.inodeStart] }
  rcases ran : (mount.sync .writeThrough).run.run broken with ⟨synced, after⟩
  rcases sync_progress plan shaped broken.device.unwritable ⟨rfl, rfl⟩ stopped ran with
    ⟨rfl, placed⟩
  refine ⟨broken, _, after, ⟨⟨rfl, rfl, rfl⟩, rfl⟩, run_bind_of_error ran, ?_⟩
  rw [placed.eq_overlay, block, content]
  rfl

/-- A mount that gives an inode back, and that cannot write the map when it is unmounted.  The inode
is counted as free from then on, and is in use. -/
theorem Rests.counts {host : Host RamDisk} {first : Session RamDisk}
    (rests : Rests geometry mirror host) (planned : geometry.Planned)
    (lives : Session.Lives first (.idle host)) (uses : mirror.Uses number)
    (below : mirror.superblock.freeInodes.toNat + 1 < mirror.superblock.inodes.toNat)
    (covered : geometry.totalBlocks.toNat ≤ first.host.device.blockCount) :
    ∃ changed last, Session.Lives first (.idle last) ∧ Rests geometry changed last ∧
      changed.Uses number ∧ changed.superblock = { mirror.superblock with
        freeInodes := saturatingSucc mirror.superblock.freeInodes } := by
  obtain ⟨mounted, next, used, lives, inUse, superblock, inodeBitmap, shaped, counter⟩ :=
    rests.gives lives uses
  obtain ⟨valid, notRoot, inside, inodeUsed⟩ := uses
  have same : next.geometry = geometry := by
    rw [← rests.geometry_eq, Mount.geometry, counter]
    rfl
  rw [← superblock] at valid counter below ⊢
  rw [← inodeBitmap] at inside inodeUsed
  have before := lives.alike
  have held : used.device.blockCount = first.host.device.blockCount := before.blockCount
  obtain ⟨broken, error, after, untouched, ended, disk⟩ :=
    RamDisk.stops_unmount planned shaped same (held ▸ covered)
  let healed : Host RamDisk := { after with device := after.device.heal }
  have same : Host.Untouched after healed := ⟨⟨rfl, rfl, rfl⟩, rfl⟩
  replace lives : Session.Lives first (.idle healed) :=
    ((lives.disturb untouched).finish ended).disturb same
  have limit : healed.bufferLimit = used.bufferLimit :=
    lives.alike.bufferLimit.trans before.bufferLimit.symm
  have size : healed.device.blockCount = first.host.device.blockCount := lives.alike.blockCount
  have stored := inUse.persisted.recount inUse.shaped.magic
    (saturatingSucc mounted.superblock.freeInodes)
  rw [counter] at disk
  replace stored : Mount.Persisted _ healed.disk := disk ▸ stored
  have counted : Rests geometry
      (mounted.recount (saturatingSucc mounted.superblock.freeInodes)) healed :=
    ⟨inUse.geometry_eq, inUse.shaped.recount _, stored,
      RamDisk.healthy rfl rfl (size ▸ covered), limit ▸ inUse.buffers⟩
  obtain ⟨_, _, blocksLeft⟩ := Superblock.validate_eq_ok valid
  refine ⟨_, healed, lives, counted, ⟨Superblock.validate_of ?_ blocksLeft, notRoot, inside,
    inodeUsed⟩, rfl⟩
  have word := mounted.superblock.inodes.toNat_lt
  rw [UInt32.lt_iff_toNat_lt]
  change (saturatingSucc mounted.superblock.freeInodes).toNat < mounted.superblock.inodes.toNat
  rw [toNat_saturatingSucc (Nat.lt_trans below word)]
  exact below

/-- Every disk of a size that can be formatted can be brought to refuse a mount, though it has been
healed and nobody else has written it. -/
theorem refused_of_lives {host : Host RamDisk}
    (sized : Geometry.ofSize (BlockDevice.byteSize host.device) = .ok geometry)
    (reads : host.device.failingReads = ∅) (writes : host.device.failingWrites = ∅)
    (buffers : geometry.BuffersFit host.bufferLimit) :
    ∃ superblock formatted last, format.run.run host = (.ok superblock, formatted) ∧
      Session.Lives (.idle formatted) (.idle last) ∧
      Healthy superblock.blocks.toNat last.device ∧ (BlockFs.mount.run.run last).1 =
        .error (.outOfRange superblock.inodes.toNat superblock.inodes.toNat) := by
  obtain ⟨planned, size⟩ := Geometry.ofSize_planned sized
  have covered : geometry.totalBlocks.toNat ≤ host.device.blockCount := by
    rw [size]
    exact Nat.le_of_eq (Nat.mul_div_cancel _ (by decide))
  obtain ⟨superblock, made, _⟩ := Superblock.fresh_exists planned
  obtain ⟨formatted, ran, healthy, alike⟩ := completes_format (RamDisk.healthy reads writes covered)
    sized planned.hasData buffers made
  obtain ⟨_, mirror, again, rfl, outcome⟩ := format_eq_ok ran
  cases sized.symm.trans again
  obtain ⟨_, same, inodes, _⟩ := Superblock.fresh_eq_ok planned made
  have rests : Rests geometry mirror formatted :=
    ⟨same, outcome.empty.shaped planned, outcome.persisted, healthy, alike.bufferLimit ▸ buffers⟩
  have filled : geometry.totalInodes.toNat = geometry.inodeTableBlocks.toNat * 60 := planned.inodes
  have positive := planned.inodes_pos
  have total : mirror.superblock.inodes = geometry.totalInodes := congrArg Geometry.totalInodes same
  obtain ⟨number, taken, second, lives, rests, uses, counter⟩ := rests.takes .start outcome.valid
    (by rw [← outcome.empty.freeInodes_eq planned]; omega)
    (by rw [outcome.empty.bitAt_inodeBitmap]; exact decide_eq_false fun low => nomatch low.1)
  have fewer : taken.superblock.freeInodes.toNat + 1 = mirror.superblock.freeInodes.toNat := by
    rw [counter, toNat_saturatingPred]
    omega
  have kept : taken.superblock.inodes = mirror.superblock.inodes := by rw [counter]
  have word : mirror.superblock.inodes.toNat < UInt32.size := mirror.superblock.inodes.toNat_lt
  rw [total] at word
  have held : formatted.device.blockCount = host.device.blockCount := alike.blockCount
  obtain ⟨again, third, lives, rests, uses, recounted⟩ := rests.counts planned lives uses
    (by rw [kept, total]; omega) (held ▸ covered)
  have still : again.superblock.inodes = mirror.superblock.inodes := by rw [recounted, ← kept]
  have full : again.superblock.freeInodes.toNat + 1 = again.superblock.inodes.toNat := by
    rw [recounted, toNat_saturatingSucc (by omega)]
    dsimp only
    rw [kept, total]
    omega
  obtain ⟨last, lives, healthy, refused⟩ := rests.refuses lives uses full
  have blocks : geometry.totalBlocks = mirror.superblock.blocks :=
    (congrArg Geometry.totalBlocks same).symm
  rw [still] at refused
  exact ⟨_, formatted, last, ran, lives, blocks ▸ healthy, refused⟩

end BlockFs
