import BlockFs.Proofs.Accounting
import BlockFs.Proofs.FormatBuffers
import BlockFs.Proofs.Lives
import BlockFs.Proofs.Mount.Refusals
import BlockFs.Proofs.Overcount

namespace BlockFs

open Engine

variable {δ : Type} [BlockDevice δ] {disk : Nat → Block} {geometry : Geometry} {mount : Mount}
  {host start : Host δ}

/-- Maps of a planned geometry can be loaded from any disk. -/
theorem Geometry.Planned.persisted {stored : Superblock} (planned : geometry.Planned)
    (same : stored.geometry = geometry)
    (decoded : Superblock.decode (disk superblockBlock.toNat).bytes = .ok stored) :
    ∃ mirror : Mount, mirror.superblock = stored ∧ mirror.Persisted disk := by
  subst same
  exact stored.persisted_exists planned.hasData planned.inodeBits planned.blockBits decoded

section Healed

variable [LawfulBlockDevice δ] {stored : Superblock} {limit : Nat}

theorem mount_accepts (planned : geometry.Planned) (same : stored.geometry = geometry)
    (decoded : Superblock.decode (host.disk superblockBlock.toNat).bytes = .ok stored)
    (valid : stored.validate = .ok ()) (healthy : Healthy limit host.device)
    (covered : geometry.metadata < limit) (buffers : geometry.BuffersFit host.bufferLimit) :
    ∃ mounted after, BlockFs.mount.run.run host = (.ok mounted, after) := by
  subst same
  obtain ⟨mirror, rfl, persisted⟩ := planned.persisted rfl decoded
  obtain ⟨root, after, ran, _⟩ :=
    persisted.completes_mount valid healthy covered buffers.inodes buffers.blocks
  exact ⟨_, after, ran⟩

end Healed

/-- What the counters of a stored superblock say about a mount of the device. -/
structure Superblock.Decides (stored : Superblock) (answer : Except Error Mount) : Prop where
  accepted : (∃ mounted, answer = .ok mounted) ↔
    stored.freeInodes < stored.inodes ∧ stored.freeBlocks < stored.geometry.dataBlocks
  inodes : stored.inodes ≤ stored.freeInodes →
    answer = .error (.outOfRange stored.freeInodes.toNat stored.inodes.toNat)
  blocks : stored.freeInodes < stored.inodes → stored.geometry.dataBlocks ≤ stored.freeBlocks →
    answer = .error (.outOfRange stored.freeBlocks.toNat stored.geometry.dataBlocks.toNat)

theorem Geometry.Planned.decides [LawfulBlockDevice δ] {stored : Superblock} {limit : Nat}
    (planned : geometry.Planned) (same : stored.geometry = geometry)
    (decoded : Superblock.decode (host.disk superblockBlock.toNat).bytes = .ok stored)
    (healthy : Healthy limit host.device) (covered : geometry.metadata < limit)
    (buffers : geometry.BuffersFit host.bufferLimit) :
    stored.Decides (BlockFs.mount.run.run host).1 := by
  have data := Superblock.dataBlocks_ne_zero (by rw [same]; exact planned.hasData)
  have refuses {error : Error} (refused : stored.validate = .error error) :
      (BlockFs.mount.run.run host).1 = .error error := by
    obtain ⟨after, ran⟩ :=
      mount_refuses decoded refused healthy (buffers.block planned) (Nat.zero_lt_of_lt covered)
    rw [ran]
  have inodes (full : stored.inodes ≤ stored.freeInodes) :=
    refuses (Superblock.validate_of_inodes data full)
  have blocks (left : stored.freeInodes < stored.inodes)
      (full : stored.geometry.dataBlocks ≤ stored.freeBlocks) :=
    refuses (Superblock.validate_of_blocks data left full)
  refine ⟨⟨?_, ?_⟩, inodes, blocks⟩
  · rintro ⟨mounted, accepted⟩
    have left : stored.freeInodes < stored.inodes := UInt32.not_le.mp fun full =>
      nomatch accepted.symm.trans (inodes full)
    exact ⟨left, UInt32.not_le.mp fun full => nomatch accepted.symm.trans (blocks left full)⟩
  · rintro ⟨inodesLeft, blocksLeft⟩
    obtain ⟨mounted, after, ran⟩ := mount_accepts planned same decoded
      (Superblock.validate_of inodesLeft blocksLeft) healthy covered buffers
    exact ⟨mounted, by rw [ran]⟩

/-- A superblock of the geometry whose counters a mount accepts. -/
def Superblock.Fits (geometry : Geometry) (superblock : Superblock) : Prop :=
  superblock.geometry = geometry ∧ superblock.validate = .ok ()

theorem Mount.Sound.superblock_fits {ledger : Ledger} (sound : mount.Sound geometry ledger)
    (shaped : mount.Shaped) : mount.superblock.Fits geometry :=
  ⟨sound.geometry_eq,
    Superblock.validate_of (sound.freeInodes_lt shaped) (sound.freeBlocks_lt shaped)⟩

/-- While every mount settles at its end, the first block has counters that a mount accepts, also in
the middle of a sync. -/
theorem Session.Run.stores [LawfulBlockDevice δ] {ledger : Ledger} {first last : Session δ}
    {trace : List Incident} (run : Session.Run first trace last)
    (sound : first.Sound geometry ledger) (stores : Stores (·.Fits geometry) first.host.disk) :
    Stores (·.Fits geometry) last.host.disk := by
  induction run with
  | start => exact stores
  | operate run stepped ih =>
      obtain ⟨tracked, agrees⟩ := run.sound sound
      exact ih.rewrite tracked.shaped.magic (agrees.superblock_fits tracked.shaped)
        ((step_change tracked.shaped stepped).first_block tracked.fits)
  | mount _ ran ih | refuse _ ran ih =>
      dsimp only [Session.host] at ih ⊢
      rw [(untouched_mount.of_run ran).disk]
      exact ih
  | unmount run _ ended ih =>
      obtain ⟨tracked, agrees⟩ := run.sound sound
      have finished : (Ending.unmount.finish _).run.run _ = _ := ended
      exact ih.rewrite tracked.shaped.magic (agrees.superblock_fits tracked.shaped)
        (finish_first_block tracked.shaped finished)
  | drop run _ ended ih =>
      obtain ⟨tracked, agrees⟩ := run.sound sound
      have finished : (Ending.drop.finish _).run.run _ = _ := ended
      exact ih.rewrite tracked.shaped.magic (agrees.superblock_fits tracked.shaped)
        (finish_first_block tracked.shaped finished)
  | @disturb _ session _ _ same ih =>
      have kept := same.disk
      cases session <;> exact kept ▸ ih

theorem Formatted.stores {mirror : Mount} (formatted : Formatted geometry mirror disk) :
    Stores (·.Fits geometry) disk :=
  ⟨mirror.superblock, formatted.persisted.superblock,
    formatted.empty.geometry_eq formatted.planned, formatted.valid⟩

/-- Once a formatted device is healed the two counters in its first block decide whether it can be
mounted, whatever failed before.  They fit if no mount but the last lost anything. -/
theorem mount_of_lives [LawfulBlockDevice δ] {superblock : Superblock}
    (formatted : format.run.run host = (.ok superblock, start)) :
    (∀ last : Host δ, Session.Lives (.idle start) (.idle last) →
      Healthy superblock.blocks.toNat last.device →
      ∃ stored, Superblock.decode (last.disk superblockBlock.toNat).bytes = .ok stored ∧
        stored.geometry = superblock.geometry ∧
        stored.Decides (BlockFs.mount.run.run last).1) ∧
    ∀ (trace : List Incident) (mount : Mount) (used after last : Host δ) (ending : Ending)
      (answer : Except Error Unit), Session.Run (.idle start) trace (.active mount used) →
      (ending.finish mount).run.run used = (answer, after) → Host.Untouched after last →
      Healthy superblock.blocks.toNat last.device →
      ∃ mounted, (BlockFs.mount.run.run last).1 = .ok mounted := by
  obtain ⟨geometry, mirror, rfl, outcome, buffers⟩ := buffersFit_of_format formatted
  have planned := outcome.planned
  have same := outcome.empty.geometry_eq planned
  have covered : geometry.metadata < mirror.superblock.blocks.toNat := by
    have room := planned.hasData
    rw [← same] at room ⊢
    exact room
  constructor
  · intro last lives healthy
    obtain ⟨stored, decoded, kept⟩ := lives.intact planned
      ⟨mirror.superblock, outcome.persisted.superblock, same⟩
    have limit : last.bufferLimit = start.bufferLimit := lives.alike.bufferLimit
    rw [← limit] at buffers
    exact ⟨stored, decoded, kept.trans same.symm,
      planned.decides kept decoded healthy covered buffers⟩
  · intro trace mount used after last ending answer run ended untouched healthy
    have limit : last.bufferLimit = start.bufferLimit :=
      ((run.history.finish ended).disturb untouched).alike.bufferLimit
    rw [← limit] at buffers
    obtain ⟨reserved, found, _⟩ := Geometry.reservedBlocks_exists planned.hasData
    have sound := outcome.sound found
    obtain ⟨tracked, agrees⟩ := run.sound sound
    have stores := (run.stores sound outcome.stores).rewrite tracked.shaped.magic
      (agrees.superblock_fits tracked.shaped) (finish_first_block tracked.shaped ended)
    rw [← untouched.disk] at stores
    obtain ⟨stored, decoded, kept, valid⟩ := stores
    obtain ⟨mounted, _, ran⟩ :=
      mount_accepts planned kept decoded valid healthy covered buffers
    exact ⟨mounted, by rw [ran]⟩

theorem mount_of_lives_least : ∃ superblock start mounted used,
    format.run.run leastHost = (.ok superblock, start) ∧
      BlockFs.mount.run.run start = (.ok mounted, used) ∧
      let dirty := (Operation.takeBlock.step (mounted, used)).2
      let failing : Host RamDisk := { dirty.2 with device := dirty.2.device.failWrites [3] }
      let dropped := ((Ending.drop.finish dirty.1).run.run failing).2
      let healed : Host RamDisk := { dropped with device := dropped.device.heal }
      (∃ stored, Superblock.decode (healed.disk superblockBlock.toNat).bytes = .ok stored ∧
        stored.geometry = superblock.geometry ∧
        stored.Decides (BlockFs.mount.run.run healed).1) ∧
        ∃ again, (BlockFs.mount.run.run healed).1 = .ok again := by
  obtain ⟨superblock, start, mounted, used, formatted, accepted, _⟩ := leastHost_mounts
  refine ⟨superblock, start, mounted, used, formatted, accepted, ?_⟩
  intro dirty failing dropped healed
  have blocks : superblock.blocks.toNat = 101 := by
    obtain ⟨_, mirror, sized, rfl, outcome⟩ := format_eq_ok formatted
    cases leastHost_sized.symm.trans sized
    exact congrArg (fun geometry => geometry.totalBlocks.toNat)
      (outcome.empty.geometry_eq outcome.planned)
  have broken : Host.Untouched dirty.2 failing := ⟨⟨rfl, rfl, rfl⟩, rfl⟩
  have disturbed : Session.Run (.idle start) [(.takeBlock, _)] (.active dirty.1 failing) :=
    ((Session.Run.start.mount accepted).operate rfl).disturb broken
  have ended : (Ending.drop.finish dirty.1).run.run failing = (_, dropped) := rfl
  have untouched : Host.Untouched dropped healed := ⟨⟨rfl, rfl, rfl⟩, rfl⟩
  have lives : Session.Lives (.idle start) (.idle healed) :=
    ((disturbed.history.finish ended).disturb untouched).lives
  have size : healed.device.blockCount = 101 :=
    lives.alike.blockCount.trans (alike_format.of_run formatted).blockCount
  have healthy : Healthy superblock.blocks.toNat healed.device :=
    RamDisk.healthy rfl rfl (Nat.le_of_eq (blocks.trans size.symm))
  obtain ⟨decides, accepts⟩ := mount_of_lives formatted
  exact ⟨decides healed lives healthy,
    accepts _ dirty.1 failing dropped healed .drop _ disturbed ended untouched healthy⟩

/-- The counters need not fit when several mounts lost something. -/
theorem mount_of_lives_refused : ∃ superblock start last,
    format.run.run leastHost = (.ok superblock, start) ∧
      Session.Lives (.idle start) (.idle last) ∧
      Healthy superblock.blocks.toNat last.device ∧
      (BlockFs.mount.run.run last).1 = .error (.outOfRange 120 120) := by
  obtain ⟨superblock, start, last, formatted, lives, healthy, refused⟩ :=
    refused_of_lives leastHost_sized rfl rfl leastGeometry_buffersFit
  obtain ⟨_, mirror, sized, rfl, outcome⟩ := format_eq_ok formatted
  cases leastHost_sized.symm.trans sized
  have inodes : mirror.superblock.inodes = 120 :=
    congrArg Geometry.totalInodes (outcome.empty.geometry_eq outcome.planned)
  rw [inodes] at refused
  exact ⟨_, start, last, formatted, lives, healthy, refused⟩

end BlockFs
