import BlockFs.Proofs.Mount.Deferral
import BlockFs.Proofs.Mount.InPlace
import BlockFs.Proofs.RecordConfinement

/-!
Operations that fail change nothing, and those that succeed change what they are about.

All of it is said of operations that change the mount in place.  `Pool.MovesOne` is what taking a
unit and giving one back do: one bit of one map, with its counter, or nothing at all.
-/

namespace BlockFs

open Engine

/-- Two mounts of which the second has one more or one less unit in use, and is dirty. -/
structure Pool.Flips (pool : Pool) (number : UInt32) (free : Bool) (before after : Mount) :
    Prop where
  was : bitAt (pool.map before).bytes number.toNat = !free
  assigned : (pool.map before).Assigns (pool.map after) number free
  counted : (pool.counter after.superblock).toNat =
    if free then min ((pool.counter before.superblock).toNat + 1) (UInt32.size - 1)
    else (pool.counter before.superblock).toNat - 1
  superblock : after.superblock =
    pool.setCounter (pool.counter after.superblock) before.superblock
  otherMap : pool.other.map after = pool.other.map before
  root : after.root = before.root
  dirty : after.isDirty = true

/-- An operation that ends in this way on every device, without a call of it. -/
def Operation.InMemory (operation : Operation) (mount : Mount) (answer : Except Error Answer)
    (next : Mount) : Prop :=
  ∀ (ε : Type) [BlockDevice ε] (host : Host ε), ∃ events,
    operation.inPlace.run.run (host.holding mount) =
      (answer, Host.holding { host with events } next)

/-- Taking a unit and giving one back change one unit or nothing. -/
structure Pool.MovesOne (pool : Pool) (mount : Mount) (reserved : UInt32) : Prop where
  take : ∀ number, (pool.map mount).firstFree = .ok number → ∃ next,
    pool.Flips number false mount next ∧ pool.take.InMemory mount (.ok (.number number)) next
  exhausted : ∀ error, (pool.map mount).firstFree = .error error →
    pool.take.InMemory mount (.error error) mount
  keep : ∀ number < reserved, (pool.give number).InMemory mount
    (.error (.outOfRange number.toNat (pool.map mount).length.toNat)) mount
  outside : ∀ number, reserved ≤ number → (pool.map mount).length ≤ number →
    (pool.give number).InMemory mount
      (.error (.outOfRange number.toNat (pool.map mount).length.toNat)) mount
  again : ∀ number, reserved ≤ number → (pool.map mount).test number = .ok true →
    (pool.give number).InMemory mount (.ok .done) mount
  give : ∀ number, reserved ≤ number → (pool.map mount).test number = .ok false → ∃ next,
    pool.Flips number true mount next ∧ (pool.give number).InMemory mount (.ok .done) next

variable {mount next mounted current : Mount} {number reserved : UInt32} {bitmap : Bitmap}
  {pool : Pool}

theorem Pool.flips_assign {update : UInt32 → UInt32} {free : Bool}
    (was : bitAt (pool.map mount).bytes number.toNat = !free)
    (assigned : (pool.map mount).Assigns bitmap number free)
    (counted : (update (pool.counter mount.superblock)).toNat =
      if free then min ((pool.counter mount.superblock).toNat + 1) (UInt32.size - 1)
      else (pool.counter mount.superblock).toNat - 1)
    (ordered : mount.synced ≤ mount.generation) :
    pool.Flips number free mount (pool.assign bitmap update mount) := by
  have dirty : mount.generation + 1 ≠ mount.synced := by omega
  cases pool <;> exact ⟨was, assigned, counted, rfl, rfl, rfl, bne_iff_ne.mpr dirty⟩

theorem Pool.total_eq (pool : Pool) (shaped : mount.Shaped) :
    pool.total mount.superblock = (pool.map mount).length := by
  cases pool with
  | inodes => exact shaped.inodes.length.symm
  | blocks => exact shaped.blocks.length.symm

theorem Pool.reserved_exists (pool : Pool) (shaped : mount.Shaped) :
    ∃ reserved, pool.reserved mount = .ok reserved := by
  cases pool with
  | inodes => exact ⟨_, rfl⟩
  | blocks =>
      obtain ⟨reserved, found, _⟩ := Geometry.reservedBlocks_exists shaped.room
      exact ⟨reserved, found⟩

theorem Operation.InMemory.of_step {operation : Operation} {answer : Except Error Answer}
    (stepped : ∀ (ε : Type) [BlockDevice ε] (host : Host ε), ∃ events,
      operation.step (mount, host) = (answer, next, { host with events })) :
    operation.InMemory mount answer next := by
  intro ε _ host
  obtain ⟨events, same⟩ := stepped ε host
  exact ⟨events, by rw [operation.inPlace_eq_step, stepHolding, same]; rfl⟩

theorem Pool.movesOne (shaped : mount.Shaped) (ordered : mount.synced ≤ mount.generation)
    (limit : pool.reserved mount = .ok reserved) : pool.MovesOne mount reserved where
  take number found := by
    obtain ⟨inside, free, _⟩ := Bitmap.firstFree_eq_ok found
    obtain ⟨bitmap, marked⟩ := Bitmap.update_exists _ inside
    exact ⟨_, Pool.flips_assign free (Bitmap.markUsed_assigns marked) (toNat_saturatingPred _)
      ordered, .of_step fun ε _ host =>
        ⟨_, pool.step_take_of_ok host (takes_of_ok found marked)⟩⟩
  exhausted error failed := .of_step fun ε _ host => by
    refine ⟨host.events, ?_⟩
    rw [pool.step_take, endTake, takes_of_error failed]
  keep number kept := .of_step fun ε _ host => by
    refine ⟨host.events, ?_⟩
    rw [pool.step_give, endGive, gives_of_reserved limit kept, pool.total_eq shaped]
  outside number behind outside := .of_step fun ε _ host => by
    refine ⟨host.events, ?_⟩
    rw [pool.step_give, endGive,
      gives_of_test_error limit behind (if_neg (UInt32.not_lt.mpr outside))]
  again number behind free := .of_step fun ε _ host => by
    refine ⟨host.events, ?_⟩
    rw [pool.step_give, endGive, gives_of_free limit behind free]
  give number behind used := by
    have inside := Bitmap.lt_of_test used
    rw [Bitmap.test_of_lt inside, Except.ok.injEq] at used
    obtain ⟨bitmap, assigned, given⟩ := gives_exists limit behind inside used
    exact ⟨_, Pool.flips_assign used assigned (toNat_saturatingSucc_eq_min _) ordered,
      .of_step fun ε _ host => ⟨_, pool.step_give_of_some host given⟩⟩

variable {host start last after : Host RamDisk} {operation : Operation} {error : Error}

/-- An operation that fails, and is no sync, leaves the mount and the disk as they were. -/
theorem step_error (notSync : ∀ durability, operation ≠ .sync durability)
    (stepped : operation.step (mount, host) = (.error error, next, after)) :
    next = mount ∧ after.device = host.device := by
  have kept : next = mount := by
    obtain ⟨_, answered, _⟩ | ⟨_, _, same, _⟩ := step_eq stepped
    · cases answered
    · exact same
  refine ⟨kept, ?_⟩
  cases silent : operation.writes with
  | false =>
      obtain ⟨_, _, ran⟩ | ⟨_, _, _, ran⟩ := step_eq stepped <;>
        exact (RamDisk.silent.congruence.perform mount silent).of_run ran
  | true =>
      cases operation with
      | writeInode =>
          obtain ⟨_, same⟩ | ⟨⟨_, succeeded⟩, _⟩ := step_writeInode_device stepped
          · exact same
          · cases succeeded
      | sync durability => exact absurd rfl (notSync durability)
      | _ => contradiction

/-- Whatever a mount accepts and whatever is done then, operations that change the mount in place do
what a step does, and leave mount and disk alone when they fail.  Taking a unit and giving one back
call no device and change just that unit's bit and its counter; nothing is given back twice. -/
theorem operations_atomic (accepted : BlockFs.mount.run.run host = (.ok mounted, start))
    (reached : Reaches (mounted, start) (current, last)) :
    (∀ operation : Operation,
      operation.inPlace.run.run (last.holding current) = operation.stepHolding current last) ∧
    (∀ (operation : Operation) (error : Error) (after : Host (Held RamDisk)),
      (∀ durability, operation ≠ .sync durability) →
      operation.inPlace.run.run (last.holding current) = (.error error, after) →
      after.device = ⟨current, last.device⟩) ∧
    (∃ reserved, current.geometry.reservedBlocks = .ok reserved ∧
      Pool.blocks.MovesOne current reserved) ∧
    Pool.inodes.MovesOne current (rootInode + 1) := by
  obtain ⟨shaped, _, _, _, generation, synced⟩ := mount_eq_ok accepted
  have ordered := reached.ordered shaped (Nat.le_of_eq (synced.trans generation.symm))
  obtain ⟨shaped, _⟩ := reached.shaped shaped
  obtain ⟨reserved, limit⟩ := Pool.blocks.reserved_exists shaped
  refine ⟨fun operation => operation.inPlace_eq_step current last, ?_,
    ⟨reserved, limit, Pool.movesOne shaped ordered limit⟩, Pool.movesOne shaped ordered rfl⟩
  intro operation error after notSync ran
  rw [operation.inPlace_eq_step, Operation.stepHolding, Prod.mk.injEq] at ran
  obtain ⟨failed, rfl⟩ := ran
  obtain ⟨same, kept⟩ := step_error notSync (Prod.ext failed rfl)
  change Held.mk _ _ = _
  rw [same, kept]

theorem operations_atomic_least :
    ∃ (mounted next : Mount) (start : Host RamDisk) (number : UInt32),
      (∃ formatted, BlockFs.mount.run.run formatted = (.ok mounted, start)) ∧
        mounted.inodeBitmap.firstFree = .ok number ∧
        Pool.inodes.Flips number false mounted next ∧
        Operation.takeInode.InMemory mounted (.ok (.number number)) next ∧
        mounted.inodeBitmap.test 5 = .ok true ∧
        (Operation.freeInode 5).InMemory mounted (.ok .done) mounted := by
  obtain ⟨mirror, formatted, mounted, start, _, outcome, twin, accepted, _⟩ := leastHost_session
  obtain ⟨_, _, _, inodes⟩ := operations_atomic accepted .start
  have free : mounted.inodeBitmap.test 5 = .ok true := by
    rw [twin.inodeBitmap]
    exact outcome.empty.test_inodeBitmap outcome.planned (by decide)
  have again := inodes.again 5 (by decide) free
  have inside := Bitmap.lt_of_test free
  rw [Bitmap.test_of_lt inside, Except.ok.injEq] at free
  cases found : mounted.inodeBitmap.firstFree with
  | error error =>
      have used := (Bitmap.firstFree_eq_error found).2 _ (UInt32.lt_iff_toNat_lt.mp inside)
      cases free.symm.trans used
  | ok number =>
      obtain ⟨next, flips, takes⟩ := inodes.take number found
      exact ⟨mounted, next, start, number, ⟨_, accepted⟩, found, flips, takes,
        (Bitmap.test_of_lt inside).trans (congrArg _ free), again⟩

/-- The smallest disk, formatted, with a map that has all of the first inodes as free. -/
def unclaimedHost : Host RamDisk :=
  (format.run.run leastHost).2.withBlock 3 (.fit blockSize (fill 0xFF 1))

/-- The root directory's inode is not given back, even where the map has it as free already. -/
theorem freeInode_root_refused : ∃ (mounted : Mount) (start : Host RamDisk),
    BlockFs.mount.run.run unclaimedHost = (.ok mounted, start) ∧
      mounted.inodeBitmap.test rootInode = .ok true ∧
      ∃ error, (Operation.freeInode rootInode).step (mounted, start) =
        (.error error, mounted, start) := by
  obtain ⟨mirror, formatted, _, _, ran, outcome, _⟩ := leastHost_session
  have same : mirror.superblock.geometry = leastGeometry :=
    outcome.empty.geometry_eq outcome.planned
  have disk : unclaimedHost.disk = overlay formatted.disk 3 [.fit blockSize (fill 0xFF 1)] := by
    rw [unclaimedHost, ran, Host.disk_withBlock]
  have decoded : Superblock.decode (unclaimedHost.disk superblockBlock.toNat).bytes =
      .ok mirror.superblock := by
    rw [disk, overlay_of_outside (.inl (by decide))]
    exact outcome.persisted.superblock
  have blocks : mirror.superblock.blocks = 101 := congrArg Geometry.totalBlocks same
  have inodeBlocks : mirror.superblock.inodeBitmapBlocks = 1 :=
    congrArg Geometry.inodeBitmapBlocks same
  have blockBlocks : mirror.superblock.blockBitmapBlocks = 1 :=
    congrArg Geometry.blockBitmapBlocks same
  have inodes : mirror.superblock.inodes = 120 := congrArg Geometry.totalInodes same
  obtain ⟨mounted, start, accepted, described, _, untouched⟩ := leastHost_withBlock decoded
    outcome.valid (by rw [inodes, inodeBlocks]; decide) (by rw [blocks, blockBlocks]; decide)
    (by rw [same]; exact outcome.planned.hasData) (by rw [same]; decide)
    (by rw [inodeBlocks]; decide) (by rw [blockBlocks]; decide)
  refine ⟨mounted, start, accepted, ?_, _, step_of_error rfl⟩
  change BlockFs.mount.run.run unclaimedHost = _ at accepted
  obtain ⟨_, persisted, _⟩ := mount_eq_ok accepted
  obtain ⟨begin, begun, loaded⟩ := persisted.inodeBitmap
  have place := Geometry.toNat_inodeBitmapStart begun
  rw [Mount.geometry, described, same] at place
  rw [described, inodes, inodeBlocks] at loaded
  obtain ⟨_, length, _, _, bits⟩ := Bitmap.load_eq_ok_iff.mp loaded
  rw [Bitmap.test_of_lt (by rw [length]; decide), show rootInode.toNat = 0 from rfl,
    bits 0 (by decide), bitAt_spanBytes (by decide), place, disk]
  change Except.ok (bitAt (overlay formatted.disk 3 _ 3).bytes 0) = _
  rw [overlay_first]
  have first : byteAt (Octets.fit blockSize (fill 0xFF 1)).bytes 0 = 0xFF :=
    (Octets.byteAt_fit _ 0).trans (if_pos (by decide))
  rw [bitAt, first]
  rfl

end BlockFs
