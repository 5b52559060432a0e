import BlockFs.Proofs.Accounting
import BlockFs.Proofs.Ownership
import BlockFs.Proofs.Mount.Pools

namespace BlockFs

open Operation

variable {δ : Type} [BlockDevice δ]

/-- Units given back one after the other, inodes and blocks in any order. -/
def giveAll (units : List (Pool × UInt32)) : List Operation :=
  units.map fun unit => unit.1.give unit.2

/-- The laws of the operations that take units and give them back, in one state of a mount. -/
structure AllocationLaws (mount : Mount) (host : Host δ) : Prop where
  /-- Giving back the unit that was just taken leaves nothing of it. -/
  undone : ∀ (pool : Pool) number next after,
    pool.take.step (mount, host) = (.ok (.number number), next, after) →
    ∃ restored last, (pool.give number).step (next, after) = (.ok .done, restored, last) ∧
      mount.Twin restored
  /-- A unit given back is the next one taken, unless a lower one was free. -/
  lowest : ∀ (pool : Pool) number next after, (pool.map mount).test number = .ok false →
    (pool.give number).step (mount, host) = (.ok .done, next, after) →
    (∃ first, (pool.take.step (mount, host)).1 = .ok (.number first) ∧
      (pool.take.step (next, after)).1 = .ok (.number (min number first))) ∨
    ((pool.take.step (mount, host)).1 = .error .exhausted ∧
      (pool.take.step (next, after)).1 = .ok (.number number))
  /-- In a row of units given back, each is answered as if it were the first. -/
  answers : ∀ units : List (Pool × UInt32), (runAll (mount, host) (giveAll units)).1 =
    (giveAll units).map fun operation => (operation.step (mount, host)).1
  /-- The order of the row does not matter. -/
  permutes : ∀ units others : List (Pool × UInt32), units.Perm others →
    (runAll (mount, host) (giveAll units)).2.1 = (runAll (mount, host) (giveAll others)).2.1
  /-- Operations on inodes commute with operations on blocks. -/
  commutes : ∀ inode block : Pool.Call,
    ∃ (inodeAnswer blockAnswer : Except Error Answer) (next : Mount) (last other : Host δ),
      runAll (mount, host) [inode.operation .inodes, block.operation .blocks] =
        ([inodeAnswer, blockAnswer], next, last) ∧
      runAll (mount, host) [block.operation .blocks, inode.operation .inodes] =
        ([blockAnswer, inodeAnswer], next, other)

namespace Pool

variable {pool other : Pool} {mount next : Mount} {host after : Host δ} {number : UInt32}
  {answer : Except Error Answer}

theorem of_step (call : Call) (stepped : (call.operation pool).step (mount, host) =
    (answer, next, after)) : answer = call.answer pool mount ∧ next = pool.after mount call := by
  obtain ⟨last, same⟩ := pool.step_call call mount host
  rw [same] at stepped
  cases stepped
  exact ⟨rfl, rfl⟩

/-- A unit given back is the next one taken, unless a lower one was free. -/
theorem step_take_give (used : (pool.map mount).test number = .ok false)
    (stepped : (pool.give number).step (mount, host) = (.ok .done, next, after)) :
    (∃ first, (pool.take.step (mount, host)).1 = .ok (.number first) ∧
      (pool.take.step (next, after)).1 = .ok (.number (min number first))) ∨
    ((pool.take.step (mount, host)).1 = .error .exhausted ∧
      (pool.take.step (next, after)).1 = .ok (.number number)) := by
  obtain ⟨answered, rfl⟩ := of_step (.give number) stepped
  have took (mount : Mount) (host : Host δ) := pool.step_fst .take mount host
  simp only [Call.operation] at took
  simp only [took]
  exact take_after_give (admits_of_answer answered.symm used)

/-- How a row of units given back ends, told from the first mount alone. -/
theorem runAll_giveAll (units : List (Pool × UInt32)) (mount : Mount) (host : Host δ) :
    ∃ last, runAll (mount, host) (giveAll units) =
      (units.map fun unit => (Call.give unit.2).answer unit.1 mount,
        units.foldl (fun mount unit => unit.1.after mount (.give unit.2)) mount, last) := by
  induction units generalizing mount host with
  | nil => exact ⟨host, rfl⟩
  | cons unit rest ih =>
      obtain ⟨between, stepped⟩ := unit.1.step_call (.give unit.2) mount host
      obtain ⟨last, ran⟩ := ih (unit.1.after mount (.give unit.2)) between
      refine ⟨last, ?_⟩
      rw [Call.operation] at stepped
      rw [giveAll] at ran
      simp only [giveAll, List.map_cons, runAll, stepped, ran, List.foldl_cons]
      -- The first unit does not change what the others are answered.
      simp only [answer_give_after]

theorem answers_giveAll (units : List (Pool × UInt32)) (mount : Mount) (host : Host δ) :
    (runAll (mount, host) (giveAll units)).1 =
      (giveAll units).map fun operation => (operation.step (mount, host)).1 := by
  obtain ⟨_, ran⟩ := runAll_giveAll units mount host
  rw [ran, giveAll, List.map_map]
  exact List.map_congr_left fun unit _ => (unit.1.step_fst (.give unit.2) mount host).symm

theorem giveAll_perm {units others : List (Pool × UInt32)} (order : units.Perm others)
    (mount : Mount) (host : Host δ) :
    (runAll (mount, host) (giveAll units)).2.1 = (runAll (mount, host) (giveAll others)).2.1 := by
  obtain ⟨_, ran⟩ := runAll_giveAll units mount host
  obtain ⟨_, permuted⟩ := runAll_giveAll others mount host
  rw [ran, permuted]
  exact order.foldl_eq' (fun _ _ _ _ _ => after_give_comm _ _ _ _ _) mount

/-- Two calls on different pools, each answered as if it were the first. -/
theorem runAll_pair (differs : other ≠ pool) (first second : Call) (mount : Mount)
    (host : Host δ) :
    ∃ last, runAll (mount, host) [first.operation pool, second.operation other] =
      ([first.answer pool mount, second.answer other mount],
        other.after (pool.after mount first) second, last) := by
  obtain ⟨between, one⟩ := pool.step_call first mount host
  obtain ⟨last, two⟩ := other.step_call second (pool.after mount first) between
  refine ⟨last, ?_⟩
  rw [answer_after_of_ne differs] at two
  simp only [runAll, one, two]

theorem runAll_comm (differs : other ≠ pool) (first second : Call) (mount : Mount)
    (host : Host δ) :
    ∃ (firstAnswer secondAnswer : Except Error Answer) (next : Mount) (last later : Host δ),
      runAll (mount, host) [first.operation pool, second.operation other] =
        ([firstAnswer, secondAnswer], next, last) ∧
      runAll (mount, host) [second.operation other, first.operation pool] =
        ([secondAnswer, firstAnswer], next, later) := by
  obtain ⟨last, ran⟩ := runAll_pair differs first second mount host
  obtain ⟨later, swapped⟩ := runAll_pair differs.symm second first mount host
  rw [after_comm_of_ne differs.symm] at swapped
  exact ⟨_, _, _, last, later, ran, swapped⟩

end Pool

namespace Mount.Sound

variable {geometry : Geometry} {ledger : Ledger} {mount next : Mount} {disk : Nat → Block}
  {pool : Pool} {number : UInt32}

/-- A search never finds a reserved unit. -/
theorem reserved_le (sound : mount.Sound geometry ledger) (tracked : mount.Tracked disk)
    (found : (pool.map mount).firstFree = .ok number) :
    ∃ reserved, pool.reserved mount = .ok reserved ∧ reserved ≤ number := by
  cases pool with
  | inodes =>
      have given := sound.mayHandOutInode tracked found sound.geometry_eq
      have positive : 0 < number.toNat := UInt32.lt_iff_toNat_lt.mp given.notRoot
      exact ⟨rootInode + 1, rfl, UInt32.le_iff_toNat_le.mpr positive⟩
  | blocks =>
      obtain ⟨reserved, limit, _⟩ := Geometry.reservedBlocks_exists sound.planned.hasData
      have given := sound.mayHandOutBlock tracked.shaped found limit sound.geometry_eq
      rw [← sound.geometry_eq] at limit
      exact ⟨reserved, limit, given.notReserved⟩

theorem counter_exact (sound : mount.Sound geometry ledger)
    (found : (pool.map mount).firstFree = .ok number) :
    saturatingSucc (saturatingPred (pool.counter mount.superblock)) =
      pool.counter mount.superblock := by
  have exact : (saturatingPred (pool.counter mount.superblock)).toNat + 1 =
      (pool.counter mount.superblock).toNat := by
    cases pool with
    | inodes => exact sound.inodes.pred_exact found
    | blocks => exact sound.blocks.pred_exact found
  have room := (pool.counter mount.superblock).toNat_lt
  rw [← exact] at room
  rw [← UInt32.toNat_inj, toNat_saturatingSucc room, exact]

/-- Giving back the unit that was just taken leaves nothing of it. -/
theorem step_give_take {host after : Host δ} (sound : mount.Sound geometry ledger)
    (tracked : mount.Tracked disk)
    (stepped : pool.take.step (mount, host) = (.ok (.number number), next, after)) :
    ∃ restored last, (pool.give number).step (next, after) = (.ok .done, restored, last) ∧
      mount.Twin restored := by
  obtain ⟨answered, rfl⟩ := Pool.of_step .take stepped
  have found := Pool.firstFree_of_answer answered.symm
  obtain ⟨reserved, limit, behind⟩ := sound.reserved_le tracked found
  obtain ⟨admitted, twin⟩ := Pool.give_after_take found limit behind (sound.counter_exact found)
  obtain ⟨last, given⟩ := pool.step_call (.give number) (pool.after mount .take) after
  refine ⟨_, last, ?_, twin⟩
  rw [Pool.Call.operation, Pool.Call.answer, admitted] at given
  exact given

theorem allocationLaws (sound : mount.Sound geometry ledger) (tracked : mount.Tracked disk)
    (host : Host δ) : AllocationLaws mount host where
  undone _ _ _ _ stepped := sound.step_give_take tracked stepped
  lowest _ _ _ _ used stepped := Pool.step_take_give used stepped
  answers units := Pool.answers_giveAll units mount host
  permutes _ _ order := Pool.giveAll_perm order mount host
  commutes inode block := Pool.runAll_comm (by decide) inode block mount host

end Mount.Sound

/-- Taking units and giving them back obeys its laws in every mount of a formatted device, after
whatever was done to it. -/
theorem allocation_laws_of_run [LawfulBlockDevice δ] {host start last : Host δ}
    {superblock : Superblock} {trace : List Incident} {mount : Mount}
    (formatted : format.run.run host = (.ok superblock, start))
    (run : Session.Run (.idle start) trace (.active mount last)) :
    AllocationLaws mount last := by
  obtain ⟨geometry, ledger, tracked, sound⟩ := run.sound_of_format formatted
  exact sound.allocationLaws tracked last

theorem allocation_laws_of_run_least : ∃ (mounted : Mount) (formatted start : Host RamDisk)
    (superblock : Superblock), format.run.run leastHost = (.ok superblock, formatted) ∧
      mount.run.run formatted = (.ok mounted, start) ∧
      AllocationLaws (Operation.takeBlock.step (mounted, start)).2.1
        (Operation.takeBlock.step (mounted, start)).2.2 := by
  obtain ⟨superblock, formatted, mounted, start, ran, accepted, _⟩ := leastHost_mounts
  exact ⟨mounted, formatted, start, superblock, ran, accepted,
    allocation_laws_of_run ran (.operate (.mount .start accepted) rfl)⟩

end BlockFs
