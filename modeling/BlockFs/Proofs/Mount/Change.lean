import BlockFs.Mount.Operation
import BlockFs.Proofs.Mount.Allocation
import BlockFs.Proofs.Mount.Lifetime

namespace BlockFs

open Engine

/-- Whether an operation only asks. -/
def Operation.isQuery : Operation → Bool
  | .readInode _ | .superblock | .geometry | .stats | .root | .isDirty | .inodeBitmap _
  | .blockBitmap _ => true
  | .takeInode | .freeInode _ | .takeBlock | .freeBlock _ | .writeInode .. | .sync _ => false

/-- Everything that one operation can do to a mount and to the disk under it. -/
inductive Change (mount : Mount) (disk : Nat → Block) :
    Operation → Except Error Answer → Mount → (Nat → Block) → Prop where
  | tookInode {number : UInt32} {bitmap : Bitmap}
      (found : mount.inodeBitmap.firstFree = .ok number)
      (assigned : mount.inodeBitmap.Assigns bitmap number false) :
      Change mount disk .takeInode (.ok (.number number))
        (Pool.inodes.assign bitmap saturatingPred mount) disk
  | freedInode {number : UInt32} {bitmap : Bitmap} (notRoot : number ≠ rootInode)
      (used : bitAt mount.inodeBitmap.bytes number.toNat = false)
      (assigned : mount.inodeBitmap.Assigns bitmap number true) :
      Change mount disk (.freeInode number) (.ok .done)
        (Pool.inodes.assign bitmap saturatingSucc mount) disk
  | keptInode {number : UInt32} (free : bitAt mount.inodeBitmap.bytes number.toNat = true) :
      Change mount disk (.freeInode number) (.ok .done) mount disk
  | tookBlock {number : UInt32} {bitmap : Bitmap}
      (found : mount.blockBitmap.firstFree = .ok number)
      (assigned : mount.blockBitmap.Assigns bitmap number false) :
      Change mount disk .takeBlock (.ok (.number number))
        (Pool.blocks.assign bitmap saturatingPred mount) disk
  | freedBlock {number reserved : UInt32} {bitmap : Bitmap}
      (limit : mount.geometry.reservedBlocks = .ok reserved) (notReserved : reserved ≤ number)
      (used : bitAt mount.blockBitmap.bytes number.toNat = false)
      (assigned : mount.blockBitmap.Assigns bitmap number true) :
      Change mount disk (.freeBlock number) (.ok .done)
        (Pool.blocks.assign bitmap saturatingSucc mount) disk
  | keptBlock {number : UInt32} (free : bitAt mount.blockBitmap.bytes number.toNat = true) :
      Change mount disk (.freeBlock number) (.ok .done) mount disk
  | wroteInode {number : UInt32} {inode : Inode} {durability : Durability} {block : Block}
      (inside : number < mount.superblock.inodes)
      (spliced : (disk (Inode.address number).block.toNat).splice (Inode.address number).offset
        inode.encode.bytes = .ok block) :
      Change mount disk (.writeInode number inode durability) (.ok .done)
        (if number = rootInode then { mount with root := inode } else mount)
        (overlay disk (Inode.address number).block.toNat [block])
  | synced {durability : Durability} (plan : SyncPlan mount) :
      Change mount disk (.sync durability) (.ok .done) (mount.markSynced mount.generation)
        (plan.apply disk [mount.superblock.encode] plan.inodeBlocks plan.blockBlocks)
  | interrupted {durability : Durability} {error : Error} {first second third : List Block}
      (plan : SyncPlan mount) (superblock : first <+: [mount.superblock.encode])
      (inodes : second <+: plan.inodeBlocks) (blocks : third <+: plan.blockBlocks) :
      Change mount disk (.sync durability) (.error error) mount
        (plan.apply disk first second third)
  | failed {operation : Operation} {error : Error} :
      Change mount disk operation (.error error) mount disk
  | answered {operation : Operation} {answer : Answer} (query : operation.isQuery = true) :
      Change mount disk operation (.ok answer) mount disk

section Units

variable {pool : Pool} {mount next : Mount} {disk changed : Nat → Block} {number : UInt32}

theorem Change.of_takes (disk : Nat → Block) (taken : pool.takes mount = .ok (number, next)) :
    Change mount disk pool.take (.ok (.number number)) next disk := by
  obtain ⟨bitmap, found, assigned, rfl⟩ := pool.takes_eq_ok taken
  cases pool with
  | inodes => exact .tookInode found assigned
  | blocks => exact .tookBlock found assigned

theorem Change.of_gives {given : Option Mount} (disk : Nat → Block)
    (done : pool.gives mount number = .ok given) :
    Change mount disk (pool.give number) (.ok .done) (given.getD mount) disk := by
  obtain ⟨reserved, limit, behind, _, ⟨free, rfl⟩ | ⟨used, bitmap, assigned, rfl⟩⟩ :=
    pool.gives_eq_ok done
  · cases pool with
    | inodes => exact .keptInode free
    | blocks => exact .keptBlock free
  · cases pool with
    | inodes =>
        cases limit
        exact .freedInode (Pool.behind_root_iff.mp behind) used assigned
    | blocks => exact .freedBlock limit behind used assigned

theorem Change.firstFree (pool : Pool)
    (change : Change mount disk pool.take (.ok (.number number)) next changed) :
    (pool.map mount).firstFree = .ok number := by
  cases pool with
  | inodes =>
      cases change with
      | tookInode found => exact found
      | answered query => contradiction
  | blocks =>
      cases change with
      | tookBlock found => exact found
      | answered query => contradiction

end Units

variable {δ : Type} [BlockDevice δ] {mount next : Mount} {host after : Host δ}
  {operation : Operation} {value : Answer} {error : Error} {answer : Except Error Answer}

/-- A step takes the mount that an operation answers, and keeps the old one when it fails. -/
theorem step_eq (stepped : operation.step (mount, host) = (answer, next, after)) :
    (∃ value, answer = .ok value ∧
      (operation.perform mount).run.run host = (.ok (value, next), after)) ∨
    ∃ error, answer = .error error ∧ next = mount ∧
      (operation.perform mount).run.run host = (.error error, after) := by
  unfold Operation.step at stepped
  dsimp only at stepped
  generalize (operation.perform mount).run.run host = result at stepped ⊢
  obtain ⟨error | ⟨value, changed⟩, left⟩ := result
  · cases stepped
    exact .inr ⟨error, rfl, rfl, rfl⟩
  · cases stepped
    exact .inl ⟨value, rfl, rfl⟩

theorem step_of_ok (ran : (operation.perform mount).run.run host = (.ok (value, next), after)) :
    operation.step (mount, host) = (.ok value, next, after) := by
  unfold Operation.step
  dsimp only
  rw [ran]

theorem step_of_error (ran : (operation.perform mount).run.run host = (.error error, after)) :
    operation.step (mount, host) = (.error error, mount, after) := by
  unfold Operation.step
  dsimp only
  rw [ran]

variable [LawfulBlockDevice δ]

theorem untouched_perform (mount : Mount) (silent : operation.writes = false) :
    Keeps Host.Untouched (operation.perform mount : Engine δ (Answer × Mount)) :=
  silent_untouched.congruence.perform mount silent

theorem alike_perform (operation : Operation) (mount : Mount) :
    Keeps Host.Alike (operation.perform mount : Engine δ (Answer × Mount)) :=
  alike_congruence.perform mount (.refl (fun _ => rfl) operation)

theorem perform_error (shaped : mount.Shaped)
    (ran : (operation.perform mount).run.run host = (.error error, after)) :
    Change mount host.disk operation (.error error) mount after.disk := by
  cases silent : operation.writes with
  | false =>
      rw [((untouched_perform mount silent).of_run ran).disk]
      exact .failed
  | true =>
      cases operation with
      | writeInode number inode durability =>
          obtain ⟨_, _, _, failed⟩ | ⟨_, failed, _⟩ := bind_cases ran
          · rw [run_pure] at failed
            cases failed
          · obtain ⟨_, same⟩ | ⟨_, ok, _⟩ := writeInode_cases failed
            · rw [same]
              exact .failed
            · cases ok
      | sync durability =>
          obtain ⟨plan⟩ := shaped.syncPlan
          obtain ⟨_, _, _, failed⟩ | ⟨_, failed, _⟩ := bind_cases ran
          · rw [run_pure] at failed
            cases failed
          · obtain ⟨ok, _⟩ | ⟨_, first, second, third, superblock, inodes, blocks, disk⟩ :=
              sync_cases plan failed
            · cases ok
            · rw [disk]
              exact .interrupted plan superblock inodes blocks
      | _ => contradiction

theorem perform_ok (shaped : mount.Shaped)
    (ran : (operation.perform mount).run.run host = (.ok (value, next), after)) :
    Change mount host.disk operation (.ok value) next after.disk := by
  have kept (silent : operation.writes = false) : after.disk = host.disk :=
    ((untouched_perform mount silent).of_run ran).disk
  cases operation with
  | takeInode =>
      rw [kept rfl]
      obtain ⟨number, rfl, taken⟩ := Pool.inodes.takes_of_run ran
      exact .of_takes host.disk taken
  | freeInode number =>
      rw [kept rfl]
      obtain ⟨rfl, _, given, rfl⟩ := Pool.inodes.gives_of_run ran
      exact .of_gives host.disk given
  | takeBlock =>
      rw [kept rfl]
      obtain ⟨number, rfl, taken⟩ := Pool.blocks.takes_of_run ran
      exact .of_takes host.disk taken
  | freeBlock number =>
      rw [kept rfl]
      obtain ⟨rfl, _, given, rfl⟩ := Pool.blocks.gives_of_run ran
      exact .of_gives host.disk given
  | writeInode number inode durability =>
      obtain ⟨_, _, wrote, ran⟩ := bind_eq_ok ran
      rw [run_pure] at ran
      cases ran
      obtain ⟨⟨_, failed⟩, _⟩ | ⟨inside, ok, block, spliced, disk⟩ := writeInode_cases wrote
      · cases failed
      · cases ok
        rw [disk]
        exact .wroteInode inside spliced
  | sync durability =>
      obtain ⟨plan⟩ := shaped.syncPlan
      obtain ⟨_, _, synced, ran⟩ := bind_eq_ok ran
      rw [run_pure] at ran
      cases ran
      obtain ⟨ok, disk⟩ | ⟨⟨_, failed⟩, _⟩ := sync_cases plan synced
      · cases ok
        rw [disk]
        exact .synced plan
      · cases failed
  | superblock | geometry | stats | root | isDirty =>
      rw [kept rfl]
      cases ran
      exact .answered rfl
  | readInode | inodeBitmap | blockBitmap =>
      rw [kept rfl]
      obtain ⟨_, _, _, ran⟩ := bind_eq_ok ran
      rw [run_pure] at ran
      cases ran
      exact .answered rfl

theorem step_change (shaped : mount.Shaped)
    (stepped : operation.step (mount, host) = (answer, next, after)) :
    Change mount host.disk operation answer next after.disk := by
  obtain ⟨value, rfl, ran⟩ | ⟨error, rfl, rfl, ran⟩ := step_eq stepped
  · exact perform_ok shaped ran
  · exact perform_error shaped ran

theorem alike_step (stepped : operation.step (mount, host) = (answer, next, after)) :
    Host.Alike host after := by
  obtain ⟨_, _, ran⟩ | ⟨_, _, _, ran⟩ := step_eq stepped <;>
    exact (alike_perform operation mount).of_run ran

end BlockFs
