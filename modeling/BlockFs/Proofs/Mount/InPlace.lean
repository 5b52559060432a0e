import BlockFs.Proofs.Mount.Refusals

/-!
Operations that change a mount in place, one field after the other.

`Operation.step` puts a new mount in the place of the old one, and so cannot leave half of a change
behind.  Here the mount is part of the state: what was assigned before a failure stays assigned.
`Operation.inPlace_eq_step` says that it makes no difference.
-/

namespace BlockFs

open Engine

/-- A device with a mount of it. -/
structure Held (δ : Type) where
  mount : Mount
  device : δ

variable {δ α : Type}

def Host.holding (host : Host δ) (mount : Mount) : Host (Held δ) where
  device := ⟨mount, host.device⟩
  bufferLimit := host.bufferLimit
  events := host.events

def Host.released (host : Host (Held δ)) : Host δ where
  device := host.device.device
  bufferLimit := host.bufferLimit
  events := host.events

def Host.hold (ended : α × Mount × Host δ) : α × Host (Held δ) :=
  (ended.1, ended.2.2.holding ended.2.1)

def Host.note (host : Host δ) (event : Event) : Host δ :=
  { host with events := host.events.push event }

namespace Engine

def held : Engine (Held δ) Mount := return (← get).device.mount

def change (update : Mount → Mount) : Engine (Held δ) Unit :=
  modify fun host => host.released.holding (update host.device.mount)

def onDevice (work : Engine δ α) : Engine (Held δ) α :=
  ExceptT.mk fun host =>
    let (answer, after) := work.run.run host.released
    (answer, after.holding host.device.mount)

end Engine

namespace Pool

variable (pool : Pool)

/-- What all changes of a map go with: its counter, and the generation. -/
def recount (update : UInt32 → UInt32) : Engine (Held δ) Unit := do
  change fun mount => { mount with
    superblock := pool.setCounter (update (pool.counter mount.superblock)) mount.superblock }
  change fun mount => { mount with generation := mount.generation + 1 }

def takeInPlace : Engine (Held δ) Answer := do
  let number ← (pool.map (← held)).firstFree
  let bitmap ← (pool.map (← held)).markUsed number
  change (pool.setMap bitmap)
  pool.recount saturatingPred
  report (pool.took number)
  return .number number

def giveInPlace (number : UInt32) : Engine (Held δ) Answer := do
  -- All that can fail stands in front of the first change.
  if number < (← pool.reserved (← held)) then
    throw (.outOfRange number.toNat (pool.total (← held).superblock).toNat)
  if ← (pool.map (← held)).test number then return .done
  let bitmap ← (pool.map (← held)).markFree number
  change (pool.setMap bitmap)
  pool.recount saturatingSucc
  report (pool.gave number)
  return .done

end Pool

variable [BlockDevice δ]

def Operation.inPlace : Operation → Engine (Held δ) Answer
  | .takeInode => Pool.inodes.takeInPlace
  | .freeInode number => Pool.inodes.giveInPlace number
  | .takeBlock => Pool.blocks.takeInPlace
  | .freeBlock number => Pool.blocks.giveInPlace number
  | .writeInode number inode durability => do
      let superblock := (← held).superblock
      if superblock.inodes ≤ number then
        throw (.outOfRange number.toNat superblock.inodes.toNat)
      let address := Inode.address number
      let block ← onDevice (readBlock .inodeTable address.block)
      let changed ← block.splice address.offset inode.encode.bytes
      onDevice (writeBlock .inodeTable address.block changed.bytes durability)
      if number = rootInode then change fun mount => { mount with root := inode }
      return .done
  | .sync durability => do
      let before ← held
      let _ ← onDevice (before.sync durability)
      change (·.markSynced before.generation)
      return .done
  | operation => do
      let (answer, _) ← onDevice (operation.perform (← held))
      return answer

variable {mount next : Mount} {host after : Host δ} {number : UInt32} {answer : Except Error α}

section Run

omit [BlockDevice δ]

theorem run_held (host : Host δ) (mount : Mount) :
    held.run.run (host.holding mount) = (.ok mount, host.holding mount) :=
  rfl

theorem run_change (update : Mount → Mount) (host : Host δ) (mount : Mount) :
    (change update).run.run (host.holding mount) = (.ok (), host.holding (update mount)) :=
  rfl

theorem run_onDevice {work : Engine δ α} (ran : work.run.run host = (answer, after))
    (mount : Mount) :
    (onDevice work).run.run (host.holding mount) = (answer, after.holding mount) := by
  change ((work.run.run host).1, (work.run.run host).2.holding mount) = _
  rw [ran]

end Run

namespace Pool

variable (pool : Pool)

/-- How taking a unit ends: with an answer, a mount and the host. -/
def endTake (mount : Mount) (host : Host δ) : Except Error Answer × Mount × Host δ :=
  match pool.takes mount with
  | .error error => (.error error, mount, host)
  | .ok (number, next) => (.ok (.number number), next, host.note (pool.took number))

def endGive (number : UInt32) (mount : Mount) (host : Host δ) :
    Except Error Answer × Mount × Host δ :=
  match pool.gives mount number with
  | .error error => (.error error, mount, host)
  | .ok none => (.ok .done, mount, host)
  | .ok (some next) => (.ok .done, next, host.note (pool.gave number))

section Run

omit [BlockDevice δ]

theorem run_recount (update : UInt32 → UInt32) (bitmap : Bitmap) (host : Host δ) (mount : Mount) :
    (pool.recount update).run.run (host.holding (pool.setMap bitmap mount)) =
      (.ok (), host.holding (pool.assign bitmap update mount)) := by
  cases pool <;> rfl

theorem run_takeInPlace (host : Host δ) (mount : Mount) :
    pool.takeInPlace.run.run (host.holding mount) = Host.hold (pool.endTake mount host) := by
  rw [endTake, takeInPlace, run_bind_of_ok (run_held _ _)]
  cases found : (pool.map mount).firstFree with
  | error error =>
      rw [takes_of_error found, run_bind_of_error (run_lift _ _)]
      rfl
  | ok number =>
      obtain ⟨bitmap, marked⟩ := Bitmap.update_exists _ (Bitmap.firstFree_eq_ok found).1
      rw [takes_of_ok found marked, run_bind_of_ok (run_lift _ _), run_bind_of_ok (run_held _ _),
        run_bind_of_ok (by rw [run_lift, Bitmap.markUsed, marked]),
        run_bind_of_ok (run_change _ _ _), run_bind_of_ok (pool.run_recount _ _ _ _)]
      rfl

theorem run_giveInPlace (number : UInt32) (host : Host δ) (mount : Mount) :
    (pool.giveInPlace number).run.run (host.holding mount) =
      Host.hold (pool.endGive number mount host) := by
  rw [endGive, giveInPlace, run_bind_of_ok (run_held _ _)]
  cases limit : pool.reserved mount with
  | error error =>
      rw [gives_of_error limit, run_bind_of_error (run_lift _ _)]
      rfl
  | ok reserved =>
      rw [run_bind_of_ok (run_lift _ _)]
      by_cases kept : number < reserved
      · rw [gives_of_reserved limit kept, if_pos kept]
        rfl
      · have behind := UInt32.not_lt.mp kept
        rw [if_neg kept, run_bind_of_ok (run_held _ _)]
        cases tested : (pool.map mount).test number with
        | error error =>
            rw [gives_of_test_error limit behind tested, run_bind_of_error (run_lift _ _)]
            rfl
        | ok free =>
            rw [run_bind_of_ok (run_lift _ _)]
            cases free with
            | true =>
                rw [gives_of_free limit behind tested]
                rfl
            | false =>
                obtain ⟨bitmap, marked⟩ := Bitmap.update_exists _ (Bitmap.lt_of_test tested)
                rw [gives_of_used limit behind tested marked, if_neg Bool.false_ne_true,
                  run_bind_of_ok (run_held _ _),
                  run_bind_of_ok (by rw [run_lift, Bitmap.markFree, marked]),
                  run_bind_of_ok (run_change _ _ _), run_bind_of_ok (pool.run_recount _ _ _ _)]
                rfl

end Run

theorem step_take (host : Host δ) (mount : Mount) :
    pool.take.step (mount, host) = pool.endTake mount host := by
  rw [endTake]
  cases taken : pool.takes mount with
  | error error =>
      apply step_of_error
      rw [perform_take, taken, run_bind_of_error (run_lift _ _)]
  | ok result =>
      apply step_of_ok
      rw [perform_take, taken, run_bind_of_ok (run_lift _ _)]
      rfl

theorem step_give (number : UInt32) (host : Host δ) (mount : Mount) :
    (pool.give number).step (mount, host) = pool.endGive number mount host := by
  rw [endGive]
  cases given : pool.gives mount number with
  | error error =>
      apply step_of_error
      rw [perform_give, given, run_bind_of_error (run_lift _ _)]
  | ok result =>
      cases result <;>
      · apply step_of_ok
        rw [perform_give, given, run_bind_of_ok (run_lift _ _)]
        rfl

theorem step_take_of_ok (host : Host δ) (taken : pool.takes mount = .ok (number, next)) :
    pool.take.step (mount, host) = (.ok (.number number), next, host.note (pool.took number)) := by
  rw [step_take, endTake, taken]

theorem step_give_of_some (host : Host δ) (given : pool.gives mount number = .ok (some next)) :
    (pool.give number).step (mount, host) = (.ok .done, next, host.note (pool.gave number)) := by
  rw [step_give, endGive, given]

end Pool

/-- What a step does, with the mount kept beside the device. -/
def Operation.stepHolding (operation : Operation) (mount : Mount) (host : Host δ) :
    Except Error Answer × Host (Held δ) :=
  Host.hold (operation.step (mount, host))

theorem Operation.stepHolding_of_work {β : Type} {operation : Operation} {work : Engine δ β}
    {told : β → Answer × Mount} (performs : operation.perform mount = told <$> work)
    (host : Host δ) : operation.stepHolding mount host =
      match work.run.run host with
      | (.error error, after) => (.error error, after.holding mount)
      | (.ok value, after) => (.ok (told value).1, after.holding (told value).2) := by
  rw [stepHolding, step, performs]
  cases ran : work.run.run host with
  | mk found after =>
      rw [map_eq_pure_bind]
      cases found with
      | error error =>
          rw [run_bind_of_error ran]
          rfl
      | ok value =>
          rw [run_bind_of_ok ran]
          rfl

namespace Pool

variable (pool : Pool)

theorem inPlace_take (mount : Mount) (host : Host δ) :
    pool.take.inPlace.run.run (host.holding mount) = pool.take.stepHolding mount host := by
  have same : (pool.take.inPlace : Engine (Held δ) Answer) = pool.takeInPlace := by
    cases pool <;> rfl
  rw [same, run_takeInPlace, Operation.stepHolding, step_take]

theorem inPlace_give (number : UInt32) (mount : Mount) (host : Host δ) :
    (pool.give number).inPlace.run.run (host.holding mount) =
      (pool.give number).stepHolding mount host := by
  have same : ((pool.give number).inPlace : Engine (Held δ) Answer) = pool.giveInPlace number := by
    cases pool <;> rfl
  rw [same, run_giveInPlace, Operation.stepHolding, step_give]

end Pool

theorem Operation.inPlace_writeInode (number : UInt32) (inode : Inode) (durability : Durability)
    (mount : Mount) (host : Host δ) :
    (writeInode number inode durability).inPlace.run.run (host.holding mount) =
      (writeInode number inode durability).stepHolding mount host := by
  unfold inPlace
  dsimp only
  rw [run_bind_of_ok (run_held host mount), stepHolding_of_work (map_eq_pure_bind _ _).symm,
    Mount.writeInode]
  dsimp only
  by_cases outside : mount.superblock.inodes ≤ number
  · rw [if_pos outside, if_pos outside]
    rfl
  · rw [if_neg outside, if_neg outside]
    cases read : (readBlock .inodeTable (Inode.address number).block).run.run host with
    | mk found between =>
        cases found with
        | error error =>
            rw [run_bind_of_error (run_onDevice read _), run_bind_of_error read]
        | ok block =>
            obtain ⟨changed, spliced⟩ := inode.splice_exists block number
            rw [run_bind_of_ok (run_onDevice read _), run_bind_of_ok read, spliced,
              run_bind_of_ok (run_lift _ _), run_bind_of_ok (run_lift _ _)]
            cases wrote : (writeBlock .inodeTable (Inode.address number).block changed.bytes
                durability).run.run between with
            | mk outcome after =>
                cases outcome with
                | error error =>
                    rw [run_bind_of_error (run_onDevice wrote _), run_bind_of_error wrote]
                | ok =>
                    rw [run_bind_of_ok (run_onDevice wrote _), run_bind_of_ok wrote]
                    by_cases root : number = rootInode
                    · rw [if_pos root, if_pos root]
                      rfl
                    · rw [if_neg root, if_neg root]
                      rfl

theorem Operation.inPlace_query {operation : Operation} (query : operation.isQuery = true)
    (asks : (operation.inPlace : Engine (Held δ) Answer) = do
      let (answer, _) ← onDevice (operation.perform (← held))
      return answer) (mount : Mount) (host : Host δ) :
    operation.inPlace.run.run (host.holding mount) = operation.stepHolding mount host := by
  rw [asks, run_bind_of_ok (run_held _ _), stepHolding]
  cases ran : (operation.perform mount).run.run host with
  | mk found after =>
      cases found with
      | error error =>
          rw [run_bind_of_error (run_onDevice ran _), step_of_error ran]
          rfl
      | ok result =>
          obtain ⟨answer, next⟩ := result
          have kept : next = mount := by
            cases operation with
            | superblock | geometry | stats | root | isDirty =>
                cases ran
                rfl
            | readInode | inodeBitmap | blockBitmap =>
                obtain ⟨_, _, _, ran⟩ := bind_eq_ok ran
                cases ran
                rfl
            | _ => contradiction
          rw [run_bind_of_ok (run_onDevice ran _), step_of_ok ran, kept]
          rfl

/-- An operation in place does what a step does, also where it fails. -/
theorem Operation.inPlace_eq_step (operation : Operation) (mount : Mount) (host : Host δ) :
    operation.inPlace.run.run (host.holding mount) = operation.stepHolding mount host := by
  cases operation with
  | takeInode => exact Pool.inodes.inPlace_take mount host
  | takeBlock => exact Pool.blocks.inPlace_take mount host
  | freeInode number => exact Pool.inodes.inPlace_give number mount host
  | freeBlock number => exact Pool.blocks.inPlace_give number mount host
  | writeInode number inode durability =>
      exact inPlace_writeInode number inode durability mount host
  | sync durability =>
      unfold inPlace
      dsimp only
      rw [run_bind_of_ok (run_held host mount), stepHolding_of_work (map_eq_pure_bind _ _).symm]
      cases ran : (mount.sync durability).run.run host with
      | mk found after =>
          cases found with
          | error error => rw [run_bind_of_error (run_onDevice ran _)]
          | ok synced =>
              rw [run_bind_of_ok (run_onDevice ran _), eq_of_sync ⟨host, after, ran⟩]
              rfl
  | readInode | superblock | geometry | stats | root | isDirty | inodeBitmap | blockBitmap =>
      exact inPlace_query rfl rfl mount host

end BlockFs
