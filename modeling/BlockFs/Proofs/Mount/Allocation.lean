import BlockFs.Mount.Operation
import BlockFs.Proofs.Bitmap.FreeSet
import BlockFs.Proofs.Engine.Run

namespace BlockFs

open Engine

/-- The maps of a mount, each with the counter of its free units. -/
inductive Pool where
  | inodes
  | blocks
deriving DecidableEq, Repr

namespace Pool

def other : Pool → Pool
  | .inodes => .blocks
  | .blocks => .inodes

def map : Pool → Mount → Bitmap
  | .inodes, mount => mount.inodeBitmap
  | .blocks, mount => mount.blockBitmap

def counter : Pool → Superblock → UInt32
  | .inodes, superblock => superblock.freeInodes
  | .blocks, superblock => superblock.freeBlocks

def setMap (bitmap : Bitmap) : Pool → Mount → Mount
  | .inodes, mount => { mount with inodeBitmap := bitmap }
  | .blocks, mount => { mount with blockBitmap := bitmap }

def setCounter (count : UInt32) : Pool → Superblock → Superblock
  | .inodes, superblock => { superblock with freeInodes := count }
  | .blocks, superblock => { superblock with freeBlocks := count }

/-- The number of units, as the superblock has it. -/
def total : Pool → Superblock → UInt32
  | .inodes, superblock => superblock.inodes
  | .blocks, superblock => superblock.blocks

/-- The units in front of this one are never given back. -/
def reserved : Pool → Mount → Except Error UInt32
  | .inodes, _ => .ok (rootInode + 1)
  | .blocks, mount => mount.geometry.reservedBlocks

def take : Pool → Operation
  | .inodes => .takeInode
  | .blocks => .takeBlock

def give (number : UInt32) : Pool → Operation
  | .inodes => .freeInode number
  | .blocks => .freeBlock number

def took : Pool → UInt32 → Event
  | .inodes => .tookInode
  | .blocks => .tookBlock

def gave : Pool → UInt32 → Event
  | .inodes => .freedInode
  | .blocks => .freedBlock

variable (pool : Pool)

/-- A mount with another map, its counter and the generation moved with it. -/
def assign (bitmap : Bitmap) (update : UInt32 → UInt32) (mount : Mount) : Mount :=
  { pool.setMap bitmap mount with
    superblock := pool.setCounter (update (pool.counter mount.superblock)) mount.superblock
    generation := mount.generation + 1 }

def takes (mount : Mount) : Except Error (UInt32 × Mount) := do
  let number ← (pool.map mount).firstFree
  let bitmap ← (pool.map mount).markUsed number
  return (number, pool.assign bitmap saturatingPred mount)

/-- Whether a unit is free already, or why it is not given back. -/
def admits (mount : Mount) (number : UInt32) : Except Error Bool := do
  if number < (← pool.reserved mount) then
    throw (.outOfRange number.toNat (pool.total mount.superblock).toNat)
  (pool.map mount).test number

def gives (mount : Mount) (number : UInt32) : Except Error (Option Mount) := do
  if number < (← pool.reserved mount) then
    throw (.outOfRange number.toNat (pool.total mount.superblock).toNat)
  if ← (pool.map mount).test number then return none
  let bitmap ← (pool.map mount).markFree number
  return some (pool.assign bitmap saturatingSucc mount)

section Values

variable {pool : Pool} {mount next : Mount} {bitmap : Bitmap} {number reserved : UInt32}
  {error : Error}

theorem takes_of_error (failed : (pool.map mount).firstFree = .error error) :
    pool.takes mount = .error error := by
  rw [takes, failed]
  rfl

theorem takes_of_ok (found : (pool.map mount).firstFree = .ok number)
    (marked : (pool.map mount).markUsed number = .ok bitmap) :
    pool.takes mount = .ok (number, pool.assign bitmap saturatingPred mount) := by
  simp only [takes, found, marked, bind, Except.bind]
  rfl

theorem gives_of_error (failed : pool.reserved mount = .error error) :
    pool.gives mount number = .error error := by
  rw [gives, failed]
  rfl

theorem gives_of_reserved (limit : pool.reserved mount = .ok reserved) (kept : number < reserved) :
    pool.gives mount number =
      .error (.outOfRange number.toNat (pool.total mount.superblock).toNat) := by
  simp only [gives, limit, bind, Except.bind, if_pos kept]
  rfl

theorem admits_of_error (limit : pool.reserved mount = .error error) :
    pool.admits mount number = .error error := by
  rw [admits, limit]
  rfl

theorem admits_of_lt (limit : pool.reserved mount = .ok reserved)
    (kept : number < reserved) : pool.admits mount number =
      .error (.outOfRange number.toNat (pool.total mount.superblock).toNat) := by
  simp only [admits, limit, bind, Except.bind, if_pos kept]
  rfl

theorem admits_eq_test (limit : pool.reserved mount = .ok reserved)
    (behind : reserved ≤ number) : pool.admits mount number = (pool.map mount).test number := by
  simp only [admits, limit, bind, Except.bind, if_neg (UInt32.not_lt.mpr behind)]

theorem test_of_admits {free : Bool} (admitted : pool.admits mount number = .ok free) :
    (pool.map mount).test number = .ok free := by
  cases limit : pool.reserved mount with
  | error error => cases (admits_of_error limit).symm.trans admitted
  | ok reserved =>
      by_cases kept : number < reserved
      · cases (admits_of_lt limit kept).symm.trans admitted
      · rwa [admits_eq_test limit (UInt32.not_lt.mp kept)] at admitted

theorem lt_of_admits {free : Bool} (admitted : pool.admits mount number = .ok free) :
    number < (pool.map mount).length :=
  Bitmap.lt_of_test (test_of_admits admitted)

section Kept

variable (limit : pool.reserved mount = .ok reserved) (behind : reserved ≤ number)

include limit behind

theorem gives_of_test_error (failed : (pool.map mount).test number = .error error) :
    pool.gives mount number = .error error := by
  simp only [gives, limit, failed, bind, Except.bind, if_neg (UInt32.not_lt.mpr behind)]

theorem gives_of_free (free : (pool.map mount).test number = .ok true) :
    pool.gives mount number = .ok none := by
  simp only [gives, limit, free, bind, Except.bind, if_neg (UInt32.not_lt.mpr behind)]
  rfl

theorem gives_of_used (used : (pool.map mount).test number = .ok false)
    (marked : (pool.map mount).markFree number = .ok bitmap) :
    pool.gives mount number = .ok (some (pool.assign bitmap saturatingSucc mount)) := by
  simp only [gives, limit, used, marked, bind, Except.bind, if_neg (UInt32.not_lt.mpr behind)]
  rfl

/-- A unit behind the reserved ones that is in use is given back. -/
theorem gives_exists (inside : number < (pool.map mount).length)
    (used : bitAt (pool.map mount).bytes number.toNat = false) :
    ∃ bitmap, (pool.map mount).Assigns bitmap number true ∧
      pool.gives mount number = .ok (some (pool.assign bitmap saturatingSucc mount)) := by
  obtain ⟨bitmap, marked⟩ := Bitmap.update_exists (fun byte mask => byte ||| mask) inside
  exact ⟨bitmap, Bitmap.markFree_assigns marked,
    gives_of_used limit behind ((Bitmap.test_of_lt inside).trans (congrArg _ used)) marked⟩

end Kept

theorem takes_cases (pool : Pool) (mount : Mount) :
    (∃ error, (pool.map mount).firstFree = .error error ∧ pool.takes mount = .error error) ∨
    ∃ number bitmap, (pool.map mount).firstFree = .ok number ∧
      (pool.map mount).Assigns bitmap number false ∧
      pool.takes mount = .ok (number, pool.assign bitmap saturatingPred mount) := by
  cases found : (pool.map mount).firstFree with
  | error error => exact .inl ⟨error, rfl, takes_of_error found⟩
  | ok number =>
      obtain ⟨bitmap, marked⟩ := Bitmap.update_exists _ (Bitmap.firstFree_eq_ok found).1
      exact .inr ⟨number, bitmap, rfl, Bitmap.markUsed_assigns marked, takes_of_ok found marked⟩

theorem takes_eq_error (pool : Pool) :
    pool.takes mount = .error error ↔ (pool.map mount).firstFree = .error error := by
  obtain ⟨cause, found, failed⟩ | ⟨_, _, found, _, done⟩ := pool.takes_cases mount
  · rw [found, failed, Except.error.injEq, Except.error.injEq]
  · rw [found, done]
    exact ⟨fun failed => (nomatch failed), fun failed => (nomatch failed)⟩

theorem takes_eq_ok (pool : Pool) (taken : pool.takes mount = .ok (number, next)) :
    ∃ bitmap, (pool.map mount).firstFree = .ok number ∧
      (pool.map mount).Assigns bitmap number false ∧
      next = pool.assign bitmap saturatingPred mount := by
  obtain ⟨_, _, failed⟩ | ⟨_, bitmap, found, assigned, done⟩ := pool.takes_cases mount
  · cases failed.symm.trans taken
  · cases done.symm.trans taken
    exact ⟨bitmap, found, assigned, rfl⟩

theorem admits_eq_ok {free : Bool} (admitted : pool.admits mount number = .ok free) :
    ∃ reserved, pool.reserved mount = .ok reserved ∧ reserved ≤ number ∧
      number < (pool.map mount).length ∧ bitAt (pool.map mount).bytes number.toNat = free := by
  have tested := test_of_admits admitted
  have inside := Bitmap.lt_of_test tested
  rw [Bitmap.test_of_lt inside, Except.ok.injEq] at tested
  cases limit : pool.reserved mount with
  | error error => cases (admits_of_error limit).symm.trans admitted
  | ok reserved =>
      refine ⟨reserved, rfl, UInt32.not_lt.mp fun kept => ?_, inside, tested⟩
      cases (admits_of_lt limit kept).symm.trans admitted

/-- Giving a unit back looks at the reserved units first and at the map then. -/
theorem gives_cases (pool : Pool) (mount : Mount) (number : UInt32) :
    (∃ error, pool.admits mount number = .error error ∧
      pool.gives mount number = .error error) ∨
    (pool.admits mount number = .ok true ∧ pool.gives mount number = .ok none) ∨
    (pool.admits mount number = .ok false ∧ ∃ bitmap,
      (pool.map mount).markFree number = .ok bitmap ∧
        pool.gives mount number = .ok (some (pool.assign bitmap saturatingSucc mount))) := by
  cases limit : pool.reserved mount with
  | error error => exact .inl ⟨error, admits_of_error limit, gives_of_error limit⟩
  | ok reserved =>
      by_cases kept : number < reserved
      · exact .inl ⟨_, admits_of_lt limit kept, gives_of_reserved limit kept⟩
      · have behind := UInt32.not_lt.mp kept
        rw [admits_eq_test limit behind]
        cases tested : (pool.map mount).test number with
        | error error => exact .inl ⟨error, rfl, gives_of_test_error limit behind tested⟩
        | ok free =>
            cases free with
            | true => exact .inr (.inl ⟨rfl, gives_of_free limit behind tested⟩)
            | false =>
                obtain ⟨bitmap, marked⟩ :=
                  Bitmap.update_exists (fun byte mask => byte ||| mask) (Bitmap.lt_of_test tested)
                exact .inr (.inr ⟨rfl, bitmap, marked, gives_of_used limit behind tested marked⟩)

theorem gives_eq_ok (pool : Pool) {answer : Option Mount}
    (given : pool.gives mount number = .ok answer) :
    ∃ reserved, pool.reserved mount = .ok reserved ∧ reserved ≤ number ∧
      number < (pool.map mount).length ∧
      ((bitAt (pool.map mount).bytes number.toNat = true ∧ answer = none) ∨
        (bitAt (pool.map mount).bytes number.toNat = false ∧
          ∃ bitmap, (pool.map mount).Assigns bitmap number true ∧
            answer = some (pool.assign bitmap saturatingSucc mount))) := by
  obtain ⟨_, _, failed⟩ | ⟨admitted, done⟩ | ⟨admitted, bitmap, marked, done⟩ :=
    pool.gives_cases mount number
  · cases failed.symm.trans given
  · obtain ⟨reserved, limit, behind, inside, free⟩ := admits_eq_ok admitted
    cases done.symm.trans given
    exact ⟨reserved, limit, behind, inside, .inl ⟨free, rfl⟩⟩
  · obtain ⟨reserved, limit, behind, inside, used⟩ := admits_eq_ok admitted
    cases done.symm.trans given
    exact ⟨reserved, limit, behind, inside,
      .inr ⟨used, bitmap, Bitmap.markFree_assigns marked, rfl⟩⟩

/-- The root directory's inode is the only one that is reserved. -/
theorem lt_reserved_inodes_iff : number < rootInode + 1 ↔ number = rootInode := by
  rw [UInt32.lt_iff_toNat_lt, ← toNat_eq_zero_iff]
  exact Nat.lt_one_iff

theorem gives_inodes (mount : Mount) (number : UInt32) :
    Pool.inodes.gives mount number = mount.freeInode number := by
  by_cases root : number = rootInode
  · rw [gives_of_reserved rfl (lt_reserved_inodes_iff.mpr root), Mount.freeInode, if_pos root]
    rfl
  · simp only [gives, reserved, bind, Except.bind, if_neg (mt lt_reserved_inodes_iff.mp root),
      Mount.freeInode, if_neg root]
    rfl

theorem behind_root_iff : rootInode + 1 ≤ number ↔ number ≠ rootInode := by
  rw [← UInt32.not_lt, lt_reserved_inodes_iff]

end Values

section Run

variable {δ : Type} [BlockDevice δ] {mount next : Mount} {host after : Host δ} {number : UInt32}
  {value : Answer}

theorem perform_take (pool : Pool) (mount : Mount) :
    pool.take.perform mount = (do
      let taken ← pool.takes mount
      report (pool.took taken.1)
      return (.number taken.1, taken.2) : Engine δ (Answer × Mount)) := by
  cases pool <;> rfl

theorem perform_give (pool : Pool) (number : UInt32) (mount : Mount) :
    (pool.give number).perform mount = (do
      let given ← pool.gives mount number
      given.elim (return (.done, mount)) fun next => do
        report (pool.gave number)
        return (.done, next) : Engine δ (Answer × Mount)) := by
  cases pool with
  | inodes =>
      rw [gives_inodes]
      exact bind_congr fun given => by cases given <;> rfl
  | blocks => exact bind_congr fun given => by cases given <;> rfl

theorem takes_of_run (pool : Pool)
    (ran : (pool.take.perform mount).run.run host = (.ok (value, next), after)) :
    ∃ number, value = .number number ∧ pool.takes mount = .ok (number, next) := by
  rw [perform_take] at ran
  obtain ⟨⟨number, changed⟩, taken, ran⟩ := lift_bind_eq_ok ran
  rw [run_bind_of_ok (run_report _ _), run_pure] at ran
  cases ran
  exact ⟨number, rfl, taken⟩

theorem gives_of_run (pool : Pool)
    (ran : ((pool.give number).perform mount).run.run host = (.ok (value, next), after)) :
    value = .done ∧ ∃ given, pool.gives mount number = .ok given ∧ next = given.getD mount := by
  rw [perform_give] at ran
  obtain ⟨given, done, ran⟩ := lift_bind_eq_ok ran
  cases given with
  | none =>
      cases ran
      exact ⟨rfl, none, done, rfl⟩
  | some changed =>
      rw [Option.elim_some, run_bind_of_ok (run_report _ _), run_pure] at ran
      cases ran
      exact ⟨rfl, _, done, rfl⟩

end Run

end Pool

end BlockFs
