import BlockFs.Proofs.Bitmap.Edits
import BlockFs.Proofs.Mount.InPlace

/-!
The calls that take units and give them back, as changes of the two pools of a mount.

Neither needs the device: what a call answers, and what it changes, is told from the map of its own
pool and from the numbers that no call changes.  So calls on different pools do not see each other,
and of the calls on one pool those that give units back can be made in any order.
-/

namespace BlockFs

namespace Pool

variable (pool : Pool) (mount : Mount)

inductive Call where
  | take
  | give (number : UInt32)
deriving DecidableEq, Repr

namespace Call

def operation : Call → Operation
  | .take => pool.take
  | .give number => pool.give number

def answer : Call → Except Error Answer
  | .take => .number <$> (pool.map mount).firstFree
  | .give number => (fun _ => .done) <$> pool.admits mount number

/-- The new map of the pool, if the call makes one, and how its counter moves with it. -/
def change : Call → Option (Bitmap × (UInt32 → UInt32))
  | .take =>
      match (pool.map mount).firstFree with
      | .ok number => some ((pool.map mount).edit (.use number), saturatingPred)
      | .error _ => none
  | .give number =>
      if pool.admits mount number = .ok false then
        some ((pool.map mount).edit (.free number), saturatingSucc)
      else none

end Call

def apply (change : Option (Bitmap × (UInt32 → UInt32))) : Mount :=
  change.elim mount fun (bitmap, update) => pool.assign bitmap update mount

/-- The mount after a call. -/
def after (call : Call) : Mount := pool.apply mount (call.change pool mount)

variable {pool mount} {number : UInt32}

theorem after_take_of_ok (found : (pool.map mount).firstFree = .ok number) :
    pool.after mount .take =
      pool.assign ((pool.map mount).edit (.use number)) saturatingPred mount := by
  rw [after, Call.change, found]
  rfl

theorem after_take_of_error {error : Error} (found : (pool.map mount).firstFree = .error error) :
    pool.after mount .take = mount := by
  rw [after, Call.change, found]
  rfl

theorem after_give_of_used (used : pool.admits mount number = .ok false) :
    pool.after mount (.give number) =
      pool.assign ((pool.map mount).edit (.free number)) saturatingSucc mount := by
  rw [after, Call.change, if_pos used]
  rfl

theorem after_give_of_idle (idle : pool.admits mount number ≠ .ok false) :
    pool.after mount (.give number) = mount := by
  rw [after, Call.change, if_neg idle]
  rfl

theorem after_cases (pool : Pool) (mount : Mount) (call : Call) :
    pool.after mount call = mount ∨ ∃ change update,
      pool.after mount call = pool.assign ((pool.map mount).edit change) update mount := by
  cases call with
  | take =>
      cases found : (pool.map mount).firstFree with
      | ok number => exact .inr ⟨_, _, after_take_of_ok found⟩
      | error error => exact .inl (after_take_of_error found)
  | give number =>
      by_cases used : pool.admits mount number = .ok false
      · exact .inr ⟨_, _, after_give_of_used used⟩
      · exact .inl (after_give_of_idle used)

theorem admits_of_answer (answered : (Call.give number).answer pool mount = .ok .done)
    (used : (pool.map mount).test number = .ok false) : pool.admits mount number = .ok false := by
  rw [Call.answer] at answered
  cases admitted : pool.admits mount number with
  | error error =>
      rw [admitted] at answered
      cases answered
  | ok free => rw [← test_of_admits admitted, used]

theorem firstFree_of_answer (answered : Call.take.answer pool mount = .ok (.number number)) :
    (pool.map mount).firstFree = .ok number := by
  rw [Call.answer] at answered
  cases found : (pool.map mount).firstFree with
  | error error =>
      rw [found] at answered
      cases answered
  | ok first =>
      rw [found] at answered
      cases answered
      rfl

theorem admits_cases (pool : Pool) (mount : Mount) (number : UInt32) :
    (∃ error, pool.admits mount number = .error error ∧
      pool.gives mount number = .error error) ∨
    (pool.admits mount number = .ok true ∧ pool.gives mount number = .ok none) ∨
    (pool.admits mount number = .ok false ∧
      pool.gives mount number = .ok (some (pool.after mount (.give number)))) := by
  obtain refused | free | ⟨admitted, bitmap, marked, done⟩ := pool.gives_cases mount number
  · exact .inl refused
  · exact .inr (.inl free)
  · have edited := Bitmap.perform_eq_edit (.free number) (lt_of_admits admitted)
    cases marked.symm.trans edited
    exact .inr (.inr ⟨admitted, by rw [after_give_of_used admitted, done]⟩)

section Change

variable {other : Pool} {bitmap : Bitmap} {update : UInt32 → UInt32}

@[simp]
theorem map_assign (pool : Pool) (bitmap : Bitmap) (update : UInt32 → UInt32) (mount : Mount) :
    pool.map (pool.assign bitmap update mount) = bitmap := by
  cases pool <;> rfl

@[simp]
theorem reserved_assign (pool other : Pool) (bitmap : Bitmap) (update : UInt32 → UInt32)
    (mount : Mount) : other.reserved (pool.assign bitmap update mount) = other.reserved mount := by
  cases pool <;> cases other <;> rfl

@[simp]
theorem total_assign (pool other : Pool) (bitmap : Bitmap) (update : UInt32 → UInt32)
    (mount : Mount) : other.total (pool.assign bitmap update mount).superblock =
      other.total mount.superblock := by
  cases pool <;> cases other <;> rfl

theorem map_assign_of_ne (differs : other ≠ pool) :
    other.map (pool.assign bitmap update mount) = other.map mount := by
  cases pool <;> cases other <;> first | rfl | contradiction

/-- Of two changes of one pool, the map of the first one is lost. -/
theorem assign_assign (pool : Pool) (one two later : Bitmap) (first second : UInt32 → UInt32)
    (mount : Mount) : pool.assign later second (pool.assign one first mount) =
      pool.assign later second (pool.assign two first mount) := by
  cases pool <;> rfl

theorem twin_assign_assign {first second : UInt32 → UInt32}
    (exact : second (first (pool.counter mount.superblock)) = pool.counter mount.superblock) :
    mount.Twin (pool.assign (pool.map mount) second (pool.assign bitmap first mount)) := by
  have restored := congrArg (fun count => pool.setCounter count mount.superblock) exact
  cases pool <;> exact ⟨restored, rfl, rfl⟩

theorem apply_comm (differs : other ≠ pool) (one two : Option (Bitmap × (UInt32 → UInt32))) :
    other.apply (pool.apply mount one) two = pool.apply (other.apply mount two) one := by
  cases one <;> cases two <;> cases pool <;> cases other <;> first | rfl | contradiction

end Change

section Local

variable {other : Pool} {one two : Mount}

/-- All that a call on the pool reads is the same in both mounts. -/
structure Sees (pool : Pool) (one two : Mount) : Prop where
  map : pool.map two = pool.map one
  reserved : pool.reserved two = pool.reserved one
  total : pool.total two.superblock = pool.total one.superblock

theorem Sees.admits (sees : pool.Sees one two) (number : UInt32) :
    pool.admits two number = pool.admits one number := by
  rw [Pool.admits, Pool.admits, sees.map, sees.reserved, sees.total]

theorem Sees.answer (sees : pool.Sees one two) (call : Call) :
    call.answer pool two = call.answer pool one := by
  cases call with
  | take => rw [Call.answer, Call.answer, sees.map]
  | give number => rw [Call.answer, Call.answer, sees.admits]

theorem Sees.change (sees : pool.Sees one two) (call : Call) :
    call.change pool two = call.change pool one := by
  cases call with
  | take => rw [Call.change, Call.change, sees.map]
  | give number => rw [Call.change, Call.change, sees.map, sees.admits]

theorem sees_apply (differs : other ≠ pool) (mount : Mount)
    (change : Option (Bitmap × (UInt32 → UInt32))) :
    other.Sees mount (pool.apply mount change) := by
  cases change with
  | none => exact ⟨rfl, rfl, rfl⟩
  | some change =>
      exact ⟨map_assign_of_ne differs, reserved_assign _ _ _ _ _, total_assign _ _ _ _ _⟩

/-- Calls on different pools do not see each other. -/
theorem answer_after_of_ne (differs : other ≠ pool) (mount : Mount) (first second : Call) :
    second.answer other (pool.after mount first) = second.answer other mount :=
  (sees_apply differs mount _).answer second

theorem after_comm_of_ne (differs : other ≠ pool) (mount : Mount) (first second : Call) :
    other.after (pool.after mount first) second = pool.after (other.after mount second) first := by
  have left := (sees_apply differs mount (first.change pool mount)).change second
  have right := (sees_apply differs.symm mount (second.change other mount)).change first
  simp only [after]
  rw [left, right, apply_comm differs]

end Local

section Give

variable {other : Pool} {second : UInt32}

/-- Whether a number is refused is told without the bits of the map. -/
theorem answer_give (pool : Pool) (mount : Mount) (number : UInt32) :
    (Call.give number).answer pool mount = (do
      if number < (← pool.reserved mount) then
        throw (.outOfRange number.toNat (pool.total mount.superblock).toNat)
      if number < (pool.map mount).length then return .done
      throw (.outOfRange number.toNat (pool.map mount).length.toNat)) := by
  rw [Call.answer, admits]
  cases pool.reserved mount with
  | error error => rfl
  | ok reserved =>
      simp only [bind, Except.bind, Bitmap.test]
      split
      · rfl
      · split <;> rfl

/-- No call moves the bounds of a pool, so none changes what giving back answers. -/
theorem answer_give_after (pool other : Pool) (mount : Mount) (call : Call) (number : UInt32) :
    (Call.give number).answer other (pool.after mount call) =
      (Call.give number).answer other mount := by
  by_cases same : other = pool
  · subst same
    obtain idle | ⟨change, update, done⟩ := other.after_cases mount call
    · rw [idle]
    · rw [answer_give, answer_give, done, map_assign, reserved_assign, total_assign,
        Bitmap.length_edit]
  · exact answer_after_of_ne same mount call _

theorem admits_after_give (pool : Pool) (mount : Mount) (differs : second ≠ number) :
    pool.admits (pool.after mount (.give number)) second = pool.admits mount second := by
  by_cases used : pool.admits mount number = .ok false
  · have assigned := Bitmap.assigns_free (lt_of_admits used)
    have apart : second.toNat ≠ number.toNat := fun same => differs (UInt32.toNat_inj.mp same)
    rw [after_give_of_used used, admits, admits, map_assign, reserved_assign, total_assign,
      Bitmap.test, Bitmap.test, assigned.length, assigned.bits, if_neg apart]
  · rw [after_give_of_idle used]

/-- A unit that is not given back is not given back behind another one either. -/
theorem after_give_comm_of_idle (differs : second ≠ number)
    (idle : pool.admits mount number ≠ .ok false) :
    pool.after (pool.after mount (.give second)) (.give number) =
      pool.after (pool.after mount (.give number)) (.give second) := by
  have still : pool.admits (pool.after mount (.give second)) number ≠ .ok false := by
    rwa [admits_after_give pool mount differs.symm]
  rw [after_give_of_idle still, after_give_of_idle idle]

theorem after_give_comm_of_used (differs : second ≠ number)
    (used : pool.admits mount number = .ok false)
    (alsoUsed : pool.admits mount second = .ok false) :
    pool.after (pool.after mount (.give number)) (.give second) =
      pool.after (pool.after mount (.give second)) (.give number) := by
  have inside := lt_of_admits used
  have alsoInside := lt_of_admits alsoUsed
  have still : pool.admits (pool.after mount (.give number)) second = .ok false :=
    (admits_after_give pool mount differs).trans alsoUsed
  have alsoStill : pool.admits (pool.after mount (.give second)) number = .ok false :=
    (admits_after_give pool mount differs.symm).trans used
  rw [after_give_of_used still, after_give_of_used alsoStill, after_give_of_used used,
    after_give_of_used alsoUsed, map_assign, map_assign, Bitmap.edit_free_comm inside alsoInside]
  exact assign_assign _ _ _ _ _ _ _

/-- Units are given back in any order. -/
theorem after_give_comm (pool other : Pool) (mount : Mount) (number second : UInt32) :
    other.after (pool.after mount (.give number)) (.give second) =
      pool.after (other.after mount (.give second)) (.give number) := by
  by_cases same : other = pool
  · subst same
    by_cases equal : second = number
    · rw [equal]
    · by_cases used : other.admits mount number = .ok false
      · by_cases alsoUsed : other.admits mount second = .ok false
        · exact after_give_comm_of_used equal used alsoUsed
        · exact after_give_comm_of_idle (Ne.symm equal) alsoUsed
      · exact (after_give_comm_of_idle equal used).symm
  · exact after_comm_of_ne same mount _ _

/-- A unit that was just taken is given back, and nothing remains of it. -/
theorem give_after_take {reserved : UInt32} (found : (pool.map mount).firstFree = .ok number)
    (limit : pool.reserved mount = .ok reserved) (behind : reserved ≤ number)
    (exact : saturatingSucc (saturatingPred (pool.counter mount.superblock)) =
      pool.counter mount.superblock) :
    pool.admits (pool.after mount .take) number = .ok false ∧
      mount.Twin (pool.after (pool.after mount .take) (.give number)) := by
  obtain ⟨inside, free, _⟩ := Bitmap.firstFree_eq_ok found
  have taken := Bitmap.assigns_use inside
  have admitted : pool.admits (pool.after mount .take) number = .ok false := by
    rw [after_take_of_ok found, admits_eq_test ((reserved_assign _ _ _ _ _).trans limit) behind,
      map_assign, Bitmap.test_of_lt (taken.length ▸ inside), taken.bits, if_pos rfl]
  refine ⟨admitted, ?_⟩
  rw [after_give_of_used admitted, after_take_of_ok found, map_assign,
    Bitmap.edit_free_edit_use inside free]
  exact twin_assign_assign exact

/-- After a unit was given back the search finds it, unless a lower one was free before. -/
theorem take_after_give (used : pool.admits mount number = .ok false) :
    (∃ first, Call.take.answer pool mount = .ok (.number first) ∧
      Call.take.answer pool (pool.after mount (.give number)) = .ok (.number (min number first))) ∨
    (Call.take.answer pool mount = .error .exhausted ∧
      Call.take.answer pool (pool.after mount (.give number)) = .ok (.number number)) := by
  have assigned := Bitmap.assigns_free (lt_of_admits used)
  rw [after_give_of_used used, Call.answer, Call.answer, map_assign]
  cases found : (pool.map mount).firstFree with
  | ok first =>
      refine .inl ⟨first, rfl, ?_⟩
      rw [assigned.firstFree_of_ok found]
      rfl
  | error error =>
      obtain ⟨rfl, _⟩ := Bitmap.firstFree_eq_error found
      refine .inr ⟨rfl, ?_⟩
      rw [assigned.firstFree_of_error found]
      rfl

end Give

variable {δ : Type} [BlockDevice δ]

/-- A call answers and changes the mount as told, whatever the device is. -/
theorem step_call (pool : Pool) (call : Call) (mount : Mount) (host : Host δ) :
    ∃ last, (call.operation pool).step (mount, host) =
      (call.answer pool mount, pool.after mount call, last) := by
  cases call with
  | take =>
      rw [Call.operation, Call.answer, step_take, endTake]
      cases found : (pool.map mount).firstFree with
      | error error =>
          rw [takes_of_error found, after_take_of_error found]
          exact ⟨host, rfl⟩
      | ok number =>
          have marked := Bitmap.perform_eq_edit (.use number) (Bitmap.firstFree_eq_ok found).1
          rw [takes_of_ok found marked, after_take_of_ok found]
          exact ⟨host.note (pool.took number), rfl⟩
  | give number =>
      rw [Call.operation, Call.answer, step_give, endGive]
      obtain ⟨error, admitted, given⟩ | ⟨admitted, given⟩ | ⟨admitted, given⟩ :=
        pool.admits_cases mount number
      · rw [admitted, given, after_give_of_idle (by simp [admitted])]
        exact ⟨host, rfl⟩
      · rw [admitted, given, after_give_of_idle (by simp [admitted])]
        exact ⟨host, rfl⟩
      · rw [admitted, given]
        exact ⟨host.note (pool.gave number), rfl⟩

theorem step_fst (pool : Pool) (call : Call) (mount : Mount) (host : Host δ) :
    ((call.operation pool).step (mount, host)).1 = call.answer pool mount := by
  obtain ⟨_, stepped⟩ := pool.step_call call mount host
  rw [stepped]

end Pool

end BlockFs
