import BlockFs.Proofs.Engine.Run
import BlockFs.Proofs.Word

namespace BlockFs

namespace Engine

variable {δ α β : Type} {work : Engine δ α} {next : α → Engine δ β} {admitted : Error → Prop}

def Answers (work : Engine δ α) (value : α) : Prop :=
  ∃ host after, work.run.run host = (.ok value, after)

/-- The errors that a computation can end with, whatever the device answers. -/
def RefusesOnly (admitted : Error → Prop) (work : Engine δ α) : Prop :=
  ∀ host error after, work.run.run host = (.error error, after) → admitted error

theorem Answers.of_lift {result : Except Error α} {value : α}
    (answers : Answers (liftM result : Engine δ α) value) : result = .ok value := by
  obtain ⟨host, after, ran⟩ := answers
  rw [run_lift, Prod.mk.injEq] at ran
  exact ran.1

theorem RefusesOnly.bind (first : RefusesOnly admitted work)
    (rest : ∀ value, Answers work value → RefusesOnly admitted (next value)) :
    RefusesOnly admitted (work >>= next) := by
  intro host error after ran
  obtain ⟨value, between, answered, ran⟩ | ⟨_, failed, same⟩ := bind_cases ran
  · exact rest value ⟨host, between, answered⟩ between error after ran
  · cases same
    exact first host error after failed

theorem refusesOnly_lift {result : Except Error α}
    (admits : ∀ error, result = .error error → admitted error) :
    RefusesOnly admitted (liftM result : Engine δ α) := by
  intro host error after ran
  rw [run_lift, Prod.mk.injEq] at ran
  exact admits error ran.1

/-- A step that is known to succeed refuses nothing. -/
theorem refusesOnly_lift_ok {result : Except Error α} {value : α} (answered : result = .ok value) :
    RefusesOnly admitted (liftM result : Engine δ α) :=
  refusesOnly_lift fun _ failed => nomatch answered.symm.trans failed

theorem refusesOnly_throw {error : Error} (admits : admitted error) :
    RefusesOnly admitted (throw error : Engine δ α) := by
  intro host other after ran
  cases ran
  exact admits

theorem refusesOnly_pure (value : α) : RefusesOnly admitted (pure value : Engine δ α) := by
  intro host error after ran
  cases ran

theorem refusesOnly_get : RefusesOnly admitted (get : Engine δ (Host δ)) := by
  intro host error after ran
  cases ran

theorem refusesOnly_report (event : Event) :
    RefusesOnly admitted (report event : Engine δ Unit) := by
  intro host error after ran
  cases ran

theorem refusesOnly_reserve (memory : ∀ bytes, admitted (.outOfMemory bytes)) (bytes : Nat) :
    RefusesOnly admitted (reserve bytes : Engine δ Unit) := by
  intro host error after ran
  rw [run_reserve] at ran
  split at ran
  · cases ran
    exact memory bytes
  · cases ran

section Device

variable (device : ∀ region cause, admitted (.device region cause))

include device

theorem refusesOnly_call (region : Region) (transfer : δ → Except DeviceError α × δ) :
    RefusesOnly admitted (call region transfer) := by
  intro host error after ran
  rw [run_call, Prod.mk.injEq] at ran
  cases answer : (transfer host.device).1 with
  | ok value =>
      rw [answer] at ran
      cases ran.1
  | error cause =>
      rw [answer] at ran
      cases ran.1
      exact device region cause

variable [BlockDevice δ] {region : Region} {start : UInt32} {durability : Durability}

theorem refusesOnly_fetch (region : Region) (block : UInt32) :
    RefusesOnly admitted (fetch region block : Engine δ Block) :=
  refusesOnly_call device _ _

theorem refusesOnly_readBlock (memory : ∀ bytes, admitted (.outOfMemory bytes)) (region : Region)
    (block : UInt32) : RefusesOnly admitted (readBlock region block : Engine δ Block) :=
  (refusesOnly_reserve memory _).bind fun _ _ => refusesOnly_fetch device _ _

theorem refusesOnly_writeBlock (region : Region) (block : UInt32) (data : ByteArray)
    (durability : Durability) :
    RefusesOnly admitted (writeBlock region block data durability : Engine δ Unit) :=
  refusesOnly_call device _ _

/-- Block numbers of a span that ends within the words do not overflow. -/
theorem refusesOnly_readBlocks {count done : Nat} {bytes : ByteArray}
    (words : start.toNat + done + count ≤ UInt32.size) :
    RefusesOnly admitted (readBlocks region start count done bytes : Engine δ ByteArray) := by
  induction count generalizing done bytes with
  | zero => exact refusesOnly_pure bytes
  | succ count ih =>
      obtain ⟨place, narrowed, _⟩ := narrow_exists (start.toNat + done) (by omega)
      exact (refusesOnly_lift_ok narrowed).bind fun _ _ =>
        (refusesOnly_fetch device _ _).bind fun _ _ => ih (by omega)

theorem refusesOnly_readSpan (memory : ∀ bytes, admitted (.outOfMemory bytes)) {count : UInt32}
    (words : start.toNat + count.toNat ≤ UInt32.size) :
    RefusesOnly admitted (readSpan region start count : Engine δ ByteArray) :=
  (refusesOnly_reserve memory _).bind fun _ _ => refusesOnly_readBlocks device words

theorem refusesOnly_writeBlocks {done : Nat} {blocks : List Block}
    (words : start.toNat + done + blocks.length ≤ UInt32.size) :
    RefusesOnly admitted (writeBlocks region start durability done blocks : Engine δ Unit) := by
  induction blocks generalizing done with
  | nil => exact refusesOnly_pure ()
  | cons block rest ih =>
      rw [List.length_cons] at words
      obtain ⟨place, narrowed, _⟩ := narrow_exists (start.toNat + done) (by omega)
      exact (refusesOnly_lift_ok narrowed).bind fun _ _ =>
        (refusesOnly_writeBlock device _ _ _ _).bind fun _ _ => ih (by omega)

theorem refusesOnly_writeSpan {data : ByteArray} {blocks : List Block}
    (divided : blocksOf data = .ok blocks)
    (words : start.toNat + blocks.length ≤ UInt32.size) :
    RefusesOnly admitted (writeSpan region start data durability : Engine δ Unit) := by
  refine (refusesOnly_lift_ok divided).bind fun found answers => ?_
  cases divided.symm.trans answers.of_lift
  exact refusesOnly_writeBlocks device words

end Device

end Engine

end BlockFs
