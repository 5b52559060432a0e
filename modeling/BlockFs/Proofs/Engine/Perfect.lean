import BlockFs.Device.Lawful
import BlockFs.Proofs.Engine.Healthy

/-!
Runs in which no call of the device fails.

A monitor counts the calls that failed.  As long as the count stays what it is, a computation cannot
tell the device from a disk that refuses nothing: this is `Engine.Mimics`.  Where the device in fact
refuses nothing the count does stay.
-/

namespace BlockFs

open BlockDevice

/-- A disk that refuses nothing. -/
structure Perfect where
  pages : Nat → Block

namespace Perfect

/-- A disk after one block was written. -/
def put (disk : Perfect) (block : UInt32) (content : Block) : Perfect where
  pages index := if index = block.toNat then content else disk.pages index

instance : BlockDevice Perfect where
  blockCount _ := UInt32.size
  byteSize _ := UInt32.size * blockSize
  content := pages
  read disk block length :=
    ((checkTransfer UInt32.size block length).map fun _ => disk.pages block.toNat, disk)
  write disk block data _ :=
    match checkWrite UInt32.size block data with
    | .error cause => (.error cause, disk)
    | .ok content => (.ok (), disk.put block content)
  flush disk := (.ok (), disk)

theorem read_block (disk : Perfect) (block : UInt32) :
    BlockDevice.read disk block blockSize = (.ok (disk.pages block.toNat), disk) := by
  simp only [BlockDevice.read, checkTransfer, if_neg (Nat.not_le.mpr block.toNat_lt), if_true]
  rfl

theorem write_block (disk : Perfect) (block : UInt32) (content : Block) (durability : Durability) :
    BlockDevice.write disk block content.bytes durability = (.ok (), disk.put block content) := by
  simp only [BlockDevice.write, checkWrite, if_neg (Nat.not_le.mpr block.toNat_lt),
    dif_pos content.size_bytes]

instance : LawfulBlockDevice Perfect where
  blockCount_read _ _ _ := rfl
  blockCount_write _ _ _ _ := rfl
  blockCount_flush _ := rfl
  byteSize_read _ _ _ := rfl
  byteSize_write _ _ _ _ := rfl
  byteSize_flush _ := rfl
  content_read _ _ _ := rfl
  content_flush _ := rfl
  content_write_of_error {disk block data durability cause} failed := by
    simp only [BlockDevice.write] at failed ⊢
    split at failed
    · rfl
    · cases failed
  read_eq_content {disk block length found} succeeded := by
    simp only [BlockDevice.read] at succeeded
    cases check : checkTransfer UInt32.size block length with
    | error cause =>
        rw [check] at succeeded
        cases succeeded
    | ok done =>
        rw [check] at succeeded
        exact (Except.ok.inj succeeded).symm
  content_write {disk block data durability} succeeded := by
    simp only [BlockDevice.write] at succeeded ⊢
    split at succeeded
    · cases succeeded
    · rename_i content accepted
      have same := (checkWrite_ok accepted).2
      subst same
      exact ⟨content.size_bytes, rfl⟩
  checkTransfer_read {disk block length cause} refused := by
    have check : checkTransfer UInt32.size block length = .error cause := refused
    simp only [BlockDevice.read, check]
    rfl
  checkTransfer_write {disk block data durability cause} refused := by
    have check : checkWrite UInt32.size block data = .error cause := checkWrite_error refused
    simp only [BlockDevice.write, check]

theorem healthy (disk : Perfect) : Healthy UInt32.size disk := by
  refine ⟨fun _ => True, ⟨?_, ?_, ?_⟩, trivial⟩
  · intro disk block _ _
    exact ⟨⟨_, congrArg Prod.fst (disk.read_block block)⟩, trivial⟩
  · intro disk block data durability _ _ size_bytes
    exact ⟨congrArg Prod.fst (disk.write_block block ⟨data, size_bytes⟩ durability), trivial⟩
  · intro disk _
    exact ⟨rfl, trivial⟩

end Perfect

/-- How many calls have failed. -/
def Monitor.failures {δ : Type} (monitor : Monitor δ) : Nat :=
  monitor.records.countP CallRecord.failed

variable {δ : Type} {α β : Type}

theorem Monitor.failures_observe (monitor : Monitor δ) (call : Call)
    (answer : Except DeviceError α × δ) :
    (monitor.observe call answer).2.failures =
      monitor.failures + if answer.1.isOk then 0 else 1 := by
  simp only [observe, failures, Array.countP_push]
  cases answer.1.isOk <;> rfl

theorem Monitor.healthy [BlockDevice δ] {limit : Nat} {monitor : Monitor δ}
    (healthy : Healthy limit monitor.device) (flushes : monitor.refusesFlush = false) :
    Healthy limit monitor := by
  obtain ⟨devices, reliable, member⟩ := healthy
  refine ⟨fun monitor => devices monitor.device ∧ monitor.refusesFlush = false, ⟨?_, ?_, ?_⟩,
    member, flushes⟩
  · rintro monitor block ⟨member, flushes⟩ inside
    obtain ⟨found, stays⟩ := reliable.read member inside
    exact ⟨found, stays, flushes⟩
  · rintro monitor block data durability ⟨member, flushes⟩ inside size_bytes
    obtain ⟨wrote, stays⟩ := reliable.write durability member inside size_bytes
    exact ⟨wrote, stays, flushes⟩
  · rintro monitor ⟨member, flushes⟩
    obtain ⟨flushed, stays⟩ := reliable.flush member
    simp only [BlockDevice.flush, Monitor.observe, flushes, Bool.false_eq_true, if_false]
    exact ⟨flushed, stays, trivial⟩

/-- The same content on a disk that refuses nothing. -/
def Host.perfect [BlockDevice δ] (host : Host (Monitor δ)) : Host Perfect where
  device := ⟨host.disk⟩
  bufferLimit := host.bufferLimit
  events := host.events

namespace Engine

variable [BlockDevice δ]

/-- A run on a monitored device beside a run on a perfect disk. -/
structure Shadows (ideal : Engine Perfect α) (before after : Host (Monitor δ))
    (answer : Except Error α) : Prop where
  grows : before.device.failures ≤ after.device.failures
  follows : after.device.failures = before.device.failures →
    ideal.run.run before.perfect = (answer, after.perfect)
  quiet : Healthy UInt32.size before.device.device →
    after.device.failures = before.device.failures ∧ Healthy UInt32.size after.device.device

/-- Without a failed call a computation answers and does what it would on a perfect disk. -/
def Mimics (work : Engine (Monitor δ) α) (ideal : Engine Perfect α) : Prop :=
  ∀ host answer after, work.run.run host = (answer, after) → Shadows ideal host after answer

variable {work : Engine (Monitor δ) α} {ideal : Engine Perfect α}
  {next : α → Engine (Monitor δ) β} {idealNext : α → Engine Perfect β}
  {before between after : Host (Monitor δ)} {answer : Except Error α}

theorem Shadows.of_device_eq (same : after.device = before.device)
    (ran : ideal.run.run before.perfect = (answer, after.perfect)) :
    Shadows ideal before after answer := by
  refine ⟨Nat.le_of_eq (congrArg Monitor.failures same.symm), fun _ => ran, fun healthy => ?_⟩
  rw [same]
  exact ⟨rfl, healthy⟩

theorem Shadows.append {other : Engine Perfect β} {whole : Engine Perfect β}
    {last : Except Error β} (one : Shadows ideal before between answer)
    (two : Shadows other between after last)
    (joins : ideal.run.run before.perfect = (answer, between.perfect) →
      whole.run.run before.perfect = other.run.run between.perfect) :
    Shadows whole before after last := by
  refine ⟨Nat.le_trans one.grows two.grows, fun same => ?_, fun healthy => ?_⟩
  · have first := one.grows
    have second := two.grows
    rw [joins (one.follows (by omega))]
    exact two.follows (by omega)
  · obtain ⟨same, healthy⟩ := one.quiet healthy
    obtain ⟨same', healthy⟩ := two.quiet healthy
    exact ⟨same'.trans same, healthy⟩

theorem Mimics.bind (first : Mimics work ideal)
    (rest : ∀ value, Mimics (next value) (idealNext value)) :
    Mimics (work >>= next) (ideal >>= idealNext) := by
  intro host answer after ran
  obtain ⟨value, between, answered, ran⟩ | ⟨error, failed, rfl⟩ := bind_cases ran
  · exact (first _ _ _ answered).append (rest value _ _ _ ran) run_bind_of_ok
  · have one := first _ _ _ failed
    exact ⟨one.grows, fun same => run_bind_of_error (one.follows same), one.quiet⟩

theorem Mimics.tryCatch {handler : Error → Engine (Monitor δ) α}
    {idealHandler : Error → Engine Perfect α} (first : Mimics work ideal)
    (rest : ∀ error, Mimics (handler error) (idealHandler error)) :
    Mimics (tryCatch work handler) (tryCatch ideal idealHandler) := by
  intro host answer after ran
  cases worked : work.run.run host with
  | mk found between =>
      have one := first _ _ _ worked
      cases found with
      | ok value =>
          rw [run_tryCatch_of_ok worked] at ran
          cases ran
          exact ⟨one.grows, fun same => run_tryCatch_of_ok (one.follows same), one.quiet⟩
      | error error =>
          rw [run_tryCatch_of_error worked] at ran
          exact one.append (rest error _ _ _ ran) run_tryCatch_of_error

theorem mimics_lift (result : Except Error α) :
    Mimics (liftM result : Engine (Monitor δ) α) (liftM result) := by
  intro host answer after ran
  rw [run_lift] at ran
  cases ran
  exact .of_device_eq rfl (run_lift _ _)

theorem mimics_pure (value : α) : Mimics (pure value : Engine (Monitor δ) α) (pure value) := by
  intro host answer after ran
  cases ran
  exact .of_device_eq rfl rfl

theorem mimics_report (event : Event) :
    Mimics (report event : Engine (Monitor δ) Unit) (report event) := by
  intro host answer after ran
  cases ran
  exact .of_device_eq rfl rfl

theorem mimics_reserve (bytes : Nat) :
    Mimics (reserve bytes : Engine (Monitor δ) Unit) (reserve bytes) := by
  intro host answer after ran
  rw [run_reserve] at ran
  have same : host.perfect.bufferLimit = host.bufferLimit := rfl
  split at ran
  · rename_i above
    cases ran
    exact .of_device_eq rfl (by rw [run_reserve, same, if_pos above])
  · rename_i fits
    cases ran
    exact .of_device_eq rfl (by rw [run_reserve, same, if_neg fits])

/-- Both hosts have the same memory. -/
theorem mimics_limited (found : Nat → Except Error α)
    (rest : ∀ value, Mimics (next value) (idealNext value)) :
    Mimics
      (get >>= fun host : Host (Monitor δ) =>
        (liftM (found host.bufferLimit) : Engine (Monitor δ) α) >>= next)
      (get >>= fun host : Host Perfect =>
        (liftM (found host.bufferLimit) : Engine Perfect α) >>= idealNext) := by
  intro host answer after ran
  rw [run_bind_of_ok (run_get host)] at ran
  have shadows := (mimics_lift _).bind rest host answer after ran
  exact ⟨shadows.grows, fun same => (run_bind_of_ok (run_get _)).trans (shadows.follows same),
    shadows.quiet⟩

/-- A call that does to the content what the perfect disk does, unless it fails. -/
theorem mimics_observe (region : Region) (made : Call) (below : δ → Except DeviceError α × δ)
    (above : Perfect → Except DeviceError α × Perfect)
    (agrees : ∀ device value, (below device).1 = .ok value →
      above ⟨BlockDevice.content device⟩ = (.ok value, ⟨BlockDevice.content (below device).2⟩))
    (serves : ∀ device, Healthy UInt32.size device →
      (∃ value, (below device).1 = .ok value) ∧ Healthy UInt32.size (below device).2) :
    Mimics (call region fun monitor : Monitor δ => monitor.observe made (below monitor.device))
      (call region above) := by
  intro host answer after ran
  have counted := host.device.failures_observe made (below host.device.device)
  rw [run_call, Prod.mk.injEq] at ran
  obtain ⟨answered, rfl⟩ := ran
  refine ⟨?_, fun same => ?_, fun healthy => ?_⟩
  · exact Nat.le.intro counted.symm
  · have same : (host.device.observe made (below host.device.device)).2.failures =
        host.device.failures := same
    cases outcome : (below host.device.device).1 with
    | error cause =>
        simp [outcome, Except.isOk, Except.toBool] at counted
        omega
    | ok value =>
        have run : above host.perfect.device = _ := agrees _ value outcome
        rw [run_call, run, ← answered]
        simp only [Monitor.observe, outcome]
        rfl
  · obtain ⟨⟨value, outcome⟩, stays⟩ := serves _ healthy
    rw [outcome] at counted
    exact ⟨counted, stays⟩

variable [LawfulBlockDevice δ]

theorem mimics_fetch (region : Region) (block : UInt32) :
    Mimics (fetch region block : Engine (Monitor δ) Block) (fetch region block) := by
  refine mimics_observe region (.read block) (BlockDevice.read · block blockSize) _ ?_ ?_
  · intro device found read
    rw [LawfulBlockDevice.content_read, LawfulBlockDevice.read_eq_content read]
    exact Perfect.read_block _ _
  · rintro device ⟨devices, reliable, member⟩
    obtain ⟨found, stays⟩ := reliable.read member block.toNat_lt
    exact ⟨found, devices, reliable, stays⟩

theorem mimics_writeBlock (region : Region) (block : UInt32) (content : Block)
    (durability : Durability) :
    Mimics (writeBlock region block content.bytes durability : Engine (Monitor δ) Unit)
      (writeBlock region block content.bytes durability) := by
  refine mimics_observe region (.write block durability)
    (BlockDevice.write · block content.bytes durability) _ ?_ ?_
  · intro device _ wrote
    obtain ⟨size_bytes, changed⟩ := LawfulBlockDevice.content_write wrote
    rw [changed]
    exact Perfect.write_block _ _ _ _
  · rintro device ⟨devices, reliable, member⟩
    obtain ⟨wrote, stays⟩ := reliable.write durability member block.toNat_lt content.size_bytes
    exact ⟨⟨(), wrote⟩, devices, reliable, stays⟩

end Engine

end BlockFs
