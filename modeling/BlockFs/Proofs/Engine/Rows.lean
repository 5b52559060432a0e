import BlockFs.Proofs.Device.RamDisk
import BlockFs.Proofs.Engine.Transfer
import BlockFs.Proofs.Word

/-!
Rows of writes.

A `Placement` is one block to be written.  `Carries` is how a device takes a row of them: in order,
and up to the first that it refuses.  `Engine.Performs` says that a computation comes down to such a
row, and `Placed` what the disk is after a row was taken.
-/

namespace BlockFs

open BlockDevice

/-- A block that is to hold some content, and the region that a failure to write it names. -/
structure Placement where
  region : Region
  block : Nat
  content : Block

/-- Consecutive blocks of one region. -/
def Placement.span (region : Region) (start : Nat) : List Block → List Placement
  | [] => []
  | content :: rest => ⟨region, start, content⟩ :: span region (start + 1) rest

/-- The disk after the blocks of a row were written, and no others. -/
structure Placed (row : List Placement) (before after : Nat → Block) : Prop where
  written : ∀ placement ∈ row, after placement.block = placement.content
  others : ∀ block, block ∉ row.map Placement.block → after block = before block

namespace Placement

@[simp] theorem map_block_span (region : Region) (start : Nat) (contents : List Block) :
    (span region start contents).map block = List.range' start contents.length := by
  induction contents generalizing start with
  | nil => rfl
  | cons content rest ih => rw [span, List.map_cons, ih, List.length_cons, List.range'_succ]

theorem region_span {region : Region} {start : Nat} {contents : List Block} {placement : Placement}
    (member : placement ∈ span region start contents) :
    placement.region = region ∧ start ≤ placement.block ∧
      placement.block < start + contents.length := by
  induction contents generalizing start with
  | nil => cases member
  | cons content rest ih =>
      rw [List.length_cons]
      rcases List.mem_cons.mp member with rfl | later
      · exact ⟨rfl, Nat.le_refl _, by simp⟩
      · rcases ih later with ⟨same, low, high⟩
        exact ⟨same, by omega, by omega⟩

end Placement

namespace Placed

variable {placement : Placement} {row front rest : List Placement}
  {disk first second third other : Nat → Block}

theorem nil (disk : Nat → Block) : Placed [] disk disk :=
  ⟨nofun, fun _ _ => rfl⟩

theorem cons (fresh : placement.block ∉ row.map Placement.block)
    (head : second = overlay first placement.block [placement.content])
    (tail : Placed row second third) : Placed (placement :: row) first third := by
  constructor
  · intro wanted member
    rcases List.mem_cons.mp member with rfl | later
    · rw [tail.others _ fresh, head, overlay_first]
    · exact tail.written wanted later
  · intro block absent
    simp only [List.map_cons, List.mem_cons, not_or] at absent
    rw [tail.others block absent.2, head]
    exact overlay_of_outside (by simp only [List.length_singleton]; omega)

theorem unique (one : Placed row disk first) (two : Placed row disk second) : first = second := by
  funext block
  by_cases member : block ∈ row.map Placement.block
  · rcases List.mem_map.mp member with ⟨placement, inside, rfl⟩
    rw [one.written placement inside, two.written placement inside]
  · rw [one.others block member, two.others block member]

theorem eq_overlay (placed : Placed [placement] first second) :
    second = overlay first placement.block [placement.content] :=
  placed.unique (.cons nofun rfl (.nil _))

/-- A row that is written again from its start leaves what it would have left at once. -/
theorem again (part : Placed front first second) (whole : Placed (front ++ rest) second third) :
    Placed (front ++ rest) first third := by
  refine ⟨whole.written, fun block absent => ?_⟩
  rw [whole.others block absent]
  apply part.others
  simp only [List.map_append, List.mem_append, not_or] at absent
  exact absent.1

end Placed

section Carries

variable {δ : Type} [BlockDevice δ]

/-- How a device takes a row of writes, of which some were done when the work ended. -/
inductive Carries (durability : Durability) :
    δ → (row done : List Placement) → Except Error Unit → δ → Prop where
  | nil {device : δ} : Carries durability device [] [] (.ok ()) device
  | refused {device : δ} {placement : Placement} {rest : List Placement} {word : UInt32}
      {cause : DeviceError} (address : word.toNat = placement.block)
      (failed : (write device word placement.content.bytes durability).1 = .error cause) :
      Carries durability device (placement :: rest) []
        (.error (.device placement.region cause))
        (write device word placement.content.bytes durability).2
  | taken {device after : δ} {placement : Placement} {rest done : List Placement} {word : UInt32}
      {answer : Except Error Unit} (address : word.toNat = placement.block)
      (wrote : (write device word placement.content.bytes durability).1 = .ok ())
      (later : Carries durability (write device word placement.content.bytes durability).2 rest done
        answer after) :
      Carries durability device (placement :: rest) (placement :: done) answer after

namespace Carries

variable {durability : Durability} {device between after : δ}
  {row done second more : List Placement} {answer : Except Error Unit} {error : Error}

theorem part (carries : Carries durability device row done answer after) : done <+: row := by
  induction carries with
  | nil => exact List.prefix_rfl
  | refused => exact List.nil_prefix
  | taken _ _ _ ih => exact List.cons_prefix_cons.mpr ⟨rfl, ih⟩

theorem done_eq (carries : Carries durability device row done (.ok ()) after) : done = row := by
  generalize same : (Except.ok () : Except Error Unit) = answer at carries
  induction carries with
  | nil => rfl
  | refused => cases same
  | taken _ _ _ ih => rw [ih same]

theorem append (one : Carries durability device row done (.ok ()) between)
    (two : Carries durability between second more answer after) :
    Carries durability device (row ++ second) (row ++ more) answer after := by
  generalize same : (Except.ok () : Except Error Unit) = complete at one
  induction one with
  | nil => exact two
  | refused => cases same
  | taken address wrote _ ih => exact .taken address wrote (ih two same)

theorem append_of_error (one : Carries durability device row done (.error error) after)
    (second : List Placement) :
    Carries durability device (row ++ second) done (.error error) after := by
  generalize same : (Except.error error : Except Error Unit) = stopped at one ⊢
  induction one with
  | nil => cases same
  | refused address failed => exact .refused address failed
  | taken address wrote _ ih => exact .taken address wrote (ih same)

theorem error_eq (carries : Carries durability device row done (.error error) after) :
    ∃ region cause, error = .device region cause := by
  generalize same : (Except.error error : Except Error Unit) = stopped at carries
  induction carries with
  | nil => cases same
  | refused =>
      cases same
      exact ⟨_, _, rfl⟩
  | taken _ _ _ ih => exact ih same

theorem placed [LawfulBlockDevice δ] (carries : Carries durability device row done answer after)
    (distinct : (row.map Placement.block).Nodup) :
    Placed done (content device) (content after) := by
  induction carries with
  | nil => exact .nil _
  | refused _ failed =>
      rw [LawfulBlockDevice.content_write_of_error failed]
      exact .nil _
  | @taken device after placement rest done word answer address wrote later ih =>
      rcases List.nodup_cons.mp distinct with ⟨fresh, distinct⟩
      have inside := later.part.sublist.map Placement.block
      refine .cons (fun member => fresh (inside.subset member)) ?_ (ih distinct)
      rcases LawfulBlockDevice.content_write wrote with ⟨_, changed⟩
      rw [changed, ← address]
      funext index
      by_cases here : index = word.toNat
      · subst here
        rw [if_pos rfl, overlay_first]
      · rw [if_neg here]
        exact (overlay_of_outside (by simp only [List.length_singleton]; omega)).symm

end Carries

end Carries

/-- Devices that refuse to write exactly the blocks of a set, each with its cause, however often
they are written. -/
structure Unwritable {δ : Type} [BlockDevice δ] (causes : Nat → Option DeviceError)
    (devices : δ → Prop) : Prop where
  stays {device : δ} (member : devices device) (block : UInt32) (content : Block)
    (durability : Durability) : devices (write device block content.bytes durability).2
  fails {device : δ} {block : UInt32} {content : Block} {durability : Durability}
    {cause : DeviceError} (member : devices device) :
    (write device block content.bytes durability).1 = .error cause ↔
      causes block.toNat = some cause

/-- How much of a row is done, and the answer, when some blocks cannot be written. -/
def progress (causes : Nat → Option DeviceError) :
    List Placement → List Placement × Except Error Unit
  | [] => ([], .ok ())
  | placement :: rest =>
      match causes placement.block with
      | some cause => ([], .error (.device placement.region cause))
      | none => (placement :: (progress causes rest).1, (progress causes rest).2)

variable {causes : Nat → Option DeviceError} {row done : List Placement}

theorem progress_of_allowed (allowed : ∀ placement ∈ row, causes placement.block = none) :
    progress causes row = (row, .ok ()) := by
  induction row with
  | nil => rfl
  | cons placement rest ih =>
      rw [List.forall_mem_cons] at allowed
      simp only [progress, allowed.1, ih allowed.2]

theorem progress_of_refused {refused : Placement} {cause : DeviceError}
    (allowed : ∀ placement ∈ done, causes placement.block = none)
    (refusal : causes refused.block = some cause) (rest : List Placement) :
    progress causes (done ++ refused :: rest) =
      (done, .error (.device refused.region cause)) := by
  induction done with
  | nil => simp only [List.nil_append, progress, refusal]
  | cons placement front ih =>
      rw [List.forall_mem_cons] at allowed
      simp only [List.cons_append, progress, allowed.1, ih allowed.2]

theorem Carries.progress_eq {δ : Type} [BlockDevice δ] {devices : δ → Prop}
    {durability : Durability} {device after : δ} {answer : Except Error Unit}
    (carries : Carries durability device row done answer after)
    (unwritable : Unwritable causes devices) (member : devices device) :
    progress causes row = (done, answer) := by
  induction carries with
  | nil => rfl
  | refused address failed =>
      have refusal := (unwritable.fails member).mp failed
      rw [address] at refusal
      simp only [progress, refusal]
  | @taken device after placement rest done word answer address wrote _ ih =>
      have allowed : causes placement.block = none := by
        cases cause : causes placement.block with
        | none => rfl
        | some cause =>
            rw [← address] at cause
            cases wrote.symm.trans ((unwritable.fails member).mpr cause)
      simp only [progress, allowed, ih (unwritable.stays member _ _ _)]

namespace RamDisk

/-- Why a block of the disk cannot be written: it is past the end, or told to fail. -/
def writeCauses (disk : RamDisk) (block : Nat) : Option DeviceError :=
  if disk.blockCount ≤ block then some (.pastEnd (.ofNat block) disk.blockCount)
  else if disk.failingWrites.contains block then some (.injected .write)
  else none

theorem unwritable (disk : RamDisk) : Unwritable disk.writeCauses fun other : RamDisk =>
    other.blockCount = disk.blockCount ∧ other.failingWrites = disk.failingWrites where
  stays {other} member block content durability := by
    simp only [BlockDevice.write, RamDisk.write, checkWrite, dif_pos content.size_bytes]
    by_cases outside : other.blockCount ≤ block.toNat
    · simp only [if_pos outside]
      exact member
    · simp only [if_neg outside]
      by_cases refused : other.failingWrites.contains block.toNat = true
      · simp only [if_pos refused]
        exact member
      · simp only [if_neg refused]
        exact member
  fails {other block content durability cause} member := by
    rcases member with ⟨size, failing⟩
    simp only [BlockDevice.write, RamDisk.write, checkWrite, dif_pos content.size_bytes,
      writeCauses, ← size, ← failing, UInt32.ofNat_toNat]
    by_cases outside : other.blockCount ≤ block.toNat
    · simp [outside]
    · by_cases refused : other.failingWrites.contains block.toNat = true <;>
        simp [outside, refused]

theorem contains_failWrites (disk : RamDisk) (block : UInt32) (index : Nat) :
    (disk.heal.failWrites [block]).failingWrites.contains index = decide (index = block.toNat) := by
  simp only [heal, failWrites, List.map_cons, List.map_nil,
    Std.ExtTreeSet.insertMany_list_singleton, Std.ExtTreeSet.contains_insert,
    Std.ExtTreeSet.contains_empty, Bool.or_false, compare_beq_eq]

theorem writeCauses_failWrites (disk : RamDisk) (block : UInt32) {index : Nat}
    (inside : index < disk.blockCount) : (disk.heal.failWrites [block]).writeCauses index =
      if index = block.toNat then some (.injected .write) else none := by
  have size : (disk.heal.failWrites [block]).blockCount = disk.blockCount := rfl
  rw [writeCauses, size, if_neg (Nat.not_le.mpr inside), contains_failWrites]
  simp only [decide_eq_true_eq]

theorem writeCauses_heal (disk : RamDisk) {index : Nat} (inside : index < disk.blockCount) :
    disk.heal.writeCauses index = none := by
  have size : disk.heal.blockCount = disk.blockCount := rfl
  have empty : disk.heal.failingWrites = ∅ := rfl
  simp [writeCauses, size, empty, inside]

end RamDisk

theorem Unwritable.monitor {δ : Type} [BlockDevice δ] {devices : δ → Prop}
    (unwritable : Unwritable causes devices) :
    Unwritable causes fun monitor : Monitor δ => devices monitor.device where
  stays member := unwritable.stays member
  fails member := unwritable.fails member

namespace Engine

variable {δ α β : Type} [BlockDevice δ] {early : Nat → Error → Prop} {durability : Durability}
  {second : List Placement} {value : α} {result : β} {work : Engine δ α}
  {next : α → Engine δ β}

/-- A computation that writes a row and answers a value, or fails early for a reason of its own,
which may have to do with the memory there is. -/
def Performs (early : Nat → Error → Prop) (durability : Durability) (row : List Placement)
    (value : α) (work : Engine δ α) : Prop :=
  ∀ host answer after, work.run.run host = (answer, after) →
    after.bufferLimit = host.bufferLimit ∧
    ((∃ error, early host.bufferLimit error ∧ answer = .error error) ∨
      ∃ done outcome, Carries durability host.device row done outcome after.device ∧
        answer = outcome.map fun _ => value)

theorem Performs.bind (first : Performs early durability row value work)
    (later : Performs early durability second result (next value)) :
    Performs early durability (row ++ second) result (work >>= next) := by
  intro host answer after ran
  rcases bind_cases ran with ⟨found, between, ranFirst, ran⟩ | ⟨error, ranFirst, rfl⟩
  · rcases first _ _ _ ranFirst with
      ⟨limit, ⟨_, _, failed⟩ | ⟨done, outcome, carries, answered⟩⟩
    · cases failed
    · cases outcome with
      | error error => cases answered
      | ok complete =>
          cases answered
          rcases later _ _ _ ran with ⟨same, early | ⟨more, outcome, follows, answered⟩⟩
          · rw [limit] at early
            exact ⟨same.trans limit, .inl early⟩
          · exact ⟨same.trans limit, .inr ⟨_, outcome, carries.append follows, answered⟩⟩
  · rcases first _ _ _ ranFirst with
      ⟨limit, ⟨_, reason, failed⟩ | ⟨done, outcome, carries, answered⟩⟩
    · cases failed
      exact ⟨limit, .inl ⟨error, reason, rfl⟩⟩
    · cases outcome with
      | error cause =>
          cases answered
          exact ⟨limit, .inr ⟨done, _, carries.append_of_error second, rfl⟩⟩
      | ok complete => cases answered

/-- A step that writes nothing, in front of the rest. -/
theorem Performs.skip (first : Performs early durability [] value work)
    (later : Performs early durability row result (next value)) :
    Performs early durability row result (work >>= next) :=
  first.bind later

theorem performs_pure (value : α) :
    Performs early durability [] value (pure value : Engine δ α) := by
  intro host answer after ran
  cases ran
  exact ⟨rfl, .inr ⟨[], .ok (), .nil, rfl⟩⟩

theorem Performs.map (first : Performs early durability row value work) (f : α → β) :
    Performs early durability row (f value) (work >>= fun found => pure (f found)) := by
  rw [← List.append_nil row]
  exact first.bind (performs_pure (f value))

theorem performs_report (event : Event) :
    Performs early durability [] () (report event : Engine δ Unit) := by
  intro host answer after ran
  cases ran
  exact ⟨rfl, .inr ⟨[], .ok (), .nil, rfl⟩⟩

theorem performs_lift {found : Except Error α} (answered : found = .ok value) :
    Performs early durability [] value (liftM found : Engine δ α) := by
  rw [answered]
  exact performs_pure value

/-- The memory that there is decides whether a value is found, and not which. -/
def Limited (early : Nat → Error → Prop) (found : Nat → Except Error α) (value : α) : Prop :=
  ∀ limit, found limit = .ok value ∨ ∃ error, early limit error ∧ found limit = .error error

/-- A step that takes memory, in front of the rest. -/
theorem performs_lift_limit {found : Nat → Except Error α} (limited : Limited early found value)
    (later : Performs early durability row result (next value)) :
    Performs early durability row result
      (get >>= fun host : Host δ => (liftM (found host.bufferLimit) : Engine δ α) >>= next) := by
  intro host answer after ran
  rw [run_bind_of_ok (run_get host)] at ran
  rcases limited host.bufferLimit with answered | ⟨error, reason, failed⟩
  · rw [run_bind_of_ok (by rw [run_lift, answered])] at ran
    exact later _ _ _ ran
  · rw [run_bind_of_error (by rw [run_lift, failed])] at ran
    cases ran
    exact ⟨rfl, .inl ⟨error, reason, rfl⟩⟩

theorem performs_reserve {bytes : Nat}
    (room : ∀ limit < bytes, early limit (.outOfMemory bytes)) :
    Performs early durability [] () (reserve bytes : Engine δ Unit) := by
  intro host answer after ran
  rw [run_reserve] at ran
  split at ran <;> cases ran
  · exact ⟨rfl, .inl ⟨_, room _ ‹_›, rfl⟩⟩
  · exact ⟨rfl, .inr ⟨[], .ok (), .nil, rfl⟩⟩

theorem performs_writeBlock {region : Region} {block : UInt32} (content : Block) :
    Performs early durability [⟨region, block.toNat, content⟩] ()
      (writeBlock region block content.bytes durability : Engine δ Unit) := by
  intro host answer after ran
  rw [writeBlock, run_call, Prod.mk.injEq] at ran
  rcases ran with ⟨answered, rfl⟩
  refine ⟨rfl, .inr ?_⟩
  cases wrote : (write host.device block content.bytes durability).1 with
  | error cause =>
      rw [wrote] at answered
      exact ⟨_, _, .refused rfl wrote, answered.symm⟩
  | ok done =>
      rw [wrote] at answered
      exact ⟨_, _, .taken rfl wrote .nil, answered.symm⟩

theorem performs_writeBlocks {region : Region} {start : UInt32} {done : Nat} {blocks : List Block}
    (words : start.toNat + done + blocks.length ≤ UInt32.size) :
    Performs early durability (Placement.span region (start.toNat + done) blocks) ()
      (writeBlocks region start durability done blocks : Engine δ Unit) := by
  induction blocks generalizing done with
  | nil => exact performs_pure ()
  | cons block rest ih =>
      rw [List.length_cons] at words
      rcases narrow_exists (start.toNat + done) (by omega) with ⟨place, narrowed, placed⟩
      have tail := @ih (done + 1) (by omega)
      rw [← Nat.add_assoc] at tail
      rw [Placement.span, ← placed]
      rw [← placed] at tail
      exact (performs_lift narrowed).skip ((performs_writeBlock block).bind tail)

theorem performs_writeSpan {region : Region} {start : UInt32} {data : ByteArray}
    {blocks : List Block} (divided : blocksOf data = .ok blocks)
    (words : start.toNat + blocks.length ≤ UInt32.size) :
    Performs early durability (Placement.span region start.toNat blocks) ()
      (writeSpan region start data durability : Engine δ Unit) :=
  (performs_lift divided).skip (performs_writeBlocks words)

end Engine

end BlockFs
