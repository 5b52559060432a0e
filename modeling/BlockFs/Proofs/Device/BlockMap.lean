import BlockFs.Proofs.Device.RamDisk

/-!
A disk in memory is a map of blocks with a set of blocks that wait for a flush.

What it answers and holds is told from what was called on it and what it answered.  A block is what
the last successful write put there, whether it waits for a flush is a matter of the last write of it
since the last flush, and a transfer fails for reasons that the calls alone decide.
-/

namespace BlockFs

/-- A change of the blocks on which a disk in memory fails. -/
inductive Injection where
  | failReads (blocks : List UInt32)
  | failWrites (blocks : List UInt32)
  | heal

namespace Injection

def apply (disk : RamDisk) : Injection → RamDisk
  | .failReads blocks => disk.failReads blocks
  | .failWrites blocks => disk.failWrites blocks
  | .heal => disk.heal

/-- What an injection tells of whether a transfer of a block fails. -/
def tells (transfer : Transfer) (index : Nat) : Injection → Option Bool
  | .failReads blocks =>
      if transfer = .read ∧ index ∈ blocks.map UInt32.toNat then some true else none
  | .failWrites blocks =>
      if transfer = .write ∧ index ∈ blocks.map UInt32.toNat then some true else none
  | .heal => some false

end Injection

/-- A call on a disk in memory. -/
inductive DiskCall where
  | request (made : Request)
  | inject (injection : Injection)

def DiskCall.perform (disk : RamDisk) : DiskCall → Response × RamDisk
  | .request made => made.perform disk
  | .inject injection => (.ok none, injection.apply disk)

/-- A call on a disk in memory and what it was answered. -/
abbrev DiskEvent := DiskCall × Response

namespace DiskEvent

/-- The data that a call put into a block. -/
def stored (index : Nat) : DiskEvent → Option ByteArray
  | (.request (.write block data _), .ok _) => if block.toNat = index then some data else none
  | _ => none

def settles (index : Nat) : DiskEvent → Option Bool
  | (.request made, answer) => CallRecord.settles index ⟨made.call, !answer.isOk⟩
  | (.inject _, _) => none

def injects (transfer : Transfer) (index : Nat) : DiskEvent → Option Bool
  | (.inject injection, _) => injection.tells transfer index
  | (.request _, _) => none

end DiskEvent

open DiskEvent

namespace RamDisk

/-- The blocks on which a transfer fails. -/
def failing (disk : RamDisk) : Transfer → Std.ExtTreeSet Nat
  | .read => disk.failingReads
  | .write => disk.failingWrites
  | .flush => ∅

/-- Whether a transfer of a block is made to fail, after a history on a disk. -/
def failsAfter (disk : RamDisk) (history : List DiskEvent) (transfer : Transfer) (index : Nat) :
    Bool :=
  (latest (injects transfer index) history).getD ((disk.failing transfer).contains index)

/-- What a block holds after a history on a disk: the data of the last write of it that succeeded,
or what it held before. -/
def bytesAfter (disk : RamDisk) (history : List DiskEvent) (index : Nat) : ByteArray :=
  (latest (stored index) history).getD (disk.image.page index).bytes

/-- Whether a block waits for a flush after a history on a disk: whether its last successful write
since the last flush was a write back. -/
def waitsAfter (disk : RamDisk) (history : List DiskEvent) (index : Nat) : Bool :=
  (latest (settles index) history).getD (disk.dirty.contains index)

/-- A disk that a history of calls on another one describes: what it holds, and what it does when it
is called again. -/
structure Follows (disk : RamDisk) (history : List DiskEvent) (now : RamDisk) : Prop where
  size : now.image.size = disk.image.size
  pages : ∀ index, (now.image.page index).bytes = disk.bytesAfter history index
  /-- The partial block at the end, and all that lies behind it. -/
  rest : ∀ index, disk.blockCount ≤ index → now.image.page index = disk.image.page index
  /-- The whole blocks as slices of the one byte string that the image is. -/
  slices : ∀ index < disk.blockCount, window now.image.bytes (index * blockSize) blockSize =
    (latest (stored index) history).elim (window disk.image.bytes (index * blockSize) blockSize) .ok
  tail : now.image.bytes.extract (disk.blockCount * blockSize) now.image.size =
    disk.image.bytes.extract (disk.blockCount * blockSize) disk.image.size
  waiting : ∀ index, now.dirty.contains index = disk.waitsAfter history index
  dirtyBlocks : now.dirtyBlocks = (List.range disk.blockCount).countP (disk.waitsAfter history)
  read : ∀ (block : UInt32) (length : Nat),
    (BlockDevice.read now block length).1.map Octets.bytes =
      (objection disk.blockCount .read (disk.failsAfter history .read block.toNat) block length).elim
        (.ok (disk.bytesAfter history block.toNat)) .error
  write : ∀ (block : UInt32) (data : ByteArray) (durability : Durability),
    (BlockDevice.write now block data durability).1 =
      (objection disk.blockCount .write (disk.failsAfter history .write block.toNat) block
        data.size).elim (.ok ()) .error
  flush : (BlockDevice.flush now).1 = .ok ()
  failed : ∀ (call : DiskCall) (cause : DeviceError),
    (call.perform now).1 = .error cause → (call.perform now).2 = now
  injected : ∀ injection : Injection,
    (injection.apply now).image = now.image ∧ (injection.apply now).dirty = now.dirty

variable (disk : RamDisk) (call : DiskCall) (index : Nat)

theorem contains_failing_apply (injection : Injection) (transfer : Transfer) :
    ((injection.apply disk).failing transfer).contains index =
      (injection.tells transfer index).getD ((disk.failing transfer).contains index) := by
  cases injection with
  | failReads blocks | failWrites blocks =>
      cases transfer <;>
        by_cases member : index ∈ blocks.map UInt32.toNat <;>
          simp only [Injection.apply, Injection.tells, failReads, failWrites, failing, member,
            Std.ExtTreeSet.contains_insertMany_list, List.contains_eq_mem, decide_true,
            decide_false, Bool.or_true, Bool.or_false, and_true, and_false, if_true, if_false,
            reduceCtorEq, Option.getD_some, Option.getD_none]
  | heal =>
      cases transfer <;> simp only [Injection.apply, Injection.tells, heal, failing,
        Std.ExtTreeSet.contains_empty, Option.getD_some]

theorem image_apply (injection : Injection) : (injection.apply disk).image = disk.image := by
  cases injection <;> rfl

theorem dirty_apply (injection : Injection) : (injection.apply disk).dirty = disk.dirty := by
  cases injection <;> rfl

/-- What a request does to a disk: nothing, unless it is a write or a flush that succeeds. -/
theorem request_cases (request : Request) :
    (request.perform disk).2 = disk ∧
      stored index (.request request, (request.perform disk).1) = none ∨
    (request = .flush ∧ (request.perform disk).2 = disk.flush) ∨
    ∃ block data durability, request = .write block data durability ∧
      (request.perform disk).1 = .ok none ∧
      disk.write block data durability = .ok (request.perform disk).2 := by
  cases request with
  | read block length => exact .inl ⟨rfl, rfl⟩
  | flush => exact .inr (.inl ⟨rfl, rfl⟩)
  | write block data durability =>
      rcases disk.write_cases block data durability with ⟨succeeded, wrote⟩ | ⟨⟨_, failed⟩, same⟩
      · refine .inr (.inr ⟨block, data, durability, rfl, ?_, wrote⟩)
        simp only [Request.perform, succeeded, Except.map]
      · refine .inl ⟨same, ?_⟩
        simp only [Request.perform, failed, Except.map, stored]

theorem page_perform : ((call.perform disk).2.image.page index).bytes =
    (stored index (call, (call.perform disk).1)).getD (disk.image.page index).bytes := by
  cases call with
  | inject injection =>
      simp only [DiskCall.perform, image_apply, stored, Option.getD_none]
  | request request =>
      simp only [DiskCall.perform]
      rcases disk.request_cases index request with
        ⟨same, nothing⟩ | ⟨rfl, same⟩ | ⟨block, data, durability, rfl, succeeded, wrote⟩
      · rw [same, nothing, Option.getD_none]
      · rw [same]
        rfl
      · obtain ⟨_, image⟩ := write_ok wrote
        rw [image, succeeded, Image.page_setPage, stored]
        by_cases here : index = block.toNat
        · rw [if_pos here, if_pos here.symm, Option.getD_some]
        · rw [if_neg here, if_neg (Ne.symm here), Option.getD_none]

theorem failing_perform (transfer : Transfer) :
    ((call.perform disk).2.failing transfer).contains index =
      (injects transfer index (call, (call.perform disk).1)).getD
        ((disk.failing transfer).contains index) := by
  cases call with
  | inject injection => exact disk.contains_failing_apply index injection transfer
  | request request =>
      simp only [DiskCall.perform, injects, Option.getD_none]
      rcases disk.request_cases index request with
        ⟨same, _⟩ | ⟨_, same⟩ | ⟨block, data, durability, rfl, _, wrote⟩
      · rw [same]
      · rw [same]
        cases transfer <;> rfl
      · obtain ⟨reads, writes⟩ := failing_of_write wrote
        cases transfer <;> simp only [failing, reads, writes]

theorem dirty_perform : (call.perform disk).2.dirty.contains index =
    (settles index (call, (call.perform disk).1)).getD (disk.dirty.contains index) := by
  cases call with
  | inject injection => simp only [DiskCall.perform, dirty_apply, settles, Option.getD_none]
  | request request => exact disk.contains_dirty_perform request index

theorem perform_of_error {cause : DeviceError} (failed : (call.perform disk).1 = .error cause) :
    (call.perform disk).2 = disk := by
  cases call with
  | inject => contradiction
  | request request =>
      simp only [DiskCall.perform] at failed ⊢
      rcases disk.request_cases 0 request with
        ⟨same, _⟩ | ⟨rfl, _⟩ | ⟨_, _, _, _, succeeded, _⟩
      · exact same
      · contradiction
      · cases succeeded.symm.trans failed

/-- What no call on a disk changes: its size, what lies behind its last whole block, and that only
whole blocks wait for a flush. -/
structure Stays (disk now : RamDisk) : Prop where
  size : now.image.size = disk.image.size
  rest : ∀ index, disk.blockCount ≤ index → now.image.page index = disk.image.page index
  inside : ∀ index, now.dirty.contains index = true → index < disk.blockCount

variable {disk}

theorem Stays.blockCount {now : RamDisk} (stays : disk.Stays now) :
    now.blockCount = disk.blockCount :=
  congrArg (· / blockSize) stays.size

theorem Stays.tail {now : RamDisk} (stays : disk.Stays now) :
    now.image.bytes.extract (disk.blockCount * blockSize) now.image.size =
      disk.image.bytes.extract (disk.blockCount * blockSize) disk.image.size := by
  rw [stays.size]
  refine ext_byteAt ?_ fun position _ => ?_
  · rw [ByteArray.size_extract, ByteArray.size_extract, Image.size_bytes, Image.size_bytes,
      stays.size]
  · have behind : disk.blockCount ≤ (disk.blockCount * blockSize + position) / blockSize :=
      (Nat.le_div_iff_mul_le (by decide)).mpr (Nat.le_add_right _ _)
    rw [byteAt_extract, byteAt_extract, Image.byteAt_bytes, Image.byteAt_bytes, stays.size,
      Image.byteAt, stays.rest _ behind, Image.byteAt]

theorem Stays.perform {now : RamDisk} (stays : disk.Stays now) :
    disk.Stays (call.perform now).2 := by
  cases call with
  | inject injection =>
      refine ⟨?_, ?_, ?_⟩ <;> simp only [DiskCall.perform, image_apply, dirty_apply]
      · exact stays.size
      · exact stays.rest
      · exact stays.inside
  | request request =>
      simp only [DiskCall.perform]
      rcases now.request_cases 0 request with
        ⟨same, _⟩ | ⟨_, same⟩ | ⟨block, data, durability, rfl, _, wrote⟩
      · rw [same]
        exact stays
      · rw [same]
        refine ⟨stays.size, stays.rest, fun index waiting => ?_⟩
        simp only [RamDisk.flush, Std.ExtTreeSet.contains_empty, Bool.false_eq_true] at waiting
      · obtain ⟨_, image⟩ := write_ok wrote
        have reached := lt_of_write wrote
        rw [stays.blockCount] at reached
        refine ⟨by rw [image]; exact stays.size, fun index behind => ?_, fun index waiting => ?_⟩
        · rw [image, Image.page_setPage, if_neg (by omega)]
          exact stays.rest index behind
        · rw [contains_dirty_of_write wrote] at waiting
          split at waiting
          · omega
          · exact stays.inside index waiting

/-- A set of numbers below a bound has as many members as there are numbers below the bound in it. -/
theorem size_eq_countP {set : Std.ExtTreeSet Nat} {bound : Nat}
    (inside : ∀ index, set.contains index = true → index < bound) :
    set.size = (List.range bound).countP set.contains := by
  rw [← Std.ExtTreeSet.length_toList, List.countP_eq_length_filter]
  apply List.Perm.length_eq
  have distinct : set.toList.Nodup := Std.ExtTreeSet.distinct_toList.imp fun differ same =>
    differ (Std.LawfulEqCmp.compare_eq_iff_eq.mpr same)
  rw [List.perm_ext_iff_of_nodup distinct (List.nodup_range.filter _)]
  intro index
  rw [Std.ExtTreeSet.mem_toList, List.mem_filter, List.mem_range, Std.ExtTreeSet.contains_iff_mem]
  exact ⟨fun member => ⟨inside index member, member⟩, And.right⟩

/-- A disk whose pages hold what was last written to them holds it also as slices of its bytes. -/
theorem slice_of_pages {now : RamDisk} {history : List DiskEvent}
    (size : now.image.size = disk.image.size)
    (page : (now.image.page index).bytes = disk.bytesAfter history index)
    (inside : index < disk.blockCount) :
    window now.image.bytes (index * blockSize) blockSize =
      (latest (stored index) history).elim
        (window disk.image.bytes (index * blockSize) blockSize) .ok := by
  have whole := end_le inside
  rw [Image.window_bytes (size ▸ whole), Image.window_bytes whole, page, bytesAfter]
  cases latest (stored index) history <;> rfl

/-- Every history of calls on a disk describes the disk that it leads to. -/
theorem follows_serve (disk : RamDisk)
    (inside : ∀ index, disk.dirty.contains index = true → index < disk.blockCount)
    (calls : List DiskCall) :
    disk.Follows (calls.zip (serve DiskCall.perform disk calls).1)
      (serve DiskCall.perform disk calls).2 := by
  have stays : disk.Stays (serve DiskCall.perform disk calls).2 :=
    serve_keeps (fun now call stays => stays.perform call) calls ⟨rfl, fun _ _ => rfl, inside⟩
  have pages (index : Nat) :=
    serve_latest (fun disk => (disk.image.page index).bytes)
      (fun disk call => page_perform disk call index) calls disk
  have fails (transfer : Transfer) (index : Nat) :=
    serve_latest (fun disk => (disk.failing transfer).contains index)
      (fun disk call => failing_perform disk call index transfer) calls disk
  have waiting (index : Nat) :=
    serve_latest (fun disk : RamDisk => disk.dirty.contains index)
      (fun disk call => dirty_perform disk call index) calls disk
  generalize (serve DiskCall.perform disk calls).1 = answers at pages fails waiting ⊢
  generalize (serve DiskCall.perform disk calls).2 = now at stays pages fails waiting ⊢
  refine ⟨stays.size, pages, stays.rest,
    fun index inside => slice_of_pages index stays.size (pages index) inside, stays.tail,
    waiting, ?_, fun block length => ?_, fun block data durability => ?_, rfl,
    fun call _ => perform_of_error now call,
    fun injection => ⟨image_apply now injection, dirty_apply now injection⟩⟩
  · rw [dirtyBlocks, size_eq_countP stays.inside]
    exact congrArg₂ List.countP (funext waiting) rfl
  · have refuses : now.failingReads.contains block.toNat = disk.failsAfter _ .read block.toNat :=
      fails .read block.toNat
    have holds : _ = disk.bytesAfter _ block.toNat := pages block.toNat
    simp only [BlockDevice.read, read_eq, stays.blockCount, refuses, ← holds]
    cases objection disk.blockCount .read _ block length <;> rfl
  · have refuses : now.failingWrites.contains block.toNat = disk.failsAfter _ .write block.toNat :=
      fails .write block.toNat
    rw [write_eq, stays.blockCount, refuses]

theorem follows_serve_partial :
    let disk := RamDisk.ofSize (2 * blockSize + 7)
    let calls : List DiskCall := [.inject (.failWrites [0]),
      .request (.write 0 (Octets.zero blockSize).bytes .writeThrough),
      .request (.write 1 (Octets.zero blockSize).bytes .writeBack), .request .flush,
      .request (.write 2 .empty .writeBack), .inject .heal]
    disk.Follows (calls.zip (serve DiskCall.perform disk calls).1)
      (serve DiskCall.perform disk calls).2 :=
  follows_serve _ (fun index waiting => absurd waiting (by simp [ofSize])) _

end RamDisk

end BlockFs
