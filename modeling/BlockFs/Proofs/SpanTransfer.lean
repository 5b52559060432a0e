import BlockFs.Proofs.FormatOrder
import BlockFs.Proofs.MountVerdict

namespace BlockFs

open Engine BlockDevice

/-- How far a span of calls gets, and the failure that ends it, when some blocks are refused. -/
inductive Ends (causes : Nat → Option DeviceError) (region : Region) (start count : Nat) :
    (done : Nat) → (failure : Option Error) → Prop where
  | complete (allowed : ∀ index < count, causes (start + index) = none) :
      Ends causes region start count count none
  | refused {done : Nat} {cause : DeviceError} (inside : done < count)
      (allowed : ∀ index < done, causes (start + index) = none)
      (refusal : causes (start + done) = some cause) :
      Ends causes region start count done (some (.device region cause))

/-- The record of a span of calls, of which the one behind the last may have failed. -/
def spanRecord (call : UInt32 → Call) (start done : Nat) (failure : Option Error) :
    List CallRecord :=
  (List.range' start done).map (fun block => ⟨call (.ofNat block), false⟩) ++
    failure.toList.map fun _ => ⟨call (.ofNat (start + done)), true⟩

/-- The disk after the first `count` chunks of a buffer were written from `start` on, and nothing
else. -/
structure Chunked (data : ByteArray) (start count : Nat) (before after : Nat → Block) : Prop where
  written : ∀ index < count,
    window data (index * blockSize) blockSize = .ok (after (start + index)).bytes
  others : ∀ block, block < start ∨ start + count ≤ block → after block = before block

variable {causes reads writes : Nat → Option DeviceError} {region : Region} {start count done : Nat}
  {failure : Option Error} {disk changed : Nat → Block} {data : ByteArray} {blocks : List Block}

namespace Ends

theorem failure_eq_none (ends : Ends causes region start count done failure)
    (allowed : ∀ index < count, causes (start + index) = none) : done = count ∧ failure = none := by
  cases ends with
  | complete => exact ⟨rfl, rfl⟩
  | refused inside _ refusal => cases (allowed _ inside).symm.trans refusal

theorem done_le (ends : Ends causes region start count done failure) : done ≤ count := by
  cases ends with
  | complete => exact Nat.le_refl _
  | refused inside => exact Nat.le_of_lt inside

theorem failure_eq_some {index : Nat} {cause : DeviceError}
    (ends : Ends causes region start count done failure) (inside : index < count)
    (allowed : ∀ earlier < index, causes (start + earlier) = none)
    (refusal : causes (start + index) = some cause) :
    done = index ∧ failure = some (.device region cause) := by
  cases ends with
  | complete free => cases (free index inside).symm.trans refusal
  | refused _ free refused =>
      rcases Nat.lt_trichotomy done index with before | rfl | behind
      · cases (allowed done before).symm.trans refused
      · cases refused.symm.trans refusal
        exact ⟨rfl, rfl⟩
      · cases (free index behind).symm.trans refusal

theorem nil : Ends causes region start 0 0 none :=
  .complete fun index inside => absurd inside (Nat.not_lt_zero index)

/-- A span whose first block is refused. -/
theorem head {cause : DeviceError} (refusal : causes start = some cause) :
    Ends causes region start (count + 1) 0 (some (.device region cause)) :=
  .refused (Nat.succ_pos count) (fun index inside => absurd inside (Nat.not_lt_zero index)) refusal

/-- A span whose first block is not refused. -/
theorem cons (allowed : causes start = none)
    (rest : Ends causes region (start + 1) count done failure) :
    Ends causes region start (count + 1) (done + 1) failure := by
  have front {last : Nat} (later : ∀ index < last, causes (start + 1 + index) = none) :
      ∀ index < last + 1, causes (start + index) = none := by
    intro index inside
    cases index with
    | zero => exact allowed
    | succ index =>
        rw [Nat.add_comm index 1, ← Nat.add_assoc]
        exact later index (Nat.lt_of_succ_lt_succ inside)
  cases rest with
  | complete allowed => exact .complete (front allowed)
  | refused inside allowed refusal =>
      refine .refused (Nat.succ_lt_succ inside) (front allowed) ?_
      rwa [Nat.add_comm done 1, ← Nat.add_assoc]

end Ends

theorem spanRecord_succ (call : UInt32 → Call) (start done : Nat) (failure : Option Error) :
    spanRecord call start (done + 1) failure =
      ⟨call (.ofNat start), false⟩ :: spanRecord call (start + 1) done failure := by
  rw [spanRecord, List.range'_succ, List.map_cons, spanRecord, List.cons_append,
    Nat.add_comm done 1, ← Nat.add_assoc]

theorem chunked_overlay (divided : blocksOf data = .ok blocks) (bound : count ≤ blocks.length) :
    Chunked data start count disk (overlay disk start (blocks.take count)) := by
  have size := length_blocksOf divided
  constructor
  · intro index inside
    have within : index < blocks.length := Nat.lt_of_lt_of_le inside bound
    have found : (blocks.take count)[index]? = some blocks[index] := by
      rw [List.getElem?_take_of_lt inside, List.getElem?_eq_getElem within]
    rw [overlay_of_found found]
    refine window_eq_ok (Octets.size_bytes _) ?_ fun position inBlock => ?_
    · rw [size, ← Nat.succ_mul]
      exact Nat.mul_le_mul_right _ within
    · exact (byteAt_blocksOf divided (List.getElem?_eq_getElem within) inBlock).symm
  · intro block outside
    apply overlay_of_outside
    rwa [List.length_take_of_le bound]

section Refusals

variable {δ : Type} [BlockDevice δ] {devices : δ → Prop} {device : δ}

theorem Unwritable.write_eq (unwritable : Unwritable causes devices) (member : devices device)
    (block : UInt32) (content : Block) (durability : Durability) :
    (write device block content.bytes durability).1 =
      (causes block.toNat).elim (.ok ()) .error := by
  cases refusal : causes block.toNat with
  | some cause => exact (unwritable.fails member).mpr refusal
  | none =>
      cases wrote : (write device block content.bytes durability).1 with
      | ok done => rfl
      | error cause => cases refusal.symm.trans ((unwritable.fails member).mp wrote)

/-- Behind a block that is not refused there is another number, if only for the device's end. -/
theorem next_word {block : UInt32} (small : blockCount device < UInt32.size)
    (past : blockCount device ≤ block.toNat →
      causes block.toNat = some (.pastEnd block (blockCount device)))
    (allowed : causes block.toNat = none) : block.toNat + 1 < UInt32.size := by
  have inside : block.toNat < blockCount device := by
    apply Nat.lt_of_not_le
    intro outside
    cases allowed.symm.trans (past outside)
  omega

variable [LawfulBlockDevice δ]

theorem Unreadable.read_eq (unreadable : Unreadable causes devices) (member : devices device)
    (block : UInt32) : (read device block blockSize).1 =
      (causes block.toNat).elim (.ok (content device block.toNat)) .error := by
  cases refusal : causes block.toNat with
  | some cause => exact (unreadable.fails member).mpr refusal
  | none =>
      cases found : (read device block blockSize).1 with
      | ok block => exact congrArg Except.ok (LawfulBlockDevice.read_eq_content found)
      | error cause => cases refusal.symm.trans ((unreadable.fails member).mp found)

/-- Blocks that the device does not have are among those that cannot be written. -/
theorem Unwritable.pastEnd (unwritable : Unwritable causes devices) (member : devices device)
    {block : UInt32} (outside : blockCount device ≤ block.toNat) :
    causes block.toNat = some (.pastEnd block (blockCount device)) := by
  have refused : (write device block (Octets.zero blockSize).bytes .writeBack).1 =
      .error (.pastEnd block (blockCount device)) :=
    LawfulBlockDevice.checkTransfer_write (if_pos outside)
  exact (unwritable.fails member).mp refused

end Refusals

variable {δ : Type} [BlockDevice δ]

/-- The calls that a monitor has recorded between two hosts with devices of one size. -/
structure Host.Called (calls : List CallRecord) (before after : Host (Monitor δ)) : Prop
    extends Host.Alike before after where
  records : after.device.records.toList = before.device.records.toList ++ calls

theorem Host.Called.nil (host : Host (Monitor δ)) : Host.Called [] host host :=
  ⟨.refl host, (List.append_nil _).symm⟩

theorem Host.Called.cons {first second third : Host (Monitor δ)} {call : CallRecord}
    {calls : List CallRecord} (one : Host.Called [call] first second)
    (two : Host.Called calls second third) : Host.Called (call :: calls) first third :=
  ⟨one.toAlike.trans two.toAlike, by rw [two.records, one.records, List.append_assoc]; rfl⟩

namespace Engine

variable [LawfulBlockDevice δ] {devices : Monitor δ → Prop} {host : Host (Monitor δ)}
  {start : UInt32} {durability : Durability} {passed : Nat}

theorem run_writeBlock (unwritable : Unwritable causes devices) (member : devices host.device)
    (region : Region) (block : UInt32) (content : Block) (durability : Durability) :
    ∃ after, (writeBlock region block content.bytes durability).run.run host =
        ((causes block.toNat).elim (.ok ()) fun cause => .error (.device region cause), after) ∧
      devices after.device ∧
      Host.Called [⟨.write block durability, (causes block.toNat).isSome⟩] host after := by
  have answered := unwritable.write_eq member block content durability
  have recorded : (write host.device block content.bytes durability).2.records.toList =
      host.device.records.toList ++
        [⟨.write block durability, !(write host.device block content.bytes durability).1.isOk⟩] :=
    Array.toList_push
  refine ⟨_, ?_, unwritable.stays member block content durability,
    alike_writeBlock region block content.bytes durability host, recorded.trans ?_⟩
  · rw [writeBlock, run_call, answered]
    cases causes block.toNat <;> rfl
  · rw [answered]
    cases causes block.toNat <;> rfl

theorem run_fetch (unreadable : Unreadable causes devices) (member : devices host.device)
    (region : Region) (block : UInt32) :
    ∃ after, (fetch region block).run.run host =
        ((causes block.toNat).elim (.ok (host.disk block.toNat)) fun cause =>
          .error (.device region cause), after) ∧
      devices after.device ∧ after.disk = host.disk ∧
      Host.Called [⟨.read block, (causes block.toNat).isSome⟩] host after := by
  have answered := unreadable.read_eq member block
  have recorded : (read host.device block blockSize).2.records.toList =
      host.device.records.toList ++
        [⟨.read block, !(read host.device block blockSize).1.isOk⟩] :=
    Array.toList_push
  have untouched := untouched_fetch region block host
  refine ⟨_, ?_, unreadable.stays member block, untouched.disk, untouched.toAlike,
    recorded.trans ?_⟩
  · rw [fetch, run_call, answered]
    cases causes block.toNat <;> rfl
  · rw [answered]
    cases causes block.toNat <;> rfl

/-- Blocks are written up to the first that is refused. -/
theorem run_writeBlocks (unwritable : Unwritable causes devices) (member : devices host.device)
    (small : blockCount host.device < UInt32.size) (word : start.toNat + passed < UInt32.size) :
    ∃ done failure after, Ends causes region (start.toNat + passed) blocks.length done failure ∧
      (writeBlocks region start durability passed blocks).run.run host =
        (failure.elim (.ok ()) .error, after) ∧
      devices after.device ∧
      after.disk = overlay host.disk (start.toNat + passed) (blocks.take done) ∧
      Host.Called (spanRecord (.write · durability) (start.toNat + passed) done failure)
        host after := by
  induction blocks generalizing passed host with
  | nil =>
      exact ⟨0, none, host, .nil, rfl, member, (overlay_nil _ _).symm, .nil host⟩
  | cons block rest ih =>
      obtain ⟨place, narrowed, placed⟩ := narrow_exists _ word
      obtain ⟨between, wrote, stays, called⟩ :=
        run_writeBlock unwritable member region place block durability
      rw [writeBlocks, run_bind_of_ok (by rw [run_lift, narrowed]), ← placed]
      cases refusal : causes place.toNat with
      | some cause =>
          rw [refusal] at wrote called
          obtain ⟨ok, _⟩ | ⟨_, same⟩ := writeBlock_cases wrote
          · cases ok
          · exact ⟨0, some (.device region cause), between, .head refusal,
              run_bind_of_error wrote, stays, same.trans (overlay_nil _ _).symm,
              by rwa [spanRecord, Nat.add_zero, UInt32.ofNat_toNat]⟩
      | none =>
          rw [refusal] at wrote called
          have next := next_word small (unwritable.pastEnd member) refusal
          have stillSmall : blockCount between.device < UInt32.size := by
            rwa [called.blockCount]
          obtain ⟨done, failure, after, ends, ran, stays, changed, calls⟩ :=
            @ih between (passed + 1) stays stillSmall (by omega)
          rw [← Nat.add_assoc, ← placed] at ends changed calls
          obtain ⟨_, put⟩ | ⟨⟨_, failed⟩, _⟩ := writeBlock_cases wrote
          · refine ⟨done + 1, failure, after, .cons refusal ends, (run_bind_of_ok wrote).trans ran,
              stays, ?_, ?_⟩
            · rw [changed, put, List.take_succ_cons, ← overlay_cons]
            · rw [spanRecord_succ, UInt32.ofNat_toNat]
              exact called.cons calls
          · cases failed

/-- Blocks are read up to the first that is refused. -/
theorem run_readBlocks (unreadable : Unreadable causes devices) (member : devices host.device)
    (small : blockCount host.device < UInt32.size) (word : start.toNat + passed < UInt32.size)
    (region : Region) (count : Nat) (bytes : ByteArray) :
    ∃ done failure after, Ends causes region (start.toNat + passed) count done failure ∧
      (readBlocks region start count passed bytes).run.run host =
        (failure.elim (.ok (bytes ++ spanBytes host.disk (start.toNat + passed) count)) .error,
          after) ∧
      after.disk = host.disk ∧
      Host.Called (spanRecord .read (start.toNat + passed) done failure) host after := by
  induction count generalizing passed bytes host with
  | zero =>
      refine ⟨0, none, host, .nil, ?_, rfl, .nil host⟩
      rw [readBlocks, run_pure, spanBytes, ByteArray.append_empty]
      rfl
  | succ count ih =>
      obtain ⟨place, narrowed, placed⟩ := narrow_exists _ word
      obtain ⟨between, found, stays, same, called⟩ :=
        run_fetch unreadable member region place
      rw [readBlocks, run_bind_of_ok (by rw [run_lift, narrowed]), ← placed]
      cases refusal : causes place.toNat with
      | some cause =>
          rw [refusal] at found called
          exact ⟨0, some (.device region cause), between, .head refusal,
            run_bind_of_error found, same, by rwa [spanRecord, Nat.add_zero, UInt32.ofNat_toNat]⟩
      | none =>
          rw [refusal] at found called
          have next := next_word small (unreadable.pastEnd member) refusal
          have stillSmall : blockCount between.device < UInt32.size := by
            rwa [called.blockCount]
          obtain ⟨done, failure, after, ends, ran, still, calls⟩ :=
            @ih between (passed + 1) stays stillSmall (by omega)
              (bytes ++ (host.disk place.toNat).bytes)
          rw [← Nat.add_assoc, ← placed] at ends ran calls
          refine ⟨done + 1, failure, after, .cons refusal ends, ?_, still.trans same, ?_⟩
          · rw [run_bind_of_ok found, ran, same, spanBytes, ByteArray.append_assoc]
          · rw [spanRecord_succ, UInt32.ofNat_toNat]
            exact called.cons calls

theorem run_readSpan (unreadable : Unreadable causes devices) (member : devices host.device)
    (small : blockCount host.device < UInt32.size) (region : Region) (start words : UInt32)
    (room : words.toNat * blockSize ≤ host.bufferLimit) :
    ∃ done failure after, Ends causes region start.toNat words.toNat done failure ∧
      (readSpan region start words).run.run host =
        (failure.elim (.ok (spanBytes host.disk start.toNat words.toNat)) .error, after) ∧
      after.disk = host.disk ∧
      Host.Called (spanRecord .read start.toNat done failure) host after := by
  have word : start.toNat + 0 < UInt32.size := start.toNat_lt
  have read := run_readBlocks unreadable member small word region words.toNat .empty
  rw [ByteArray.empty_append, Nat.add_zero] at read
  rwa [readSpan, run_bind_of_ok (run_reserve_of_le room)]

theorem run_writeSpan (unwritable : Unwritable causes devices) (member : devices host.device)
    (small : blockCount host.device < UInt32.size) (divided : blocksOf data = .ok blocks) :
    ∃ done failure after, Ends causes region start.toNat blocks.length done failure ∧
      (writeSpan region start data durability).run.run host =
        (failure.elim (.ok ()) .error, after) ∧
      devices after.device ∧ after.disk = overlay host.disk start.toNat (blocks.take done) ∧
      Host.Called (spanRecord (.write · durability) start.toNat done failure) host after := by
  have word : start.toNat + 0 < UInt32.size := start.toNat_lt
  rw [writeSpan, run_bind_of_ok (by rw [run_lift, divided])]
  exact run_writeBlocks unwritable member small word

end Engine

section Spans

variable [LawfulBlockDevice δ] {devices : Monitor δ → Prop} {host after : Host (Monitor δ)}
  {start : UInt32}

/-- A span of which no block is refused ends within words. -/
theorem Unwritable.add_lt_words (unwritable : Unwritable causes devices)
    (member : devices host.device) (small : blockCount host.device < UInt32.size)
    (allowed : ∀ index < count, causes (start.toNat + index) = none) :
    start.toNat + count < UInt32.size := by
  induction count with
  | zero => exact start.toNat_lt
  | succ count ih =>
      obtain ⟨place, _, placed⟩ :=
        narrow_exists _ (ih fun index inside => allowed index (Nat.lt_succ_of_lt inside))
      have free := allowed count (Nat.lt_succ_self count)
      rw [← placed] at free
      have next := next_word small (unwritable.pastEnd member) free
      omega

/-- A span that was written is read back as it was, once its buffer and its blocks can be had. -/
theorem readSpan_of_written {words : UInt32} (unreadable : Unreadable reads devices)
    (member : devices after.device) (small : blockCount after.device < UInt32.size)
    (divided : blocksOf data = .ok blocks) (length : words.toNat = blocks.length)
    (changed : after.disk = overlay disk start.toNat blocks)
    (room : data.size ≤ after.bufferLimit)
    (allowed : ∀ index < blocks.length, reads (start.toNat + index) = none) (region : Region) :
    ((readSpan region start words).run.run after).1 = .ok data := by
  rw [length_blocksOf divided, ← length] at room
  obtain ⟨_, failure, _, ends, ran, _⟩ :=
    run_readSpan unreadable member small region start words room
  rw [length] at ends
  obtain ⟨_, rfl⟩ := ends.failure_eq_none allowed
  rw [ran, changed, length, spanBytes_overlay divided]
  rfl

/-- Spans of a device of fewer than `2 ^ 32` blocks, which refuses to read and to write the blocks
of any two sets, and all blocks behind its end.  A buffer is written block after block up to the
first that is refused, with the chunks in front of it put in place and all other blocks as they
were; if none is refused, the span can be read back.  A span is read block after block likewise, if
its buffer can be had, and answers the blocks only as a whole.  Nothing faults, wherever the span
starts. -/
theorem span_transfers (unreadable : Unreadable reads devices)
    (unwritable : Unwritable writes devices) (member : devices host.device)
    (small : blockCount host.device < UInt32.size) (region : Region) (start : UInt32) :
    (∀ block : UInt32, blockCount host.device ≤ block.toNat →
      reads block.toNat = some (.pastEnd block (blockCount host.device)) ∧
        writes block.toNat = some (.pastEnd block (blockCount host.device))) ∧
    (∀ data durability count, data.size = count * blockSize →
      ∃ done failure after, Ends writes region start.toNat count done failure ∧
        (writeSpan region start data durability).run.run host =
          (failure.elim (.ok ()) .error, after) ∧
        Chunked data start.toNat done host.disk after.disk ∧
        Host.Called (spanRecord (.write · durability) start.toNat done failure) host after ∧
        ((∀ index < count, writes (start.toNat + index) = none) →
          failure = none ∧ ∃ words : UInt32, words.toNat = count ∧
            (data.size ≤ host.bufferLimit →
              (∀ index < count, reads (start.toNat + index) = none) → ∀ named,
                ((readSpan named start words).run.run after).1 = .ok data))) ∧
    ∀ words : UInt32,
      (host.bufferLimit < words.toNat * blockSize →
        (readSpan region start words).run.run host =
          (.error (.outOfMemory (words.toNat * blockSize)), host)) ∧
      (words.toNat * blockSize ≤ host.bufferLimit →
        ∃ done failure after, Ends reads region start.toNat words.toNat done failure ∧
          (readSpan region start words).run.run host =
            (failure.elim (.ok (spanBytes host.disk start.toNat words.toNat)) .error, after) ∧
          after.disk = host.disk ∧
          Host.Called (spanRecord .read start.toNat done failure) host after) := by
  refine ⟨fun block outside =>
    ⟨unreadable.pastEnd member outside, unwritable.pastEnd member outside⟩, ?_, fun words =>
      ⟨fun short => ?_, run_readSpan unreadable member small region start words⟩⟩
  · intro data durability count size
    obtain ⟨blocks, divided, rfl⟩ := blocksOf_exists size
    obtain ⟨done, failure, after, ends, ran, stays, changed, called⟩ :=
      run_writeSpan unwritable member small divided
    refine ⟨done, failure, after, ends, ran, ?_, called, fun allowed => ?_⟩
    · rw [changed]
      exact chunked_overlay divided ends.done_le
    · obtain ⟨rfl, rfl⟩ := ends.failure_eq_none allowed
      have words := unwritable.add_lt_words member small allowed
      obtain ⟨words, _, length⟩ := narrow_exists blocks.length (by omega)
      refine ⟨rfl, words, length, fun room free named => ?_⟩
      rw [List.take_length] at changed
      exact readSpan_of_written unreadable stays (by rwa [called.blockCount]) divided length changed
        (by rwa [called.bufferLimit]) free named
  · exact run_bind_of_error (by rw [run_reserve, if_pos short])

end Spans

namespace RamDisk

variable {disk other : RamDisk}

/-- Disks of one size that refuse the same blocks, whatever they hold. -/
structure RefusesAs (disk other : RamDisk) : Prop where
  blockCount : other.blockCount = disk.blockCount
  failingReads : other.failingReads = disk.failingReads
  failingWrites : other.failingWrites = disk.failingWrites

theorem unreadable_refusesAs (disk : RamDisk) : Unreadable disk.causes disk.RefusesAs where
  stays member _ := member
  fails {other block cause} member := by
    have same : disk.causes = other.causes := by
      funext index
      rw [causes, causes, member.blockCount, member.failingReads]
    rw [same]
    exact other.unreadable.fails rfl

theorem unwritable_refusesAs (disk : RamDisk) : Unwritable disk.writeCauses disk.RefusesAs where
  stays {other} member block content durability := by
    obtain ⟨size, writes⟩ :=
      disk.unwritable.stays ⟨member.blockCount, member.failingWrites⟩ block content durability
    refine ⟨size, ?_, writes⟩
    rcases other.write_cases block content.bytes durability with ⟨_, wrote⟩ | ⟨_, same⟩
    · rw [(failing_of_write wrote).1, member.failingReads]
    · rw [same, member.failingReads]
  fails member := disk.unwritable.fails ⟨member.blockCount, member.failingWrites⟩

end RamDisk

theorem Unreadable.monitor {devices : δ → Prop} (unreadable : Unreadable causes devices) :
    Unreadable causes fun monitor : Monitor δ => devices monitor.device where
  stays member := unreadable.stays member
  fails member := unreadable.fails member

/-- The last of 4294967295 blocks is written and read back, and a span that goes on behind it ends
with the device. -/
theorem span_transfers_last :
    let disk : RamDisk := .ofBlocks 4294967295
    let host : Host (Monitor RamDisk) := { device := { device := disk }, bufferLimit := blockSize }
    (∃ after, (writeSpan .blockBitmap 4294967294 (fill 1 blockSize) .writeBack).run.run host =
        (.ok (), after) ∧
      ((readSpan .dataBlocks 4294967294 1).run.run after).1 = .ok (fill 1 blockSize)) ∧
    ∃ after, (writeSpan .blockBitmap 4294967294 (fill 1 (2 * blockSize)) .writeBack).run.run host =
        (.error (.device .blockBitmap (.pastEnd 4294967295 4294967295)), after) ∧
      Chunked (fill 1 (2 * blockSize)) 4294967294 1 host.disk after.disk := by
  intro disk host
  have size : disk.blockCount = 4294967295 := Nat.mul_div_cancel _ (by decide)
  have small : blockCount host.device < UInt32.size := by
    change disk.blockCount < UInt32.size
    rw [size]
    decide
  have one (found : Nat → Option DeviceError) (free : found 4294967294 = none) :
      ∀ index < 1, found (4294967294 + index) = none := by
    intro index inside
    rwa [Nat.lt_one_iff.mp inside]
  have writable : disk.writeCauses 4294967294 = none :=
    disk.writeCauses_heal (by rw [size]; decide)
  have readable : disk.causes 4294967294 = none := by
    have empty : disk.failingReads = ∅ := rfl
    rw [RamDisk.causes, size, empty]
    simp
  obtain ⟨outside, written, _⟩ := span_transfers disk.unreadable_refusesAs.monitor
    disk.unwritable_refusesAs.monitor (show disk.RefusesAs host.device.device from ⟨rfl, rfl, rfl⟩)
    small .blockBitmap 4294967294
  constructor
  · obtain ⟨_, _, after, _, ran, _, _, back⟩ := written (fill 1 blockSize) .writeBack 1 (by simp)
    obtain ⟨rfl, words, length, back⟩ := back (one _ writable)
    obtain rfl : words = 1 := UInt32.toNat_inj.mp length
    have room : (fill 1 blockSize).size ≤ host.bufferLimit :=
      Nat.le_of_eq (size_fill 1 blockSize)
    exact ⟨after, ran, back room (one _ readable) .dataBlocks⟩
  · obtain ⟨done, failure, after, ends, ran, chunked, _⟩ :=
      written (fill 1 (2 * blockSize)) .writeBack 2 (by simp)
    have refusal : disk.writeCauses (4294967294 + 1) =
        some (.pastEnd 4294967295 disk.blockCount) :=
      (outside 4294967295 (Nat.le_of_eq size)).2
    obtain ⟨rfl, rfl⟩ := ends.failure_eq_some (by decide) (one _ writable) refusal
    rw [size] at ran
    exact ⟨after, ran, chunked⟩

end BlockFs
