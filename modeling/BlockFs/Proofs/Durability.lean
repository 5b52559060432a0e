import BlockFs.Proofs.FormatOrder
import BlockFs.Proofs.Lives
import BlockFs.Proofs.Mount.Deferral
import BlockFs.Proofs.RecordConfinement

namespace BlockFs

open Engine

/-- How one mount of a disk in memory is used: its operations with their answers, in order.  The
disk may be told at any time to fail on other blocks. -/
inductive Usage (first : Mount × Host RamDisk) :
    (trace : List Incident) → (last : Mount × Host RamDisk) → Prop where
  | start : Usage first [] first
  | operate {trace : List Incident} {mount next : Mount} {host after : Host RamDisk}
      {operation : Operation} {answer : Except Error Answer}
      (usage : Usage first trace (mount, host))
      (stepped : operation.step (mount, host) = (answer, next, after)) :
      Usage first (trace ++ [(operation, answer)]) (next, after)
  | disturb {trace : List Incident} {mount : Mount} {host : Host RamDisk}
      (usage : Usage first trace (mount, host)) (reads writes : Std.ExtTreeSet Nat) :
      Usage first trace (mount, { host with
        device := { host.device with failingReads := reads, failingWrites := writes } })

/-- Whether a block was written back when it was last written for an inode. -/
def deferred (trace : List Incident) (block : Nat) : Bool :=
  trace.foldl (defers block) false

theorem deferred_concat (trace : List Incident) (incident : Incident) (block : Nat) :
    deferred (trace ++ [incident]) block = defers block (deferred trace block) incident := by
  rw [deferred, List.foldl_append]
  rfl

/-- A block is deferred only by a write back of one of its inodes. -/
theorem mem_of_foldl_defers {trace : List Incident} {block : Nat} {before : Bool}
    (written : trace.foldl (defers block) before = true) : before = true ∨
      ∃ number inode value, (.writeInode number inode .writeBack, .ok value) ∈ trace ∧
        (Inode.address number).block.toNat = block := by
  induction trace generalizing before with
  | nil => exact .inl written
  | cons incident rest ih =>
      rcases ih written with first | ⟨number, inode, value, member, place⟩
      · unfold defers at first
        split at first
        · split at first
          · rename_i here
            rw [of_decide_eq_true first]
            exact .inr ⟨_, _, _, List.mem_cons_self, here.symm⟩
          · exact .inl first
        · exact .inl first
      · exact .inr ⟨number, inode, value, List.mem_cons_of_mem _ member, place⟩

theorem mem_of_deferred {trace : List Incident} {block : Nat}
    (written : deferred trace block = true) : ∃ number inode value,
      (.writeInode number inode .writeBack, .ok value) ∈ trace ∧
        (Inode.address number).block.toNat = block :=
  (mem_of_foldl_defers written).resolve_left Bool.false_ne_true

variable {trace : List Incident} {first last : Mount × Host RamDisk} {mounted current : Mount}
  {formatted idle start used after : Host RamDisk} {block : Nat}

namespace Usage

theorem reaches (usage : Usage first trace last) : Reaches first last := by
  induction usage with
  | start => exact .start
  | operate _ stepped ih => exact ih.operate stepped
  | disturb _ reads writes ih => exact ih.disturb ⟨⟨rfl, rfl, rfl⟩, rfl⟩

theorem contains_dirty (usage : Usage first trace last) (shaped : first.1.Shaped)
    (clean : first.2.device.dirty = ∅) (apart : ¬ first.1.geometry.Synced block) :
    last.2.device.dirty.contains block = deferred trace block := by
  induction usage with
  | start =>
      rw [clean, Std.ExtTreeSet.contains_empty]
      rfl
  | operate usage stepped ih =>
      rcases usage.reaches.shaped shaped with ⟨shaped, same⟩
      rw [step_contains_dirty shaped stepped (same ▸ apart), ih, deferred_concat]
  | disturb _ _ _ ih => exact ih

theorem mem_writeInode {number : UInt32} {inode : Inode} {durability : Durability}
    {value : Answer} (usage : Usage first trace last) (shaped : first.1.Shaped)
    (member : (.writeInode number inode durability, .ok value) ∈ trace) :
    number < first.1.superblock.inodes := by
  induction usage with
  | start => cases member
  | operate usage stepped ih =>
      rcases List.mem_append.mp member with earlier | here
      · exact ih earlier
      · cases List.mem_singleton.mp here
        rcases usage.reaches.shaped shaped with ⟨shaped, same⟩
        have inodes := congrArg Geometry.totalInodes same
        exact Nat.lt_of_lt_of_eq (writeInode_written shaped stepped).1
          (congrArg UInt32.toNat inodes)
  | disturb _ _ _ ih => exact ih member

end Usage

theorem unmount_contains_dirty (shaped : current.Shaped)
    (ended : current.unmount.run.run used = (.ok (), after)) (block : Nat) :
    (current.geometry.Synced block → after.device.dirty.contains block = false) ∧
    (¬ current.geometry.Synced block →
      after.device.dirty.contains block = used.device.dirty.contains block) := by
  rcases shaped.syncPlan with ⟨plan⟩
  rcases bind_eq_ok ended with ⟨synced, between, ran, reported⟩
  have same : after.device = between.device := (RamDisk.silent.report _).of_run reported
  rcases performs_sync plan shaped (fun _ _ => False) .writeThrough _ _ _ ran with
    ⟨_, ⟨_, none, _⟩ | ⟨done, outcome, carries, answered⟩⟩
  · exact none.elim
  · cases outcome with
    | error error => cases answered
    | ok complete =>
        cases carries.done_eq
        rw [same, carries.contains_dirty, ← plan.mem_map_block_row shaped]
        exact ⟨fun inside => if_pos inside, fun outside => if_neg outside⟩

theorem dirty_of_format {superblock : Superblock} {host : Host RamDisk}
    (made : format.run.run host = (.ok superblock, formatted)) :
    formatted.device.dirty = ∅ := by
  rcases format_eq_ok made with ⟨geometry, _, sized, _⟩
  have planned := (Geometry.ofSize_planned sized).1
  rcases Format.layout_exists planned with ⟨layout⟩
  rcases Format.format_cases planned layout sized made with
    ⟨_, _, failed⟩ | ⟨_, _, _, failed⟩ | ⟨_, _, flushed, _⟩
  · cases failed
  · cases failed
  · rw [flushed]
    rfl

theorem RamDisk.dirtyBlocks_eq_zero_iff {disk : RamDisk} :
    disk.dirtyBlocks = 0 ↔ ∀ block, disk.dirty.contains block = false := by
  rw [dirtyBlocks, ← Std.ExtTreeSet.eq_empty_iff_size_eq_zero,
    Std.ExtTreeSet.eq_empty_iff_forall_contains]

/-- No block that an unmount writes was deferred, for none of those holds inodes. -/
theorem Usage.dirty_of_unmount (usage : Usage (mounted, start) trace (current, used))
    (shaped : mounted.Shaped) (fits : mounted.TableFits) (clean : start.device.dirty = ∅)
    (ended : current.unmount.run.run used = (.ok (), after)) (block : Nat) :
    after.device.dirty.contains block = deferred trace block := by
  rcases usage.reaches.shaped shaped with ⟨later, same⟩
  rcases unmount_contains_dirty later ended block with ⟨through, kept⟩
  rw [show current.geometry = mounted.geometry from same] at through kept
  by_cases synced : mounted.geometry.Synced block
  · rw [through synced, eq_comm, Bool.eq_false_iff]
    intro written
    rcases mem_of_deferred written with ⟨_, _, _, member, rfl⟩
    exact fits.not_synced (usage.mem_writeInode shaped member) synced
  · rw [kept synced]
    exact usage.contains_dirty shaped clean synced

/-- After an unmount those blocks of the inode table wait for a flush that were written back when
they were last written, and no other block does.  Nothing waits exactly if there are none. -/
theorem unmount_leaves_deferred {superblock : Superblock} {host : Host RamDisk}
    (made : format.run.run host = (.ok superblock, formatted))
    (lives : Session.Lives (.idle formatted) (.idle idle))
    (clean : idle.device.dirtyBlocks = 0)
    (accepted : mount.run.run idle = (.ok mounted, start))
    (usage : Usage (mounted, start) trace (current, used))
    (ended : current.unmount.run.run used = (.ok (), after)) :
    (∀ block, after.device.dirty.contains block = deferred trace block) ∧
    (∀ block, deferred trace block = true →
      1 ≤ block ∧ block ≤ mounted.superblock.inodeTableBlocks.toNat ∧
        ∃ number inode value, (.writeInode number inode .writeBack, .ok value) ∈ trace ∧
          (Inode.address number).block.toNat = block) ∧
    (after.device.dirtyBlocks = 0 ↔ ∀ block, deferred trace block = false) := by
  have shaped := (mount_eq_ok accepted).1
  have fits := tableFits_of_lives made lives accepted
  have same : start.device = idle.device := RamDisk.silent.congruence.mount.of_run accepted
  have dirty : start.device.dirty = ∅ := by
    rw [same]
    exact Std.ExtTreeSet.eq_empty_iff_size_eq_zero.mpr clean
  have waits := usage.dirty_of_unmount shaped fits dirty ended
  refine ⟨waits, fun block written => ?_, ?_⟩
  · rcases mem_of_deferred written with ⟨number, inode, value, member, rfl⟩
    rcases fits.address_block (usage.mem_writeInode shaped member) with ⟨low, high⟩
    exact ⟨low, by omega, number, inode, value, member, rfl⟩
  · rw [RamDisk.dirtyBlocks_eq_zero_iff]
    simp only [waits]

/-- The smallest disk, formatted and mounted with nothing that waits for a flush, and the inodes of
its first block written. -/
theorem leastHost_written (first second : Durability) :
    ∃ superblock formatted mounted start next used current last after,
      format.run.run leastHost = (.ok superblock, formatted) ∧
        formatted.device.dirtyBlocks = 0 ∧
        mount.run.run formatted = (.ok mounted, start) ∧
        (Operation.writeInode 1 .blank first).step (mounted, start) = (.ok .done, next, used) ∧
        (Operation.writeInode 2 .blank second).step (next, used) = (.ok .done, current, last) ∧
        current.unmount.run.run last = (.ok (), after) := by
  rcases leastHost_session with
    ⟨mirror, formatted, mounted, start, made, outcome, twin, accepted, _, healthy, _⟩
  have shaped := (outcome.empty.shaped outcome.planned).of_twin twin
  have same := twin.geometry_eq.trans (outcome.empty.geometry_eq outcome.planned)
  have clean : formatted.device.dirtyBlocks = 0 := by
    rw [RamDisk.dirtyBlocks, dirty_of_format made]
    rfl
  have inodes : mounted.superblock.inodes = 120 := congrArg Geometry.totalInodes same
  have room := room_of_mount accepted
  rcases step_writeInode .blank first healthy room
    (show (1 : UInt32) < mounted.superblock.inodes by rw [inodes]; decide) (by decide)
    with ⟨next, used, stepped, nextTwin, healthy⟩
  have nextSame := nextTwin.geometry_eq.trans same
  have nextInodes : next.superblock.inodes = 120 := congrArg Geometry.totalInodes nextSame
  rw [← (alike_step stepped).bufferLimit] at room
  rcases step_writeInode .blank second healthy room
    (show (2 : UInt32) < next.superblock.inodes by rw [nextInodes]; decide) (by decide)
    with ⟨current, last, again, currentTwin, healthy⟩
  have currentSame := currentTwin.geometry_eq.trans nextSame
  rcases completes_unmount healthy ((shaped.of_twin nextTwin).of_twin currentTwin)
    (by rw [currentSame]; exact Nat.le_succ _) with ⟨after, ended, _⟩
  exact ⟨_, formatted, mounted, start, next, used, current, last, after, made, clean, accepted,
    stepped, again, ended⟩

/-- A block that is written through last does not wait. -/
theorem unmount_leaves_deferred_least :
    ∃ (start used last after : Host RamDisk) (mounted next current : Mount),
      (Operation.writeInode 1 .blank .writeBack).step (mounted, start) = (.ok .done, next, used) ∧
        (Operation.writeInode 2 .blank .writeThrough).step (next, used) =
          (.ok .done, current, last) ∧
        current.unmount.run.run last = (.ok (), after) ∧ after.device.dirtyBlocks = 0 := by
  rcases leastHost_written .writeBack .writeThrough with
    ⟨_, formatted, mounted, start, next, used, current, last, after, made, clean, accepted,
      stepped, again, ended⟩
  have usage := (Usage.start.operate stepped).operate again
  refine ⟨start, used, last, after, mounted, next, current, stepped, again, ended, ?_⟩
  rw [(unmount_leaves_deferred made .start clean accepted usage ended).2.2]
  intro block
  have one : (Inode.address 1).block.toNat = 1 := by decide
  have two : (Inode.address 2).block.toNat = 1 := by decide
  rw [deferred_concat, deferred_concat, defers, defers, one, two]
  split
  · rfl
  · rfl

/-- Nothing waited for a flush when the disk was mounted, and a block waits after the unmount. -/
theorem unmount_leaves_dirty : ∃ (formatted start used last after : Host RamDisk)
    (mounted next current : Mount),
    formatted.device.dirtyBlocks = 0 ∧ mount.run.run formatted = (.ok mounted, start) ∧
      (Operation.writeInode 1 .blank .writeBack).step (mounted, start) = (.ok .done, next, used) ∧
      (Operation.writeInode 2 .blank .writeBack).step (next, used) = (.ok .done, current, last) ∧
      current.unmount.run.run last = (.ok (), after) ∧ after.device.dirtyBlocks ≠ 0 := by
  rcases leastHost_written .writeBack .writeBack with
    ⟨_, formatted, mounted, start, next, used, current, last, after, made, clean, accepted,
      stepped, again, ended⟩
  have usage := (Usage.start.operate stepped).operate again
  have same : start.device = formatted.device := RamDisk.silent.congruence.mount.of_run accepted
  have waits := usage.dirty_of_unmount (mount_eq_ok accepted).1
    (tableFits_of_lives made .start accepted) (same ▸ dirty_of_format made) ended 1
  refine ⟨formatted, start, used, last, after, mounted, next, current, clean, accepted, stepped,
    again, ended, fun none => ?_⟩
  rw [RamDisk.dirtyBlocks_eq_zero_iff.mp none] at waits
  exact absurd waits (by decide)

end BlockFs
