import BlockFs.Proofs.Ledger
import BlockFs.Proofs.Mount.SyncRow

namespace BlockFs

open Engine

/-- The blocks of a row that were written wait for a flush, or do not, by how they were written. -/
theorem Carries.contains_dirty {durability : Durability} {device after : RamDisk}
    {row done : List Placement} {answer : Except Error Unit}
    (carries : Carries durability device row done answer after) (index : Nat) :
    after.dirty.contains index =
      if index ∈ done.map Placement.block then decide (durability = .writeBack)
      else device.dirty.contains index := by
  induction carries with
  | nil => rfl
  | @refused device _ _ word _ address failed =>
      rcases device.write_cases word _ durability with ⟨wrote, _⟩ | ⟨_, same⟩
      · cases wrote.symm.trans failed
      · rw [same]
        rfl
  | @taken device _ placement _ done word _ address wrote _ ih =>
      rcases device.write_cases word _ durability with ⟨_, written⟩ | ⟨⟨_, failed⟩, _⟩
      · rw [ih, RamDisk.contains_dirty_of_write written, address]
        by_cases here : index = placement.block
        · simp [here]
        · simp [here]
      · cases wrote.symm.trans failed

/-- Nothing but a write changes a disk in memory. -/
theorem RamDisk.silent :
    Silent fun before after : Host RamDisk => after.device = before.device where
  refl _ := rfl
  trans one two := two.trans one
  report _ _ := rfl
  fetch _ _ _ := rfl

/-- What an operation and its answer say about a block of the inode table: whether it waits for a
flush, when it did or did not before. -/
def defers (block : Nat) (deferred : Bool) : Incident → Bool
  | (.writeInode number _ durability, .ok _) =>
      if block = (Inode.address number).block.toNat then decide (durability = .writeBack)
      else deferred
  | _ => deferred

variable {mount next : Mount} {host after : Host RamDisk} {operation : Operation}
  {answer : Except Error Answer} {block : Nat}

theorem defers_of_query (silent : operation.writes = false) (block : Nat) (deferred : Bool)
    (answer : Except Error Answer) : defers block deferred (operation, answer) = deferred := by
  cases operation with
  | writeInode => contradiction
  | _ => rfl

/-- A write of an inode is one write of its block, or leaves the disk as it was. -/
theorem writeInode_device {number : UInt32} {inode : Inode} {durability : Durability}
    {answer : Except Error Mount}
    (ran : (mount.writeInode number inode durability).run.run host = (answer, after)) :
    (∃ error, answer = .error error) ∧ after.device = host.device ∨
    (∃ changed, answer = .ok changed) ∧ ∃ data,
      host.device.write (Inode.address number).block data durability = .ok after.device := by
  rcases writeInode_parts ran with
    ⟨failed, rfl | ⟨_, read⟩⟩ | ⟨_, block, between, changed, outcome, read, _, wrote, rfl⟩
  · exact .inl ⟨failed, rfl⟩
  · exact .inl ⟨failed, (RamDisk.silent.readBlock _ _).of_run read⟩
  · have same : between.device = host.device := (RamDisk.silent.readBlock _ _).of_run read
    rw [writeBlock, run_call, Prod.mk.injEq, same] at wrote
    rcases wrote with ⟨rfl, rfl⟩
    rcases host.device.write_cases (Inode.address number).block changed.bytes durability
      with ⟨wrote, written⟩ | ⟨⟨cause, refused⟩, kept⟩
    · rw [wrote]
      exact .inr ⟨⟨_, rfl⟩, _, written⟩
    · rw [refused]
      exact .inl ⟨⟨_, rfl⟩, kept⟩

theorem step_writeInode_device {number : UInt32} {inode : Inode} {durability : Durability}
    (stepped : (Operation.writeInode number inode durability).step (mount, host) =
      (answer, next, after)) :
    (∃ error, answer = .error error) ∧ after.device = host.device ∨
    (∃ value, answer = .ok value) ∧ ∃ data,
      host.device.write (Inode.address number).block data durability = .ok after.device := by
  rcases step_eq stepped with ⟨value, rfl, ran⟩ | ⟨error, rfl, _, ran⟩
  · rcases bind_eq_ok ran with ⟨_, _, wrote, done⟩
    cases done
    rcases writeInode_device wrote with ⟨⟨_, failed⟩, _⟩ | ⟨_, written⟩
    · cases failed
    · exact .inr ⟨⟨_, rfl⟩, written⟩
  · rcases bind_cases ran with ⟨_, _, _, done⟩ | ⟨_, failed, _⟩
    · cases done
    · rcases writeInode_device failed with ⟨_, same⟩ | ⟨⟨_, succeeded⟩, _⟩
      · exact .inl ⟨⟨_, rfl⟩, same⟩
      · cases succeeded

/-- What one operation does to a block that a sync is not for. -/
theorem step_contains_dirty (shaped : mount.Shaped)
    (stepped : operation.step (mount, host) = (answer, next, after))
    (apart : ¬ mount.geometry.Synced block) :
    after.device.dirty.contains block =
      defers block (host.device.dirty.contains block) (operation, answer) := by
  cases silent : operation.writes with
  | false =>
      have same : after.device = host.device := by
        rcases step_eq stepped with ⟨_, _, ran⟩ | ⟨_, _, _, ran⟩ <;>
          exact (RamDisk.silent.congruence.perform mount silent).of_run ran
      rw [same, defers_of_query silent]
  | true =>
      cases operation with
      | writeInode number inode durability =>
          rcases step_writeInode_device stepped with
            ⟨⟨_, rfl⟩, same⟩ | ⟨⟨_, rfl⟩, _, written⟩
          · rw [same]
            rfl
          · rw [RamDisk.contains_dirty_of_write written]
            rfl
      | sync durability =>
          rcases shaped.syncPlan with ⟨plan⟩
          rcases step_sync plan shaped stepped with ⟨done, _, carries, _, _⟩
          have inside := carries.part.sublist.map Placement.block
          rw [carries.contains_dirty, if_neg fun member =>
            apart ((plan.mem_map_block_row shaped).mp (inside.subset member))]
          rfl
      | _ => contradiction

end BlockFs
