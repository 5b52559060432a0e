import BlockFs.Proofs.EmptyFilesystem
import BlockFs.Proofs.Mount.Ending
import BlockFs.Proofs.Mount.SyncRow

namespace BlockFs

open Engine

variable {δ : Type} [BlockDevice δ] [LawfulBlockDevice δ] {next : Mount} {host after : Host δ}
  {answer : Except Error Answer} {causes : Nat → Option DeviceError} {devices : δ → Prop}

/-- A sync writes its three regions in order, stops at the first block that cannot be written, and
then changes nothing in memory.  The next sync leaves the disk that this one would have left. -/
theorem sync_converges {mounted current : Mount} {start last : Host δ} {wait : Bool}
    (accepted : BlockFs.mount.run.run host = (.ok mounted, start))
    (reached : Reaches (mounted, start) (current, last))
    (unwritable : Unwritable causes devices) (member : devices last.device)
    (stepped : (Operation.sync (.ofWait wait)).step (current, last) = (answer, next, after)) :
    ∃ plan : SyncPlan current,
      plan.row.map Placement.block = superblockBlock.toNat ::
        (List.range' plan.inodeStart.toNat current.superblock.inodeBitmapBlocks.toNat ++
          List.range' plan.blockStart.toNat current.superblock.blockBitmapBlocks.toNat) ∧
      (plan.row.map Placement.block).Nodup ∧
      (∀ placement ∈ plan.row, placement.region = current.geometry.regionOf placement.block) ∧
      ((∀ placement ∈ plan.row, causes placement.block = none) →
        answer = .ok .done ∧ next = { current with synced := current.generation } ∧
          next.isDirty = false ∧ Placed plan.row last.disk after.disk) ∧
      ∀ done refused rest cause, plan.row = done ++ refused :: rest →
        (∀ placement ∈ done, causes placement.block = none) →
        causes refused.block = some cause →
        answer = .error (.device refused.region cause) ∧ next = current ∧
          Placed done last.disk after.disk ∧
          ∀ (wait : Bool) (healing : Nat → Option DeviceError) (healed : δ → Prop)
            (later final : Host δ) (reply : Except Error Answer) (synced : Mount),
            later.disk = after.disk → Unwritable healing healed → healed later.device →
            (∀ placement ∈ plan.row, healing placement.block = none) →
            (Operation.sync (.ofWait wait)).step (next, later) = (reply, synced, final) →
            reply = .ok .done ∧ synced.isDirty = false ∧ Placed plan.row last.disk final.disk := by
  obtain ⟨mountedShaped, _, _, _, generation, synced⟩ := mount_eq_ok accepted
  rcases reached.shaped mountedShaped with ⟨shaped, _⟩
  have ordered := reached.ordered mountedShaped (Nat.le_of_eq (synced.trans generation.symm))
  obtain ⟨plan⟩ := shaped.syncPlan
  refine ⟨plan, plan.map_block_row shaped, plan.nodup_row shaped,
    fun placement => plan.region_row shaped, fun allowed => ?_,
    fun done refused rest cause split allowed refusal => ?_⟩
  · rcases step_sync_progress plan shaped unwritable member (progress_of_allowed allowed) stepped
      with ⟨rfl, rfl, placed⟩
    exact ⟨rfl, Mount.markSynced_eq ordered, Mount.isDirty_markSynced ordered, placed⟩
  · have stopped := progress_of_refused allowed refusal rest
    rw [← split] at stopped
    rcases step_sync_progress plan shaped unwritable member stopped stepped with ⟨rfl, rfl, placed⟩
    refine ⟨rfl, rfl, placed, ?_⟩
    intro wait healing healed later final reply synced same healthy member served again
    rcases step_sync_progress plan shaped healthy member (progress_of_allowed served) again
      with ⟨rfl, rfl, whole⟩
    rw [same, split] at whole
    rw [split]
    exact ⟨rfl, Mount.isDirty_markSynced ordered, placed.again whole⟩

/-- A disk that cannot write the map of the inodes, and can when the sync is tried again. -/
theorem sync_converges_least : ∃ (mounted synced : Mount) (plan : SyncPlan mounted)
    (broken between healed after : Host RamDisk),
    (Operation.sync .writeThrough).step (mounted, broken) =
        (.error (.device .inodeBitmap (.injected .write)), mounted, between) ∧
      healed.disk = between.disk ∧
      (Operation.sync .writeThrough).step (mounted, healed) = (.ok .done, synced, after) ∧
      synced.isDirty = false ∧ Placed plan.row broken.disk after.disk := by
  obtain ⟨mirror, formatted, mounted, start, _, outcome, twin, accepted, _, _, alike⟩ :=
    leastHost_session
  have shaped := (outcome.empty.shaped outcome.planned).of_twin twin
  have same := twin.geometry_eq.trans (outcome.empty.geometry_eq outcome.planned)
  have size : start.device.blockCount = 101 := alike.blockCount
  let broken : Host RamDisk := { start with device := start.device.heal.failWrites [3] }
  have reached : Reaches (mounted, start) (mounted, broken) :=
    Reaches.start.disturb ⟨⟨rfl, rfl, rfl⟩, rfl⟩
  rcases stepped : (Operation.sync (.ofWait true)).step (mounted, broken) with
    ⟨answer, next, between⟩
  obtain ⟨plan, _, _, _, _, stops⟩ :=
    sync_converges accepted reached broken.device.unwritable ⟨rfl, rfl⟩ stepped
  have place : plan.inodeStart = 3 := by
    apply UInt32.toNat_inj.mp
    rw [plan.inodeStart_toNat, show mounted.superblock.inodeTableBlocks = 2 from
      congrArg Geometry.inodeTableBlocks same]
    rfl
  obtain ⟨first, refused, rest, split, _, _, region, allowed, refusal⟩ :=
    plan.row_of_broken shaped (by rw [same]; decide)
      (show _ ≤ start.device.blockCount by rw [same, size]; decide)
  rw [place] at allowed refusal
  obtain ⟨rfl, rfl, _, again⟩ :=
    stops _ _ _ _ split (List.forall_mem_singleton.mpr allowed) refusal
  rw [region] at stepped
  let healed : Host RamDisk := { between with device := between.device.heal }
  have covers : next.geometry.totalBlocks.toNat = between.device.blockCount := by
    rw [same, show between.device.blockCount = 101 from (alike_step stepped).blockCount.trans size]
    rfl
  rcases retried : (Operation.sync (.ofWait true)).step (next, healed) with ⟨reply, synced, after⟩
  obtain ⟨rfl, clean, placed⟩ := again true healed.device.writeCauses _ healed after reply synced
    rfl healed.device.unwritable ⟨rfl, rfl⟩
    (fun placement member => between.device.writeCauses_heal
      (covers ▸ plan.block_lt shaped member)) retried
  exact ⟨next, synced, plan, broken, between, healed, after, stepped, rfl, retried, clean, placed⟩

end BlockFs
