import BlockFs.Proofs.EmptyFilesystem
import BlockFs.Proofs.Mount.Tracking

namespace BlockFs

/-- While a mount is clean the device holds its superblock and both of its maps, and a sync that
succeeds makes it clean. -/
theorem persisted_of_clean {δ : Type} [BlockDevice δ] [LawfulBlockDevice δ]
    {host start last : Host δ} {mounted current : Mount}
    (accepted : mount.run.run host = (.ok mounted, start))
    (fits : mounted.superblock.inodes.toNat ≤
      inodesPerBlock * mounted.superblock.inodeTableBlocks.toNat)
    (reached : Reaches (mounted, start) (current, last)) :
    (current.isDirty = false → current.Persisted last.disk) ∧
      ∀ durability synced after, (current.sync durability).run.run last = (.ok synced, after) →
        synced = { current with synced := current.generation } ∧ synced.isDirty = false ∧
          synced.Persisted after.disk := by
  have tracked := reached.tracked (tracked_mount accepted fits)
  constructor
  · intro clean
    exact tracked.clean (Mount.isDirty_eq_false_iff.mp clean)
  · intro durability synced after ran
    obtain ⟨rfl, stored⟩ := sync_eq_ok tracked.shaped ran
    exact ⟨Mount.markSynced_eq tracked.ordered, Mount.isDirty_markSynced tracked.ordered, stored⟩

theorem persisted_of_clean_least : ∃ (mounted : Mount) (formatted start : Host RamDisk),
    mount.run.run formatted = (.ok mounted, start) ∧
      let last := (Operation.takeBlock.step (mounted, start)).2
      (last.1.isDirty = false → last.1.Persisted last.2.disk) ∧
        ∀ durability synced after, (last.1.sync durability).run.run last.2 = (.ok synced, after) →
          synced = { last.1 with synced := last.1.generation } ∧ synced.isDirty = false ∧
            synced.Persisted after.disk := by
  obtain ⟨_, formatted, mounted, start, _, accepted, fits⟩ := leastHost_mounts
  exact ⟨mounted, formatted, start, accepted,
    persisted_of_clean accepted fits (.operate .start rfl)⟩

end BlockFs
