import BlockFs.Proofs.Mount.Change

/-!
The generations of a mount keep track of what the disk holds.

`Mount.Tracked` is the invariant: while the two generations agree, the disk holds the metadata.
It survives every operation, also a sync that stops part of the way, because no write reaches a
region that is not its own.
-/

namespace BlockFs

namespace Mount

structure Tracked (mount : Mount) (disk : Nat → Block) : Prop where
  shaped : mount.Shaped
  fits : mount.TableFits
  ordered : mount.synced ≤ mount.generation
  clean : mount.generation = mount.synced → mount.Persisted disk

variable {mount next : Mount} {disk changed : Nat → Block}

theorem isDirty_eq_false_iff : mount.isDirty = false ↔ mount.generation = mount.synced := by
  rw [isDirty, bne_eq_false_iff_eq]

/-- The device never holds a later generation than the mount. -/
theorem markSynced_eq (ordered : mount.synced ≤ mount.generation) :
    mount.markSynced mount.generation = { mount with synced := mount.generation } := by
  rw [markSynced, Nat.max_eq_right ordered]

theorem isDirty_markSynced (ordered : mount.synced ≤ mount.generation) :
    (mount.markSynced mount.generation).isDirty = false := by
  rw [isDirty_eq_false_iff, markSynced_eq ordered]

section Assign

variable {bitmap : Bitmap} {number : UInt32} {free : Bool}

theorem Shaped.assign (pool : Pool) (shaped : mount.Shaped)
    (assigned : (pool.map mount).Assigns bitmap number free) (update : UInt32 → UInt32) :
    (pool.assign bitmap update mount).Shaped := by
  cases pool with
  | inodes =>
      exact ⟨shaped.magic, shaped.room, shaped.inodes.assigns assigned, shaped.blocks⟩
  | blocks =>
      exact ⟨shaped.magic, shaped.room, shaped.inodes, shaped.blocks.assigns assigned⟩

theorem Tracked.assign (pool : Pool) (tracked : mount.Tracked disk)
    (assigned : (pool.map mount).Assigns bitmap number free) (update : UInt32 → UInt32) :
    (pool.assign bitmap update mount).Tracked disk := by
  have synced : (pool.assign bitmap update mount).synced ≤ mount.generation := by
    cases pool <;> exact tracked.ordered
  refine ⟨tracked.shaped.assign pool assigned update, ?_, Nat.le_succ_of_le synced,
    fun same => absurd same (Nat.ne_of_gt (Nat.lt_succ_of_le synced))⟩
  cases pool <;> exact tracked.fits

end Assign

theorem Persisted.writeInode {number : UInt32} {block : Block} (persisted : mount.Persisted disk)
    (fits : mount.TableFits) (inside : number < mount.superblock.inodes) :
    mount.Persisted (overlay disk (Inode.address number).block.toNat [block]) := by
  apply persisted.congr
  intro index synced
  have elsewhere : index ≠ (Inode.address number).block.toNat := by
    rintro rfl
    exact fits.not_synced inside synced
  apply overlay_of_outside
  rw [List.length_singleton]
  omega

theorem Tracked.change {operation : Operation} {answer : Except Error Answer}
    (tracked : mount.Tracked disk) (change : Change mount disk operation answer next changed) :
    next.Tracked changed := by
  cases change with
  | tookInode _ assigned | freedInode _ _ assigned => exact tracked.assign .inodes assigned _
  | tookBlock _ assigned | freedBlock _ _ _ assigned => exact tracked.assign .blocks assigned _
  | keptInode | keptBlock | failed | answered => exact tracked
  | wroteInode inside =>
      -- The cached root is no part of what the disk must hold.
      split
      · exact ⟨tracked.shaped.of_twin ⟨rfl, rfl, rfl⟩, tracked.fits, tracked.ordered, fun same =>
          ((tracked.clean same).writeInode tracked.fits inside).of_twin ⟨rfl, rfl, rfl⟩⟩
      · exact ⟨tracked.shaped, tracked.fits, tracked.ordered, fun same =>
          (tracked.clean same).writeInode tracked.fits inside⟩
  | synced plan =>
      exact ⟨tracked.shaped.of_twin ⟨rfl, rfl, rfl⟩, tracked.fits,
        Nat.max_le.mpr ⟨tracked.ordered, Nat.le_refl _⟩, fun _ =>
        (plan.persisted_apply_whole disk tracked.shaped).of_twin ⟨rfl, rfl, rfl⟩⟩
  | interrupted plan superblock inodes blocks =>
      exact ⟨tracked.shaped, tracked.fits, tracked.ordered, fun same =>
        plan.persisted_apply_prefix tracked.shaped (tracked.clean same) superblock inodes blocks⟩

end Mount

variable {δ : Type} [BlockDevice δ]

/-- One mount in use: operations on it, in any order, while the device changes at will which calls
it refuses. -/
inductive Reaches : (start last : Mount × Host δ) → Prop where
  | start {state : Mount × Host δ} : Reaches state state
  | operate {state : Mount × Host δ} {mount next : Mount} {host after : Host δ}
      {operation : Operation} {answer : Except Error Answer}
      (reached : Reaches state (mount, host))
      (stepped : operation.step (mount, host) = (answer, next, after)) :
      Reaches state (next, after)
  | disturb {state : Mount × Host δ} {mount : Mount} {host after : Host δ}
      (reached : Reaches state (mount, host)) (same : Host.Untouched host after) :
      Reaches state (mount, after)

variable [LawfulBlockDevice δ] {host after : Host δ} {mounted : Mount}

theorem tracked_mount (accepted : mount.run.run host = (.ok mounted, after))
    (fits : mounted.TableFits) : mounted.Tracked after.disk := by
  obtain ⟨shaped, persisted, _, _, generation, synced⟩ := mount_eq_ok accepted
  rw [(untouched_mount.of_run accepted).disk]
  exact ⟨shaped, fits, Nat.le_of_eq (synced.trans generation.symm), fun _ => persisted⟩

theorem Reaches.tracked {start last : Mount × Host δ} (reached : Reaches start last)
    (tracked : start.1.Tracked start.2.disk) : last.1.Tracked last.2.disk := by
  induction reached with
  | start => exact tracked
  | operate _ stepped ih => exact ih.change (step_change ih.shaped stepped)
  | disturb _ same ih =>
      rw [same.disk]
      exact ih

end BlockFs
