import BlockFs.Proofs.Format
import BlockFs.Proofs.Ledger

/-!
A formatted device over its whole life: it is mounted, used, let go and mounted again.

A mount may end in any way that loses nothing.  What is true of the device then is what was true of
the mount, so that the ledger goes on at the next mount.
-/

namespace BlockFs

open Engine

variable {δ : Type} [BlockDevice δ]

/-- Nothing is lost if the mount ends here: it is clean, or the sync at its end succeeds. -/
def Mount.Settles (mount : Mount) (host : Host δ) : Prop :=
  mount.isDirty = false ∨
    ∃ synced after, (mount.sync .writeThrough).run.run host = (.ok synced, after)

/-- A device, and the mount of it if there is one. -/
inductive Session (δ : Type) where
  | idle (host : Host δ)
  | active (mount : Mount) (host : Host δ)

namespace Session

def host : Session δ → Host δ
  | .idle host | .active _ host => host

def withHost (host : Host δ) : Session δ → Session δ
  | .idle _ => .idle host
  | .active mount _ => .active mount host

/-- What happens to a device, with the operations on its mounts in their order.  The device may
change at any time which calls it refuses. -/
inductive Run (first : Session δ) : (trace : List Incident) → (last : Session δ) → Prop where
  | start : Run first [] first
  | operate {trace : List Incident} {mount next : Mount} {host after : Host δ}
      {operation : Operation} {answer : Except Error Answer}
      (run : Run first trace (.active mount host))
      (stepped : operation.step (mount, host) = (answer, next, after)) :
      Run first (trace ++ [(operation, answer)]) (.active next after)
  | mount {trace : List Incident} {mounted : Mount} {host after : Host δ}
      (run : Run first trace (.idle host))
      (accepted : BlockFs.mount.run.run host = (.ok mounted, after)) :
      Run first trace (.active mounted after)
  | refuse {trace : List Incident} {error : Error} {host after : Host δ}
      (run : Run first trace (.idle host))
      (refused : BlockFs.mount.run.run host = (.error error, after)) :
      Run first trace (.idle after)
  | unmount {trace : List Incident} {mount : Mount} {host after : Host δ}
      {answer : Except Error Unit}
      (run : Run first trace (.active mount host)) (settles : mount.Settles host)
      (ended : mount.unmount.run.run host = (answer, after)) :
      Run first trace (.idle after)
  | drop {trace : List Incident} {mount : Mount} {host after : Host δ}
      {answer : Except Error Unit}
      (run : Run first trace (.active mount host)) (settles : mount.Settles host)
      (ended : mount.drop.run.run host = (answer, after)) :
      Run first trace (.idle after)
  | disturb {trace : List Incident} {session : Session δ} {after : Host δ}
      (run : Run first trace session) (same : Host.Untouched session.host after) :
      Run first trace (session.withHost after)

end Session

variable {geometry : Geometry} {ledger : Ledger}

def Session.Sound (geometry : Geometry) (ledger : Ledger) : Session δ → Prop
  | .idle host => ∃ mirror : Mount, mirror.TableFits ∧ mirror.Sound geometry ledger ∧
      mirror.Persisted host.disk
  | .active mount host => mount.Tracked host.disk ∧ mount.Sound geometry ledger

theorem Session.Sound.withHost {session : Session δ} {after : Host δ}
    (sound : session.Sound geometry ledger)
    (same : session.host.disk = after.disk) : (session.withHost after).Sound geometry ledger := by
  cases session with
  | idle host =>
      obtain ⟨mirror, fits, sound, persisted⟩ := sound
      exact ⟨mirror, fits, sound, same ▸ persisted⟩
  | active mount host => exact ⟨same ▸ sound.1, sound.2⟩

/-- On a formatted disk only the root directory's inode and the reserved blocks are in use. -/
theorem Formatted.sound {mirror : Mount} {reserved : UInt32} {host : Host δ}
    (formatted : Formatted geometry mirror host.disk)
    (found : geometry.reservedBlocks = .ok reserved) :
    (Session.idle host).Sound geometry (.initial reserved) := by
  have planned := formatted.planned
  have empty := formatted.empty
  have place := Geometry.toNat_reservedBlocks planned.hasData found
  refine ⟨mirror, empty.fits planned, ⟨planned, empty.geometry_eq planned,
    ⟨empty.freeInodes_eq planned, ?_⟩, ⟨empty.freeBlocks_eq planned, ?_⟩, rfl, ?_⟩,
    formatted.persisted⟩
  · intro number inside
    rw [empty.inodes_length planned, UInt32.lt_iff_toNat_lt] at inside
    rw [empty.bitAt_inodeBitmap, Ledger.initial, ← decide_not, decide_eq_decide,
      ← toNat_eq_zero_iff]
    omega
  · intro number inside
    rw [empty.blocks_length planned, UInt32.lt_iff_toNat_lt] at inside
    rw [empty.bitAt_blockBitmap planned, Ledger.initial, ← decide_not, decide_eq_decide,
      UInt32.lt_iff_toNat_lt]
    omega
  · intro number low
    exact decide_eq_true (UInt32.lt_iff_toNat_lt.mpr (by omega))

variable [LawfulBlockDevice δ] {mount : Mount} {host after : Host δ}

/-- The sync at the end of a mount that settles leaves its metadata on the disk. -/
theorem Mount.Settles.persisted {answer : Except Error Mount} (settles : mount.Settles host)
    (tracked : mount.Tracked host.disk)
    (ran : (mount.sync .writeThrough).run.run host = (answer, after)) :
    mount.Persisted after.disk := by
  cases answer with
  | ok synced =>
      exact persisted_of_sync tracked.shaped ran
  | error error =>
      obtain clean | ⟨_, _, succeeds⟩ := settles
      -- What the sync had written before it failed was on the disk already.
      · obtain ⟨plan⟩ := tracked.shaped.syncPlan
        obtain ⟨ok, _⟩ | ⟨_, first, second, third, superblock, inodes, blocks, disk⟩ :=
          sync_cases plan ran
        · cases ok
        · rw [disk]
          exact plan.persisted_apply_prefix tracked.shaped
            (tracked.clean (Mount.isDirty_eq_false_iff.mp clean)) superblock inodes blocks
      · rw [ran] at succeeds
        cases succeeds

theorem Mount.Settles.unmount {answer : Except Error Unit} (settles : mount.Settles host)
    (tracked : mount.Tracked host.disk) (ended : mount.unmount.run.run host = (answer, after)) :
    mount.Persisted after.disk := by
  obtain ⟨synced, between, ran, reported⟩ | ⟨error, ran, _⟩ := bind_cases ended
  · rw [((untouched_report _).of_run reported).disk]
    exact settles.persisted tracked ran
  · exact settles.persisted tracked ran

theorem Mount.Settles.drop {answer : Except Error Unit} (settles : mount.Settles host)
    (tracked : mount.Tracked host.disk) (ended : mount.drop.run.run host = (answer, after)) :
    mount.Persisted after.disk := by
  unfold Mount.drop at ended
  cases dirty : mount.isDirty with
  | false =>
      rw [dirty, if_neg Bool.false_ne_true, run_pure] at ended
      cases ended
      exact tracked.clean (Mount.isDirty_eq_false_iff.mp dirty)
  | true =>
      rw [dirty, if_pos rfl] at ended
      cases synced : (mount.sync .writeThrough).run.run host with
      | mk found between =>
          have stored := settles.persisted tracked synced
          cases found with
          | error error =>
              rw [run_tryCatch_of_error (run_bind_of_error synced)] at ended
              rw [((untouched_report _).of_run ended).disk]
              exact stored
          | ok changed =>
              rw [run_tryCatch_of_ok ((run_bind_of_ok synced).trans (run_pure () between))] at ended
              cases ended
              exact stored

namespace Session

theorem Run.sound {first last : Session δ} {trace : List Incident} (run : Run first trace last)
    (sound : first.Sound geometry ledger) : last.Sound geometry (ledger.replay trace) := by
  induction run with
  | start => exact sound
  | operate _ stepped ih =>
      obtain ⟨tracked, sound⟩ := ih
      have change := step_change tracked.shaped stepped
      rw [Ledger.replay_concat]
      exact ⟨tracked.change change, sound.change tracked.shaped change⟩
  | mount _ accepted ih =>
      -- The disk determines the mount, so this one goes on where the last one ended.
      obtain ⟨mirror, fits, sound, persisted⟩ := ih
      obtain ⟨_, found, _⟩ := mount_eq_ok accepted
      have twin := persisted.unique found
      exact ⟨tracked_mount accepted (fits.of_twin twin), sound.of_twin twin⟩
  | refuse _ refused ih =>
      exact ih.withHost ((untouched_mount.of_run refused).disk).symm
  | @unmount trace mount _ _ _ _ settles ended ih =>
      obtain ⟨tracked, sound⟩ := ih
      exact ⟨mount, tracked.fits, sound, settles.unmount tracked ended⟩
  | @drop trace mount _ _ _ _ settles ended ih =>
      obtain ⟨tracked, sound⟩ := ih
      exact ⟨mount, tracked.fits, sound, settles.drop tracked ended⟩
  | disturb _ same ih => exact ih.withHost same.disk.symm

/-- Every mount of a formatted device tracks it, and agrees with some ledger. -/
theorem Run.sound_of_format {host start last : Host δ} {superblock : Superblock}
    {trace : List Incident} {mount : Mount}
    (formatted : format.run.run host = (.ok superblock, start))
    (run : Run (.idle start) trace (.active mount last)) :
    ∃ geometry ledger, mount.Tracked last.disk ∧ mount.Sound geometry ledger := by
  obtain ⟨geometry, mirror, _, _, outcome⟩ := format_eq_ok formatted
  obtain ⟨reserved, found, _⟩ := Geometry.reservedBlocks_exists outcome.planned.hasData
  exact ⟨geometry, _, run.sound (outcome.sound found)⟩

end Session

end BlockFs
