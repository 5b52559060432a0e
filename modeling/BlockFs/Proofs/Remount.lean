import BlockFs.Proofs.Lifetimes
import BlockFs.Proofs.Mount.Mimicry
import BlockFs.Proofs.Mount.Twins

/-!
Letting a mount go and mounting the device again, where no call fails.

Nothing that operations ask for afterwards depends on it, and after a last unmount neither does the
device.  Two runs go side by side: the mounts hold the same metadata all the time, and the disks
differ at most where the last sync has not been yet.
-/

namespace BlockFs

open Engine

/-- What is done with a mounted device: an operation, or an end of the mount with a new mount behind
it. -/
inductive Move where
  | operate (operation : Operation)
  | remount (ending : Ending)
deriving DecidableEq

namespace Move

/-- The operations of some moves, on one mount. -/
def withoutRemounts : List Move → List Move
  | [] => []
  | .operate operation :: rest => .operate operation :: withoutRemounts rest
  | .remount _ :: rest => withoutRemounts rest

/-- Whether a move asks for nothing that a mount alone knows. -/
def isLasting : Move → Bool
  | .operate operation => operation.isLasting
  | .remount _ => true

end Move

section Play

variable {δ : Type} [BlockDevice δ]

/-- An operation whose failure is an answer as well. -/
def Operation.attempt (mount : Mount) (operation : Operation) :
    Engine δ (Except Error Answer × Mount) :=
  tryCatch (do
      let (answer, next) ← operation.perform mount
      return (.ok answer, next))
    fun error => return (.error error, mount)

/-- The answers of the operations, in order, and the last mount. -/
def play : Mount → List Move → Engine δ (List (Except Error Answer) × Mount)
  | mount, [] => pure ([], mount)
  | mount, .operate operation :: rest => do
      let (answer, next) ← operation.attempt mount
      let (answers, last) ← play next rest
      return (answer :: answers, last)
  | mount, .remount ending :: rest => do
      ending.finish mount
      play (← BlockFs.mount) rest

/-- A mount, some moves and a last unmount.  It fails if the device cannot be mounted when it has to
be, or not be unmounted at the end. -/
def session (moves : List Move) : Engine δ (List (Except Error Answer)) := do
  let (answers, last) ← play (← mount) moves
  last.unmount
  return answers

theorem run_attempt {mount next : Mount} {host after : Host δ} {operation : Operation}
    {answer : Except Error Answer}
    (stepped : operation.step (mount, host) = (answer, next, after)) :
    (operation.attempt mount).run.run host = (.ok (answer, next), after) := by
  obtain ⟨value, rfl, ran⟩ | ⟨error, rfl, rfl, ran⟩ := step_eq stepped
  · exact run_tryCatch_of_ok ((run_bind_of_ok ran).trans (run_pure _ _))
  · exact (run_tryCatch_of_error (run_bind_of_error ran)).trans (run_pure _ _)

theorem session_of_play {moves : List Move} {mounted last : Mount}
    {host start between after : Host δ} {answers : List (Except Error Answer)}
    (accepted : mount.run.run host = (.ok mounted, start))
    (played : (play mounted moves).run.run start = (.ok (answers, last), between))
    (finished : last.unmount.run.run between = (.ok (), after)) :
    (session moves).run.run host = (.ok answers, after) := by
  rw [session, run_bind_of_ok accepted, run_bind_of_ok played, run_bind_of_ok finished, run_pure]

variable [LawfulBlockDevice δ]

theorem mimics_attempt (mount : Mount) (operation : Operation) :
    Mimics (operation.attempt mount : Engine (Monitor δ) (Except Error Answer × Mount))
      (operation.attempt mount) :=
  ((mimics_perform _ _).bind fun _ => mimics_pure _).tryCatch fun _ => mimics_pure _

theorem mimics_play (mount : Mount) (moves : List Move) :
    Mimics (play mount moves : Engine (Monitor δ) (List (Except Error Answer) × Mount))
      (play mount moves) := by
  induction moves generalizing mount with
  | nil => exact mimics_pure _
  | cons move rest ih =>
      cases move with
      | operate operation =>
          exact (mimics_attempt _ _).bind fun _ => (ih _).bind fun _ => mimics_pure _
      | remount ending =>
          exact (mimics_finish _ _).bind fun _ => mimics_mount.bind fun _ => ih _

theorem mimics_session (moves : List Move) :
    Mimics (session moves : Engine (Monitor δ) (List (Except Error Answer))) (session moves) :=
  mimics_mount.bind fun _ => (mimics_play _ _).bind fun _ =>
    (mimics_finish _ .unmount).bind fun _ => mimics_pure _

end Play

section Perfect

variable {geometry : Geometry} {mount next one two : Mount} {host after host' : Host Perfect}

/-- A mount of a planned geometry in use on a perfect disk. -/
structure Mount.InUse (geometry : Geometry) (mount : Mount) (host : Host Perfect) : Prop where
  tracked : mount.Tracked host.disk
  sound : ∃ ledger, mount.Sound geometry ledger
  buffers : geometry.BuffersFit host.bufferLimit

namespace Mount.InUse

theorem geometry_eq (used : mount.InUse geometry host) : mount.geometry = geometry := by
  obtain ⟨_, sound⟩ := used.sound
  exact sound.geometry_eq

theorem room (used : mount.InUse geometry host) : blockSize ≤ host.bufferLimit := by
  obtain ⟨_, sound⟩ := used.sound
  exact used.buffers.block sound.planned

theorem covered (used : mount.InUse geometry host) : geometry.metadata < UInt32.size := by
  rw [← used.geometry_eq]
  exact used.tracked.shaped.metadata_lt

theorem step {operation : Operation} {answer : Except Error Answer}
    (used : mount.InUse geometry host)
    (stepped : operation.step (mount, host) = (answer, next, after)) :
    next.InUse geometry after := by
  have change := step_change used.tracked.shaped stepped
  obtain ⟨ledger, sound⟩ := used.sound
  refine ⟨used.tracked.change change, ⟨_, sound.change used.tracked.shaped change⟩, ?_⟩
  rw [(alike_step stepped).bufferLimit]
  exact used.buffers

theorem sync (used : mount.InUse geometry host) (plan : SyncPlan mount) (durability : Durability) :
    ∃ after, (mount.sync durability).run.run host =
        (.ok (mount.markSynced mount.generation), after) ∧
      after.disk = plan.apply host.disk [mount.superblock.encode] plan.inodeBlocks
        plan.blockBlocks := by
  have covered := used.covered
  rw [← used.geometry_eq] at covered
  obtain ⟨after, synced, _⟩ :=
    completes_sync host.device.healthy used.tracked.shaped (Nat.le_of_lt covered) durability
  obtain ⟨_, disk⟩ | ⟨⟨_, failed⟩, _⟩ := sync_cases plan synced
  · exact ⟨after, synced, disk⟩
  · cases failed

theorem unmount (used : mount.InUse geometry host) (plan : SyncPlan mount) :
    ∃ after, mount.unmount.run.run host = (.ok (), after) ∧
      after.disk = plan.apply host.disk [mount.superblock.encode] plan.inodeBlocks
        plan.blockBlocks := by
  obtain ⟨between, synced, disk⟩ := used.sync plan .writeThrough
  exact ⟨_, (run_bind_of_ok synced).trans (run_report _ _), disk⟩

/-- However a mount ends, the disk holds its metadata afterwards, and nothing else is different. -/
theorem finish (used : mount.InUse geometry host) (ending : Ending) :
    ∃ after, (ending.finish mount).run.run host = (.ok (), after) ∧
      mount.Persisted after.disk ∧ geometry.Agrees host.disk after.disk ∧
      after.bufferLimit = host.bufferLimit := by
  have shaped := used.tracked.shaped
  cases ended : (ending.finish mount).run.run host with
  | mk answer after =>
      obtain ⟨clean, rfl, rfl⟩ | ⟨synced, between, events, ran, rfl, succeeds⟩ := finish_cases ended
      · exact ⟨after, rfl, used.tracked.clean (Mount.isDirty_eq_false_iff.mp clean), .refl _, rfl⟩
      · obtain ⟨plan⟩ := shaped.syncPlan
        obtain ⟨after, whole, disk⟩ := used.sync plan .writeThrough
        cases ran.symm.trans whole
        obtain rfl := succeeds rfl
        have stored : mount.Persisted between.disk := persisted_of_sync shaped ran
        have kept := plan.agrees_apply host.disk shaped List.prefix_rfl List.prefix_rfl
          List.prefix_rfl
        rw [← disk, used.geometry_eq] at kept
        exact ⟨_, rfl, stored, kept, (alike_sync _ _).of_run ran |>.bufferLimit⟩

end Mount.InUse

theorem Mount.Persisted.shaped {disk : Nat → Block} (persisted : mount.Persisted disk)
    (room : mount.geometry.HasData) : mount.Shaped := by
  obtain ⟨superblock, ⟨_, _, inodes⟩, _, _, blocks⟩ := persisted
  exact ⟨Superblock.magic_of_decode superblock, room, .of_load inodes, .of_load blocks⟩

/-- The next mount goes on where a mount ended. -/
theorem Mount.Persisted.mounts {ledger : Ledger} (persisted : mount.Persisted host.disk)
    (fits : mount.TableFits) (sound : mount.Sound geometry ledger)
    (buffers : geometry.BuffersFit host.bufferLimit) :
    ∃ next after, BlockFs.mount.run.run host = (.ok next, after) ∧ Host.Untouched host after ∧
      mount.Twin next ∧ next.InUse geometry after := by
  have shaped := persisted.shaped (by rw [sound.geometry_eq]; exact sound.planned.hasData)
  obtain ⟨same, valid⟩ := sound.superblock_fits shaped
  subst same
  obtain ⟨root, after, mounted, _, untouched⟩ := persisted.completes_mount valid
    host.device.healthy shaped.metadata_lt buffers.inodes buffers.blocks
  rw [← untouched.bufferLimit] at buffers
  have twin : mount.Twin { mount with root, generation := 0, synced := 0 } := ⟨rfl, rfl, rfl⟩
  exact ⟨_, after, mounted, untouched, twin, tracked_mount mounted (fits.of_twin twin),
    ⟨ledger, sound.of_twin twin⟩, buffers⟩

/-- Two runs that go on in the same way. -/
structure Beside (geometry : Geometry) (plain cut : Mount × Host Perfect) : Prop where
  left : plain.1.InUse geometry plain.2
  right : cut.1.InUse geometry cut.2
  twin : plain.1.Twin cut.1
  agrees : geometry.Agrees plain.2.disk cut.2.disk

namespace Beside

theorem step {operation : Operation} {answer : Except Error Answer}
    (beside : Beside geometry (one, host) (two, host')) (lasting : operation.isLasting = true)
    (stepped : operation.step (one, host) = (answer, next, after)) :
    ∃ other after', operation.step (two, host') = (answer, other, after') ∧
      Beside geometry (next, after) (other, after') := by
  obtain ⟨left, right, twin, agrees⟩ := beside
  have shaped : one.Shaped := left.tracked.shaped
  have shaped' : two.Shaped := right.tracked.shaped
  rw [← left.geometry_eq] at agrees
  have replied : (operation.step (one, host)).1 = _ := step_reply left.room shaped operation
  cases stepped' : operation.step (two, host') with
  | mk answer' state =>
      obtain ⟨other, after'⟩ := state
      -- No reply depends on what the two disks differ in, so the changes are the same as well.
      have replied' : (operation.step (two, host')).1 = _ := step_reply right.room shaped' operation
      rw [operation.reply_twin lasting twin left.tracked.fits agrees, ← replied, stepped,
        stepped'] at replied'
      obtain rfl : answer' = answer := replied'
      obtain ⟨twin, agrees⟩ := (step_change shaped stepped).twin (step_change shaped' stepped')
        shaped shaped' left.tracked.fits twin agrees
      rw [left.geometry_eq] at agrees
      exact ⟨other, after', rfl, left.step stepped, right.step stepped', twin, agrees⟩

theorem remount (beside : Beside geometry (one, host) (two, host')) (ending : Ending) :
    ∃ ended other after', (ending.finish two).run.run host' = (.ok (), ended) ∧
      BlockFs.mount.run.run ended = (.ok other, after') ∧
      Beside geometry (one, host) (other, after') := by
  obtain ⟨left, right, twin, agrees⟩ := beside
  obtain ⟨ended, finished, persisted, agrees', limit⟩ := right.finish ending
  obtain ⟨ledger, sound⟩ := right.sound
  have buffers := right.buffers
  rw [← limit] at buffers
  obtain ⟨other, after', mounted, untouched, twin', used⟩ :=
    persisted.mounts right.tracked.fits sound buffers
  rw [← untouched.disk] at agrees'
  exact ⟨ended, other, after', finished, mounted, left, used, twin.trans twin',
    agrees.trans agrees'⟩

/-- Moves are answered alike with and without the mounts in between. -/
theorem play {moves : List Move} (beside : Beside geometry (one, host) (two, host'))
    (lasting : ∀ move ∈ moves, move.isLasting = true) :
    ∃ answers next after other after',
      (BlockFs.play one (Move.withoutRemounts moves)).run.run host = (.ok (answers, next), after) ∧
      (BlockFs.play two moves).run.run host' = (.ok (answers, other), after') ∧
      Beside geometry (next, after) (other, after') := by
  induction moves generalizing one two host host' with
  | nil => exact ⟨[], one, host, two, host', rfl, rfl, beside⟩
  | cons move rest ih =>
      obtain ⟨now, later⟩ := List.forall_mem_cons.mp lasting
      cases move with
      | operate operation =>
          cases stepped : operation.step (one, host) with
          | mk answer state =>
              obtain ⟨_, _, stepped', beside⟩ := beside.step now stepped
              obtain ⟨answers, next, after, other, after', left, right, beside⟩ :=
                ih beside later
              refine ⟨answer :: answers, next, after, other, after', ?_, ?_, beside⟩
              · rw [Move.withoutRemounts, BlockFs.play, run_bind_of_ok (run_attempt stepped)]
                exact run_bind_of_ok left
              · rw [BlockFs.play, run_bind_of_ok (run_attempt stepped')]
                exact run_bind_of_ok right
      | remount ending =>
          -- The first run stays where it is.
          obtain ⟨ended, _, _, finished, mounted, beside⟩ := beside.remount ending
          obtain ⟨answers, next, after, other, after', left, right, beside⟩ := ih beside later
          refine ⟨answers, next, after, other, after', left, ?_, beside⟩
          rw [BlockFs.play, run_bind_of_ok finished, run_bind_of_ok mounted]
          exact right

/-- After a last unmount no byte of the disks is different. -/
theorem unmount (beside : Beside geometry (one, host) (two, host')) :
    ∃ after after', one.unmount.run.run host = (.ok (), after) ∧
      two.unmount.run.run host' = (.ok (), after') ∧ after'.disk = after.disk := by
  obtain ⟨left, right, twin, agrees⟩ := beside
  obtain ⟨plan⟩ := left.tracked.shaped.syncPlan
  obtain ⟨plan'⟩ := right.tracked.shaped.syncPlan
  obtain ⟨after, finished, disk⟩ := left.unmount plan
  obtain ⟨after', finished', disk'⟩ := right.unmount plan'
  refine ⟨after, after', finished, finished', ?_⟩
  rw [← left.geometry_eq] at agrees
  rw [disk, disk', plan.apply_eq plan' left.tracked.shaped twin agrees]

end Beside

/-- A session on a perfect disk succeeds, and the mounts in between are no part of what it answers
and leaves. -/
theorem Session.Sound.sessions {ledger : Ledger} {moves : List Move}
    (sound : (Session.idle host).Sound geometry ledger)
    (buffers : geometry.BuffersFit host.bufferLimit)
    (lasting : ∀ move ∈ moves, move.isLasting = true) :
    ∃ answers after after',
      (session (Move.withoutRemounts moves)).run.run host = (.ok answers, after) ∧
      (session moves).run.run host = (.ok answers, after') ∧ after'.disk = after.disk := by
  obtain ⟨_, fits, sound, persisted⟩ := sound
  obtain ⟨mounted, start, accepted, _, _, used⟩ := persisted.mounts fits sound buffers
  have beside : Beside geometry (mounted, start) (mounted, start) :=
    ⟨used, used, .refl _, .refl _⟩
  obtain ⟨answers, _, _, _, _, played, played', beside⟩ := beside.play lasting
  obtain ⟨after, after', finished, finished', same⟩ := beside.unmount
  exact ⟨answers, after, after', session_of_play accepted played finished,
    session_of_play accepted played' finished', same⟩

end Perfect

section Formatted

variable {δ : Type} [BlockDevice δ] [LawfulBlockDevice δ]

/-- Remounts are invisible: as long as no call fails, operations on a formatted device are answered
alike whether or not the device is let go and mounted again in between, every mount in between
succeeds, and the device is the same after a last unmount. -/
theorem session_withoutRemounts {host start ready whole cut : Host (Monitor δ)}
    {superblock : Superblock} {trace : List Incident} {moves : List Move}
    {answer answer' : Except Error (List (Except Error Answer))}
    (formatted : format.run.run host = (.ok superblock, start))
    (run : Session.Run (.idle start) trace (.idle ready))
    (lasting : ∀ move ∈ moves, move.isLasting = true)
    (wholeRan : (session (Move.withoutRemounts moves)).run.run ready = (answer, whole))
    (cutRan : (session moves).run.run ready = (answer', cut))
    (wholeServed : whole.device.failures = ready.device.failures)
    (cutServed : cut.device.failures = ready.device.failures) :
    ∃ answers, answer = .ok answers ∧ answer' = .ok answers ∧ cut.disk = whole.disk := by
  obtain ⟨geometry, mirror, rfl, outcome, buffers⟩ := buffersFit_of_format formatted
  obtain ⟨reserved, found, _⟩ := Geometry.reservedBlocks_exists outcome.planned.hasData
  have sound : (Session.idle ready.perfect).Sound geometry _ :=
    run.sound (outcome.sound found)
  have limit : ready.perfect.bufferLimit = start.bufferLimit := run.history.alike.bufferLimit
  rw [← limit] at buffers
  obtain ⟨answers, after, after', ideal, ideal', same⟩ := sound.sessions buffers lasting
  cases ideal.symm.trans ((mimics_session _ _ _ _ wholeRan).follows wholeServed)
  cases ideal'.symm.trans ((mimics_session _ _ _ _ cutRan).follows cutServed)
  exact ⟨answers, rfl, rfl, same⟩

/-- A disk with a block of every number that claims to have a few only. -/
def vastHost : Host (Monitor RamDisk) where
  device := {
    device := .ofBlocks UInt32.size
    claimedSize := some (BlockDevice.byteSize leastHost.device) }
  bufferLimit := leastHost.bufferLimit

theorem session_withoutRemounts_vast : ∃ superblock start,
    format.run.run vastHost = (.ok superblock, start) ∧
      let ready : Host (Monitor RamDisk) := { start with
        device := { start.device with device := start.device.device.heal } }
      let moves : List Move := [.operate .takeBlock, .remount .drop, .operate (.readInode 0),
        .operate .takeInode, .operate (.sync .writeBack), .remount .unmount, .operate .stats]
      let whole := (session (Move.withoutRemounts moves)).run.run ready
      let cut := (session moves).run.run ready
      whole.2.device.failures = ready.device.failures ∧
        cut.2.device.failures = ready.device.failures ∧
        ∃ answers, whole.1 = .ok answers ∧ cut.1 = .ok answers ∧ cut.2.disk = whole.2.disk := by
  have sized : Geometry.ofSize (BlockDevice.byteSize vastHost.device) = .ok leastGeometry :=
    leastHost_sized
  have healthy : Healthy (leastGeometry.metadata + 1) vastHost.device :=
    Monitor.healthy (RamDisk.healthy rfl rfl (by decide)) rfl
  obtain ⟨_, start, _, formatted, _, _, alike⟩ :=
    format_exists sized healthy leastGeometry_buffersFit
  refine ⟨_, start, formatted, ?_⟩
  intro ready moves whole cut
  have run : Session.Run (.idle start) [] (.idle ready) :=
    Session.Run.start.disturb ⟨⟨rfl, rfl, rfl⟩, rfl⟩
  have blockCount : ready.device.device.blockCount = UInt32.size :=
    alike.blockCount.trans (by decide)
  have served : Healthy UInt32.size ready.device.device :=
    RamDisk.healthy rfl rfl (Nat.le_of_eq blockCount.symm)
  have wholeServed := ((mimics_session (Move.withoutRemounts moves) ready _ _ rfl).quiet served).1
  have cutServed := ((mimics_session moves ready _ _ rfl).quiet served).1
  exact ⟨wholeServed, cutServed,
    session_withoutRemounts formatted run (by decide) rfl rfl wholeServed cutServed⟩

end Formatted

end BlockFs
