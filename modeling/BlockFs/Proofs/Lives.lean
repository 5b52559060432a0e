import BlockFs.Proofs.Mount.Ending
import BlockFs.Proofs.Session

/-!
A formatted device whose calls may fail at any time, and whose mounts need not settle.

A sync that stops part of the way can leave new counters beside old maps, so that a later mount need
not find what the last one held.  `Session.History.intact` says what stays: the first block describes
the geometry of the format.
-/

namespace BlockFs

open Engine

variable {δ : Type} [BlockDevice δ]

namespace Session

/-- What can happen to a device that nobody else writes, with the operations on its mounts in their
order: mounts begin, are used and end.  Any call may fail, and the device may change at any time
which calls it refuses. -/
inductive History (first : Session δ) :
    (trace : List Incident) → (last : Session δ) → Prop where
  | start : History first [] first
  | operate {trace : List Incident} {mount next : Mount} {host after : Host δ}
      {operation : Operation} {answer : Except Error Answer}
      (history : History first trace (.active mount host))
      (stepped : operation.step (mount, host) = (answer, next, after)) :
      History first (trace ++ [(operation, answer)]) (.active next after)
  | mount {trace : List Incident} {mounted : Mount} {host after : Host δ}
      (history : History first trace (.idle host))
      (accepted : BlockFs.mount.run.run host = (.ok mounted, after)) :
      History first trace (.active mounted after)
  | refuse {trace : List Incident} {error : Error} {host after : Host δ}
      (history : History first trace (.idle host))
      (refused : BlockFs.mount.run.run host = (.error error, after)) :
      History first trace (.idle after)
  | finish {trace : List Incident} {mount : Mount} {host after : Host δ} {ending : Ending}
      {answer : Except Error Unit} (history : History first trace (.active mount host))
      (ended : (ending.finish mount).run.run host = (answer, after)) :
      History first trace (.idle after)
  | disturb {trace : List Incident} {session : Session δ} {after : Host δ}
      (history : History first trace session) (same : Host.Untouched session.host after) :
      History first trace (session.withHost after)

/-- A device that some history leads to, whatever the operations in it were. -/
def Lives (first last : Session δ) : Prop := ∃ trace, History first trace last

theorem History.lives {first last : Session δ} {trace : List Incident}
    (history : History first trace last) : Lives first last :=
  ⟨trace, history⟩

namespace Lives

variable {first : Session δ} {mounted next : Mount} {host after : Host δ}

theorem start : Lives first first := ⟨[], .start⟩

theorem operate {operation : Operation} {answer : Except Error Answer}
    (lives : Lives first (.active mounted host))
    (stepped : operation.step (mounted, host) = (answer, next, after)) :
    Lives first (.active next after) :=
  lives.elim fun _ history => (history.operate stepped).lives

theorem mount (lives : Lives first (.idle host))
    (accepted : BlockFs.mount.run.run host = (.ok mounted, after)) :
    Lives first (.active mounted after) :=
  lives.elim fun _ history => (history.mount accepted).lives

theorem finish {ending : Ending} {answer : Except Error Unit}
    (lives : Lives first (.active mounted host))
    (ended : (ending.finish mounted).run.run host = (answer, after)) : Lives first (.idle after) :=
  lives.elim fun _ history => (history.finish ended).lives

theorem disturb {session : Session δ} (lives : Lives first session)
    (same : Host.Untouched session.host after) : Lives first (session.withHost after) :=
  lives.elim fun _ history => (history.disturb same).lives

end Lives

theorem Run.history {first last : Session δ} {trace : List Incident}
    (run : Run first trace last) : History first trace last := by
  induction run with
  | start => exact .start
  | operate _ stepped ih => exact ih.operate stepped
  | mount _ accepted ih => exact ih.mount accepted
  | refuse _ refused ih => exact ih.refuse refused
  | unmount _ _ ended ih =>
      exact ih.finish (show (Ending.unmount.finish _).run.run _ = _ from ended)
  | drop _ _ ended ih =>
      exact ih.finish (show (Ending.drop.finish _).run.run _ = _ from ended)
  | disturb _ same ih => exact ih.disturb same

end Session

/-- The first block of a disk is a superblock of some kind. -/
def Stores (good : Superblock → Prop) (disk : Nat → Block) : Prop :=
  ∃ stored, Superblock.decode (disk superblockBlock.toNat).bytes = .ok stored ∧ good stored

variable {good : Superblock → Prop} {disk changed : Nat → Block} {geometry : Geometry}
  {mount next : Mount} {host after start last : Host δ}

theorem Stores.rewrite (stores : Stores good disk) (magic : mount.superblock.magic = formatMagic)
    (fine : good mount.superblock)
    (first : changed superblockBlock.toNat = disk superblockBlock.toNat ∨
      changed superblockBlock.toNat = mount.superblock.encode) : Stores good changed := by
  obtain ⟨stored, decoded, same⟩ := stores
  obtain kept | written := first
  · exact ⟨stored, by rw [kept, decoded], same⟩
  · exact ⟨mount.superblock, by rw [written, Superblock.decode_encode magic], fine⟩

theorem Geometry.Planned.tableFits (planned : geometry.Planned)
    (same : mount.geometry = geometry) : mount.TableFits := by
  have inodes := planned.inodes
  rw [← same, Nat.mul_comm] at inodes
  exact Nat.le_of_eq inodes

/-- A device whose first block describes the geometry, and a mount of it that does so as well. -/
def Session.Intact (geometry : Geometry) : Session δ → Prop
  | .idle host => Stores (·.geometry = geometry) host.disk
  | .active mount host => Stores (·.geometry = geometry) host.disk ∧ mount.Shaped ∧
      mount.geometry = geometry

namespace Session

theorem Intact.withHost {session : Session δ} (intact : session.Intact geometry)
    (same : session.host.disk = after.disk) : (session.withHost after).Intact geometry := by
  cases session with
  | idle host =>
      change Stores _ after.disk
      rw [← same]
      exact intact
  | active mount host =>
      refine ⟨?_, intact.2⟩
      rw [← same]
      exact intact.1

variable [LawfulBlockDevice δ]

theorem History.intact {first last : Session δ} {trace : List Incident}
    (history : History first trace last) (planned : geometry.Planned)
    (intact : first.Intact geometry) : last.Intact geometry := by
  induction history with
  | start => exact intact
  | operate _ stepped ih =>
      obtain ⟨stores, shaped, same⟩ := ih
      have change := step_change shaped stepped
      exact ⟨stores.rewrite shaped.magic same (change.first_block (planned.tableFits same)),
        change.shaped shaped, change.geometry_eq.trans same⟩
  | mount _ accepted ih =>
      obtain ⟨stored, decoded, same⟩ := ih
      obtain ⟨shaped, persisted, _⟩ := mount_eq_ok accepted
      have kept := (untouched_mount.of_run accepted).disk
      refine ⟨⟨stored, by rw [kept, decoded], same⟩, shaped, ?_⟩
      cases decoded.symm.trans persisted.superblock
      exact same
  | refuse _ refused ih => exact ih.withHost (untouched_mount.of_run refused).disk.symm
  | finish _ ended ih =>
      obtain ⟨stores, shaped, same⟩ := ih
      exact stores.rewrite shaped.magic same (finish_first_block shaped ended)
  | disturb _ same ih => exact ih.withHost same.disk.symm

theorem History.alike {first last : Session δ} {trace : List Incident}
    (history : History first trace last) : Host.Alike first.host last.host := by
  induction history with
  | start => exact .refl _
  | operate _ stepped ih => exact ih.trans (alike_step stepped)
  | mount _ ran ih | refuse _ ran ih => exact ih.trans (untouched_mount.of_run ran).toAlike
  | finish _ ended ih =>
      exact ih.trans ((alike_congruence.finish (fun _ => rfl) _ _).of_run ended)
  | @disturb _ session _ _ same ih =>
      cases session <;> exact ih.trans same.toAlike

theorem Lives.intact {first last : Session δ} (lives : Lives first last)
    (planned : geometry.Planned) (intact : first.Intact geometry) : last.Intact geometry :=
  lives.elim fun _ history => history.intact planned intact

theorem Lives.alike {first last : Session δ} (lives : Lives first last) :
    Host.Alike first.host last.host :=
  lives.elim fun _ history => history.alike

end Session

theorem Formatted.intact {mirror : Mount} (formatted : Formatted geometry mirror host.disk) :
    (Session.idle host).Intact geometry :=
  ⟨mirror.superblock, formatted.persisted.superblock,
    formatted.empty.geometry_eq formatted.planned⟩

/-- Every mount in the life of a formatted device has room in its table for all of its inodes. -/
theorem tableFits_of_lives [LawfulBlockDevice δ] {superblock : Superblock} {mounted : Mount}
    (formatted : format.run.run host = (.ok superblock, start))
    (lives : Session.Lives (.idle start) (.idle last))
    (accepted : BlockFs.mount.run.run last = (.ok mounted, after)) : mounted.TableFits := by
  obtain ⟨geometry, mirror, _, _, outcome⟩ := format_eq_ok formatted
  have planned := outcome.planned
  obtain ⟨_, _, same⟩ := (lives.mount accepted).intact planned outcome.intact
  exact planned.tableFits same

end BlockFs
