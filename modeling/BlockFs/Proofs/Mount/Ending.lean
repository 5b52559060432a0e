import BlockFs.Proofs.Mount.Tracking

namespace BlockFs

open Engine

inductive Ending where
  | unmount
  | drop
deriving DecidableEq, Repr

variable {δ : Type} [BlockDevice δ]

def Ending.finish (mount : Mount) : Ending → Engine δ Unit
  | .unmount => mount.unmount
  | .drop => mount.drop

theorem Engine.Congruence.finish {ε : Type} [BlockDevice ε] {tied : Durability → Durability → Prop}
    {relates : ∀ {α : Type}, Engine δ α → Engine ε α → Prop} (congruence : Congruence tied relates)
    (reflexive : ∀ durability, tied durability durability) (mount : Mount) (ending : Ending) :
    relates (ending.finish mount : Engine δ Unit) (ending.finish mount) := by
  cases ending with
  | unmount => exact congruence.bind (congruence.sync _ (reflexive _)) fun _ => congruence.report _
  | drop =>
      unfold Ending.finish Mount.drop
      dsimp only
      split
      · refine congruence.tryCatch ?_ fun _ => congruence.report _
        exact congruence.bind (congruence.sync _ (reflexive _)) fun _ => congruence.pure _
      · exact congruence.pure _

variable {mount next : Mount} {host after : Host δ}

/-- A clean mount can be dropped with nothing done; any other ending is a sync and a report. -/
theorem finish_cases {ending : Ending} {answer : Except Error Unit}
    (ended : (ending.finish mount).run.run host = (answer, after)) :
    (mount.isDirty = false ∧ answer = .ok () ∧ after = host) ∨
      ∃ synced between events, (mount.sync .writeThrough).run.run host = (synced, between) ∧
        after = { between with events } ∧ (synced.isOk = true → answer = .ok ()) := by
  cases ending with
  | unmount =>
      obtain ⟨synced, between, ran, reported⟩ | ⟨error, ran, _⟩ := bind_cases ended
      · rw [run_report] at reported
        cases reported
        exact .inr ⟨_, between, _, ran, rfl, fun _ => rfl⟩
      · exact .inr ⟨_, after, _, ran, rfl, nofun⟩
  | drop =>
      unfold Ending.finish Mount.drop at ended
      dsimp only at ended
      cases dirty : mount.isDirty with
      | false =>
          rw [dirty, if_neg Bool.false_ne_true, run_pure] at ended
          cases ended
          exact .inl ⟨rfl, rfl, rfl⟩
      | true =>
          rw [dirty, if_pos rfl] at ended
          cases synced : (mount.sync .writeThrough).run.run host with
          | mk found between =>
              refine .inr ⟨found, between, ?_⟩
              cases found with
              | error error =>
                  rw [run_tryCatch_of_error (run_bind_of_error synced), run_report] at ended
                  cases ended
                  exact ⟨_, rfl, rfl, fun _ => rfl⟩
              | ok changed =>
                  rw [run_tryCatch_of_ok ((run_bind_of_ok synced).trans (run_pure () between))]
                    at ended
                  cases ended
                  exact ⟨_, rfl, rfl, fun _ => rfl⟩

variable {disk changed : Nat → Block} {operation : Operation}
  {answer : Except Error Answer}

namespace Change

theorem shaped (change : Change mount disk operation answer next changed)
    (shaped : mount.Shaped) : next.Shaped := by
  cases change with
  | tookInode _ assigned | freedInode _ _ assigned => exact shaped.assign .inodes assigned _
  | tookBlock _ assigned | freedBlock _ _ _ assigned => exact shaped.assign .blocks assigned _
  | keptInode | keptBlock | failed | answered | interrupted => exact shaped
  | synced => exact shaped.of_twin ⟨rfl, rfl, rfl⟩
  | wroteInode =>
      split
      · exact shaped.of_twin ⟨rfl, rfl, rfl⟩
      · exact shaped

theorem geometry_eq (change : Change mount disk operation answer next changed) :
    next.geometry = mount.geometry := by
  cases change with
  | wroteInode => split <;> rfl
  | _ => rfl

theorem ordered (change : Change mount disk operation answer next changed)
    (ordered : mount.synced ≤ mount.generation) : next.synced ≤ next.generation := by
  cases change with
  | tookInode | freedInode | tookBlock | freedBlock => exact Nat.le_succ_of_le ordered
  | wroteInode => split <;> exact ordered
  | synced => exact Nat.max_le.mpr ⟨ordered, Nat.le_refl _⟩
  | _ => exact ordered

end Change

theorem Reaches.shaped [LawfulBlockDevice δ] {start last : Mount × Host δ}
    (reached : Reaches start last) (shaped : start.1.Shaped) :
    last.1.Shaped ∧ last.1.geometry = start.1.geometry := by
  induction reached with
  | start => exact ⟨shaped, rfl⟩
  | operate _ stepped ih =>
      rcases ih with ⟨shaped, same⟩
      have change := step_change shaped stepped
      exact ⟨change.shaped shaped, change.geometry_eq.trans same⟩
  | disturb _ _ ih => exact ih

theorem Reaches.ordered [LawfulBlockDevice δ] {start last : Mount × Host δ}
    (reached : Reaches start last) (shaped : start.1.Shaped)
    (ordered : start.1.synced ≤ start.1.generation) : last.1.synced ≤ last.1.generation := by
  induction reached with
  | start => exact ordered
  | operate reached stepped ih => exact (step_change (reached.shaped shaped).1 stepped).ordered ih
  | disturb _ _ ih => exact ih

theorem Reaches.alike [LawfulBlockDevice δ] {start last : Mount × Host δ}
    (reached : Reaches start last) : Host.Alike start.2 last.2 := by
  induction reached with
  | start => exact .refl _
  | operate _ stepped ih => exact ih.trans (alike_step stepped)
  | disturb _ same ih => exact ih.trans same.toAlike

/-- Whatever part of a sync was carried out, the first block is the old one or the mount's. -/
theorem SyncPlan.apply_first (plan : SyncPlan mount) {first second third : List Block}
    (part : first <+: [mount.superblock.encode]) :
    plan.apply disk first second third superblockBlock.toNat = disk superblockBlock.toNat ∨
      plan.apply disk first second third superblockBlock.toNat = mount.superblock.encode := by
  rw [plan.apply_superblock]
  cases first with
  | nil =>
      rw [overlay_nil]
      exact .inl rfl
  | cons block rest =>
      rw [overlay_first, (List.cons_prefix_cons.mp part).1]
      exact .inr rfl

theorem Change.first_block (change : Change mount disk operation answer next changed)
    (fits : mount.TableFits) : changed superblockBlock.toNat = disk superblockBlock.toNat ∨
      changed superblockBlock.toNat = mount.superblock.encode := by
  cases change with
  | wroteInode inside =>
      exact .inl (overlay_of_outside (.inl (fits.address_block inside).1))
  | synced plan => exact plan.apply_first List.prefix_rfl
  | interrupted plan superblock => exact plan.apply_first superblock
  | _ => exact .inl rfl

theorem sync_first_block [LawfulBlockDevice δ] {durability : Durability}
    {synced : Except Error Mount} (shaped : mount.Shaped)
    (ran : (mount.sync durability).run.run host = (synced, after)) :
    after.disk superblockBlock.toNat = host.disk superblockBlock.toNat ∨
      after.disk superblockBlock.toNat = mount.superblock.encode := by
  obtain ⟨plan⟩ := shaped.syncPlan
  obtain ⟨_, disk⟩ | ⟨_, first, second, third, superblock, _, _, disk⟩ := sync_cases plan ran
  · rw [disk]
    exact plan.apply_first List.prefix_rfl
  · rw [disk]
    exact plan.apply_first superblock

theorem finish_first_block [LawfulBlockDevice δ] {ending : Ending} {answer : Except Error Unit}
    (shaped : mount.Shaped) (ended : (ending.finish mount).run.run host = (answer, after)) :
    after.disk superblockBlock.toNat = host.disk superblockBlock.toNat ∨
      after.disk superblockBlock.toNat = mount.superblock.encode := by
  obtain ⟨_, _, rfl⟩ | ⟨_, _, _, ran, rfl, _⟩ := finish_cases ended
  · exact .inl rfl
  · have first := sync_first_block shaped ran
    exact first

end BlockFs
