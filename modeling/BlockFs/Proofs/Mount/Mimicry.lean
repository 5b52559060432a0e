import BlockFs.Proofs.Engine.Perfect
import BlockFs.Proofs.Mount.Ending

namespace BlockFs

open Engine

variable {δ : Type} [BlockDevice δ] [LawfulBlockDevice δ]

theorem mimics_congruence : @Congruence (Monitor δ) Perfect _ _ (· = ·) Mimics where
  lift := mimics_lift
  bind := Mimics.bind
  tryCatch := Mimics.tryCatch
  reserve := mimics_reserve
  limited found _ _ rest := mimics_limited found rest
  report := mimics_report
  syncing generation durability durability' same := by
    rw [same]
    exact mimics_report _
  fetch := mimics_fetch
  writeBlock region block content durability durability' same := by
    rw [same]
    exact mimics_writeBlock _ _ _ _

theorem mimics_mount : Mimics (mount : Engine (Monitor δ) Mount) mount :=
  mimics_congruence.mount

theorem mimics_finish (mount : Mount) (ending : Ending) :
    Mimics (ending.finish mount : Engine (Monitor δ) Unit) (ending.finish mount) :=
  mimics_congruence.finish (fun _ => rfl) mount ending

theorem mimics_perform (mount : Mount) (operation : Operation) :
    Mimics (operation.perform mount : Engine (Monitor δ) (Answer × Mount))
      (operation.perform mount) :=
  mimics_congruence.perform mount (.refl (fun _ => rfl) operation)

end BlockFs
