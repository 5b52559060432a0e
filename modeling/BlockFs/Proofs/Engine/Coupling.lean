import BlockFs.Proofs.Device.Coupling
import BlockFs.Proofs.Engine.Congruence
import BlockFs.Proofs.Engine.Run
import BlockFs.Proofs.Mount.Congruence

namespace BlockFs

variable {δ ε : Type} {related : δ → ε → Prop}

/-- Hosts whose devices are related and that have the same memory. -/
structure Host.Coupled (related : δ → ε → Prop) (host : Host δ) (other : Host ε) : Prop where
  device : related host.device other.device
  bufferLimit : host.bufferLimit = other.bufferLimit

namespace Engine

/-- A computation on one device answers what a computation on the other does, and leaves the devices
coupled. -/
def Matches (related : δ → ε → Prop) {α : Type} (work : Engine δ α) (other : Engine ε α) : Prop :=
  ∀ host host', Host.Coupled related host host' →
    Agree (Host.Coupled related) (work.run.run host) (other.run.run host')

namespace Matches

variable {α β : Type} {work : Engine δ α} {other : Engine ε α} {next : α → Engine δ β}
  {otherNext : α → Engine ε β}

theorem lift (result : Except Error α) :
    Matches related (liftM result : Engine δ α) (liftM result : Engine ε α) := by
  intro host host' coupled
  rw [run_lift, run_lift]
  exact ⟨rfl, coupled⟩

theorem bind (first : Matches related work other)
    (rest : ∀ value, Matches related (next value) (otherNext value)) :
    Matches related (work >>= next) (other >>= otherNext) := by
  intro host host' coupled
  obtain ⟨answers, after⟩ := first host host' coupled
  cases ran : work.run.run host with
  | mk answer between =>
      cases ran' : other.run.run host' with
      | mk answer' between' =>
          rw [ran, ran'] at answers after
          cases answers
          cases answer with
          | error error =>
              rw [run_bind_of_error ran, run_bind_of_error ran']
              exact ⟨rfl, after⟩
          | ok value =>
              rw [run_bind_of_ok ran, run_bind_of_ok ran']
              exact rest value _ _ after

theorem tryCatch {handler : Error → Engine δ α} {otherHandler : Error → Engine ε α}
    (first : Matches related work other)
    (rest : ∀ error, Matches related (handler error) (otherHandler error)) :
    Matches related (tryCatch work handler) (tryCatch other otherHandler) := by
  intro host host' coupled
  obtain ⟨answers, after⟩ := first host host' coupled
  cases ran : work.run.run host with
  | mk answer between =>
      cases ran' : other.run.run host' with
      | mk answer' between' =>
          rw [ran, ran'] at answers after
          cases answers
          cases answer with
          | error error =>
              rw [run_tryCatch_of_error ran, run_tryCatch_of_error ran']
              exact rest error _ _ after
          | ok value =>
              rw [run_tryCatch_of_ok ran, run_tryCatch_of_ok ran']
              exact ⟨rfl, after⟩

theorem report (event event' : Event) :
    Matches related (report event : Engine δ Unit) (Engine.report event' : Engine ε Unit) :=
  fun _ _ coupled => ⟨rfl, coupled.device, coupled.bufferLimit⟩

theorem reserve (bytes : Nat) :
    Matches related (reserve bytes : Engine δ Unit) (Engine.reserve bytes : Engine ε Unit) := by
  intro host host' coupled
  rw [run_reserve, run_reserve, coupled.bufferLimit]
  split <;> exact ⟨rfl, coupled⟩

/-- What a host says of its memory or of its device, when coupled hosts say the same. -/
theorem looked {look : Host δ → Except Error α} {look' : Host ε → Except Error α}
    (same : ∀ host host', Host.Coupled related host host' → look host = look' host')
    (rest : ∀ value, Matches related (next value) (otherNext value)) :
    Matches related (get >>= fun host : Host δ => (liftM (look host) : Engine δ α) >>= next)
      (get >>= fun host : Host ε => (liftM (look' host) : Engine ε α) >>= otherNext) := by
  intro host host' coupled
  rw [run_bind_of_ok (run_get host), run_bind_of_ok (run_get host'), same host host' coupled]
  exact (lift _).bind rest host host' coupled

theorem call (region : Region) {transfer : δ → Except DeviceError α × δ}
    {transfer' : ε → Except DeviceError α × ε}
    (agrees : ∀ device other, related device other →
      Agree related (transfer device) (transfer' other)) :
    Matches related (call region transfer) (Engine.call region transfer') := by
  intro host host' coupled
  obtain ⟨answers, after⟩ := agrees _ _ coupled.device
  rw [run_call, run_call, answers]
  exact ⟨rfl, after, coupled.bufferLimit⟩

end Matches

end Engine

open Engine

namespace Coupling

variable [BlockDevice δ] [BlockDevice ε] {tied : Durability → Durability → Prop}
  (coupling : Coupling tied related)

include coupling

theorem congruence : Congruence tied (@Matches δ ε related) where
  lift := Matches.lift
  bind := Matches.bind
  tryCatch := Matches.tryCatch
  reserve := Matches.reserve
  limited found _ _ rest :=
    Matches.looked (fun _ _ coupled => congrArg found coupled.bufferLimit) rest
  report event := Matches.report event event
  syncing _ _ _ _ := Matches.report _ _
  fetch region block := Matches.call region fun _ _ alike => coupling.read alike block _
  writeBlock region block content _ _ choices :=
    Matches.call region fun _ _ alike => coupling.write alike block content.bytes choices

theorem format (reflexive : ∀ durability, tied durability durability) :
    Matches related (BlockFs.format : Engine δ Superblock) BlockFs.format := by
  refine coupling.congruence.format reflexive (fun rest => ?_) fun region => ?_
  · refine Matches.looked (fun host host' coupled => ?_) rest
    have whole := coupling.wholeBlocks coupled.device
    simp only [Geometry.ofSize, whole]
  · exact Matches.call region fun _ _ alike => coupling.flush alike

end Coupling

end BlockFs
