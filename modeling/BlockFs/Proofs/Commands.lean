import BlockFs.MountTable
import BlockFs.Proofs.Engine.Coupling
import BlockFs.Proofs.Mount.Ending

namespace BlockFs

inductive Command where
  | format
  | mount (point : Nat)
  | unmount (point : Nat)
  | drop (point : Nat)
  | perform (point : Nat) (operation : Operation)

/-- A device on which nothing is mounted. -/
def MountTable.ofDevice {δ : Type} (device : δ) (bufferLimit : Nat) : MountTable δ where
  host := { device, bufferLimit }

/-- The reply to a command; a point may be empty. -/
inductive Reply where
  | formatted (answer : Except Error Superblock)
  | mounted (answer : Except Error Mount)
  | unmounted (answer : Option (Except Error Unit))
  | dropped
  | performed (answer : Option (Except Error Answer))

def Command.run {δ : Type} [BlockDevice δ] (table : MountTable δ) : Command → Reply × MountTable δ
  | .format =>
      let (answer, table) := table.onHost BlockFs.format
      (.formatted answer, table)
  | .mount point =>
      let (answer, table) := table.mount point
      (.mounted answer, table)
  | .unmount point =>
      let (answer, table) := table.unmount point
      (.unmounted answer, table)
  | .drop point => (.dropped, table.drop point)
  | .perform point operation =>
      let (answer, table) := table.perform point operation
      (.performed answer, table)

/-- The same command, but for durabilities that are tied. -/
inductive Command.Tied (tied : Durability → Durability → Prop) : Command → Command → Prop where
  | format : Tied tied .format .format
  | mount (point : Nat) : Tied tied (.mount point) (.mount point)
  | unmount (point : Nat) : Tied tied (.unmount point) (.unmount point)
  | drop (point : Nat) : Tied tied (.drop point) (.drop point)
  | perform (point : Nat) {operation operation' : Operation}
      (same : operation.Tied tied operation') :
      Tied tied (.perform point operation) (.perform point operation')

variable {tied : Durability → Durability → Prop}

theorem Command.Tied.refl (reflexive : ∀ durability, tied durability durability)
    (command : Command) : Command.Tied tied command command := by
  cases command with
  | format => exact .format
  | mount point => exact .mount point
  | unmount point => exact .unmount point
  | drop point => exact .drop point
  | perform point operation => exact .perform point (.refl reflexive operation)

variable {δ ε : Type} {related : δ → ε → Prop}

/-- The same mounts of coupled devices. -/
structure MountTable.Coupled (related : δ → ε → Prop) (table : MountTable δ)
    (other : MountTable ε) : Prop where
  host : Host.Coupled related table.host other.host
  mounts : table.mounts = other.mounts

variable [BlockDevice δ] [BlockDevice ε]

/-- One operation on the same mount of coupled devices. -/
theorem Host.Coupled.step {host : Host δ} {other : Host ε}
    (coupled : Host.Coupled related host other)
    (coupling : Coupling tied related) (mount : Mount) {operation operation' : Operation}
    (same : operation.Tied tied operation') :
    Agree (fun one two => one.1 = two.1 ∧ Host.Coupled related one.2 two.2)
      (operation.step (mount, host)) (operation'.step (mount, other)) := by
  obtain ⟨answers, after⟩ := coupling.congruence.perform mount same _ _ coupled
  cases ran : (operation.perform mount).run.run host with
  | mk answer between =>
      cases ran' : (operation'.perform mount).run.run other with
      | mk answer' between' =>
          rw [ran, ran'] at answers after
          cases answers
          cases answer with
          | error error =>
              rw [step_of_error ran, step_of_error ran']
              exact ⟨rfl, rfl, after⟩
          | ok found =>
              rw [step_of_ok ran, step_of_ok ran']
              exact ⟨rfl, rfl, after⟩

namespace MountTable.Coupled

variable {table : MountTable δ} {other : MountTable ε}

omit [BlockDevice δ] [BlockDevice ε] in
theorem onHost {α : Type} {work : Engine δ α} {work' : Engine ε α}
    (coupled : Coupled related table other) (matching : Engine.Matches related work work') :
    Agree (Coupled related) (table.onHost work) (other.onHost work') := by
  obtain ⟨answers, after⟩ := matching _ _ coupled.host
  exact ⟨answers, after, coupled.mounts⟩

variable (coupled : Coupled related table other) (coupling : Coupling tied related)
  (reflexive : ∀ durability, tied durability durability)

include coupled coupling reflexive

theorem drop (point : Nat) : Coupled related (table.drop point) (other.drop point) := by
  unfold MountTable.drop
  rw [coupled.mounts]
  cases other.mounts[point]? with
  | none => exact coupled
  | some mounted =>
      have dropped := coupled.onHost (coupling.congruence.finish reflexive mounted .drop)
      exact ⟨dropped.2.host, rfl⟩

theorem mount (point : Nat) :
    Agree (Coupled related) (table.mount point) (other.mount point) := by
  have attempted := (coupled.drop coupling reflexive point).onHost coupling.congruence.mount
  unfold MountTable.mount
  cases ran : (table.drop point).onHost BlockFs.mount with
  | mk answer after =>
      cases ran' : (other.drop point).onHost BlockFs.mount with
      | mk answer' after' =>
          rw [ran, ran'] at attempted
          obtain ⟨rfl, after⟩ := attempted
          cases answer with
          | error error => exact ⟨rfl, after⟩
          | ok mounted => exact ⟨rfl, after.host, congrArg (·.insert point mounted) after.mounts⟩

theorem unmount (point : Nat) :
    Agree (Coupled related) (table.unmount point) (other.unmount point) := by
  unfold MountTable.unmount
  rw [coupled.mounts]
  cases other.mounts[point]? with
  | none => exact ⟨rfl, coupled⟩
  | some mounted =>
      have ended := coupled.onHost (coupling.congruence.finish reflexive mounted .unmount)
      exact ⟨congrArg some ended.1, ended.2.host, congrArg (·.erase point) coupled.mounts⟩

omit reflexive

theorem perform (point : Nat) {operation operation' : Operation}
    (same : operation.Tied tied operation') :
    Agree (Coupled related) (table.perform point operation) (other.perform point operation') := by
  unfold MountTable.perform
  rw [coupled.mounts]
  cases other.mounts[point]? with
  | none => exact ⟨rfl, coupled⟩
  | some mounted =>
      obtain ⟨answers, mounts, after⟩ := coupled.host.step coupling mounted same
      exact ⟨congrArg some answers, after, congrArg (other.mounts.insert point) mounts⟩

include reflexive

theorem run {command command' : Command} (same : command.Tied tied command') :
    Agree (Coupled related) (command.run table) (command'.run other) := by
  cases same with
  | format =>
      obtain ⟨answers, after⟩ := coupled.onHost (coupling.format reflexive)
      exact ⟨congrArg Reply.formatted answers, after⟩
  | mount point =>
      obtain ⟨answers, after⟩ := coupled.mount coupling reflexive point
      exact ⟨congrArg Reply.mounted answers, after⟩
  | unmount point =>
      obtain ⟨answers, after⟩ := coupled.unmount coupling reflexive point
      exact ⟨congrArg Reply.unmounted answers, after⟩
  | drop point => exact ⟨rfl, coupled.drop coupling reflexive point⟩
  | perform point same =>
      obtain ⟨answers, after⟩ := coupled.perform coupling point same
      exact ⟨congrArg Reply.performed answers, after⟩

theorem serve (commands : List Command) :
    Agree (Coupled related) (BlockFs.serve Command.run table commands)
      (BlockFs.serve Command.run other commands) := by
  refine serve_agree (fun table other one two coupled same => ?_)
    (List.forall₂_same.mpr fun command _ => Command.Tied.refl reflexive command) coupled
  exact Coupled.run coupled coupling reflexive same

end MountTable.Coupled

end BlockFs
