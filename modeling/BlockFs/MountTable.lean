import BlockFs.Mount.Operation
import Std.Data.ExtTreeMap

namespace BlockFs

structure MountTable (δ : Type) where
  host : Host δ
  mounts : Std.ExtTreeMap Nat Mount := ∅

namespace MountTable

variable {δ : Type} [BlockDevice δ]

def onHost {α : Type} (table : MountTable δ) (work : Engine δ α) :
    Except Error α × MountTable δ :=
  let (answer, host) := work.run.run table.host
  (answer, { table with host })

/-- Empties a point; what was mounted there is dropped. -/
def drop (table : MountTable δ) (point : Nat) : MountTable δ :=
  match table.mounts[point]? with
  | none => table
  | some mounted => { (table.onHost mounted.drop).2 with mounts := table.mounts.erase point }

/-- Mounts the device at a point, which is emptied first and stays empty on failure. -/
def mount (table : MountTable δ) (point : Nat) : Except Error Mount × MountTable δ :=
  let (answer, table) := (table.drop point).onHost BlockFs.mount
  match answer with
  | .ok mounted => (.ok mounted, { table with mounts := table.mounts.insert point mounted })
  | .error error => (.error error, table)

/-- Unmounts what is at a point, if anything; the point is empty afterwards even on failure. -/
def unmount (table : MountTable δ) (point : Nat) : Option (Except Error Unit) × MountTable δ :=
  match table.mounts[point]? with
  | none => (none, table)
  | some mounted =>
      let (answer, table) := table.onHost mounted.unmount
      (some answer, { table with mounts := table.mounts.erase point })

/-- Performs an operation on what is mounted at a point, if anything. -/
def perform (table : MountTable δ) (point : Nat) (operation : Operation) :
    Option (Except Error Answer) × MountTable δ :=
  match table.mounts[point]? with
  | none => (none, table)
  | some mounted =>
      let (answer, mounted, host) := operation.step (mounted, table.host)
      (some answer, { host, mounts := table.mounts.insert point mounted })

end MountTable

end BlockFs
