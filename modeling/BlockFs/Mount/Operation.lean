import BlockFs.Bitmap.Query
import BlockFs.Mount.Allocation
import BlockFs.Mount.Lifetime

namespace BlockFs

inductive Operation where
  | takeInode
  | freeInode (number : UInt32)
  | takeBlock
  | freeBlock (number : UInt32)
  | readInode (number : UInt32)
  | writeInode (number : UInt32) (inode : Inode) (durability : Durability)
  | sync (durability : Durability)
  | superblock
  | geometry
  | stats
  | root
  | isDirty
  | inodeBitmap (query : Bitmap.Query)
  | blockBitmap (query : Bitmap.Query)
deriving DecidableEq

inductive Answer where
  | done
  | number (value : UInt32)
  | inode (value : Inode)
  | superblock (value : Superblock)
  | geometry (value : Geometry)
  | stats (value : Stats)
  | flag (value : Bool)
  | bitmap (reply : Bitmap.Reply)
deriving DecidableEq

namespace Operation

open Engine

variable {δ : Type} [BlockDevice δ]

def perform (mount : Mount) : Operation → Engine δ (Answer × Mount)
  | .takeInode => do
      let (number, mount) ← mount.takeInode
      report (.tookInode number)
      return (.number number, mount)
  | .freeInode number => do
      match ← mount.freeInode number with
      | none => return (.done, mount)
      | some mount =>
          report (.freedInode number)
          return (.done, mount)
  | .takeBlock => do
      let (number, mount) ← mount.takeBlock
      report (.tookBlock number)
      return (.number number, mount)
  | .freeBlock number => do
      match ← mount.freeBlock number with
      | none => return (.done, mount)
      | some mount =>
          report (.freedBlock number)
          return (.done, mount)
  | .readInode number => do return (.inode (← mount.readInode number), mount)
  | .writeInode number inode durability => do
      return (.done, ← mount.writeInode number inode durability)
  | .sync durability => do return (.done, ← mount.sync durability)
  | .superblock => return (.superblock mount.superblock, mount)
  | .geometry => return (.geometry mount.geometry, mount)
  | .stats => return (.stats mount.stats, mount)
  | .root => return (.inode mount.root, mount)
  | .isDirty => return (.flag mount.isDirty, mount)
  | .inodeBitmap query => do return (.bitmap (← mount.inodeBitmap.ask query), mount)
  | .blockBitmap query => do return (.bitmap (← mount.blockBitmap.ask query), mount)

/-- Keeps the old mount when an operation fails. -/
def step (state : Mount × Host δ) (operation : Operation) :
    Except Error Answer × (Mount × Host δ) :=
  match (operation.perform state.1).run.run state.2 with
  | (.ok (answer, mount), host) => (.ok answer, (mount, host))
  | (.error error, host) => (.error error, (state.1, host))

/-- The answers of a run, in order, and where it leads. -/
def runAll (state : Mount × Host δ) :
    List Operation → List (Except Error Answer) × (Mount × Host δ)
  | [] => ([], state)
  | operation :: rest =>
      let (answer, next) := step state operation
      let (answers, last) := runAll next rest
      (answer :: answers, last)

end Operation

end BlockFs
