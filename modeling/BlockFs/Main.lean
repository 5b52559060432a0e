import BlockFs.Tool.Run

/-!
The command line of the formatting tool.

What the tool does is computed first, on a model of the disk; then the blocks that it wrote are
copied to the real disk in their order.  If the disk refuses one of them, the tool's answer is the
one for a disk that refuses it.
-/

namespace BlockFs.Main

open Tool

def systemError : IO.Error → SystemError
  | .alreadyExists _ code text | .otherError code text | .resourceBusy code text
  | .resourceVanished code text | .unsupportedOperation code text | .hardwareFault code text
  | .unsatisfiedConstraints code text | .illegalOperation code text | .protocolError code text
  | .timeExpired code text | .interrupted _ code text | .noFileOrDirectory _ code text
  | .invalidArgument _ code text | .permissionDenied _ code text | .resourceExhausted _ code text
  | .inappropriateType _ code text | .noSuchThing _ code text => ⟨code.toNat, text⟩
  | .unexpectedEof => ⟨0, "Unexpected end of file"⟩
  | .userError text => ⟨0, text⟩

/-- The size of a block device, which the system keeps in units of 512 bytes; `none` for a path that
is not one. -/
def blockDeviceSize (path : String) : IO (Option Nat) := do
  let place := (← IO.FS.realPath path).toString
  let some name := place.dropPrefix? "/dev/" | return none
  let entry := "/sys/class/block/" ++ name.toString.replace "/" "!"
  try
    let sectors ← IO.FS.readFile (entry ++ "/size")
    return sectors.trimAscii.toString.toNat?.map (512 * ·)
  catch _ => return none

/-- Opens a regular file or a block device and finds its size. -/
def openDisk (path : String) : IO (Except OpenFailure (IO.FS.Handle × Nat)) := do
  try
    let handle ← IO.FS.Handle.mk path .readWrite
    let status ← ((← IO.currentDir) / path).metadata
    if status.type == .file then return .ok (handle, status.byteSize.toNat)
    match ← blockDeviceSize path with
    | some size => return .ok (handle, size)
    | none => return .error (.cannotMeasure .illegalSeek)
  catch error => return .error (.cannotOpen (systemError error))

/-- Copies written blocks, which begin at the start of the disk and leave none out. -/
def copyBlocks (handle : IO.FS.Handle) (disk : ImageFile) : IO (Option WriteLimit) := do
  handle.rewind
  for (index, block) in disk.image.pages.toList do
    try
      handle.write block.bytes
      handle.flush
    catch error => return some ⟨index, systemError error⟩
  return none

def finish (outcome : Outcome) : IO UInt32 := do
  IO.eprint outcome.errors
  IO.print outcome.output
  return outcome.code

def colored : IO Bool := do
  let terminal ← (← IO.getStdout).isTty
  return wantsColors (← IO.getEnv "CLICOLOR_FORCE") (← IO.getEnv "NO_COLOR")
    (← IO.getEnv "CLICOLOR") terminal

def start (arguments : List String) : IO UInt32 := do
  let outcome := run (← colored) arguments
  match Request.ofArguments arguments with
  | .format options =>
      match ← openDisk options.disk with
      | .error failure => finish (outcome fun _ => .error failure)
      | .ok (handle, size) =>
          let disk := ImageFile.ofSize size .readWrite
          let planned := outcome fun _ => .ok disk
          match ← copyBlocks handle (planned.disk.getD disk) with
          | none => finish planned
          | some limit => finish (outcome fun _ => .ok { disk with limit := some limit })
  | _ => finish (outcome fun _ => .error (.cannotOpen .noEntry))

end BlockFs.Main

def main (arguments : List String) : IO UInt32 :=
  BlockFs.Main.start arguments
