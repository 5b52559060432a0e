import BlockFs.Device.ImageFile
import BlockFs.Format
import BlockFs.Tool.Arguments
import BlockFs.Tool.Report

namespace BlockFs.Tool

inductive OpenFailure where
  | cannotOpen (error : SystemError)
  /-- The disk was opened, but its size cannot be found. -/
  | cannotMeasure (error : SystemError)
deriving DecidableEq, Repr

structure Outcome where
  code : UInt32
  output : String := ""
  errors : String := ""
  /-- The disk afterwards, if it could be opened. -/
  disk : Option ImageFile := none

def usage : String := s!"Usage: {programName} [OPTIONS] <DISK>"

def helpText : List String := [
  "Formats a disk image or block device with an empty tinyfs filesystem",
  "",
  usage,
  "",
  "Arguments:",
  "  <DISK>  Image file or block device to format",
  "",
  "Options:",
  "  -v, --verbose...  Show more detail (repeat for more)",
  "  -q, --quiet       Only report errors",
  "  -h, --help        Print help",
  "  -V, --version     Print version"]

/-- No buffer may be larger than the address space. -/
def bufferLimit : Nat := 1 <<< 63 - 1

/-- Formats an opened disk.  Failures go to the errors with what was reported in front of them. -/
def formatDisk (colored : Bool) (options : Options) (disk : ImageFile) : Outcome :=
  let (answer, host) := (format (δ := ImageFile)).run.run { device := disk, bufferLimit }
  let found := (Level.info, s!"{options.disk}: {disk.openedSize} bytes, {disk.blockCount} blocks")
  let reports := found :: host.events.toList.map fun event => (event.level, event.message)
  let shown := (reports.filter (·.1.visibleAt options.level)).map fun (level, text) =>
    logLine colored level text
  match answer >>= summary colored with
  | .ok lines => {
      code := 0
      output := if options.quiet then "" else unlines lines
      errors := unlines shown
      disk := host.device }
  | .error error => {
      code := 1
      errors := unlines (shown ++
        [failureLine colored s!"cannot format {options.disk}: {chain error}"])
      disk := host.device }

def run (colored : Bool) (arguments : List String)
    (openDisk : String → Except OpenFailure ImageFile) : Outcome :=
  match Request.ofArguments arguments with
  | .help => { code := 0, output := unlines helpText }
  | .version => { code := 0, output := unlines [s!"{programName} {programVersion}"] }
  | .misuse => { code := 2, errors := unlines [usage] }
  | .format options =>
      match openDisk options.disk with
      | .ok disk => formatDisk colored options disk
      | .error (.cannotOpen error) => {
          code := 1
          errors := unlines
            [failureLine colored s!"cannot open {options.disk}: {error.message}"] }
      | .error (.cannotMeasure error) => {
          code := 1
          errors := unlines
            [failureLine colored s!"cannot query size of {options.disk}: {error.message}"] }

end BlockFs.Tool
