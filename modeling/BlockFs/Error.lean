import BlockFs.Params

/-!
Why an operation is refused, and the sentence that reports it.

`DeviceError` holds the causes that a block device names; `Error` holds those of the filesystem,
which adds the region in which a device failed.  `Fault` marks a broken precondition: arithmetic
that leaves the word range, or bytes outside a buffer.  `message` gives the text of each.
-/

namespace BlockFs

inductive Region where
  | superblock
  | inodeTable
  | inodeBitmap
  | blockBitmap
  | dataBlocks
deriving DecidableEq, Repr

def Region.name : Region → String
  | .superblock => "superblock"
  | .inodeTable => "inode table"
  | .inodeBitmap => "inode bitmap"
  | .blockBitmap => "block bitmap"
  | .dataBlocks => "data blocks"

structure SystemError where
  code : Nat
  text : String
deriving DecidableEq, Repr

namespace SystemError

def noEntry : SystemError := ⟨2, "No such file or directory"⟩
def badDescriptor : SystemError := ⟨9, "Bad file descriptor"⟩
def illegalSeek : SystemError := ⟨29, "Illegal seek"⟩

def message (error : SystemError) : String :=
  s!"{error.text} (os error {error.code})"

end SystemError

inductive Transfer where
  | read
  | write
  | flush
deriving DecidableEq, Repr

def Transfer.name : Transfer → String
  | .read => "read"
  | .write => "write"
  | .flush => "flush"

inductive DeviceError where
  /-- The device has only `count` blocks. -/
  | pastEnd (block : UInt32) (count : Nat)
  /-- A transfer moves one whole block. -/
  | notOneBlock (length : Nat)
  | injected (transfer : Transfer)
  /-- The medium has become shorter than it was when it was opened. -/
  | unexpectedEnd
  | system (error : SystemError)
deriving DecidableEq, Repr

namespace DeviceError

inductive Kind where
  | invalidInput
  | other
  | unexpectedEnd
  | system (code : Nat)
deriving DecidableEq, Repr

def kind : DeviceError → Kind
  | .pastEnd .. | .notOneBlock _ => .invalidInput
  | .injected _ => .other
  | .unexpectedEnd => .unexpectedEnd
  | .system error => .system error.code

def message : DeviceError → String
  | .pastEnd block count => s!"block {block} beyond end of device ({count} blocks)"
  | .notOneBlock length => s!"buffer of {length} bytes is not one block"
  | .injected transfer => s!"injected {transfer.name} failure"
  | .unexpectedEnd => "failed to fill whole buffer"
  | .system error => error.message

end DeviceError

/-- A broken precondition. -/
inductive Fault where
  /-- A sum or difference leaves the range of 32-bit words. -/
  | wordOverflow
  | bufferLength (length : Nat)
  /-- Bytes `offset ..< offset + length` of a buffer that has only `size`. -/
  | outOfBounds (offset length size : Nat)
deriving DecidableEq, Repr

def Fault.message : Fault → String
  | .wordOverflow => "word arithmetic overflow"
  | .bufferLength length => s!"unexpected buffer length {length}"
  | .outOfBounds offset length size =>
      s!"{length} bytes at offset {offset} exceed a buffer of {size}"

inductive Error where
  /-- A device of so many blocks cannot be formatted. -/
  | tooSmall (blocks : Nat)
  | device (region : Region) (cause : DeviceError)
  | wrongMagic (found : UInt32)
  | exhausted
  | outOfRange (index limit : Nat)
  /-- No buffer of so many bytes can be had. -/
  | outOfMemory (bytes : Nat)
  | fault (fault : Fault)
deriving DecidableEq, Repr

/-- A word in lowercase hexadecimal, without leading zeros. -/
def hexadecimal (word : UInt32) : String :=
  "0x" ++ String.ofList (Nat.toDigits 16 word.toNat)

namespace Error

def message : Error → String
  | .tooSmall blocks => s!"device too small: {blocks} blocks (need more than {minBlocks})"
  | .device region cause => s!"I/O error in {region.name}: {cause.message}"
  | .wrongMagic found => s!"wrong magic number {hexadecimal found}"
  | .exhausted => "no free entry left in bitmap"
  | .outOfRange index limit => s!"index {index} out of range (limit {limit})"
  | .outOfMemory bytes => s!"cannot allocate {bytes} bytes for in-memory metadata"
  | .fault broken => broken.message

def region : Error → Option Region
  | .device place _ => some place
  | _ => none

def cause : Error → Option DeviceError
  | .device _ failure => some failure
  | _ => none

end Error

end BlockFs
