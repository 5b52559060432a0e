import BlockFs.Device.Basic
import BlockFs.Device.Image

namespace BlockFs

inductive Access where
  | readWrite
  | readOnly
  | writeOnly
deriving DecidableEq, Repr

/-- Writes to the block `first` and to those after it fail. -/
structure WriteLimit where
  first : Nat
  cause : SystemError
deriving DecidableEq, Repr

/-- A file used as a disk.  The disk keeps the size that the file had when it was opened, even if
the file is cut afterwards: a read must then lie inside the file, and a write lengthens it. -/
structure ImageFile where
  image : Image
  openedSize : Nat
  access : Access := .readWrite
  limit : Option WriteLimit := none

namespace ImageFile

def ofSize (bytes : Nat) (access : Access) : ImageFile where
  image := .zeros bytes
  openedSize := bytes
  access

variable (file : ImageFile)

def blockCount : Nat := file.openedSize / blockSize

def read (block : UInt32) (length : Nat) : Except DeviceError Block :=
  match BlockDevice.checkTransfer file.blockCount block length with
  | .error cause => .error cause
  | .ok () =>
      if file.access = .writeOnly then .error (.system .badDescriptor)
      else if (block.toNat + 1) * blockSize ≤ file.image.size then
        .ok (file.image.page block.toNat)
      else .error .unexpectedEnd

/-- The failure that the limit gives a write. -/
def refusal (block : UInt32) : Option SystemError :=
  file.limit.bind fun limit => if limit.first ≤ block.toNat then some limit.cause else none

def write (block : UInt32) (data : ByteArray) : Except DeviceError ImageFile :=
  match BlockDevice.checkWrite file.blockCount block data with
  | .error cause => .error cause
  | .ok content =>
      if file.access = .readOnly then .error (.system .badDescriptor)
      else
        match file.refusal block with
        | some cause => .error (.system cause)
        | none =>
            let image := file.image.setPage block.toNat content
            .ok { file with
              image := { image with size := max image.size ((block.toNat + 1) * blockSize) } }

instance : BlockDevice ImageFile where
  blockCount := blockCount
  byteSize := openedSize
  content file := file.image.page
  read file block length := (file.read block length, file)
  write file block data _ :=
    match file.write block data with
    | .ok written => (.ok (), written)
    | .error cause => (.error cause, file)
  flush file := (.ok (), file)

def truncate (bytes : Nat) : ImageFile :=
  { file with image := file.image.resize bytes }

end ImageFile

end BlockFs
