import BlockFs.Bytes

/-!
Block devices.

A device is a state whose calls answer and step to a next state.  `content` is its semantic model:
what each block holds, whether or not a read of it succeeds.  `LawfulBlockDevice` says what every
device promises: a read that succeeds answers the content, a write that succeeds changes the content
of one block, and a call that fails changes none.  Which calls fail, and when, is up to the device.
-/

namespace BlockFs

inductive Durability where
  /-- The block has reached stable storage when the call returns. -/
  | writeThrough
  /-- The block becomes dirty; the next flush persists it. -/
  | writeBack
deriving DecidableEq, Repr

def Durability.ofWait (wait : Bool) : Durability :=
  if wait then .writeThrough else .writeBack

def Durability.name : Durability → String
  | .writeThrough => "WriteThrough"
  | .writeBack => "WriteBack"

class BlockDevice (δ : Type) where
  blockCount : δ → Nat
  byteSize : δ → Nat
  content : δ → Nat → Block
  /-- Reads a block into a buffer of `length` bytes. -/
  read : δ → (block : UInt32) → (length : Nat) → Except DeviceError Block × δ
  write : δ → (block : UInt32) → (data : ByteArray) → Durability → Except DeviceError Unit × δ
  flush : δ → Except DeviceError Unit × δ

namespace BlockDevice

/-- The block number is checked before the length. -/
def checkTransfer (count : Nat) (block : UInt32) (length : Nat) : Except DeviceError Unit :=
  if count ≤ block.toNat then .error (.pastEnd block count)
  else if length = blockSize then .ok ()
  else .error (.notOneBlock length)

def checkWrite (count : Nat) (block : UInt32) (data : ByteArray) : Except DeviceError Block :=
  if count ≤ block.toNat then .error (.pastEnd block count)
  else if size_bytes : data.size = blockSize then .ok ⟨data, size_bytes⟩
  else .error (.notOneBlock data.size)

end BlockDevice

open BlockDevice in
class LawfulBlockDevice (δ : Type) [BlockDevice δ] : Prop where
  blockCount_read (device : δ) (block : UInt32) (length : Nat) :
    blockCount (read device block length).2 = blockCount device
  blockCount_write (device : δ) (block : UInt32) (data : ByteArray) (durability : Durability) :
    blockCount (write device block data durability).2 = blockCount device
  blockCount_flush (device : δ) : blockCount (flush device).2 = blockCount device
  byteSize_read (device : δ) (block : UInt32) (length : Nat) :
    byteSize (read device block length).2 = byteSize device
  byteSize_write (device : δ) (block : UInt32) (data : ByteArray) (durability : Durability) :
    byteSize (write device block data durability).2 = byteSize device
  byteSize_flush (device : δ) : byteSize (flush device).2 = byteSize device
  content_read (device : δ) (block : UInt32) (length : Nat) :
    content (read device block length).2 = content device
  content_flush (device : δ) : content (flush device).2 = content device
  content_write_of_error {device : δ} {block : UInt32} {data : ByteArray}
    {durability : Durability} {cause : DeviceError}
    (failed : (write device block data durability).1 = .error cause) :
    content (write device block data durability).2 = content device
  read_eq_content {device : δ} {block : UInt32} {length : Nat} {found : Block}
    (succeeded : (read device block length).1 = .ok found) :
    found = content device block.toNat
  content_write {device : δ} {block : UInt32} {data : ByteArray} {durability : Durability}
    (succeeded : (write device block data durability).1 = .ok ()) :
    ∃ size_bytes : data.size = blockSize,
      content (write device block data durability).2 =
        fun index => if index = block.toNat then ⟨data, size_bytes⟩ else content device index
  checkTransfer_read {device : δ} {block : UInt32} {length : Nat} {cause : DeviceError}
    (refused : checkTransfer (blockCount device) block length = .error cause) :
    (read device block length).1 = .error cause
  checkTransfer_write {device : δ} {block : UInt32} {data : ByteArray}
    {durability : Durability} {cause : DeviceError}
    (refused : checkTransfer (blockCount device) block data.size = .error cause) :
    (write device block data durability).1 = .error cause

end BlockFs
