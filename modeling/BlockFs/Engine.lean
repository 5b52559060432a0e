import BlockFs.Event

/-!
Work on a device: transfers that name the region they fail in, spans of consecutive blocks, and
reports of what happens.

A computation runs on a `Host` and leaves it changed even when it fails, for blocks that were
written stay written.
-/

namespace BlockFs

structure Host (δ : Type) where
  device : δ
  /-- No buffer for metadata may have more bytes. -/
  bufferLimit : Nat
  events : Array Event := #[]

abbrev Engine (δ : Type) := ExceptT Error (StateM (Host δ))

namespace Engine

variable {δ : Type}

def report (event : Event) : Engine δ Unit :=
  modify fun host => { host with events := host.events.push event }

def reserve (bytes : Nat) : Engine δ Unit := do
  if (← get).bufferLimit < bytes then throw (.outOfMemory bytes)

/-- Calls the device; a failure is one of the region. -/
def call {α : Type} (region : Region) (transfer : δ → Except DeviceError α × δ) : Engine δ α :=
  ExceptT.mk fun host =>
    let answer := transfer host.device
    (answer.1.mapError (.device region), { host with device := answer.2 })

variable [BlockDevice δ]

/-- Reads one block into a buffer that is there. -/
def fetch (region : Region) (block : UInt32) : Engine δ Block :=
  call region (BlockDevice.read · block blockSize)

def readBlock (region : Region) (block : UInt32) : Engine δ Block := do
  reserve blockSize
  fetch region block

def writeBlock (region : Region) (block : UInt32) (data : ByteArray) (durability : Durability) :
    Engine δ Unit :=
  call region (BlockDevice.write · block data durability)

/-- Appends the `count` blocks from `start + done` on. -/
def readBlocks (region : Region) (start : UInt32) :
    (count done : Nat) → ByteArray → Engine δ ByteArray
  | 0, _, bytes => pure bytes
  | count + 1, done, bytes => do
      let found ← fetch region (← narrow (start.toNat + done))
      readBlocks region start count (done + 1) (bytes ++ found.bytes)

def readSpan (region : Region) (start count : UInt32) : Engine δ ByteArray := do
  reserve (count.toNat * blockSize)
  readBlocks region start count.toNat 0 .empty

/-- Writes blocks from `start + done` on.  The first failure ends the work; blocks in front of it
stay written. -/
def writeBlocks (region : Region) (start : UInt32) (durability : Durability) :
    (done : Nat) → List Block → Engine δ Unit
  | _, [] => pure ()
  | done, block :: rest => do
      writeBlock region (← narrow (start.toNat + done)) block.bytes durability
      writeBlocks region start durability (done + 1) rest

def writeSpan (region : Region) (start : UInt32) (data : ByteArray) (durability : Durability) :
    Engine δ Unit := do
  writeBlocks region start durability 0 (← blocksOf data)

end Engine

end BlockFs
