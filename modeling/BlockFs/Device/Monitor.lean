import BlockFs.Device.Basic

namespace BlockFs

inductive Call where
  | read (block : UInt32)
  | write (block : UInt32) (durability : Durability)
  | flush
deriving DecidableEq, Repr

structure CallRecord where
  call : Call
  failed : Bool
deriving DecidableEq, Repr

/-- A device that keeps a record of the calls made on it.  It can also claim another size and refuse
to flush; all else is left to the device underneath. -/
structure Monitor (δ : Type) where
  device : δ
  records : Array CallRecord := #[]
  claimedSize : Option Nat := none
  refusesFlush : Bool := false

namespace Monitor

variable {δ : Type} [BlockDevice δ]

/-- Passes on an answer of the device underneath and records the call. -/
def observe {α : Type} (monitor : Monitor δ) (call : Call)
    (answer : Except DeviceError α × δ) : Except DeviceError α × Monitor δ :=
  (answer.1, { monitor with
    device := answer.2
    records := monitor.records.push ⟨call, !answer.1.isOk⟩ })

instance : BlockDevice (Monitor δ) where
  blockCount monitor := BlockDevice.blockCount monitor.device
  byteSize monitor := monitor.claimedSize.getD (BlockDevice.byteSize monitor.device)
  content monitor := BlockDevice.content monitor.device
  read monitor block length :=
    monitor.observe (.read block) (BlockDevice.read monitor.device block length)
  write monitor block data durability :=
    monitor.observe (.write block durability)
      (BlockDevice.write monitor.device block data durability)
  flush monitor :=
    monitor.observe .flush <|
      if monitor.refusesFlush then (.error (.injected .flush), monitor.device)
      else BlockDevice.flush monitor.device

end Monitor

end BlockFs
