import BlockFs.Proofs.Device.Request

namespace BlockFs

/-- The same request, but for durabilities that are tied. -/
inductive Request.Tied (tied : Durability → Durability → Prop) : Request → Request → Prop where
  | read (block : UInt32) (length : Nat) : Tied tied (.read block length) (.read block length)
  | write (block : UInt32) (data : ByteArray) {durability durability' : Durability}
      (choices : tied durability durability') :
      Tied tied (.write block data durability) (.write block data durability')
  | flush : Tied tied .flush .flush

theorem Request.Tied.refl {tied : Durability → Durability → Prop}
    (reflexive : ∀ durability, tied durability durability) (request : Request) :
    Request.Tied tied request request := by
  cases request with
  | read block length => exact .read block length
  | write block data durability => exact .write block data (reflexive durability)
  | flush => exact .flush

variable {δ ε : Type} [BlockDevice δ] [BlockDevice ε]

/-- The same request gets the same answer from both devices and leaves them related. -/
structure Coupling (tied : Durability → Durability → Prop) (related : δ → ε → Prop) : Prop where
  /-- Of the size of a device only the whole blocks count. -/
  wholeBlocks {device : δ} {other : ε} (alike : related device other) :
    BlockDevice.byteSize device / blockSize = BlockDevice.byteSize other / blockSize
  perform {device : δ} {other : ε} {request request' : Request} (alike : related device other)
    (same : Request.Tied tied request request') :
    Agree related (request.perform device) (request'.perform other)

namespace Coupling

variable {tied : Durability → Durability → Prop} {related : δ → ε → Prop} {device : δ} {other : ε}

theorem map_injective {α β : Type} {f : α → β} (injective : Function.Injective f)
    {one two : Except DeviceError α} (same : one.map f = two.map f) : one = two := by
  cases one <;> cases two <;> simp only [Except.map, Except.ok.injEq, Except.error.injEq,
    reduceCtorEq] at same ⊢
  · exact same
  · exact injective same

theorem read (coupling : Coupling tied related) (alike : related device other) (block : UInt32)
    (length : Nat) :
    Agree related (BlockDevice.read device block length) (BlockDevice.read other block length) := by
  obtain ⟨answers, after⟩ := coupling.perform alike (.read block length)
  exact ⟨map_injective (fun _ _ => Option.some.inj) answers, after⟩

theorem write (coupling : Coupling tied related) (alike : related device other) (block : UInt32)
    (data : ByteArray) {durability durability' : Durability}
    (choices : tied durability durability') :
    Agree related (BlockDevice.write device block data durability)
      (BlockDevice.write other block data durability') := by
  obtain ⟨answers, after⟩ := coupling.perform alike (.write block data choices)
  exact ⟨map_injective (fun _ _ _ => rfl) answers, after⟩

theorem flush (coupling : Coupling tied related) (alike : related device other) :
    Agree related (BlockDevice.flush device) (BlockDevice.flush other) := by
  obtain ⟨answers, after⟩ := coupling.perform alike .flush
  exact ⟨map_injective (fun _ _ _ => rfl) answers, after⟩

theorem serve (coupling : Coupling tied related)
    (reflexive : ∀ durability, tied durability durability) (alike : related device other)
    (requests : List Request) :
    Agree related (BlockFs.serve Request.perform device requests)
      (BlockFs.serve Request.perform other requests) := by
  refine serve_agree (fun device other one two alike same => ?_)
    (List.forall₂_same.mpr fun request _ => Request.Tied.refl reflexive request) alike
  exact coupling.perform alike same

end Coupling

end BlockFs
