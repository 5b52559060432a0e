import BlockFs.Engine

/-!
Relations between computations on two devices.

`Engine.Congruence` says that a relation is kept by every way to build a computation, and
`Engine.ReadCongruence` that it is kept by those that write nothing.  Whatever is built alike on both
devices is related then, and so is every computation of the filesystem.  What is known of one
computation alone is a relation that does not look at the other one.
-/

namespace BlockFs.Engine

variable {δ ε : Type} [BlockDevice δ] [BlockDevice ε]

/-- Computations that are built alike and write nothing are related. -/
structure ReadCongruence (relates : ∀ {α : Type}, Engine δ α → Engine ε α → Prop) : Prop where
  lift {α : Type} (result : Except Error α) :
    relates (liftM result : Engine δ α) (liftM result : Engine ε α)
  bind {α β : Type} {work : Engine δ α} {other : Engine ε α} {next : α → Engine δ β}
    {otherNext : α → Engine ε β} (first : relates work other)
    (rest : ∀ value, relates (next value) (otherNext value)) :
    relates (work >>= next) (other >>= otherNext)
  reserve (bytes : Nat) : relates (reserve bytes : Engine δ Unit) (reserve bytes)
  report (event : Event) : relates (report event : Engine δ Unit) (report event)
  fetch (region : Region) (block : UInt32) :
    relates (fetch region block : Engine δ Block) (fetch region block)

/-- Computations that are built alike are related.  Both devices get the same requests, but for
durabilities, which need only be tied. -/
structure Congruence (tied : Durability → Durability → Prop)
    (relates : ∀ {α : Type}, Engine δ α → Engine ε α → Prop) : Prop
    extends ReadCongruence relates where
  tryCatch {α : Type} {work : Engine δ α} {other : Engine ε α} {handler : Error → Engine δ α}
    {otherHandler : Error → Engine ε α} (first : relates work other)
    (rest : ∀ error, relates (handler error) (otherHandler error)) :
    relates (tryCatch work handler) (tryCatch other otherHandler)
  /-- A value may depend on how much memory there is. -/
  limited {α β : Type} (found : Nat → Except Error α) {next : α → Engine δ β}
    {otherNext : α → Engine ε β} (rest : ∀ value, relates (next value) (otherNext value)) :
    relates (get >>= fun host : Host δ => (liftM (found host.bufferLimit) : Engine δ α) >>= next)
      (get >>= fun host : Host ε => (liftM (found host.bufferLimit) : Engine ε α) >>= otherNext)
  syncing (generation : Nat) {durability durability' : Durability}
    (choices : tied durability durability') :
    relates (Engine.report (.syncing generation durability) : Engine δ Unit)
      (Engine.report (.syncing generation durability'))
  writeBlock (region : Region) (block : UInt32) (content : Block)
    {durability durability' : Durability} (choices : tied durability durability') :
    relates (writeBlock region block content.bytes durability : Engine δ Unit)
      (writeBlock region block content.bytes durability')

variable {relates : ∀ {α : Type}, Engine δ α → Engine ε α → Prop}

namespace ReadCongruence

section

variable (congruence : ReadCongruence relates)

include congruence

theorem pure {α : Type} (value : α) :
    relates (Pure.pure value : Engine δ α) (Pure.pure value : Engine ε α) :=
  congruence.lift (.ok value)

theorem throw {α : Type} (error : Error) :
    relates (MonadExcept.throw error : Engine δ α) (MonadExcept.throw error : Engine ε α) :=
  congruence.lift (.error error)

theorem readBlock (region : Region) (block : UInt32) :
    relates (readBlock region block : Engine δ Block) (readBlock region block) :=
  congruence.bind (congruence.reserve _) fun _ => congruence.fetch _ _

theorem readBlocks (region : Region) (start : UInt32) (count done : Nat) (bytes : ByteArray) :
    relates (readBlocks region start count done bytes : Engine δ ByteArray)
      (readBlocks region start count done bytes) := by
  induction count generalizing done bytes with
  | zero => exact congruence.pure bytes
  | succ count ih =>
      refine congruence.bind (congruence.lift _) fun place => ?_
      exact congruence.bind (congruence.fetch region place) fun found => ih _ _

theorem readSpan (region : Region) (start count : UInt32) :
    relates (readSpan region start count : Engine δ ByteArray) (readSpan region start count) :=
  congruence.bind (congruence.reserve _) fun _ => congruence.readBlocks _ _ _ _ _

end

end ReadCongruence

namespace Congruence

variable {tied : Durability → Durability → Prop} {durability durability' : Durability}

section

variable (congruence : Congruence tied relates)

include congruence

theorem writeBlocks (region : Region) (start : UInt32) (choices : tied durability durability')
    (done : Nat) (blocks : List Block) :
    relates (writeBlocks region start durability done blocks : Engine δ Unit)
      (writeBlocks region start durability' done blocks) := by
  induction blocks generalizing done with
  | nil => exact congruence.pure ()
  | cons block rest ih =>
      refine congruence.bind (congruence.lift _) fun place => ?_
      exact congruence.bind (congruence.writeBlock region place block choices) fun _ => ih _

theorem writeSpan (region : Region) (start : UInt32) (data : ByteArray)
    (choices : tied durability durability') :
    relates (writeSpan region start data durability : Engine δ Unit)
      (writeSpan region start data durability') :=
  congruence.bind (congruence.lift _) fun _ => congruence.writeBlocks _ _ choices _ _

end

end Congruence

end BlockFs.Engine
