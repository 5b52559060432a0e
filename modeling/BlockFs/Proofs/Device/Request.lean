import BlockFs.Device.Monitor
import Mathlib.Data.List.Forall2

/-!
Calls on a device as data, and what a history of inputs and answers says.

`serve` answers a list of inputs one after another.  `latest` is the news of the last entry of a
history that has any; a part of the state that every step either sets or leaves alone is what it was
at the start, or what the latest news of it is.
-/

namespace BlockFs

section Serve

variable {σ τ ι κ ρ α : Type} {step : σ → ι → ρ × σ} {step' : τ → κ → ρ × τ}

/-- The answers to a list of inputs, in order, and the state afterwards. -/
def serve (step : σ → ι → ρ × σ) (state : σ) : List ι → List ρ × σ
  | [] => ([], state)
  | input :: rest =>
      let (answer, next) := step state input
      let (answers, last) := serve step next rest
      (answer :: answers, last)

/-- The news of the last entry of a history that has any. -/
def latest (news : ι → Option α) (history : List ι) : Option α :=
  history.reverse.findSome? news

theorem latest_append (news : ι → Option α) (first second : List ι) :
    latest news (first ++ second) = (latest news second).or (latest news first) := by
  simp only [latest, List.reverse_append, List.findSome?_append]

theorem latest_singleton (news : ι → Option α) (entry : ι) : latest news [entry] = news entry := by
  simp only [latest, List.reverse_singleton, List.findSome?_singleton]

theorem latest_cons (news : ι → Option α) (entry : ι) (rest : List ι) :
    latest news (entry :: rest) = (latest news rest).or (news entry) := by
  rw [← List.singleton_append, latest_append, latest_singleton]

theorem latest_concat (news : ι → Option α) (history : List ι) (entry : ι) :
    latest news (history ++ [entry]) = (news entry).or (latest news history) := by
  rw [latest_append, latest_singleton]

theorem serve_keeps {holds : σ → Prop} (steps : ∀ state input, holds state →
    holds (step state input).2) (inputs : List ι) {state : σ} (start : holds state) :
    holds (serve step state inputs).2 := by
  induction inputs generalizing state with
  | nil => exact start
  | cons input rest ih => exact ih (steps state input start)

/-- What each step tells of a part of the state is what the history tells of it. -/
theorem serve_latest (part : σ → α) {news : ι × ρ → Option α}
    (steps : ∀ state input, part (step state input).2 =
      (news (input, (step state input).1)).getD (part state)) (inputs : List ι) (state : σ) :
    part (serve step state inputs).2 =
      (latest news (inputs.zip (serve step state inputs).1)).getD (part state) := by
  induction inputs generalizing state with
  | nil => rfl
  | cons input rest ih =>
      simp only [serve, List.zip_cons_cons, latest_cons, Option.getD_or]
      rw [ih, steps]

/-- The same answer, and states that are related. -/
def Agree (related : σ → τ → Prop) (one : ρ × σ) (two : ρ × τ) : Prop :=
  one.1 = two.1 ∧ related one.2 two.2

theorem serve_agree {related : σ → τ → Prop} {similar : ι → κ → Prop}
    (steps : ∀ state other input input', related state other → similar input input' →
      Agree related (step state input) (step' other input'))
    {inputs : List ι} {inputs' : List κ} (alike : inputs.Forall₂ similar inputs')
    {state : σ} {other : τ} (start : related state other) :
    Agree related (serve step state inputs) (serve step' other inputs') := by
  induction alike generalizing state other with
  | nil => exact ⟨rfl, start⟩
  | cons first _ ih =>
      obtain ⟨answers, next⟩ := steps _ _ _ _ start first
      obtain ⟨more, last⟩ := ih next
      exact ⟨congrArg₂ List.cons answers more, last⟩

end Serve

/-- A call on a device with its arguments. -/
inductive Request where
  | read (block : UInt32) (length : Nat)
  | write (block : UInt32) (data : ByteArray) (durability : Durability)
  | flush

/-- What a device answers; only a read has something to give. -/
abbrev Response := Except DeviceError (Option Block)

namespace Request

def call : Request → Call
  | .read block _ => .read block
  | .write block _ durability => .write block durability
  | .flush => .flush

variable {δ : Type} [BlockDevice δ]

def perform (device : δ) : Request → Response × δ
  | .read block length =>
      let (answer, after) := BlockDevice.read device block length
      (answer.map some, after)
  | .write block data durability =>
      let (answer, after) := BlockDevice.write device block data durability
      (answer.map fun _ => none, after)
  | .flush =>
      let (answer, after) := BlockDevice.flush device
      (answer.map fun _ => none, after)

theorem isOk_map {α β : Type} (f : α → β) (answer : Except DeviceError α) :
    (answer.map f).isOk = answer.isOk := by
  cases answer <;> rfl

/-- A monitor answers what the device underneath does, and records the call. -/
theorem perform_monitor {monitor : Monitor δ} (flushes : monitor.refusesFlush = false)
    (request : Request) : request.perform monitor =
      monitor.observe request.call (request.perform monitor.device) := by
  cases request with
  | read | write => simp only [perform, call, BlockDevice.read, BlockDevice.write, Monitor.observe,
      isOk_map]
  | flush =>
      simp only [perform, call, BlockDevice.flush, flushes, Bool.false_eq_true, if_false,
        Monitor.observe, isOk_map]

end Request

end BlockFs
