import BlockFs.Proofs.Commands
import BlockFs.Proofs.Device.BlockMap

namespace BlockFs

/-- What is done with a disk in memory: a command, or a change of the blocks on which it fails. -/
inductive Turn where
  | command (given : Command)
  | inject (injection : Injection)

namespace Turn

/-- The reply to a turn, if it has any, and the mounts afterwards. -/
def run {δ : Type} [BlockDevice δ] (apply : δ → Injection → δ) (table : MountTable δ) :
    Turn → Option Reply × MountTable δ
  | .command given =>
      let (reply, table) := given.run table
      (some reply, table)
  | .inject injection =>
      (none, { table with
        host := { table.host with device := apply table.host.device injection } })

/-- The same turn, but for durabilities that are tied. -/
inductive Tied (tied : Durability → Durability → Prop) : Turn → Turn → Prop where
  | command {given given' : Command} (same : given.Tied tied given') :
      Tied tied (.command given) (.command given')
  | inject (injection : Injection) : Tied tied (.inject injection) (.inject injection)

theorem Tied.refl {tied : Durability → Durability → Prop}
    (reflexive : ∀ durability, tied durability durability) (turn : Turn) :
    Turn.Tied tied turn turn := by
  cases turn with
  | command given => exact .command (.refl reflexive given)
  | inject injection => exact .inject injection

/-- The same turn, whatever durability it asks for. -/
abbrev Similar : Turn → Turn → Prop := Turn.Tied fun _ _ => True

end Turn

section Coupled

variable {δ ε : Type} [BlockDevice δ] [BlockDevice ε] {tied : Durability → Durability → Prop}
  {related : δ → ε → Prop} {apply : δ → Injection → δ} {apply' : ε → Injection → ε}

theorem MountTable.Coupled.turn {table : MountTable δ} {other : MountTable ε} {one two : Turn}
    (coupled : Coupled related table other) (coupling : Coupling tied related)
    (reflexive : ∀ durability, tied durability durability)
    (injects : ∀ device other injection, related device other →
      related (apply device injection) (apply' other injection)) (same : one.Tied tied two) :
    Agree (Coupled related) (one.run apply table) (two.run apply' other) := by
  cases same with
  | command same =>
      obtain ⟨replies, after⟩ := coupled.run coupling reflexive same
      exact ⟨congrArg some replies, after⟩
  | inject injection =>
      exact ⟨rfl, ⟨injects _ _ injection coupled.host.device, coupled.host.bufferLimit⟩,
        coupled.mounts⟩

end Coupled

namespace RamDisk

/-- Disks that differ at most in the blocks that wait for a flush. -/
structure SameBytes (one two : RamDisk) : Prop where
  image : one.image = two.image
  failingReads : one.failingReads = two.failingReads
  failingWrites : one.failingWrites = two.failingWrites

namespace SameBytes

variable {one two : RamDisk}

theorem blockCount (same : SameBytes one two) : one.blockCount = two.blockCount :=
  congrArg (·.size / blockSize) same.image

theorem write (same : SameBytes one two) (block : UInt32) (data : ByteArray)
    (durability durability' : Durability) :
    Agree SameBytes (BlockDevice.write one block data durability)
      (BlockDevice.write two block data durability') := by
  have answers : (BlockDevice.write one block data durability).1 =
      (BlockDevice.write two block data durability').1 := by
    rw [write_eq, write_eq, same.blockCount, same.failingWrites]
  refine ⟨answers, ?_⟩
  rcases one.write_cases block data durability with ⟨succeeded, wrote⟩ | ⟨⟨_, failed⟩, kept⟩
  · rcases two.write_cases block data durability' with ⟨_, wrote'⟩ | ⟨⟨_, failed'⟩, _⟩
    · obtain ⟨_, image⟩ := write_ok wrote
      obtain ⟨_, image'⟩ := write_ok wrote'
      obtain ⟨reads, writes⟩ := failing_of_write wrote
      obtain ⟨reads', writes'⟩ := failing_of_write wrote'
      refine ⟨?_, ?_, ?_⟩
      · rw [image, image', same.image]
      · rw [reads, reads', same.failingReads]
      · rw [writes, writes', same.failingWrites]
    · cases succeeded.symm.trans (answers.trans failed')
  · rcases two.write_cases block data durability' with ⟨succeeded', _⟩ | ⟨_, kept'⟩
    · cases failed.symm.trans (answers.trans succeeded')
    · rw [kept, kept']
      exact same

theorem apply (same : SameBytes one two) (injection : Injection) :
    SameBytes (injection.apply one) (injection.apply two) := by
  cases injection with
  | failReads blocks =>
      exact ⟨same.image, by simp only [Injection.apply, failReads, same.failingReads],
        same.failingWrites⟩
  | failWrites blocks =>
      exact ⟨same.image, same.failingReads,
        by simp only [Injection.apply, failWrites, same.failingWrites]⟩
  | heal => exact ⟨same.image, rfl, rfl⟩

theorem coupling : Coupling (fun _ _ => True) SameBytes where
  wholeBlocks same := congrArg (· * blockSize / blockSize) same.blockCount
  perform {one two _ _} same alike := by
    cases alike with
    | read block length =>
        simp only [Request.perform, BlockDevice.read, read_eq, same.blockCount, same.failingReads,
          same.image]
        exact ⟨rfl, same⟩
    | write block data choices =>
        obtain ⟨answers, after⟩ := same.write block data _ _
        exact ⟨congrArg (Except.map fun _ => none) answers, after⟩
    | flush => exact ⟨rfl, same.image, same.failingReads, same.failingWrites⟩

end SameBytes

/-- A disk and a monitor of it, which has recorded how the dirty set came to be what it is. -/
structure WatchedBy (initial disk : RamDisk) (monitor : Monitor RamDisk) : Prop where
  device : monitor.device = disk
  claims : monitor.claimedSize = none
  flushes : monitor.refusesFlush = false
  waiting : ∀ index, disk.dirty.contains index =
    (latest (CallRecord.settles index) monitor.records.toList).getD (initial.dirty.contains index)

theorem WatchedBy.coupling (initial : RamDisk) : Coupling (· = ·) (WatchedBy initial) where
  wholeBlocks {disk monitor} watched := by
    rw [← watched.device]
    simp only [BlockDevice.byteSize, watched.claims, Option.getD_none]
  perform {disk monitor request request'} watched same := by
    have equal : request' = request := by
      cases same with
      | write block data choices => rw [choices]
      | _ => rfl
    rw [equal, Request.perform_monitor watched.flushes, watched.device]
    refine ⟨rfl, rfl, watched.claims, watched.flushes, fun index => ?_⟩
    simp only [Monitor.observe, Array.toList_push, latest_concat, Option.getD_or]
    rw [contains_dirty_perform, watched.waiting]

end RamDisk

def Monitor.inject (monitor : Monitor RamDisk) (injection : Injection) : Monitor RamDisk :=
  { monitor with device := injection.apply monitor.device }

theorem RamDisk.WatchedBy.inject {initial disk : RamDisk} {monitor : Monitor RamDisk}
    (watched : WatchedBy initial disk monitor) (injection : Injection) :
    WatchedBy initial (injection.apply disk) (monitor.inject injection) where
  device := congrArg (Injection.apply · injection) watched.device
  claims := watched.claims
  flushes := watched.flushes
  waiting index := by
    rw [dirty_apply]
    exact watched.waiting index

namespace MountTable

/-- The same mounts with a monitor that has recorded nothing yet. -/
def watched (table : MountTable RamDisk) : MountTable (Monitor RamDisk) where
  host := {
    device := { device := table.host.device }
    bufferLimit := table.host.bufferLimit
    events := table.host.events }
  mounts := table.mounts

def play (table : MountTable RamDisk) : List Turn → List (Option Reply) × MountTable RamDisk :=
  serve (Turn.run Injection.apply) table

/-- The same run with a monitor that records the calls. -/
def playWatched (table : MountTable RamDisk) :
    List Turn → List (Option Reply) × MountTable (Monitor RamDisk) :=
  serve (Turn.run Monitor.inject) table.watched

variable {table : MountTable RamDisk} {first second : List Turn}

/-- Two runs that get the same replies and leave the same mounts, the same bytes and the same
failures to come. -/
structure Indistinct (table : MountTable RamDisk) (first second : List Turn) : Prop where
  replies : (table.play first).1 = (table.play second).1
  mounts : (table.play first).2.mounts = (table.play second).2.mounts
  disk : (table.play first).2.host.device.SameBytes (table.play second).2.host.device

/-- The blocks that wait for a flush after a run are those whose last successful write since the last
flush was a write back, among the calls that a monitor records of the run. -/
structure Settled (table : MountTable RamDisk) (turns : List Turn) : Prop where
  replies : (table.play turns).1 = (table.playWatched turns).1
  mounts : (table.play turns).2.mounts = (table.playWatched turns).2.mounts
  device : (table.playWatched turns).2.host.device.device = (table.play turns).2.host.device
  waiting : ∀ index, (table.play turns).2.host.device.dirty.contains index =
    (latest (CallRecord.settles index) (table.playWatched turns).2.host.device.records.toList).getD
      (table.host.device.dirty.contains index)

theorem indistinct_of_similar (similar : first.Forall₂ Turn.Similar second) :
    Indistinct table first second := by
  have start : Coupled RamDisk.SameBytes table table := ⟨⟨⟨rfl, rfl, rfl⟩, rfl⟩, rfl⟩
  have played : Agree (Coupled RamDisk.SameBytes) (table.play first) (table.play second) := by
    refine serve_agree (fun table other one two coupled same => ?_) similar start
    exact coupled.turn RamDisk.SameBytes.coupling (fun _ => trivial)
      (fun _ _ injection same => same.apply injection) same
  obtain ⟨replies, coupled⟩ := played
  exact ⟨replies, coupled.mounts, coupled.host.device⟩

theorem settled (table : MountTable RamDisk) (turns : List Turn) : Settled table turns := by
  have start : Coupled (RamDisk.WatchedBy table.host.device) table table.watched :=
    ⟨⟨⟨rfl, rfl, rfl, fun _ => rfl⟩, rfl⟩, rfl⟩
  have played : Agree (Coupled (RamDisk.WatchedBy table.host.device)) (table.play turns)
      (table.playWatched turns) := by
    refine serve_agree (fun table other one two coupled same => ?_)
      (List.forall₂_same.mpr fun turn _ => Turn.Tied.refl (fun _ => rfl) turn) start
    exact coupled.turn (RamDisk.WatchedBy.coupling _) (fun _ => rfl)
      (fun _ _ injection watched => watched.inject injection) same
  obtain ⟨replies, coupled⟩ := played
  exact ⟨replies, coupled.mounts, coupled.host.device.device, coupled.host.device.waiting⟩

/-- Runs that differ only in the durabilities they ask for are the same at every step, up to the
blocks that wait for a flush. -/
theorem durability_unobservable (table : MountTable RamDisk)
    (similar : first.Forall₂ Turn.Similar second) (count : Nat) :
    Indistinct table (first.take count) (second.take count) ∧
      Settled table (first.take count) ∧ Settled table (second.take count) :=
  ⟨indistinct_of_similar (List.forall₂_take count similar), settled _ _, settled _ _⟩

theorem durability_unobservable_sync : ∃ (table : MountTable RamDisk) (first second : List Turn),
    first.Forall₂ Turn.Similar second ∧ first ≠ second ∧
      Indistinct table (first.take 3) (second.take 3) ∧
      Settled table (first.take 3) ∧ Settled table (second.take 3) := by
  have similar : List.Forall₂ Turn.Similar
      [.command .format, .command (.mount 0), .command (.perform 0 (.sync .writeThrough))]
      [.command .format, .command (.mount 0), .command (.perform 0 (.sync .writeBack))] :=
    .cons (.command .format) <| .cons (.command (.mount 0)) <|
      .cons (.command (.perform 0 (.sync trivial))) .nil
  exact ⟨.ofDevice (.ofBlocks (minBlocks + 1)) (2 * blockSize), _, _, similar,
    by simp, durability_unobservable _ similar 3⟩

end MountTable

end BlockFs
