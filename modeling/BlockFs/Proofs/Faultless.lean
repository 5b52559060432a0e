import Mathlib.Algebra.Group.Nat.Defs
import BlockFs.Proofs.EmptyFilesystem
import BlockFs.Proofs.Mount.Refusals

/-!
No precondition breaks, on any device.

The device may be of any size, hold anything and answer anything.  `Mount.Steady` carries what a
mount keeps through every operation; what it says is enough for all arithmetic to stay within words
and for every access to a buffer to stay inside it.
-/

namespace BlockFs

open Engine

def Faultless {α : Type} (answer : Except Error α) : Prop :=
  ∀ broken, answer ≠ .error (.fault broken)

theorem Engine.RefusesOnly.faultless {δ α : Type} {work : Engine δ α}
    (refuses : RefusesOnly Error.Foreseen work) (host : Host δ) :
    Faultless (work.run.run host).1 :=
  fun broken failed => refuses host _ _ (Prod.ext failed rfl) broken rfl

/-- Searching the map, counting it and changing it stay inside its bytes and within words. -/
structure Bitmap.WithinWords (bitmap : Bitmap) : Prop where
  scan : (bitmap.length.toNat + 7) / 8 ≤ bitmap.bytes.size
  byte : ∀ index < bitmap.length, index.toNat / 8 < bitmap.bytes.size
  found : ∀ position, firstBit bitmap.bytes ((bitmap.length.toNat + 7) / 8) 0 = some position →
    position < UInt32.size
  counted : bitmap.countFree < UInt32.size

theorem Bitmap.Sealed.withinWords {bitmap : Bitmap} (tight : bitmap.Sealed) :
    bitmap.WithinWords := by
  have fits := bitmap.length_le
  have word := bitmap.length.toNat_lt
  have wordSize : UInt32.size = 2 ^ 32 := rfl
  refine ⟨by omega, fun index inside => ?_, fun position first => ?_, ?_⟩
  · have below := UInt32.lt_iff_toNat_lt.mp inside
    omega
  · have bound := (firstBit_eq_some first).1
    omega
  · rw [countFree_eq_freeUnits tight]
    exact Nat.lt_of_le_of_lt bitmap.freeUnits_le word

namespace Mount

/-- The numbers that a mount computes with; its generations are counted in 64 bits. -/
structure WithinWords (mount : Mount) : Prop where
  inodes : mount.inodeBitmap.WithinWords
  blocks : mount.blockBitmap.WithinWords
  starts : ∃ reserved, mount.geometry.reservedBlocks = .ok reserved
  generation : mount.generation < 2 ^ 64
  synced : mount.synced ≤ mount.generation

/-- What is true of a mount after so many operations. -/
structure Steady (count : Nat) (mount : Mount) : Prop where
  shaped : mount.Shaped
  ordered : mount.synced ≤ mount.generation
  counted : mount.generation ≤ count

namespace Steady

variable {count : Nat} {mount next : Mount}

theorem withinWords (steady : mount.Steady count) (few : count < 2 ^ 64) : mount.WithinWords := by
  obtain ⟨reserved, found, _⟩ := Geometry.reservedBlocks_exists steady.shaped.room
  exact ⟨steady.shaped.inodes.tight.withinWords, steady.shaped.blocks.tight.withinWords,
    ⟨reserved, found⟩, Nat.lt_of_le_of_lt steady.counted few, steady.ordered⟩

theorem later (steady : mount.Steady count) : mount.Steady (count + 1) :=
  ⟨steady.shaped, steady.ordered, Nat.le_succ_of_le steady.counted⟩

theorem assign {bitmap : Bitmap} {number : UInt32} {free : Bool} (pool : Pool)
    (steady : mount.Steady count) (assigned : (pool.map mount).Assigns bitmap number free)
    (update : UInt32 → UInt32) : (pool.assign bitmap update mount).Steady (count + 1) := by
  refine ⟨steady.shaped.assign pool assigned update, ?_, Nat.succ_le_succ steady.counted⟩
  cases pool <;> exact Nat.le_succ_of_le steady.ordered

theorem takes {pool : Pool} {number : UInt32} (steady : mount.Steady count)
    (taken : pool.takes mount = .ok (number, next)) : next.Steady (count + 1) := by
  obtain ⟨bitmap, _, assigned, rfl⟩ := pool.takes_eq_ok taken
  exact steady.assign pool assigned _

theorem gives {pool : Pool} {number : UInt32} {given : Option Mount} (steady : mount.Steady count)
    (done : pool.gives mount number = .ok given) : (given.getD mount).Steady (count + 1) := by
  obtain ⟨_, _, _, _, ⟨_, rfl⟩ | ⟨_, bitmap, assigned, rfl⟩⟩ := pool.gives_eq_ok done
  · exact steady.later
  · exact steady.assign pool assigned _

variable {δ : Type} [BlockDevice δ] {operation : Operation} {value : Answer}

theorem perform (steady : mount.Steady count)
    (answers : Answers (operation.perform mount : Engine δ (Answer × Mount)) (value, next)) :
    next.Steady (count + 1) := by
  obtain ⟨host, after, ran⟩ := answers
  cases operation with
  | takeInode =>
      obtain ⟨_, _, taken⟩ := Pool.inodes.takes_of_run ran
      exact steady.takes taken
  | takeBlock =>
      obtain ⟨_, _, taken⟩ := Pool.blocks.takes_of_run ran
      exact steady.takes taken
  | freeInode number =>
      obtain ⟨_, _, given, rfl⟩ := Pool.inodes.gives_of_run ran
      exact steady.gives given
  | freeBlock number =>
      obtain ⟨_, _, given, rfl⟩ := Pool.blocks.gives_of_run ran
      exact steady.gives given
  | writeInode number inode durability =>
      obtain ⟨changed, between, wrote, ran⟩ := bind_eq_ok ran
      cases ran
      rw [eq_of_writeInode ⟨host, after, wrote⟩]
      split
      · exact ⟨steady.shaped.of_twin ⟨rfl, rfl, rfl⟩, steady.ordered, steady.later.counted⟩
      · exact steady.later
  | sync durability =>
      obtain ⟨changed, between, synced, ran⟩ := bind_eq_ok ran
      cases ran
      rw [eq_of_sync ⟨host, after, synced⟩]
      exact ⟨steady.shaped.of_twin ⟨rfl, rfl, rfl⟩,
        Nat.max_le.mpr ⟨steady.ordered, Nat.le_refl _⟩, steady.later.counted⟩
  | superblock | geometry | stats | root | isDirty =>
      cases ran
      exact steady.later
  | readInode | inodeBitmap | blockBitmap =>
      obtain ⟨_, _, _, ran⟩ := bind_eq_ok ran
      cases ran
      exact steady.later

theorem step {host after : Host δ} {answer : Except Error Answer} (steady : mount.Steady count)
    (stepped : operation.step (mount, host) = (answer, next, after)) :
    Faultless answer ∧ next.Steady (count + 1) := by
  obtain ⟨value, rfl, ran⟩ | ⟨error, rfl, rfl, ran⟩ := step_eq stepped
  · exact ⟨nofun, steady.perform ⟨host, after, ran⟩⟩
  · refine ⟨fun broken same => ?_, steady.later⟩
    cases same
    exact refusesOnly_perform steady.shaped operation host _ after ran broken rfl

theorem runAll (steady : mount.Steady count) (host : Host δ) (operations : List Operation) :
    (∀ answer ∈ (Operation.runAll (mount, host) operations).1, Faultless answer) ∧
      (Operation.runAll (mount, host) operations).2.1.Steady (count + operations.length) := by
  induction operations generalizing mount host count with
  | nil => exact ⟨nofun, steady⟩
  | cons operation rest ih =>
      have stepped : operation.step (mount, host) = (_, _, _) := rfl
      obtain ⟨faultless, stays⟩ := steady.step stepped
      obtain ⟨others, reached⟩ := ih stays (operation.step (mount, host)).2.2
      rw [Nat.add_assoc, Nat.add_comm 1] at reached
      exact ⟨List.forall_mem_cons.mpr ⟨faultless, others⟩, reached⟩

end Steady

end Mount

variable {δ : Type} [BlockDevice δ] {geometry : Geometry}

/-- The root directory's record lies inside the inode table. -/
theorem Geometry.Planned.root_inside (planned : geometry.Planned) :
    Geometry.inodeTableStart ≤ (Inode.address rootInode).block ∧
      (Inode.address rootInode).block.toNat <
        Geometry.inodeTableStart.toNat + geometry.inodeTableBlocks.toNat := by
  have first : (Inode.address rootInode).block = Geometry.inodeTableStart := by decide
  have positive := planned.tableBlocks
  rw [first]
  exact ⟨UInt32.le_refl _, by omega⟩

namespace Format

theorem refusesOnly_writeInodeTable (room : geometry.HasData) :
    RefusesOnly Error.Foreseen (writeInodeTable geometry : Engine δ Unit) := by
  obtain ⟨start, begun, _⟩ := Geometry.dataStart_exists room
  obtain ⟨first, _, made⟩ := inodeTable_eq_ok begun
  have bound := geometry.totalBlocks.toNat_lt
  have wordSize : UInt32.size = 2 ^ 32 := rfl
  have one : Geometry.inodeTableStart.toNat = 1 := rfl
  refine (refusesOnly_reserve .outOfMemory _).bind fun _ _ => ?_
  refine (refusesOnly_lift_ok made).bind fun table answers => ?_
  have length := length_inodeTable room answers.of_lift
  unfold Geometry.HasData Geometry.metadata at room
  exact (refusesOnly_report _).bind fun _ _ => refusesOnly_writeBlocks .device (by omega)

theorem refusesOnly_writeInodeBitmap (room : geometry.HasData) :
    RefusesOnly Error.Foreseen (writeInodeBitmap geometry : Engine δ Unit) := by
  obtain ⟨start, begun⟩ := Geometry.inodeBitmapStart_exists room
  have place := Geometry.toNat_inodeBitmapStart begun
  have bound := geometry.totalBlocks.toNat_lt
  have wordSize : UInt32.size = 2 ^ 32 := rfl
  unfold Geometry.HasData Geometry.metadata at room
  refine refusesOnly_get.bind fun host _ => ?_
  refine (refusesOnly_lift fun _ => Bitmap.foreseen_fresh).bind fun bitmap made => ?_
  obtain ⟨blocks, divided, length⟩ := (Bitmap.Backed.of_fresh made.of_lift).blocksOf_exists
  refine (refusesOnly_report _).bind fun _ _ => ?_
  refine (refusesOnly_lift_ok begun).bind fun _ answers => ?_
  cases begun.symm.trans answers.of_lift
  exact refusesOnly_writeSpan .device divided (by omega)

theorem refusesOnly_writeBlockBitmap (room : geometry.HasData) :
    RefusesOnly Error.Foreseen (writeBlockBitmap geometry : Engine δ Unit) := by
  obtain ⟨start, begun⟩ := Geometry.blockBitmapStart_exists room
  obtain ⟨reserved, found, _⟩ := Geometry.reservedBlocks_exists room
  have place := Geometry.toNat_blockBitmapStart begun
  have bound := geometry.totalBlocks.toNat_lt
  have wordSize : UInt32.size = 2 ^ 32 := rfl
  unfold Geometry.HasData Geometry.metadata at room
  refine (refusesOnly_lift_ok found).bind fun _ _ => ?_
  refine refusesOnly_get.bind fun host _ => ?_
  refine (refusesOnly_lift fun _ => Bitmap.foreseen_fresh).bind fun bitmap made => ?_
  obtain ⟨blocks, divided, length⟩ := (Bitmap.Backed.of_fresh made.of_lift).blocksOf_exists
  refine (refusesOnly_report _).bind fun _ _ => ?_
  refine (refusesOnly_lift_ok begun).bind fun _ answers => ?_
  cases begun.symm.trans answers.of_lift
  exact refusesOnly_writeSpan .device divided (by omega)

theorem refusesOnly_writeListing (room : geometry.HasData) :
    RefusesOnly Error.Foreseen (writeListing geometry : Engine δ Unit) := by
  obtain ⟨start, begun, _⟩ := Geometry.dataStart_exists room
  exact (refusesOnly_lift_ok begun).bind fun _ _ =>
    (refusesOnly_report _).bind fun _ _ => refusesOnly_writeBlock .device _ _ _ _

end Format

theorem Geometry.foreseen_ofSize {bytes : Nat} {error : Error}
    (failed : ofSize bytes = .error error) : error.Foreseen := by
  rw [ofSize_eq_error failed]
  exact nofun

open Format in
theorem refusesOnly_format : RefusesOnly Error.Foreseen (format : Engine δ Superblock) := by
  refine refusesOnly_get.bind fun host _ => ?_
  refine (refusesOnly_lift fun _ => Geometry.foreseen_ofSize).bind fun geometry sized => ?_
  have planned := (Geometry.ofSize_planned sized.of_lift).1
  have room := planned.hasData
  obtain ⟨start, begun, _⟩ := Geometry.dataStart_exists room
  obtain ⟨superblock, made, _⟩ := Superblock.fresh_exists planned
  refine (refusesOnly_lift_ok begun).bind fun _ _ => ?_
  refine (refusesOnly_report _).bind fun _ _ => ?_
  refine (refusesOnly_lift_ok made).bind fun _ _ => ?_
  refine ((refusesOnly_report _).bind fun _ _ =>
    refusesOnly_writeBlock .device _ _ _ _).bind fun _ _ => ?_
  refine (refusesOnly_writeInodeTable room).bind fun _ _ => ?_
  refine (refusesOnly_writeInodeBitmap room).bind fun _ _ => ?_
  refine (refusesOnly_writeBlockBitmap room).bind fun _ _ => ?_
  refine (refusesOnly_writeListing room).bind fun _ _ => ?_
  refine (refusesOnly_call .device _ _).bind fun _ _ => ?_
  exact (refusesOnly_report _).bind fun _ _ => refusesOnly_pure _

/-- Formatting, mounting and every operation on an accepted mount end with an answer or with an
error that is no fault, and leave a mount whose numbers are within words. -/
theorem never_faults (host : Host δ) :
    Faultless (format.run.run host).1 ∧
    (∀ number, (Inode.address number).block.toNat = 1 + number.toNat / inodesPerBlock) ∧
    (∀ geometry, Geometry.ofSize (BlockDevice.byteSize host.device) = .ok geometry →
      Geometry.inodeTableStart ≤ (Inode.address rootInode).block ∧
        (Inode.address rootInode).block.toNat <
          Geometry.inodeTableStart.toNat + geometry.inodeTableBlocks.toNat) ∧
    (∀ bufferLimit blocks length used bitmap,
      Bitmap.fresh bufferLimit blocks length used = .ok bitmap → bitmap.WithinWords) ∧
    Faultless (mount.run.run host).1 ∧
    ∀ mounted start, mount.run.run host = (.ok mounted, start) →
      ∀ operations : List Operation, operations.length < 2 ^ 64 →
        (∀ answer ∈ (Operation.runAll (mounted, start) operations).1, Faultless answer) ∧
        (Operation.runAll (mounted, start) operations).2.1.WithinWords ∧
        ∀ last : Host δ,
          Faultless ((Operation.runAll (mounted, start) operations).2.1.unmount.run.run last).1 ∧
          Faultless ((Operation.runAll (mounted, start) operations).2.1.drop.run.run last).1 := by
  refine ⟨refusesOnly_format.faultless host, toNat_address_block, ?_, ?_,
    refusesOnly_mount.faultless host, ?_⟩
  · intro geometry sized
    exact (Geometry.ofSize_planned sized).1.root_inside
  · intro bufferLimit blocks length used bitmap made
    exact (Bitmap.Backed.of_fresh made).tight.withinWords
  · intro mounted start accepted operations few
    obtain ⟨shaped, generation, synced⟩ := shaped_mount ⟨host, start, accepted⟩
    have fresh : mounted.Steady 0 :=
      ⟨shaped, by rw [synced]; exact Nat.zero_le _, Nat.le_of_eq generation⟩
    obtain ⟨answers, reached⟩ := fresh.runAll start operations
    rw [Nat.zero_add] at reached
    refine ⟨answers, reached.withinWords few, fun last => ⟨?_, ?_⟩⟩
    · exact (refusesOnly_unmount .device reached.shaped).faultless last
    · obtain ⟨after, ended⟩ := drop_eq_ok (Operation.runAll (mounted, start) operations).2.1 last
      rw [ended]
      exact nofun

theorem never_faults_least : ∃ (mounted : Mount) (formatted start : Host RamDisk),
    mount.run.run formatted = (.ok mounted, start) ∧
      (∀ answer ∈ (Operation.runAll (mounted, start) [.takeBlock, .sync .writeBack]).1,
        Faultless answer) ∧
      (Operation.runAll (mounted, start) [.takeBlock, .sync .writeBack]).2.1.WithinWords := by
  obtain ⟨_, formatted, mounted, start, _, accepted, _⟩ := leastHost_mounts
  obtain ⟨_, _, _, _, _, used⟩ := never_faults formatted
  obtain ⟨answers, within, _⟩ :=
    used mounted start accepted [.takeBlock, .sync .writeBack] (by decide)
  exact ⟨mounted, formatted, start, accepted, answers, within⟩

end BlockFs
