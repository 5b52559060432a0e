import BlockFs.Proofs.Mount.InPlace
import BlockFs.Proofs.RecordConfinement

/-!
Blocks that are handed out, and the end of the device.

A mount takes the number of blocks from the superblock and never asks the device for it.  What it
hands out over time are the blocks below that number that are not reserved, and reserved ones only if
the map has them as free.  They lie on the device as long as the superblock claims no more blocks
than there are.
-/

namespace BlockFs

open Engine

/-- The operations that take blocks, give them back and carry that to the device. -/
def Operation.handlesBlocks : Operation → Bool
  | .takeBlock | .freeBlock _ | .sync _ => true
  | _ => false

variable {δ : Type} [BlockDevice δ]

/-- Some run of operations on blocks ends with this one being handed out. -/
def HandsOut (start : Mount × Host δ) (number : UInt32) : Prop :=
  ∃ operations : List Operation, (∀ operation ∈ operations, operation.handlesBlocks = true) ∧
    (Operation.takeBlock.step (Operation.runAll start operations).2).1 = .ok (.number number)

variable {mount next mounted current : Mount} {host after last start : Host δ}
  {number reserved : UInt32} {operation : Operation} {answer : Except Error Answer}

theorem HandsOut.of_step (handles : operation.handlesBlocks = true)
    (stepped : operation.step (mount, host) = (answer, next, after))
    (later : HandsOut (next, after) number) : HandsOut (mount, host) number := by
  obtain ⟨operations, all, found⟩ := later
  refine ⟨operation :: operations, List.forall_mem_cons.mpr ⟨handles, all⟩, ?_⟩
  simp only [Operation.runAll, stepped]
  exact found

theorem Reaches.runAll {first : Mount × Host δ} (reached : Reaches first (mount, host))
    (operations : List Operation) :
    Reaches first (Operation.runAll (mount, host) operations).2 := by
  induction operations generalizing mount host with
  | nil => exact reached
  | cons operation rest ih =>
      cases stepped : operation.step (mount, host) with
      | mk answer next =>
          simp only [Operation.runAll, stepped]
          exact ih (reached.operate stepped)

/-- Taking blocks hands out every free one in the end. -/
theorem handsOut_of_free (host : Host δ) (inside : number < mount.blockBitmap.length)
    (free : bitAt mount.blockBitmap.bytes number.toNat = true) : HandsOut (mount, host) number := by
  generalize left : mount.blockBitmap.freeUnits = count
  induction count using Nat.strongRecOn generalizing mount host with
  | ind count ih =>
      rcases Pool.blocks.takes_cases mount with
        ⟨_, failed, _⟩ | ⟨found, bitmap, first, assigned, taken⟩
      · have none := (Bitmap.firstFree_eq_error failed).2 number.toNat
          (UInt32.lt_iff_toNat_lt.mp inside)
        cases none.symm.trans free
      · by_cases reached : found = number
        · subst reached
          exact ⟨[], nofun, congrArg Prod.fst (Pool.blocks.step_take_of_ok host taken)⟩
        · have fewer := assigned.freeUnits_take (Bitmap.firstFree_eq_ok first).2.1
          refine HandsOut.of_step rfl (Pool.blocks.step_take_of_ok host taken) (ih _ ?_ _ ?_ ?_ rfl)
          · exact left ▸ Nat.lt_of_succ_le (Nat.le_of_eq fewer)
          · exact assigned.length.symm ▸ inside
          · refine (assigned.bits _).trans ?_
            rw [if_neg fun same => reached (UInt32.toNat_inj.mp same).symm]
            exact free

/-- A block that is not reserved can be given back first, if it is in use. -/
theorem handsOut_of_le (host : Host δ) (limit : mount.geometry.reservedBlocks = .ok reserved)
    (notReserved : reserved ≤ number) (inside : number < mount.blockBitmap.length) :
    HandsOut (mount, host) number := by
  cases free : bitAt mount.blockBitmap.bytes number.toNat with
  | true => exact handsOut_of_free _ inside free
  | false =>
      obtain ⟨bitmap, assigned, freed⟩ :=
        Pool.blocks.gives_exists limit notReserved inside free
      refine HandsOut.of_step rfl (Pool.blocks.step_give_of_some host freed)
        (handsOut_of_free _ ?_ ?_)
      · exact assigned.length.symm ▸ inside
      · exact (assigned.bits _).trans (if_pos rfl)

/-- A reserved block that is in use stays in use. -/
theorem Change.reserved_used {disk changed : Nat → Block}
    (change : Change mount disk operation answer next changed)
    (limit : mount.geometry.reservedBlocks = .ok reserved) (low : number < reserved)
    (used : bitAt mount.blockBitmap.bytes number.toNat = false) :
    bitAt next.blockBitmap.bytes number.toNat = false := by
  cases change with
  | tookBlock _ assigned =>
      exact (assigned.bits _).trans (by rw [used, ite_self])
  | freedBlock limit' notReserved _ assigned =>
      cases limit.symm.trans limit'
      refine (assigned.bits _).trans ?_
      rw [if_neg, used]
      intro same
      rw [UInt32.toNat_inj.mp same] at low
      exact UInt32.not_le.mpr low notReserved
  | wroteInode => split <;> exact used
  | _ => exact used

variable [LawfulBlockDevice δ]

theorem Reaches.reserved_used {first final : Mount × Host δ} (reached : Reaches first final)
    (shaped : first.1.Shaped) (limit : first.1.geometry.reservedBlocks = .ok reserved)
    (low : number < reserved) (used : bitAt first.1.blockBitmap.bytes number.toNat = false) :
    bitAt final.1.blockBitmap.bytes number.toNat = false := by
  induction reached with
  | start => exact used
  | operate reached stepped ih =>
      obtain ⟨shaped, same⟩ := reached.shaped shaped
      exact (step_change shaped stepped).reserved_used (same ▸ limit) low ih
  | disturb _ _ ih => exact ih

/-- What is taken is free, and below the number of blocks that was mounted. -/
theorem Reaches.takeBlock (reached : Reaches (mounted, start) (current, last))
    (shaped : mounted.Shaped)
    (stepped : Operation.takeBlock.step (current, last) = (.ok (.number number), next, after)) :
    number < mounted.superblock.blocks ∧
      bitAt current.blockBitmap.bytes number.toNat = true := by
  obtain ⟨now, same⟩ := reached.shaped shaped
  have found : current.blockBitmap.firstFree = .ok number :=
    (step_change now stepped).firstFree .blocks
  obtain ⟨inside, free, _⟩ := Bitmap.firstFree_eq_ok found
  have total : current.superblock.blocks = mounted.superblock.blocks :=
    congrArg Geometry.totalBlocks same
  rw [now.blocks.length, total] at inside
  exact ⟨inside, free⟩

theorem handsOut_iff (shaped : mounted.Shaped)
    (limit : mounted.geometry.reservedBlocks = .ok reserved) (start : Host δ) (number : UInt32) :
    HandsOut (mounted, start) number ↔ number < mounted.superblock.blocks ∧
      (reserved ≤ number ∨ mounted.blockBitmap.test number = .ok true) := by
  have length := shaped.blocks.length
  constructor
  · rintro ⟨operations, _, found⟩
    have reached : Reaches (mounted, start) (Operation.runAll (mounted, start) operations).2 :=
      Reaches.start.runAll operations
    generalize (Operation.runAll (mounted, start) operations).2 = state at reached found
    rcases state with ⟨current, last⟩
    rcases stepped : Operation.takeBlock.step (current, last) with ⟨answer, next, after⟩
    rw [stepped] at found
    cases found
    obtain ⟨inside, free⟩ := reached.takeBlock shaped stepped
    refine ⟨inside, ?_⟩
    rw [Bitmap.test_of_lt (length ▸ inside), Except.ok.injEq]
    by_cases low : number < reserved
    · cases used : bitAt mounted.blockBitmap.bytes number.toNat with
      | true => exact .inr rfl
      | false => cases (reached.reserved_used shaped limit low used).symm.trans free
    · exact .inl (UInt32.not_lt.mp low)
  · rintro ⟨inside, allowed⟩
    rw [← length] at inside
    rcases allowed with notReserved | free
    · exact handsOut_of_le start limit notReserved inside
    · rw [Bitmap.test_of_lt inside, Except.ok.injEq] at free
      exact handsOut_of_free _ inside free

/-- Blocks that are handed out lie below the number of blocks that was mounted, and so on the device
if the superblock claims no more blocks than there are.  No narrower bound holds: all blocks below
that number are handed out by some run, but for reserved ones that are in use. -/
theorem takeBlock_below_blocks (accepted : BlockFs.mount.run.run host = (.ok mounted, start)) :
    (∀ {current next : Mount} {last after : Host δ} {number : UInt32},
      Reaches (mounted, start) (current, last) →
      Operation.takeBlock.step (current, last) = (.ok (.number number), next, after) →
      number < mounted.superblock.blocks ∧
        (mounted.superblock.blocks.toNat ≤ BlockDevice.blockCount host.device →
          number.toNat < BlockDevice.blockCount after.device ∧
          BlockDevice.checkTransfer (BlockDevice.blockCount after.device) number blockSize =
            .ok ())) ∧
    ∃ reserved, mounted.geometry.reservedBlocks = .ok reserved ∧
      ∀ number, HandsOut (mounted, start) number ↔ number < mounted.superblock.blocks ∧
        (reserved ≤ number ∨ mounted.blockBitmap.test number = .ok true) := by
  have shaped := (mount_eq_ok accepted).1
  refine ⟨fun reached stepped => ?_, ?_⟩
  · have inside := (reached.takeBlock shaped stepped).1
    refine ⟨inside, fun covered => ?_⟩
    have size := (reached.operate stepped).alike.blockCount.trans
      (untouched_mount.of_run accepted).blockCount
    have present := Nat.lt_of_lt_of_le (UInt32.lt_iff_toNat_lt.mp inside) covered
    rw [← size] at present
    exact ⟨present, by rw [BlockDevice.checkTransfer, if_neg (Nat.not_le.mpr present), if_pos rfl]⟩
  · obtain ⟨reserved, limit, _⟩ := Geometry.reservedBlocks_exists shaped.room
    exact ⟨reserved, limit, handsOut_iff shaped limit start⟩

theorem takeBlock_below_blocks_least : ∃ (formatted start after : Host RamDisk)
    (mounted next : Mount) (number : UInt32),
    BlockFs.mount.run.run formatted = (.ok mounted, start) ∧
      Operation.takeBlock.step (mounted, start) = (.ok (.number number), next, after) ∧
      BlockDevice.checkTransfer (BlockDevice.blockCount after.device) number blockSize = .ok () ∧
      HandsOut (mounted, start) 100 := by
  obtain ⟨_, formatted, mounted, start, _, outcome, twin, accepted, kept, _, alike⟩ :=
    leastHost_session
  have same := twin.geometry_eq.trans (outcome.empty.geometry_eq outcome.planned)
  have blocks : mounted.superblock.blocks = 101 := congrArg Geometry.totalBlocks same
  have size : BlockDevice.blockCount formatted.device = 101 :=
    kept.blockCount.symm.trans alike.blockCount
  obtain ⟨below, reserved, limit, handsOut⟩ := takeBlock_below_blocks accepted
  rw [blocks] at below
  have free : bitAt mounted.blockBitmap.bytes 6 = true := by
    rw [twin.blockBitmap, outcome.empty.bitAt_blockBitmap outcome.planned]
    rfl
  rcases Pool.blocks.takes_cases mounted with ⟨_, failed, _⟩ | ⟨number, _, _, _, taken⟩
  · have failed : mounted.blockBitmap.firstFree = .error _ := failed
    have none := (Bitmap.firstFree_eq_error failed).2 6
      (by rw [(mount_eq_ok accepted).1.blocks.length, blocks]; decide)
    cases none.symm.trans free
  · have stepped := Pool.blocks.step_take_of_ok start taken
    have present := ((below .start stepped).2 (Nat.le_of_eq size.symm)).2
    refine ⟨formatted, start, _, mounted, _, number, accepted, stepped, present, ?_⟩
    rw [same] at limit
    cases limit
    exact (handsOut 100).mpr ⟨by rw [blocks]; decide, .inl (by decide)⟩

/-- The superblock of the smallest disk, but with one block more than there are. -/
def overlongSuperblock : Superblock where
  magic := formatMagic
  blocks := 102
  inodes := 120
  inodeTableBlocks := 2
  inodeBitmapBlocks := 1
  blockBitmapBlocks := 1
  freeInodes := 119
  freeBlocks := 95

/-- The smallest disk, formatted, with this superblock. -/
def overlongHost : Host RamDisk :=
  (format.run.run leastHost).2.withBlock superblockBlock.toNat overlongSuperblock.encode

theorem overlongHost_accepted : ∃ mounted start,
    BlockFs.mount.run.run overlongHost = (.ok mounted, start) ∧
      mounted.superblock = overlongSuperblock ∧ start.device.blockCount = 101 := by
  obtain ⟨_, formatted, _, _, ran, _, _, _, kept, _, alike⟩ := leastHost_session
  have decoded : Superblock.decode (overlongHost.disk superblockBlock.toNat).bytes =
      .ok overlongSuperblock := by
    rw [overlongHost, Host.disk_withBlock, overlay_first]
    exact Superblock.decode_encode rfl
  obtain ⟨mounted, start, accepted, same, _⟩ := leastHost_withBlock decoded rfl
    (by decide) (by decide) (show (5 : Nat) < 102 by decide) (by decide) (by decide) (by decide)
  refine ⟨mounted, start, accepted, same, ?_⟩
  have size : start.device.blockCount = overlongHost.device.blockCount :=
    (untouched_mount.of_run accepted).blockCount
  rw [size, overlongHost, ran]
  exact kept.blockCount.symm.trans alike.blockCount

/-- The disk is accepted, and the block behind its last one is handed out in the end. -/
theorem takeBlock_past_end : ∃ (mounted next : Mount) (start after : Host RamDisk)
    (operations : List Operation),
    BlockFs.mount.run.run overlongHost = (.ok mounted, start) ∧
      (∀ operation ∈ operations, operation.handlesBlocks = true) ∧
      Operation.takeBlock.step (Operation.runAll (mounted, start) operations).2 =
        (.ok (.number 101), next, after) ∧
      BlockDevice.blockCount after.device = 101 ∧
      (BlockDevice.read after.device 101 blockSize).1 = .error (.pastEnd 101 101) := by
  obtain ⟨mounted, start, accepted, same, size⟩ := overlongHost_accepted
  have shaped := (mount_eq_ok accepted).1
  have limit : mounted.geometry.reservedBlocks = .ok 6 := by
    rw [Mount.geometry, same]
    rfl
  have inside : (101 : UInt32) < mounted.blockBitmap.length := by
    rw [shaped.blocks.length, same]
    decide
  obtain ⟨operations, handled, found⟩ := handsOut_of_le start limit (by decide) inside
  have reached : Reaches (mounted, start) (Operation.runAll (mounted, start) operations).2 :=
    Reaches.start.runAll operations
  rcases stepped : Operation.takeBlock.step (Operation.runAll (mounted, start) operations).2 with
    ⟨answer, next, after⟩
  rw [stepped] at found
  cases found
  have count : BlockDevice.blockCount after.device = 101 :=
    (reached.operate stepped).alike.blockCount.trans size
  refine ⟨mounted, next, start, after, operations, accepted, handled, stepped, count, ?_⟩
  apply LawfulBlockDevice.checkTransfer_read
  rw [count]
  rfl

end BlockFs
