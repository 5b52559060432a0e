import BlockFs.Proofs.Mount.Replies

namespace BlockFs

theorem Bitmap.Assigns.unique {bitmap one two : Bitmap} {index : UInt32} {free : Bool}
    (first : bitmap.Assigns one index free) (second : bitmap.Assigns two index free) :
    two = one := by
  have length := second.length.trans first.length.symm
  have bytes : two.bytes = one.bytes :=
    ext_bitAt (second.size.trans first.size.symm) fun position _ => by
      rw [first.bits, second.bits]
  cases one
  cases two
  cases length
  cases bytes
  rfl

/-- Disks that differ at most where a sync writes. -/
def Geometry.Agrees (geometry : Geometry) (one two : Nat → Block) : Prop :=
  ∀ index, ¬ geometry.Synced index → two index = one index

namespace Geometry.Agrees

variable {geometry : Geometry} {one two three : Nat → Block}

theorem refl (disk : Nat → Block) : geometry.Agrees disk disk :=
  fun _ _ => rfl

theorem symm (agrees : geometry.Agrees one two) : geometry.Agrees two one :=
  fun index outside => (agrees index outside).symm

theorem trans (first : geometry.Agrees one two) (second : geometry.Agrees two three) :
    geometry.Agrees one three :=
  fun index outside => (second index outside).trans (first index outside)

theorem overlay (agrees : geometry.Agrees one two) (start : Nat) (blocks : List Block) :
    geometry.Agrees (BlockFs.overlay one start blocks) (BlockFs.overlay two start blocks) := by
  intro index outside
  unfold BlockFs.overlay
  rw [agrees index outside]

end Geometry.Agrees

namespace Mount.Twin

variable {one two : Mount}

theorem map (pool : Pool) (twin : one.Twin two) : pool.map two = pool.map one := by
  cases pool with
  | inodes => exact twin.inodeBitmap
  | blocks => exact twin.blockBitmap

/-- The same bit of two equal maps is set, and the same is done to the counters. -/
theorem assign {bitmap bitmap' : Bitmap} {number : UInt32} {free : Bool} (pool : Pool)
    (twin : one.Twin two) (update : UInt32 → UInt32)
    (assigned : (pool.map one).Assigns bitmap number free)
    (assigned' : (pool.map two).Assigns bitmap' number free) :
    (pool.assign bitmap update one).Twin (pool.assign bitmap' update two) := by
  rw [twin.map] at assigned'
  obtain rfl := assigned.unique assigned'
  have counted := congrArg (fun superblock =>
    pool.setCounter (update (pool.counter superblock)) superblock) twin.superblock
  cases pool with
  | inodes => exact ⟨counted, rfl, twin.blockBitmap⟩
  | blocks => exact ⟨counted, twin.inodeBitmap, rfl⟩

end Mount.Twin

/-- Whether an operation asks for nothing that a mount alone knows. -/
def Operation.isLasting : Operation → Bool
  | .root | .isDirty => false
  | _ => true

variable {mount one two next other : Mount} {disk disk' changed changed' : Nat → Block}

section Sync

variable {first second third : List Block}

/-- Whatever part of a sync was carried out, it stays where syncs write. -/
theorem SyncPlan.agrees_apply (plan : SyncPlan mount) (disk : Nat → Block) (shaped : mount.Shaped)
    (superblock : first <+: [mount.superblock.encode]) (inodes : second <+: plan.inodeBlocks)
    (blocks : third <+: plan.blockBlocks) :
    mount.geometry.Agrees disk (plan.apply disk first second third) := by
  have short : first.length ≤ 1 := superblock.length_le
  have inodesFit := inodes.length_le
  have blocksFit := blocks.length_le
  rw [plan.inodeBlocks_length] at inodesFit
  rw [shaped.blocks.length_content plan.blockBlocks_eq] at blocksFit
  have inodePlace := plan.inodeStart_toNat
  have blockPlace := plan.blockStart_toNat
  have zero : superblockBlock.toNat = 0 := rfl
  intro index outside
  change ¬ (index = superblockBlock.toNat ∨ 1 + mount.superblock.inodeTableBlocks.toNat ≤ index ∧
    index < 1 + mount.superblock.inodeTableBlocks.toNat +
      mount.superblock.inodeBitmapBlocks.toNat + mount.superblock.blockBitmapBlocks.toNat)
    at outside
  rw [apply, overlay_of_outside (by omega), overlay_of_outside (by omega),
    overlay_of_outside (by omega)]

theorem overlay_congr {start index : Nat} {blocks : List Block}
    (same : index < start ∨ start + blocks.length ≤ index → disk' index = disk index) :
    overlay disk' start blocks index = overlay disk start blocks index := by
  by_cases outside : index < start ∨ start + blocks.length ≤ index
  · rw [overlay_of_outside outside, overlay_of_outside outside, same outside]
  · unfold overlay
    rw [if_pos (by omega), if_pos (by omega), List.getElem?_eq_getElem (by omega)]
    rfl

/-- A complete sync leaves nothing of what the disks differed in. -/
theorem SyncPlan.apply_eq (plan : SyncPlan one) (plan' : SyncPlan two) (shaped : one.Shaped)
    (twin : one.Twin two) (agrees : one.geometry.Agrees disk disk') :
    plan'.apply disk' [two.superblock.encode] plan'.inodeBlocks plan'.blockBlocks =
      plan.apply disk [one.superblock.encode] plan.inodeBlocks plan.blockBlocks := by
  have inodeBegun := plan'.inodeStart_eq
  have blockBegun := plan'.blockStart_eq
  have inodeDivided := plan'.inodeBlocks_eq
  have blockDivided := plan'.blockBlocks_eq
  rw [twin.geometry_eq] at inodeBegun blockBegun
  rw [twin.inodeBitmap] at inodeDivided
  rw [twin.blockBitmap] at blockDivided
  have inodeStart := Except.ok.inj (inodeBegun.symm.trans plan.inodeStart_eq)
  have blockStart := Except.ok.inj (blockBegun.symm.trans plan.blockStart_eq)
  have inodeBlocks := Except.ok.inj (inodeDivided.symm.trans plan.inodeBlocks_eq)
  have blockBlocks := Except.ok.inj (blockDivided.symm.trans plan.blockBlocks_eq)
  have inodeLength := plan.inodeBlocks_length
  have blockLength := shaped.blocks.length_content plan.blockBlocks_eq
  have inodePlace := plan.inodeStart_toNat
  have blockPlace := plan.blockStart_toNat
  funext index
  rw [apply, apply, inodeStart, blockStart, inodeBlocks, blockBlocks, twin.superblock]
  refine overlay_congr fun notBlocks => overlay_congr fun notInodes =>
    overlay_congr fun notFirst => ?_
  apply agrees
  change ¬ (index = superblockBlock.toNat ∨ 1 + one.superblock.inodeTableBlocks.toNat ≤ index ∧
    index < 1 + one.superblock.inodeTableBlocks.toNat +
      one.superblock.inodeBitmapBlocks.toNat + one.superblock.blockBitmapBlocks.toNat)
  rw [List.length_singleton] at notFirst
  omega

end Sync

theorem Mount.TableFits.inodeOn_eq (fits : mount.TableFits)
    (agrees : mount.geometry.Agrees disk disk') (number : UInt32) :
    mount.superblock.inodeOn disk' number = mount.superblock.inodeOn disk number := by
  by_cases outside : mount.superblock.inodes ≤ number
  · rw [Superblock.inodeOn_of_le _ outside, Superblock.inodeOn_of_le _ outside]
  · have inside := UInt32.not_le.mp outside
    rw [Superblock.inodeOn_of_lt _ inside, Superblock.inodeOn_of_lt _ inside,
      agrees _ (fits.not_synced inside)]

namespace Change

variable {operation : Operation}

/-- A failure leaves the mount as it was, and the disk where no sync writes. -/
theorem agrees_of_error {error : Error}
    (change : Change mount disk operation (.error error) next changed) (shaped : mount.Shaped) :
    next = mount ∧ mount.geometry.Agrees disk changed := by
  cases change with
  | interrupted plan superblock inodes blocks =>
      exact ⟨rfl, plan.agrees_apply disk shaped superblock inodes blocks⟩
  | failed => exact ⟨rfl, .refl disk⟩

theorem twin_of_ok {answer : Answer}
    (change : Change one disk operation (.ok answer) next changed)
    (change' : Change two disk' operation (.ok answer) other changed') (shaped : one.Shaped)
    (fits : one.TableFits) (twin : one.Twin two) (agrees : one.geometry.Agrees disk disk') :
    next.Twin other ∧ one.geometry.Agrees changed changed' := by
  cases change with
  | tookInode found assigned =>
      cases change' with
      | tookInode found' assigned' =>
          exact ⟨twin.assign .inodes saturatingPred assigned assigned', agrees⟩
      | answered query => contradiction
  | freedInode notRoot used assigned =>
      cases change' with
      | freedInode notRoot' used' assigned' =>
          exact ⟨twin.assign .inodes saturatingSucc assigned assigned', agrees⟩
      | keptInode free' =>
          rw [twin.inodeBitmap, used] at free'
          contradiction
      | answered query => contradiction
  | keptInode free =>
      cases change' with
      | freedInode notRoot' used' assigned' =>
          rw [twin.inodeBitmap, free] at used'
          contradiction
      | keptInode free' => exact ⟨twin, agrees⟩
      | answered query => contradiction
  | tookBlock found assigned =>
      cases change' with
      | tookBlock found' assigned' =>
          exact ⟨twin.assign .blocks saturatingPred assigned assigned', agrees⟩
      | answered query => contradiction
  | freedBlock limit notReserved used assigned =>
      cases change' with
      | freedBlock limit' notReserved' used' assigned' =>
          exact ⟨twin.assign .blocks saturatingSucc assigned assigned', agrees⟩
      | keptBlock free' =>
          rw [twin.blockBitmap, used] at free'
          contradiction
      | answered query => contradiction
  | keptBlock free =>
      cases change' with
      | freedBlock limit' notReserved' used' assigned' =>
          rw [twin.blockBitmap, free] at used'
          contradiction
      | keptBlock free' => exact ⟨twin, agrees⟩
      | answered query => contradiction
  | wroteInode inside spliced =>
      cases change' with
      | wroteInode inside' spliced' =>
          -- The records share their blocks with nothing that a sync writes.
          rw [agrees _ (fits.not_synced inside), spliced] at spliced'
          cases spliced'
          refine ⟨?_, agrees.overlay _ _⟩
          split <;> exact ⟨twin.superblock, twin.inodeBitmap, twin.blockBitmap⟩
      | answered query => nomatch query
  | synced plan =>
      cases change' with
      | synced plan' =>
          rw [plan.apply_eq plan' shaped twin agrees]
          exact ⟨⟨twin.superblock, twin.inodeBitmap, twin.blockBitmap⟩, .refl _⟩
      | answered query => contradiction
  | answered query =>
      cases change' with
      | answered query' => exact ⟨twin, agrees⟩
      | tookInode | freedInode | keptInode | tookBlock | freedBlock | keptBlock | wroteInode
        | synced => nomatch query

/-- The same answer comes with the same change of the metadata and of the inode table. -/
theorem twin {answer : Except Error Answer} (change : Change one disk operation answer next changed)
    (change' : Change two disk' operation answer other changed') (shaped : one.Shaped)
    (shaped' : two.Shaped) (fits : one.TableFits) (twin : one.Twin two)
    (agrees : one.geometry.Agrees disk disk') :
    next.Twin other ∧ one.geometry.Agrees changed changed' := by
  cases answer with
  | ok answer => exact change.twin_of_ok change' shaped fits twin agrees
  | error error =>
      obtain ⟨rfl, kept⟩ := change.agrees_of_error shaped
      obtain ⟨rfl, kept'⟩ := change'.agrees_of_error shaped'
      rw [twin.geometry_eq] at kept'
      exact ⟨twin, (kept.symm.trans agrees).trans kept'⟩

end Change

/-- A reply does not depend on what syncs write. -/
theorem Operation.reply_twin {operation : Operation} (lasting : operation.isLasting = true)
    (twin : one.Twin two) (fits : one.TableFits) (agrees : one.geometry.Agrees disk disk') :
    operation.reply two disk' = operation.reply one disk := by
  cases operation with
  | root | isDirty => contradiction
  | readInode number | writeInode number inode durability =>
      rw [reply, reply, twin.superblock, fits.inodeOn_eq agrees number]
  | takeInode | takeBlock | freeInode | freeBlock | sync | superblock | geometry | stats
    | inodeBitmap | blockBitmap =>
      unfold reply
      simp only [twin.superblock, twin.inodeBitmap, twin.blockBitmap, Mount.geometry, Mount.stats]

end BlockFs
