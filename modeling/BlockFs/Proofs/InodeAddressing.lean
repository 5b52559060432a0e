import BlockFs.Proofs.RecordConfinement
import Mathlib.Data.Set.Function
import Mathlib.Order.Interval.Finset.Nat

namespace BlockFs

namespace Inode

variable {number other : UInt32}

/-- The first byte of a record, counted from the start of the device. -/
def recordStart (number : UInt32) : Nat :=
  (address number).block.toNat * blockSize + (address number).offset

/-- The bytes of the device that hold a record. -/
def recordBytes (number : UInt32) : Finset Nat :=
  Finset.Ico (recordStart number) (recordStart number + inodeSize)

theorem mem_recordBytes {position : Nat} : position ∈ recordBytes number ↔
    recordStart number ≤ position ∧ position < recordStart number + inodeSize :=
  Finset.mem_Ico

/-- The record of a smaller number ends in front, also where the end of a block lies between. -/
theorem recordStart_add_le (before : number.toNat < other.toNat) :
    recordStart number + inodeSize ≤ recordStart other := by
  have start (number : UInt32) : recordStart number =
      (1 + number.toNat / 60) * 4096 + number.toNat % 60 * 68 := by
    rw [recordStart, toNat_address_block]
    rfl
  rw [start, start, show inodeSize = 68 from rfl]
  omega

theorem recordBytes_disjoint (different : number ≠ other) :
    Disjoint (recordBytes number) (recordBytes other) := by
  rw [Finset.disjoint_left]
  intro position inside alsoInside
  rw [mem_recordBytes] at inside alsoInside
  have numbers : number.toNat ≠ other.toNat := fun same => different (UInt32.toNat_inj.mp same)
  rcases Nat.lt_or_gt_of_ne numbers with before | behind
  · have apart := recordStart_add_le before
    omega
  · have apart := recordStart_add_le behind
    omega

theorem address_injective : Function.Injective address := by
  intro number other same
  -- Records at one address would share their first byte.
  by_contra different
  have first (number : UInt32) : recordStart number ∈ recordBytes number :=
    mem_recordBytes.mpr ⟨Nat.le_refl _, Nat.lt_add_of_pos_right (by decide)⟩
  have start : recordStart number = recordStart other := by
    rw [recordStart, same, ← recordStart]
  refine Finset.disjoint_left.mp (recordBytes_disjoint different) (first number) ?_
  rw [start]
  exact first other

/-- Each slot is the place of a record, as long as there are words to number the slots. -/
theorem address_exists {block : UInt32} {slot : Nat} (positive : 1 ≤ block.toNat)
    (inBlock : slot < inodesPerBlock)
    (numbered : inodesPerBlock * (block.toNat - 1) + slot < UInt32.size) :
    ∃ number : UInt32, number.toNat = inodesPerBlock * (block.toNat - 1) + slot ∧
      address number = ⟨block, slot * inodeSize⟩ := by
  have value := toNat_ofNat_of_lt numbered
  refine ⟨_, value, ?_⟩
  have rank : 1 + (inodesPerBlock * (block.toNat - 1) + slot) / inodesPerBlock = block.toNat := by
    rw [Nat.mul_add_div (by decide), Nat.div_eq_of_lt inBlock]
    omega
  rw [address, value, rank, UInt32.ofNat_toNat, Nat.mul_add_mod, Nat.mod_eq_of_lt inBlock]

end Inode

namespace Geometry

variable (geometry : Geometry)

/-- The whole slots of the inode table. -/
def slots : Set Inode.Address :=
  {address | 1 ≤ address.block.toNat ∧ address.block.toNat ≤ geometry.inodeTableBlocks.toNat ∧
    ∃ slot < inodesPerBlock, address.offset = slot * inodeSize}

variable {geometry} (planned : geometry.Planned)

include planned

theorem Planned.address_mem_slots_iff (number : UInt32) :
    Inode.address number ∈ geometry.slots ↔ number < geometry.totalInodes := by
  have place := Nat.mod_lt number.toNat (show 0 < inodesPerBlock by decide)
  have inTable : (Inode.address number).block.toNat ≤ geometry.inodeTableBlocks.toNat ↔
      number < geometry.totalInodes := by
    rw [address_block_le_iff, UInt32.lt_iff_toNat_lt, planned.inodes, Nat.mul_comm]
  constructor
  · rintro ⟨_, below, _⟩
    exact inTable.mp below
  · intro inside
    refine ⟨?_, inTable.mpr inside, _, place, rfl⟩
    rw [toNat_address_block]
    exact Nat.le_add_right _ _

theorem Planned.address_exists {address : Inode.Address} (inTable : address ∈ geometry.slots) :
    ∃ number < geometry.totalInodes, Inode.address number = address := by
  obtain ⟨block, _⟩ := address
  obtain ⟨positive, below, slot, inBlock, rfl⟩ := inTable
  have last : inodesPerBlock * (block.toNat - 1) + slot < geometry.totalInodes.toNat := by
    have some : 1 ≤ block.toNat := positive
    have most : block.toNat ≤ geometry.inodeTableBlocks.toNat := below
    rw [planned.inodes]
    change slot < 60 at inBlock
    change 60 * (block.toNat - 1) + slot < geometry.inodeTableBlocks.toNat * 60
    omega
  obtain ⟨number, _, found⟩ := Inode.address_exists positive inBlock
    (Nat.lt_trans last geometry.totalInodes.toNat_lt)
  refine ⟨number, ?_, found⟩
  rw [← planned.address_mem_slots_iff, found]
  exact ⟨positive, below, slot, inBlock, rfl⟩

theorem Planned.bijOn_address :
    Set.BijOn Inode.address {number | number < geometry.totalInodes} geometry.slots where
  left := fun number => (planned.address_mem_slots_iff number).mpr
  right := ⟨Inode.address_injective.injOn, fun _ => planned.address_exists⟩

theorem Planned.recordBytes_subset {start : UInt32} (begun : geometry.inodeBitmapStart = .ok start)
    {number : UInt32} (inside : number < geometry.totalInodes) :
    Inode.recordBytes number ⊆
      Finset.Ico (inodeTableStart.toNat * blockSize) (start.toNat * blockSize) := by
  obtain ⟨positive, below, _⟩ := (planned.address_mem_slots_iff number).mpr inside
  have inBlock := address_offset_le number
  have bound := toNat_inodeBitmapStart begun
  have first : inodeTableStart.toNat = 1 := rfl
  have block : blockSize = 4096 := rfl
  rw [Inode.recordBytes, Inode.recordStart]
  apply Finset.Ico_subset_Ico
  · rw [first, block]
    omega
  · rw [block] at inBlock ⊢
    omega

omit planned

/-- The records of all numbers lie in one block each and apart from each other.  Those of a
device's inodes are the whole slots of its inode table, each of them once, and lie in front of the
inode bitmap. -/
theorem ofSize_tiles :
    (∀ number, (Inode.address number).block.toNat = 1 + number.toNat / inodesPerBlock ∧
      (Inode.address number).offset + inodeSize ≤ blockSize) ∧
    Pairwise (Function.onFun Disjoint Inode.recordBytes) ∧
    ∀ bytes geometry, ofSize bytes = .ok geometry →
      Set.BijOn Inode.address {number | number < geometry.totalInodes} geometry.slots ∧
      ∃ start, geometry.inodeBitmapStart = .ok start ∧ ∀ number < geometry.totalInodes,
        Inode.recordBytes number ⊆
          Finset.Ico (inodeTableStart.toNat * blockSize) (start.toNat * blockSize) := by
  refine ⟨fun number => ⟨toNat_address_block number, address_offset_le number⟩,
    fun _ _ => Inode.recordBytes_disjoint, fun bytes geometry sized => ?_⟩
  have planned := (ofSize_planned sized).1
  obtain ⟨start, begun⟩ := inodeBitmapStart_exists planned.hasData
  exact ⟨planned.bijOn_address, start, begun, fun _ => planned.recordBytes_subset begun⟩

/-- On the largest device the last of 4294967280 inodes fills the last slot of the table, and the
inode bitmap follows. -/
theorem ofSize_tiles_largest : ∃ geometry, ofSize (4294967280 * blockSize) = .ok geometry ∧
    Set.BijOn Inode.address {number | number < 4294967280} geometry.slots ∧
    Inode.address 4294967279 = ⟨71582788, 59 * inodeSize⟩ ∧
    geometry.inodeBitmapStart = .ok 71582789 := by
  obtain ⟨geometry, sized, inodes, begun⟩ : ∃ geometry,
      ofSize (4294967280 * blockSize) = .ok geometry ∧ geometry.totalInodes = 4294967280 ∧
        geometry.inodeBitmapStart = .ok 71582789 := by
    refine ⟨⟨4294967280, 4294967280, 71582788, 131072, 131072, 4223122347⟩, ?_, rfl, rfl⟩
    rw [ofSize]
    exact if_neg (by decide)
  obtain ⟨_, _, tiles⟩ := ofSize_tiles
  obtain ⟨once, _⟩ := tiles _ geometry sized
  rw [inodes] at once
  exact ⟨geometry, sized, once, by decide, begun⟩

end Geometry

end BlockFs
