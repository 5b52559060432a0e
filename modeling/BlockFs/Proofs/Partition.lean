import BlockFs.Proofs.Geometry
import Mathlib.Algebra.Order.Floor.Div
import Mathlib.Order.Interval.Finset.Nat

/-!
The regions of a device as a partition of its blocks.

`Geometry.Admissible` says for how many blocks there is a plan.  `Geometry.Exact` says that a plan
counts without loss and makes no region larger than it has to be, and `Geometry.Partitioned` that
its regions begin where they are said to, each behind the one before, and share out all blocks.
-/

namespace BlockFs

theorem blocksFor_eq_ceilDiv (units : Nat) {perBlock : Nat} (positive : 0 < perBlock) :
    blocksFor units perBlock = units ⌈/⌉ perBlock := by
  rw [Nat.ceilDiv_eq_add_pred_div, blocksFor, Nat.add_sub_assoc positive]

/-- With one block less there is no room for all units. -/
theorem mul_pred_blocksFor_lt {units perBlock : Nat} (some : 0 < units) (positive : 0 < perBlock) :
    perBlock * (blocksFor units perBlock - 1) < units := by
  apply Nat.lt_of_not_le
  rw [blocksFor_eq_ceilDiv units positive]
  intro enough
  have fewer := (ceilDiv_le_iff_le_mul positive).mpr enough
  have none : units ⌈/⌉ perBlock = 0 := by omega
  rw [none] at enough
  omega

namespace Geometry

variable {geometry : Geometry} {count : Nat}

/-- The inodes of a device: one for each block, and as many more as fill the inode table. -/
def inodesFor (blocks : Nat) : Nat := inodesPerBlock * (blocks ⌈/⌉ inodesPerBlock)

/-- There is a plan for a device of so many blocks. -/
def Admissible (blocks : Nat) : Prop := minBlocks < blocks ∧ inodesFor blocks < UInt32.size

theorem le_inodesFor (blocks : Nat) : blocks ≤ inodesFor blocks :=
  (ceilDiv_le_iff_le_mul (by decide)).mp (Nat.le_refl _)

/-- The metadata of a device that is large enough never fill it. -/
theorem metadata_lt_blocks (several : minBlocks < blocks) :
    1 + blocksFor blocks inodesPerBlock +
      blocksFor (blocksFor blocks inodesPerBlock * inodesPerBlock) bitsPerBlock +
      blocksFor blocks bitsPerBlock < blocks := by
  have bound : 100 < blocks := several
  simp only [blocksFor, show inodesPerBlock = 60 from rfl, show bitsPerBlock = 32768 from rfl]
  omega

theorem ofSize_exists {bytes : Nat} (admissible : Admissible (bytes / blockSize)) :
    ∃ geometry, ofSize bytes = .ok geometry := by
  obtain ⟨several, numbered⟩ := admissible
  have word := Nat.lt_of_le_of_lt (le_inodesFor (bytes / blockSize)) numbered
  have room := metadata_lt_blocks several
  rw [inodesFor, ← blocksFor_eq_ceilDiv _ (by decide), Nat.mul_comm] at numbered
  exact ⟨_, if_neg (by omega)⟩

/-- A plan of a device of `count` blocks that loses no number, its bitmaps no larger than needed. -/
structure Exact (geometry : Geometry) (count : Nat) : Prop extends geometry.Planned where
  totalBlocks : geometry.totalBlocks.toNat = count
  totalInodes : geometry.totalInodes.toNat = inodesFor count
  inodeBitmap : bitsPerBlock * (geometry.inodeBitmapBlocks.toNat - 1) < geometry.totalInodes.toNat
  blockBitmap : bitsPerBlock * (geometry.blockBitmapBlocks.toNat - 1) < geometry.totalBlocks.toNat

theorem Counts.exact (counts : geometry.Counts count) : geometry.Exact count where
  toPlanned := counts.planned
  totalBlocks := counts.totalBlocks
  totalInodes := by
    rw [counts.totalInodes, counts.tableBlocks, inodesFor, Nat.mul_comm,
      blocksFor_eq_ceilDiv _ (by decide)]
  inodeBitmap := by
    rw [counts.inodeBitmap]
    exact mul_pred_blocksFor_lt counts.planned.inodes_pos (by decide)
  blockBitmap := by
    rw [counts.blockBitmap, counts.totalBlocks]
    exact mul_pred_blocksFor_lt (Nat.zero_lt_of_lt counts.several) (by decide)

theorem Counts.admissible (counts : geometry.Counts count) : Admissible count := by
  refine ⟨counts.several, ?_⟩
  rw [← counts.exact.totalInodes]
  exact geometry.totalInodes.toNat_lt

variable (geometry)

def start : Region → Except Error UInt32
  | .superblock => .ok superblockBlock
  | .inodeTable => .ok inodeTableStart
  | .inodeBitmap => geometry.inodeBitmapStart
  | .blockBitmap => geometry.blockBitmapStart
  | .dataBlocks => geometry.dataStart

/-- Blocks of a region. -/
def length : Region → Nat
  | .superblock => 1
  | .inodeTable => geometry.inodeTableBlocks.toNat
  | .inodeBitmap => geometry.inodeBitmapBlocks.toNat
  | .blockBitmap => geometry.blockBitmapBlocks.toNat
  | .dataBlocks => geometry.dataBlocks.toNat

/-- The regions in the order of the device. -/
def regions : List Region := [.superblock, .inodeTable, .inodeBitmap, .blockBitmap, .dataBlocks]

/-- Where the regions begin, each behind the one before and the last one up to the device's end. -/
structure Partitioned (starts : Region → UInt32) : Prop where
  begins : ∀ region, geometry.start region = .ok (starts region)
  first : (starts .superblock).toNat = 0
  follows : regions.IsChain fun before next =>
    (starts next).toNat = (starts before).toNat + geometry.length before
  ends : (starts .dataBlocks).toNat + geometry.length .dataBlocks = geometry.totalBlocks.toNat
  /-- Each block of the device lies in one region, and no other block in any. -/
  shares : ∀ block region,
    block ∈ Finset.Ico (starts region).toNat ((starts region).toNat + geometry.length region) ↔
      block < geometry.totalBlocks.toNat ∧ geometry.regionOf block = region
  reserved : ∃ reserved, geometry.reservedBlocks = .ok reserved ∧
    reserved.toNat = (starts .dataBlocks).toNat + 1 ∧
    reserved.toNat ≤ geometry.totalBlocks.toNat

variable {geometry}

theorem Planned.partitioned (planned : geometry.Planned) :
    ∃ starts, geometry.Partitioned starts := by
  have filled := planned.blocks
  have room := planned.hasData
  obtain ⟨inodes, inodesBegun⟩ := inodeBitmapStart_exists room
  obtain ⟨units, unitsBegun⟩ := blockBitmapStart_exists room
  obtain ⟨data, dataBegun, dataPlace⟩ := dataStart_exists room
  obtain ⟨reserved, found, value⟩ := reservedBlocks_exists room
  have inodesPlace := toNat_inodeBitmapStart inodesBegun
  have unitsPlace := toNat_blockBitmapStart unitsBegun
  let starts : Region → UInt32
    | .superblock => superblockBlock
    | .inodeTable => inodeTableStart
    | .inodeBitmap => inodes
    | .blockBitmap => units
    | .dataBlocks => data
  have zero : superblockBlock.toNat = 0 := rfl
  have one : inodeTableStart.toNat = 1 := rfl
  have sum : geometry.metadata = 1 + geometry.inodeTableBlocks.toNat +
    geometry.inodeBitmapBlocks.toNat + geometry.blockBitmapBlocks.toNat := rfl
  refine ⟨starts, ?_, rfl, ?_, ?_, ?_, reserved, found, ?_, ?_⟩
  · intro region
    cases region with
    | superblock => rfl
    | inodeTable => rfl
    | inodeBitmap => exact inodesBegun
    | blockBitmap => exact unitsBegun
    | dataBlocks => exact dataBegun
  · simp only [regions, List.isChain_cons_cons, List.isChain_singleton, starts, length]
    exact ⟨one, inodesPlace, by omega, by omega, trivial⟩
  · exact dataPlace ▸ filled
  · intro block region
    rw [Finset.mem_Ico]
    cases region <;> simp only [starts, length, regionOf] <;> grind
  · rw [value, ← dataPlace]
  · exact value.trans_le room

/-- A device is planned exactly when it has more than `minBlocks` blocks and words to number its
inodes; otherwise its size is refused.  A plan is exact, its regions share out the device, and the
superblock that is made for it records it. -/
theorem ofSize_partitions (bytes : Nat) :
    ((∃ geometry, ofSize bytes = .ok geometry) ↔ Admissible (bytes / blockSize)) ∧
    (∀ error, ofSize bytes = .error error → error = .tooSmall (bytes / blockSize)) ∧
    ∀ geometry, ofSize bytes = .ok geometry →
      geometry.Exact (bytes / blockSize) ∧ (∃ starts, geometry.Partitioned starts) ∧
      ∃ superblock, Superblock.fresh geometry = .ok superblock ∧
        superblock.geometry = geometry := by
  refine ⟨⟨?_, ofSize_exists⟩, fun _ => ofSize_eq_error, fun geometry sized => ?_⟩
  · rintro ⟨geometry, sized⟩
    exact (ofSize_counts sized).admissible
  · have counts := ofSize_counts sized
    obtain ⟨superblock, made, _, same, _⟩ := Superblock.fresh_exists counts.planned
    exact ⟨counts.exact, counts.planned.partitioned, superblock, made, same⟩

/-- The largest device that is planned, with a partial block at its end, and the next one. -/
theorem ofSize_partitions_largest :
    (∃ geometry starts superblock, ofSize (4294967280 * blockSize + 4095) = .ok geometry ∧
      geometry.Exact 4294967280 ∧ geometry.Partitioned starts ∧
      Superblock.fresh geometry = .ok superblock ∧ superblock.geometry = geometry) ∧
    ofSize (4294967281 * blockSize) = .error (.tooSmall 4294967281) := by
  have last : (4294967280 * blockSize + 4095) / blockSize = 4294967280 := by decide
  have next : 4294967281 * blockSize / blockSize = 4294967281 := by decide
  constructor
  · obtain ⟨planned, _, plan⟩ := ofSize_partitions (4294967280 * blockSize + 4095)
    rw [last] at planned plan
    obtain ⟨geometry, sized⟩ := planned.mpr ⟨by decide, by decide⟩
    obtain ⟨counted, ⟨starts, tiled⟩, superblock, made, same⟩ := plan geometry sized
    exact ⟨geometry, starts, superblock, sized, counted, tiled, made, same⟩
  · obtain ⟨planned, refused, _⟩ := ofSize_partitions (4294967281 * blockSize)
    rw [next] at planned refused
    cases sized : ofSize (4294967281 * blockSize) with
    | ok geometry => exact absurd (planned.mp ⟨geometry, sized⟩).2 (by decide)
    | error error => rw [refused error sized]

end Geometry

end BlockFs
