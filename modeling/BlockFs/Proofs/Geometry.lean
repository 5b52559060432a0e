import BlockFs.Superblock
import BlockFs.Proofs.Word

/-!
The regions of a device lie one behind the other and fill it.

`Geometry.Counts` holds of every geometry that `Geometry.ofSize` answers, and `Geometry.Planned` is
what most proofs need of it; `Geometry.HasData` is what a mount demands of a recorded one, and is
enough for the starts of the regions to be words.
-/

namespace BlockFs

theorem le_mul_blocksFor (units perBlock : Nat) (positive : 0 < perBlock) :
    units ≤ perBlock * blocksFor units perBlock := by
  have split := Nat.div_add_mod (units + (perBlock - 1)) perBlock
  have rest := Nat.mod_lt (units + (perBlock - 1)) positive
  change units ≤ perBlock * ((units + (perBlock - 1)) / perBlock)
  omega

namespace Geometry

variable (geometry : Geometry)

/-- Blocks in front of the data blocks. -/
def metadata : Nat :=
  1 + geometry.inodeTableBlocks.toNat + geometry.inodeBitmapBlocks.toNat +
    geometry.blockBitmapBlocks.toNat

def HasData : Prop := geometry.metadata < geometry.totalBlocks.toNat

/-- The region that a block belongs to; the data blocks come last. -/
def regionOf (block : Nat) : Region :=
  if block ≤ superblockBlock.toNat then .superblock
  else if block < 1 + geometry.inodeTableBlocks.toNat then .inodeTable
  else if block < 1 + geometry.inodeTableBlocks.toNat + geometry.inodeBitmapBlocks.toNat then
    .inodeBitmap
  else if block < geometry.metadata then .blockBitmap
  else .dataBlocks

structure Planned : Prop where
  inodes : geometry.totalInodes.toNat = geometry.inodeTableBlocks.toNat * inodesPerBlock
  tableBlocks : 0 < geometry.inodeTableBlocks.toNat
  inodeBits : geometry.totalInodes.toNat ≤ bitsPerBlock * geometry.inodeBitmapBlocks.toNat
  blockBits : geometry.totalBlocks.toNat ≤ bitsPerBlock * geometry.blockBitmapBlocks.toNat
  dataBlocks : 0 < geometry.dataBlocks.toNat
  blocks : geometry.metadata + geometry.dataBlocks.toNat = geometry.totalBlocks.toNat

/-- The plan of a device of so many blocks: every word is the number that was counted. -/
structure Counts (blocks : Nat) : Prop where
  totalBlocks : geometry.totalBlocks.toNat = blocks
  tableBlocks : geometry.inodeTableBlocks.toNat = blocksFor blocks inodesPerBlock
  totalInodes : geometry.totalInodes.toNat = geometry.inodeTableBlocks.toNat * inodesPerBlock
  inodeBitmap : geometry.inodeBitmapBlocks.toNat =
    blocksFor geometry.totalInodes.toNat bitsPerBlock
  blockBitmap : geometry.blockBitmapBlocks.toNat = blocksFor blocks bitsPerBlock
  dataBlocks : 0 < geometry.dataBlocks.toNat
  filled : geometry.metadata + geometry.dataBlocks.toNat = blocks
  several : minBlocks < blocks

variable {geometry}

theorem Planned.hasData (planned : geometry.Planned) : geometry.HasData := by
  have positive := planned.dataBlocks
  have filled := planned.blocks
  unfold HasData
  omega

theorem Planned.inodes_pos (planned : geometry.Planned) : 0 < geometry.totalInodes.toNat := by
  rw [planned.inodes]
  exact Nat.mul_pos planned.tableBlocks (by decide)

theorem ofSize_eq_error {bytes : Nat} {error : Error} (refused : ofSize bytes = .error error) :
    error = .tooSmall (bytes / blockSize) := by
  unfold ofSize at refused
  dsimp only at refused
  split at refused
  · exact (Except.error.inj refused).symm
  · contradiction

/-- No number of a plan leaves the range of words. -/
theorem ofSize_counts {bytes : Nat} (sized : ofSize bytes = .ok geometry) :
    geometry.Counts (bytes / blockSize) := by
  unfold ofSize at sized
  dsimp only at sized
  split at sized
  · contradiction
  · rename_i accepted
    generalize bytes / blockSize = blocks at sized accepted ⊢
    generalize table_eq : blocksFor blocks inodesPerBlock = table at sized accepted
    generalize inodeBitmap_eq : blocksFor (table * inodesPerBlock) bitsPerBlock = inodeBitmap
      at sized accepted
    generalize blockBitmap_eq : blocksFor blocks bitsPerBlock = blockBitmap at sized accepted
    have few : minBlocks < blocks ∧ blocks < UInt32.size ∧
        1 + table + inodeBitmap + blockBitmap < blocks ∧ table * inodesPerBlock < UInt32.size := by
      omega
    obtain ⟨many, small, room, inodes⟩ := few
    have blocksWord := toNat_ofNat_of_lt small
    have inodesWord := toNat_ofNat_of_lt inodes
    have tableWord := toNat_ofNat_of_lt (show table < UInt32.size by omega)
    have inodeBitmapWord := toNat_ofNat_of_lt (show inodeBitmap < UInt32.size by omega)
    have blockBitmapWord := toNat_ofNat_of_lt (show blockBitmap < UInt32.size by omega)
    have dataWord := toNat_ofNat_of_lt
      (show blocks - (1 + table + inodeBitmap + blockBitmap) < UInt32.size by omega)
    rw [Except.ok.injEq] at sized
    subst sized
    constructor
    case totalBlocks => exact blocksWord
    case tableBlocks => exact tableWord.trans table_eq.symm
    case totalInodes => rw [inodesWord, tableWord]
    case inodeBitmap => rw [inodeBitmapWord, inodesWord, inodeBitmap_eq]
    case blockBitmap => rw [blockBitmapWord, blockBitmap_eq]
    case dataBlocks => rw [dataWord]; omega
    case filled => rw [metadata, tableWord, inodeBitmapWord, blockBitmapWord, dataWord]; omega
    case several => exact many

theorem Counts.planned {blocks : Nat} (counts : geometry.Counts blocks) : geometry.Planned where
  inodes := counts.totalInodes
  tableBlocks := by
    have covered := le_mul_blocksFor blocks inodesPerBlock (by decide)
    rw [counts.tableBlocks]
    apply Nat.pos_of_ne_zero
    intro none
    rw [none, Nat.mul_zero] at covered
    exact absurd counts.several (Nat.not_lt.mpr (Nat.le_trans covered (Nat.zero_le _)))
  inodeBits := by
    rw [counts.inodeBitmap]
    exact le_mul_blocksFor _ _ (by decide)
  blockBits := by
    rw [counts.blockBitmap, counts.totalBlocks]
    exact le_mul_blocksFor _ _ (by decide)
  dataBlocks := counts.dataBlocks
  blocks := counts.filled.trans counts.totalBlocks.symm

theorem ofSize_planned {bytes : Nat} (sized : ofSize bytes = .ok geometry) :
    geometry.Planned ∧ geometry.totalBlocks.toNat = bytes / blockSize :=
  ⟨(ofSize_counts sized).planned, (ofSize_counts sized).totalBlocks⟩

theorem toNat_inodeBitmapStart {start : UInt32} (begun : geometry.inodeBitmapStart = .ok start) :
    start.toNat = 1 + geometry.inodeTableBlocks.toNat :=
  toNat_of_narrow begun

theorem inodeBitmapStart_exists (room : geometry.HasData) :
    ∃ start, geometry.inodeBitmapStart = .ok start := by
  have bound := geometry.totalBlocks.toNat_lt
  unfold HasData metadata at room
  obtain ⟨start, begun, _⟩ := narrow_exists
    (inodeTableStart.toNat + geometry.inodeTableBlocks.toNat)
    (show 1 + geometry.inodeTableBlocks.toNat < 2 ^ 32 by omega)
  exact ⟨start, begun⟩

theorem blockBitmapStart_exists (room : geometry.HasData) :
    ∃ start, geometry.blockBitmapStart = .ok start := by
  have bound := geometry.totalBlocks.toNat_lt
  obtain ⟨before, begun⟩ := inodeBitmapStart_exists room
  have place := toNat_inodeBitmapStart begun
  unfold HasData metadata at room
  obtain ⟨start, narrowed, _⟩ := narrow_exists
    (before.toNat + geometry.inodeBitmapBlocks.toNat) (show _ < 2 ^ 32 by omega)
  refine ⟨start, ?_⟩
  rw [blockBitmapStart, begun]
  exact narrowed

theorem toNat_blockBitmapStart {start : UInt32} (begun : geometry.blockBitmapStart = .ok start) :
    start.toNat = 1 + geometry.inodeTableBlocks.toNat + geometry.inodeBitmapBlocks.toNat := by
  cases before : geometry.inodeBitmapStart with
  | error error =>
      rw [blockBitmapStart, before] at begun
      contradiction
  | ok place =>
      rw [blockBitmapStart, before] at begun
      rw [toNat_of_narrow begun, toNat_inodeBitmapStart before]

theorem dataStart_exists (room : geometry.HasData) :
    ∃ start, geometry.dataStart = .ok start ∧ start.toNat = geometry.metadata := by
  have bound := geometry.totalBlocks.toNat_lt
  obtain ⟨before, begun⟩ := blockBitmapStart_exists room
  have place := toNat_blockBitmapStart begun
  unfold HasData at room
  unfold metadata at room ⊢
  rw [← place] at room ⊢
  obtain ⟨start, narrowed, value⟩ := narrow_exists
    (before.toNat + geometry.blockBitmapBlocks.toNat) (show _ < 2 ^ 32 by omega)
  refine ⟨start, ?_, value⟩
  rw [dataStart, begun]
  exact narrowed

theorem reservedBlocks_exists (room : geometry.HasData) :
    ∃ reserved, geometry.reservedBlocks = .ok reserved ∧
      reserved.toNat = geometry.metadata + 1 := by
  have bound := geometry.totalBlocks.toNat_lt
  obtain ⟨before, begun, place⟩ := dataStart_exists room
  unfold HasData at room
  rw [← place] at room ⊢
  obtain ⟨reserved, narrowed, value⟩ := narrow_exists
    (before.toNat + 1) (show _ < 2 ^ 32 by omega)
  refine ⟨reserved, ?_, value⟩
  rw [reservedBlocks, begun]
  exact narrowed

theorem toNat_reservedBlocks {reserved : UInt32} (room : geometry.HasData)
    (found : geometry.reservedBlocks = .ok reserved) :
    reserved.toNat = geometry.metadata + 1 := by
  obtain ⟨same, exact, value⟩ := reservedBlocks_exists room
  rw [found, Except.ok.injEq] at exact
  rw [exact, value]

end Geometry

namespace Superblock

theorem toNat_dataBlocks (superblock : Superblock) :
    superblock.geometry.dataBlocks.toNat =
      superblock.blocks.toNat - superblock.geometry.metadata :=
  toNat_ofNat_of_lt (Nat.lt_of_le_of_lt (Nat.sub_le _ _) superblock.blocks.toNat_lt)

theorem dataBlocks_ne_zero {superblock : Superblock} (room : superblock.geometry.HasData) :
    superblock.geometry.dataBlocks ≠ 0 := by
  intro none
  have value := superblock.toNat_dataBlocks
  change superblock.geometry.metadata < superblock.blocks.toNat at room
  rw [none] at value
  exact absurd value.symm (Nat.sub_ne_zero_of_lt room)

theorem validate_eq_ok {superblock : Superblock} (valid : superblock.validate = .ok ()) :
    superblock.geometry.HasData ∧ superblock.freeInodes < superblock.inodes ∧
      superblock.freeBlocks < superblock.geometry.dataBlocks := by
  unfold validate at valid
  dsimp only at valid
  split at valid
  · contradiction
  · rename_i nonzero
    split at valid
    · contradiction
    · rename_i inodes
      split at valid
      · contradiction
      · rename_i blocks
        have positive : 0 < superblock.geometry.dataBlocks.toNat :=
          Nat.pos_of_ne_zero fun zero => nonzero (UInt32.toNat_inj.mp zero)
        have value := superblock.toNat_dataBlocks
        refine ⟨?_, UInt32.not_le.mp inodes, UInt32.not_le.mp blocks⟩
        change superblock.geometry.metadata < superblock.blocks.toNat
        omega

theorem validate_of {superblock : Superblock}
    (inodes : superblock.freeInodes < superblock.inodes)
    (blocks : superblock.freeBlocks < superblock.geometry.dataBlocks) :
    superblock.validate = .ok () := by
  have nonzero : superblock.geometry.dataBlocks ≠ 0 := by
    intro zero
    rw [zero] at blocks
    exact absurd (UInt32.lt_iff_toNat_lt.mp blocks) (Nat.not_lt_zero _)
  unfold validate
  dsimp only
  rw [if_neg nonzero, if_neg (UInt32.not_le.mpr inodes), if_neg (UInt32.not_le.mpr blocks)]

theorem validate_of_inodes {superblock : Superblock}
    (data : superblock.geometry.dataBlocks ≠ 0)
    (full : superblock.inodes ≤ superblock.freeInodes) : superblock.validate =
      .error (.outOfRange superblock.freeInodes.toNat superblock.inodes.toNat) := by
  unfold validate
  dsimp only
  rw [if_neg data, if_pos full]

theorem validate_of_blocks {superblock : Superblock}
    (data : superblock.geometry.dataBlocks ≠ 0)
    (inodes : superblock.freeInodes < superblock.inodes)
    (full : superblock.geometry.dataBlocks ≤ superblock.freeBlocks) : superblock.validate =
      .error (.outOfRange superblock.freeBlocks.toNat superblock.geometry.dataBlocks.toNat) := by
  unfold validate
  dsimp only
  rw [if_neg data, if_neg (UInt32.not_le.mpr inodes), if_pos full]

/-- The superblock of an empty filesystem records the geometry that it was made for. -/
theorem fresh_exists {geometry : Geometry} (planned : geometry.Planned) :
    ∃ superblock, fresh geometry = .ok superblock ∧ superblock.magic = formatMagic ∧
      superblock.geometry = geometry ∧
      superblock.freeInodes.toNat + 1 = geometry.totalInodes.toNat ∧
      superblock.freeBlocks.toNat + 1 = geometry.dataBlocks.toNat := by
  obtain ⟨inodes, inodesBefore, inodesValue⟩ := predecessor_exists planned.inodes_pos
  obtain ⟨blocks, blocksBefore, blocksValue⟩ := predecessor_exists planned.dataBlocks
  have made : fresh geometry = .ok {
      magic := formatMagic
      blocks := geometry.totalBlocks
      inodes := geometry.totalInodes
      inodeTableBlocks := geometry.inodeTableBlocks
      inodeBitmapBlocks := geometry.inodeBitmapBlocks
      blockBitmapBlocks := geometry.blockBitmapBlocks
      freeInodes := inodes
      freeBlocks := blocks } := by
    simp only [fresh, inodesBefore, blocksBefore, bind, Except.bind, pure, Except.pure]
  refine ⟨_, made, rfl, ?_, inodesValue, blocksValue⟩
  have data : UInt32.ofNat (geometry.totalBlocks.toNat - geometry.metadata) =
      geometry.dataBlocks := by
    rw [← planned.blocks, Nat.add_sub_cancel_left, UInt32.ofNat_toNat]
  exact congrArg (fun dataBlocks => { geometry with dataBlocks }) data

theorem fresh_eq_ok {geometry : Geometry} {superblock : Superblock} (planned : geometry.Planned)
    (made : fresh geometry = .ok superblock) :
    superblock.magic = formatMagic ∧ superblock.geometry = geometry ∧
      superblock.freeInodes.toNat + 1 = geometry.totalInodes.toNat ∧
      superblock.freeBlocks.toNat + 1 = geometry.dataBlocks.toNat := by
  obtain ⟨same, again, facts⟩ := fresh_exists planned
  cases made.symm.trans again
  exact facts

end Superblock

end BlockFs
