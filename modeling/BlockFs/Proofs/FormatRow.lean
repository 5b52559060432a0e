import BlockFs.Proofs.EmptyFilesystem
import BlockFs.Proofs.Mount.SyncRow

namespace BlockFs

open Engine

/-- The error of a format that has no memory for its buffers. -/
def Geometry.Short (geometry : Geometry) (bufferLimit : Nat) (error : Error) : Prop :=
  ¬ geometry.BuffersFit bufferLimit ∧ ∃ bytes, error = .outOfMemory bytes

theorem Geometry.Short.of_lt {geometry : Geometry} {limit needed bytes : Nat}
    (small : limit < needed) (uses : geometry.BuffersFit limit → needed ≤ limit) :
    geometry.Short limit (.outOfMemory bytes) :=
  ⟨fun fit => absurd (uses fit) (Nat.not_le.mpr small), bytes, rfl⟩

theorem Bitmap.limited_fresh {bufferLimit : Nat} {blocks length used : UInt32} {bitmap : Bitmap}
    {early : Nat → Error → Prop} (made : fresh bufferLimit blocks length used = .ok bitmap)
    (short : ∀ limit < blocks.toNat * blockSize, ∀ bytes, early limit (.outOfMemory bytes)) :
    Limited early (fun limit => fresh limit blocks length used) bitmap := by
  intro limit
  unfold fresh at made ⊢
  dsimp only at made ⊢
  split at made
  · split at made
    · rename_i fits _
      rw [dif_pos fits]
      split
      · exact .inl made
      · exact .inr ⟨_, short _ (Nat.lt_of_not_le ‹_›) _, rfl⟩
    · contradiction
  · contradiction

namespace Format

/-- What a format writes for a geometry: the metadata of an empty filesystem, its inode table, and
the place of the root directory's listing. -/
structure Layout (geometry : Geometry) where
  mirror : Mount
  plan : SyncPlan mirror
  table : List Block
  listing : UInt32
  empty : mirror.Empty geometry
  table_eq : inodeTable geometry = .ok table
  listing_eq : geometry.dataStart = .ok listing

variable {geometry : Geometry}

theorem layout_exists (planned : geometry.Planned) : Nonempty (Layout geometry) := by
  obtain ⟨superblock, made, _⟩ := Superblock.fresh_exists planned
  obtain ⟨inodes, inodesMade⟩ := Bitmap.fresh_exists 1 planned.inodeBits (Nat.le_refl _)
  obtain ⟨reserved, found, _⟩ := Geometry.reservedBlocks_exists planned.hasData
  obtain ⟨blocks, blocksMade⟩ := Bitmap.fresh_exists reserved planned.blockBits (Nat.le_refl _)
  obtain ⟨listing, begun, _⟩ := Geometry.dataStart_exists planned.hasData
  obtain ⟨_, _, tableMade⟩ := inodeTable_eq_ok begun
  have empty : Mount.Empty geometry ⟨superblock, inodes, blocks, .root listing, 0, 0⟩ :=
    ⟨made, ⟨_, inodesMade⟩, _, reserved, found, blocksMade⟩
  obtain ⟨plan⟩ := (empty.shaped planned).syncPlan
  exact ⟨⟨_, plan, _, listing, empty, tableMade, begun⟩⟩

namespace Layout

variable (layout : Layout geometry)

def row : List Placement :=
  ⟨.superblock, superblockBlock.toNat, layout.mirror.superblock.encode⟩ ::
    (Placement.span .inodeTable Geometry.inodeTableStart.toNat layout.table ++
      (Placement.span .inodeBitmap layout.plan.inodeStart.toNat layout.plan.inodeBlocks ++
        (Placement.span .blockBitmap layout.plan.blockStart.toNat layout.plan.blockBlocks ++
          [⟨.dataBlocks, layout.listing.toNat, Listing.empty⟩])))

/-- Where the regions of a layout begin, and how long they are. -/
structure Tiles : Prop where
  table : layout.table.length = geometry.inodeTableBlocks.toNat
  inodeStart : layout.plan.inodeStart.toNat = 1 + geometry.inodeTableBlocks.toNat
  inodes : layout.plan.inodeBlocks.length = geometry.inodeBitmapBlocks.toNat
  blockStart : layout.plan.blockStart.toNat =
    1 + geometry.inodeTableBlocks.toNat + geometry.inodeBitmapBlocks.toNat
  blocks : layout.plan.blockBlocks.length = geometry.blockBitmapBlocks.toNat
  listing : layout.listing.toNat = geometry.metadata

theorem tiles (planned : geometry.Planned) : layout.Tiles := by
  obtain ⟨mirror, plan, table, listing, empty, table_eq, listing_eq⟩ := layout
  obtain ⟨_, begun, place⟩ := Geometry.dataStart_exists planned.hasData
  cases listing_eq.symm.trans begun
  have tableLength := length_inodeTable planned.hasData table_eq
  obtain rfl := empty.geometry_eq planned
  refine ⟨tableLength, plan.inodeStart_toNat, plan.inodeBlocks_length, ?_,
    plan.blockBlocks_length (empty.shaped planned), place⟩
  exact plan.blockStart_toNat.trans (by rw [plan.inodeStart_toNat]; rfl)

/-- The row has every block up to the listing, in the order of the device. -/
theorem map_block_row (planned : geometry.Planned) :
    layout.row.map Placement.block = List.range (geometry.metadata + 1) := by
  have tiles := layout.tiles planned
  have zero : superblockBlock.toNat = 0 := rfl
  have one : Geometry.inodeTableStart.toNat = 1 := rfl
  have last : List.range' geometry.metadata 1 = [geometry.metadata] := rfl
  simp only [row, List.map_cons, List.map_append, Placement.map_block_span, List.map_nil,
    tiles.table, tiles.inodeStart, tiles.inodes, tiles.blockStart, tiles.blocks, tiles.listing,
    zero, one]
  rw [← last, Geometry.metadata, List.range'_append_1, List.range'_append_1, List.range'_append_1,
    List.range_eq_range', List.range'_succ]
  congr 2
  omega

theorem nodup_row (planned : geometry.Planned) : (layout.row.map Placement.block).Nodup := by
  rw [layout.map_block_row planned]
  exact List.nodup_range

theorem region_row (planned : geometry.Planned) {placement : Placement}
    (member : placement ∈ layout.row) :
    placement.region = geometry.regionOf placement.block := by
  obtain ⟨table, inodeStart, inodes, blockStart, blocks, listing⟩ := layout.tiles planned
  have zero : superblockBlock.toNat = 0 := rfl
  have one : Geometry.inodeTableStart.toNat = 1 := rfl
  have metadata : geometry.metadata = 1 + geometry.inodeTableBlocks.toNat +
    geometry.inodeBitmapBlocks.toNat + geometry.blockBitmapBlocks.toNat := rfl
  unfold Geometry.regionOf
  simp only [row, List.mem_cons, List.mem_append, List.not_mem_nil, or_false] at member
  rcases member with rfl | inside | inside | inside | rfl
  · rw [if_pos (Nat.le_refl _)]
  · rcases Placement.region_span inside with ⟨region, low, high⟩
    rw [region, if_neg (by omega), if_pos (by omega)]
  · rcases Placement.region_span inside with ⟨region, low, high⟩
    rw [region, if_neg (by omega), if_neg (by omega), if_pos (by omega)]
  · rcases Placement.region_span inside with ⟨region, low, high⟩
    rw [region, if_neg (by omega), if_neg (by omega), if_neg (by omega), if_pos (by omega)]
  · dsimp only
    rw [if_neg (by omega), if_neg (by omega), if_neg (by omega), if_neg (by omega)]

end Layout

variable {δ : Type} [BlockDevice δ]

def regions (geometry : Geometry) (superblock : Superblock) : Engine δ Unit := do
  writeSuperblock superblock
  writeInodeTable geometry
  writeInodeBitmap geometry
  writeBlockBitmap geometry
  writeListing geometry

theorem performs_writeSuperblock (superblock : Superblock) (early : Nat → Error → Prop) :
    Performs early .writeBack [⟨.superblock, superblockBlock.toNat, superblock.encode⟩] ()
      (writeSuperblock superblock : Engine δ Unit) :=
  (performs_report _).skip (performs_writeBlock _)

namespace Layout

variable (planned : geometry.Planned) (layout : Layout geometry)

include planned

theorem performs_writeInodeTable :
    Performs geometry.Short .writeBack
      (Placement.span .inodeTable Geometry.inodeTableStart.toNat layout.table) ()
      (writeInodeTable geometry : Engine δ Unit) := by
  have length := (layout.tiles planned).table
  have wordSize : UInt32.size = 2 ^ 32 := rfl
  have bound := geometry.totalBlocks.toNat_lt
  have one : Geometry.inodeTableStart.toNat = 1 := rfl
  have room := planned.hasData
  unfold Geometry.HasData Geometry.metadata at room
  exact (performs_reserve fun _ small => .of_lt small (·.table)).skip <|
    (performs_lift layout.table_eq).skip <| (performs_report _).skip <|
    performs_writeBlocks (by omega)

theorem performs_writeInodeBitmap :
    Performs geometry.Short .writeBack
      (Placement.span .inodeBitmap layout.plan.inodeStart.toNat layout.plan.inodeBlocks) ()
      (writeInodeBitmap geometry : Engine δ Unit) := by
  have tiles := layout.tiles planned
  have start := tiles.inodeStart
  have length := tiles.inodes
  have wordSize : UInt32.size = 2 ^ 32 := rfl
  have bound := geometry.totalBlocks.toNat_lt
  have room := planned.hasData
  unfold Geometry.HasData Geometry.metadata at room
  obtain ⟨_, made⟩ := layout.empty.inodes
  have begun := layout.plan.inodeStart_eq
  rw [layout.empty.geometry_eq planned] at begun
  have map := Bitmap.limited_fresh made
    fun limit small _ => Geometry.Short.of_lt small (·.inodes)
  exact performs_lift_limit map <| (performs_report _).skip <| (performs_lift begun).skip <|
    performs_writeSpan layout.plan.inodeBlocks_eq (by omega)

theorem performs_writeBlockBitmap :
    Performs geometry.Short .writeBack
      (Placement.span .blockBitmap layout.plan.blockStart.toNat layout.plan.blockBlocks) ()
      (writeBlockBitmap geometry : Engine δ Unit) := by
  have tiles := layout.tiles planned
  have start := tiles.blockStart
  have length := tiles.blocks
  have wordSize : UInt32.size = 2 ^ 32 := rfl
  have bound := geometry.totalBlocks.toNat_lt
  have room := planned.hasData
  unfold Geometry.HasData Geometry.metadata at room
  obtain ⟨_, reserved, found, made⟩ := layout.empty.blocks
  have begun := layout.plan.blockStart_eq
  rw [layout.empty.geometry_eq planned] at begun
  have map := Bitmap.limited_fresh made
    fun limit small _ => Geometry.Short.of_lt small (·.blocks)
  exact (performs_lift found).skip <| performs_lift_limit map <| (performs_report _).skip <|
    (performs_lift begun).skip <| performs_writeSpan layout.plan.blockBlocks_eq (by omega)

omit planned in
theorem performs_writeListing (early : Nat → Error → Prop) :
    Performs early .writeBack [⟨.dataBlocks, layout.listing.toNat, Listing.empty⟩] ()
      (writeListing geometry : Engine δ Unit) :=
  (performs_lift layout.listing_eq).skip <| (performs_report _).skip (performs_writeBlock _)

theorem performs_regions :
    Performs geometry.Short .writeBack layout.row ()
      (regions geometry layout.mirror.superblock : Engine δ Unit) :=
  (performs_writeSuperblock _ _).bind <| (layout.performs_writeInodeTable planned).bind <|
    (layout.performs_writeInodeBitmap planned).bind <|
    (layout.performs_writeBlockBitmap planned).bind <| layout.performs_writeListing _

end Layout

end Format

end BlockFs
