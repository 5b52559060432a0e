import BlockFs.Proofs.Engine.Healthy
import BlockFs.Proofs.Mount.Lifetime

namespace BlockFs

open Engine

variable {δ : Type} [BlockDevice δ] [LawfulBlockDevice δ] {host : Host δ} {limit : Nat}

theorem completes_readInode {superblock : Superblock} {number : UInt32} {inode : Inode}
    (healthy : Healthy limit host.device) (room : blockSize ≤ host.bufferLimit)
    (inside : number < superblock.inodes)
    (covered : (Inode.address number).block.toNat < limit)
    (stored : (window (host.disk (Inode.address number).block.toNat).bytes
      (Inode.address number).offset inodeSize >>= Inode.decode) = .ok inode) :
    Completes limit Host.Untouched (superblock.readInode number) host inode := by
  unfold Superblock.readInode
  rw [if_neg (UInt32.not_le.mpr inside)]
  cases cut : window (host.disk (Inode.address number).block.toNat).bytes
      (Inode.address number).offset inodeSize with
  | error error =>
      rw [cut] at stored
      contradiction
  | ok record =>
      rw [cut] at stored
      refine (completes_readBlock healthy room covered).bind .trans fun after healthy _ => ?_
      exact (completes_lift healthy cut).bind .trans fun after healthy _ =>
        completes_lift healthy stored

theorem completes_writeInode {mount : Mount} {number : UInt32} (inode : Inode)
    (durability : Durability) (healthy : Healthy limit host.device)
    (room : blockSize ≤ host.bufferLimit) (inside : number < mount.superblock.inodes)
    (covered : (Inode.address number).block.toNat < limit) :
    Completes limit Host.Alike (mount.writeInode number inode durability) host
      (if number = rootInode then { mount with root := inode } else mount) := by
  unfold Mount.writeInode
  rw [if_neg (UInt32.not_le.mpr inside)]
  obtain ⟨changed, spliced⟩ :=
    Inode.splice_exists (host.disk (Inode.address number).block.toNat) number inode
  refine (completes_readBlock healthy room covered).alike.bind .trans fun _ healthy _ => ?_
  refine (completes_lift healthy spliced).alike.bind .trans fun _ healthy _ => ?_
  exact (completes_writeBlock healthy covered changed).bind .trans fun _ healthy _ =>
    (completes_pure healthy _).alike

theorem completes_loadBitmap {region : Region} {start blocks length : UInt32} {bitmap : Bitmap}
    (healthy : Healthy limit host.device) (room : blocks.toNat * blockSize ≤ host.bufferLimit)
    (covered : start.toNat + blocks.toNat ≤ limit)
    (words : start.toNat + blocks.toNat ≤ UInt32.size)
    (loaded : Bitmap.load (spanBytes host.disk start.toNat blocks.toNat) length = .ok bitmap) :
    Completes limit Host.Untouched (loadBitmap region start blocks length) host bitmap :=
  (completes_readSpan healthy room covered words).bind .trans fun _ healthy _ =>
    completes_lift healthy loaded

/-- Where a map with at least one unit fits, a block does. -/
theorem room_of_load {bufferLimit start blocks : Nat} {length : UInt32} {disk : Nat → Block}
    {bitmap : Bitmap} (loaded : Bitmap.load (spanBytes disk start blocks) length = .ok bitmap)
    (some : 0 < length) (room : blocks * blockSize ≤ bufferLimit) : blockSize ≤ bufferLimit := by
  have bits := (Bitmap.load_eq_ok_iff.mp loaded).1
  have positive := UInt32.lt_iff_toNat_lt.mp some
  rw [size_spanBytes] at bits
  have one : 1 ≤ blocks := by
    apply Nat.pos_of_ne_zero
    rintro rfl
    rw [Nat.zero_mul] at bits
    omega
  exact Nat.le_trans (Nat.le_mul_of_pos_left blockSize one) room

theorem completes_mount {mirror : Mount} {root : Inode} (healthy : Healthy limit host.device)
    (persisted : mirror.Persisted host.disk) (valid : mirror.superblock.validate = .ok ())
    (covered : mirror.geometry.metadata < limit)
    (inodeRoom : mirror.geometry.inodeBitmapBlocks.toNat * blockSize ≤ host.bufferLimit)
    (blockRoom : mirror.geometry.blockBitmapBlocks.toNat * blockSize ≤ host.bufferLimit)
    (stored : (window (host.disk (Inode.address rootInode).block.toNat).bytes
      (Inode.address rootInode).offset inodeSize >>= Inode.decode) = .ok root) :
    Completes limit Host.Untouched mount host
      { mirror with root, generation := 0, synced := 0 } := by
  obtain ⟨superblock, ⟨inodeStart, inodeBegun, inodes⟩, blockStart, blockBegun, blocks⟩ := persisted
  obtain ⟨hasData, fewer, _⟩ := Superblock.validate_eq_ok valid
  have inodePlace := Geometry.toNat_inodeBitmapStart inodeBegun
  have blockPlace := Geometry.toNat_blockBitmapStart blockBegun
  have bound := mirror.superblock.blocks.toNat_lt
  have zero : superblockBlock.toNat = 0 := rfl
  have first : (Inode.address rootInode).block.toNat = 1 := rfl
  change inodeStart.toNat = 1 + mirror.superblock.inodeTableBlocks.toNat at inodePlace
  change blockStart.toNat = 1 + mirror.superblock.inodeTableBlocks.toNat +
    mirror.superblock.inodeBitmapBlocks.toNat at blockPlace
  change 1 + mirror.superblock.inodeTableBlocks.toNat + mirror.superblock.inodeBitmapBlocks.toNat +
    mirror.superblock.blockBitmapBlocks.toNat < limit at covered
  change 1 + mirror.superblock.inodeTableBlocks.toNat + mirror.superblock.inodeBitmapBlocks.toNat +
    mirror.superblock.blockBitmapBlocks.toNat < mirror.superblock.blocks.toNat at hasData
  have wordSize : UInt32.size = 2 ^ 32 := rfl
  have rootInside : rootInode < mirror.superblock.inodes :=
    UInt32.lt_of_le_of_lt UInt32.zero_le fewer
  have room := room_of_load inodes rootInside inodeRoom
  have kept := Host.Untouched.refl host
  refine (completes_readBlock healthy room (by omega)).thread .trans kept fun _ healthy kept => ?_
  refine (completes_lift healthy superblock).thread .trans kept fun _ healthy kept => ?_
  refine (completes_lift healthy valid).thread .trans kept fun _ healthy kept => ?_
  refine (completes_report healthy _).thread .trans kept fun _ healthy kept => ?_
  refine (completes_lift healthy inodeBegun).thread .trans kept fun _ healthy kept => ?_
  refine (completes_loadBitmap healthy (by rw [kept.bufferLimit]; exact inodeRoom) (by omega)
    (by omega) (by rw [kept.disk]; exact inodes)).thread .trans kept fun _ healthy kept => ?_
  refine (completes_lift healthy blockBegun).thread .trans kept fun _ healthy kept => ?_
  refine (completes_loadBitmap healthy (by rw [kept.bufferLimit]; exact blockRoom) (by omega)
    (by omega) (by rw [kept.disk]; exact blocks)).thread .trans kept fun _ healthy kept => ?_
  refine (completes_readInode healthy (by rwa [kept.bufferLimit]) rootInside (by omega)
    (by rw [kept.disk]; exact stored)).thread .trans kept fun _ healthy _ => ?_
  exact (completes_report healthy _).bind .trans fun _ healthy _ => completes_pure healthy _

/-- A valid superblock with maps behind it is all that a mount needs: any record does for the root
directory. -/
theorem Mount.Persisted.completes_mount {mirror : Mount} (persisted : mirror.Persisted host.disk)
    (valid : mirror.superblock.validate = .ok ()) (healthy : Healthy limit host.device)
    (covered : mirror.geometry.metadata < limit)
    (inodeRoom : mirror.geometry.inodeBitmapBlocks.toNat * blockSize ≤ host.bufferLimit)
    (blockRoom : mirror.geometry.blockBitmapBlocks.toNat * blockSize ≤ host.bufferLimit) :
    ∃ root, Completes limit Host.Untouched BlockFs.mount host
      { mirror with root, generation := 0, synced := 0 } := by
  obtain ⟨record, root, cut, decoded⟩ := Inode.decode_window_exists
    (host.disk (Inode.address rootInode).block.toNat) rootInode
  exact ⟨root, BlockFs.completes_mount healthy persisted valid covered inodeRoom blockRoom
    (by rw [cut]; exact decoded)⟩

theorem mount_refuses {stored : Superblock} {error : Error}
    (decoded : Superblock.decode (host.disk superblockBlock.toNat).bytes = .ok stored)
    (refused : stored.validate = .error error) (healthy : Healthy limit host.device)
    (room : blockSize ≤ host.bufferLimit) (covered : superblockBlock.toNat < limit) :
    ∃ after, BlockFs.mount.run.run host = (.error error, after) := by
  have read : Completes limit Host.Untouched (readBlock .superblock superblockBlock) host
      (host.disk superblockBlock.toNat) := completes_readBlock healthy room covered
  obtain ⟨after, ran, _⟩ := read
  refine ⟨after, ?_⟩
  unfold BlockFs.mount
  rw [run_bind_of_ok ran, run_bind_of_ok (by rw [run_lift, decoded]),
    run_bind_of_error (by rw [run_lift, refused])]

theorem completes_sync {mount : Mount} (healthy : Healthy limit host.device)
    (shaped : mount.Shaped) (covered : mount.geometry.metadata ≤ limit) (durability : Durability) :
    Completes limit Host.Alike (mount.sync durability) host
      (mount.markSynced mount.generation) := by
  obtain ⟨plan⟩ := shaped.syncPlan
  have inodePlace := plan.inodeStart_toNat
  have blockPlace := plan.blockStart_toNat
  have inodeLength := plan.inodeBlocks_length
  have blockLength := shaped.blocks.length_content plan.blockBlocks_eq
  have bound := mount.geometry.totalBlocks.toNat_lt
  have wordSize : UInt32.size = 2 ^ 32 := rfl
  have zero : superblockBlock.toNat = 0 := rfl
  have room : 1 + mount.superblock.inodeTableBlocks.toNat +
      mount.superblock.inodeBitmapBlocks.toNat + mount.superblock.blockBitmapBlocks.toNat <
      mount.geometry.totalBlocks.toNat := shaped.room
  change 1 + mount.superblock.inodeTableBlocks.toNat + mount.superblock.inodeBitmapBlocks.toNat +
    mount.superblock.blockBitmapBlocks.toNat ≤ limit at covered
  refine (completes_report healthy _).alike.bind .trans fun _ healthy _ => ?_
  refine (completes_writeBlock healthy (by omega) mount.superblock.encode).bind .trans
    fun _ healthy _ => ?_
  refine (completes_lift healthy plan.inodeStart_eq).alike.bind .trans fun _ healthy _ => ?_
  refine (completes_writeSpan healthy plan.inodeBlocks_eq (by omega) (by omega)).bind .trans
    fun _ healthy _ => ?_
  refine (completes_lift healthy plan.blockStart_eq).alike.bind .trans fun _ healthy _ => ?_
  refine (completes_writeSpan healthy plan.blockBlocks_eq (by omega) (by omega)).bind .trans
    fun _ healthy _ => ?_
  exact (completes_pure healthy _).alike

theorem completes_unmount {mount : Mount} (healthy : Healthy limit host.device)
    (shaped : mount.Shaped) (covered : mount.geometry.metadata ≤ limit) :
    Completes limit Host.Alike mount.unmount host () :=
  (completes_sync healthy shaped covered .writeThrough).bind .trans fun _ healthy _ =>
    (completes_report healthy _).alike

end BlockFs
