import BlockFs.Mount.Operation
import BlockFs.Proofs.Engine.Refusals
import BlockFs.Proofs.Mount.Allocation
import BlockFs.Proofs.Mount.Lifetime
import BlockFs.Proofs.Mount.Tracking

namespace BlockFs

open Engine

/-- An error that reports no broken precondition. -/
def Error.Foreseen (error : Error) : Prop :=
  ∀ broken, error ≠ .fault broken

namespace Error.Foreseen

theorem device (region : Region) (cause : DeviceError) : (Error.device region cause).Foreseen :=
  nofun

theorem outOfMemory (bytes : Nat) : (Error.outOfMemory bytes).Foreseen :=
  nofun

theorem outOfRange (index limit : Nat) : (Error.outOfRange index limit).Foreseen :=
  nofun

theorem exhausted : Error.exhausted.Foreseen :=
  nofun

end Error.Foreseen

section Values

variable {error : Error} {bitmap : Bitmap} {mount : Mount}

theorem Superblock.foreseen_decode {block : Block} (failed : decode block.bytes = .error error) :
    error.Foreseen := by
  unfold decode at failed
  split at failed
  · rename_i short
    rw [block.size_bytes] at short
    exact absurd short (by decide)
  · split at failed
    · cases failed
      exact nofun
    · cases failed

theorem Superblock.foreseen_validate {superblock : Superblock}
    (failed : superblock.validate = .error error) : error.Foreseen := by
  unfold validate at failed
  dsimp only at failed
  split at failed
  · cases failed
    exact .outOfRange _ _
  · split at failed
    · cases failed
      exact .outOfRange _ _
    · split at failed
      · cases failed
        exact .outOfRange _ _
      · cases failed

namespace Bitmap

theorem foreseen_load {bytes : ByteArray} {length : UInt32}
    (failed : load bytes length = .error error) : error.Foreseen := by
  rw [(load_eq_error_iff.mp failed).2]
  exact .outOfRange _ _

theorem foreseen_fresh {bufferLimit : Nat} {blocks length used : UInt32}
    (failed : fresh bufferLimit blocks length used = .error error) : error.Foreseen := by
  obtain ⟨_, refused⟩ | ⟨_, ⟨_, refused⟩ | ⟨_, _, made, _⟩⟩ :=
    fresh_cases bufferLimit blocks length used
  · cases failed.symm.trans refused
    exact .outOfRange _ _
  · cases failed.symm.trans refused
    exact .outOfMemory _
  · cases failed.symm.trans made

theorem foreseen_test {index : UInt32} (failed : bitmap.test index = .error error) :
    error.Foreseen := by
  unfold test at failed
  split at failed
  · cases failed
  · cases failed
    exact .outOfRange _ _

theorem foreseen_firstFree (failed : bitmap.firstFree = .error error) : error.Foreseen := by
  rw [(firstFree_eq_error failed).1]
  exact .exhausted

theorem foreseen_map {α β : Type} {result : Except Error α} {change : α → β}
    (foreseen : ∀ cause, result = .error cause → cause.Foreseen)
    (failed : change <$> result = .error error) : error.Foreseen := by
  cases result with
  | error cause =>
      cases failed
      exact foreseen _ rfl
  | ok value => cases failed

theorem foreseen_ask {query : Query} (failed : bitmap.ask query = .error error) :
    error.Foreseen := by
  cases query with
  | test index => exact foreseen_map (fun _ => foreseen_test) failed
  | firstFree => exact foreseen_map (fun _ => foreseen_firstFree) failed
  | reload => exact foreseen_map (fun _ => foreseen_load) failed
  | countFree | length | isEmpty | blocks | bytes => cases failed

end Bitmap

theorem Pool.foreseen_takes {pool : Pool} (failed : pool.takes mount = .error error) :
    error.Foreseen :=
  Bitmap.foreseen_firstFree (pool.takes_eq_error.mp failed)

/-- Giving a unit back fails only for a number that no unit has or that is kept. -/
theorem Pool.foreseen_gives {pool : Pool} {number reserved : UInt32}
    (limit : pool.reserved mount = .ok reserved)
    (failed : pool.gives mount number = .error error) : error.Foreseen := by
  obtain ⟨cause, refused, gave⟩ | ⟨_, done⟩ | ⟨_, _, _, done⟩ := pool.gives_cases mount number
  · cases gave.symm.trans failed
    by_cases kept : number < reserved
    · cases (admits_of_lt limit kept).symm.trans refused
      exact .outOfRange _ _
    · rw [admits_eq_test limit (UInt32.not_lt.mp kept)] at refused
      exact Bitmap.foreseen_test refused
  · cases done.symm.trans failed
  · cases done.symm.trans failed

end Values

variable {δ : Type} [BlockDevice δ] {mount mounted next : Mount} {durability : Durability}

theorem size_readBlocks {region : Region} {start : UInt32} {count done : Nat}
    {bytes found : ByteArray}
    (answers : Answers (readBlocks region start count done bytes : Engine δ ByteArray) found) :
    found.size = bytes.size + count * blockSize := by
  obtain ⟨host, after, ran⟩ := answers
  induction count generalizing done bytes host with
  | zero =>
      rw [readBlocks, run_pure] at ran
      cases ran
      rw [Nat.zero_mul, Nat.add_zero]
  | succ count ih =>
      rw [readBlocks] at ran
      obtain ⟨place, _, ran⟩ := lift_bind_eq_ok ran
      obtain ⟨block, between, _, ran⟩ := bind_eq_ok ran
      rw [ih _ ran, ByteArray.size_append, block.size_bytes, Nat.succ_mul]
      omega

/-- A map that was loaded fills its blocks, whatever they were read to be. -/
theorem backed_loadBitmap {region : Region} {start blocks length : UInt32} {bitmap : Bitmap}
    (answers : Answers (loadBitmap region start blocks length : Engine δ Bitmap) bitmap) :
    bitmap.Backed blocks length := by
  obtain ⟨host, after, ran⟩ := answers
  obtain ⟨bytes, between, read, ran⟩ := bind_eq_ok ran
  obtain ⟨_, reserved, _, read⟩ := bind_eq_ok read
  have size : bytes.size = blocks.toNat * blockSize := by
    rw [size_readBlocks ⟨reserved, between, read⟩, ByteArray.size_empty, Nat.zero_add]
  rw [run_lift, Prod.mk.injEq] at ran
  obtain ⟨_, same, kept, tight, _⟩ := Bitmap.load_eq_ok_iff.mp ran.1
  exact ⟨kept.trans size, same, tight⟩

theorem shaped_mount (answers : Answers (BlockFs.mount : Engine δ Mount) mounted) :
    mounted.Shaped ∧ mounted.generation = 0 ∧ mounted.synced = 0 := by
  obtain ⟨host, after, ran⟩ := answers
  unfold BlockFs.mount at ran
  obtain ⟨block, _, _, ran⟩ := bind_eq_ok ran
  obtain ⟨superblock, decoded, ran⟩ := lift_bind_eq_ok ran
  obtain ⟨_, valid, ran⟩ := lift_bind_eq_ok ran
  obtain ⟨_, _, _, ran⟩ := bind_eq_ok ran
  obtain ⟨_, _, ran⟩ := lift_bind_eq_ok ran
  obtain ⟨inodeBitmap, _, inodes, ran⟩ := bind_eq_ok ran
  obtain ⟨_, _, ran⟩ := lift_bind_eq_ok ran
  obtain ⟨blockBitmap, _, blocks, ran⟩ := bind_eq_ok ran
  obtain ⟨_, _, _, ran⟩ := bind_eq_ok ran
  obtain ⟨_, _, _, ran⟩ := bind_eq_ok ran
  rw [run_pure] at ran
  cases ran
  exact ⟨⟨Superblock.magic_of_decode decoded, (Superblock.validate_eq_ok valid).1,
    backed_loadBitmap ⟨_, _, inodes⟩, backed_loadBitmap ⟨_, _, blocks⟩⟩, rfl, rfl⟩

theorem eq_of_writeInode {number : UInt32} {inode : Inode}
    (answers : Answers (mount.writeInode number inode durability : Engine δ Mount) next) :
    next = if number = rootInode then { mount with root := inode } else mount := by
  obtain ⟨host, after, ran⟩ := answers
  unfold Mount.writeInode at ran
  dsimp only at ran
  split at ran
  · cases ran
  · obtain ⟨_, _, _, ran⟩ := bind_eq_ok ran
    obtain ⟨_, _, ran⟩ := lift_bind_eq_ok ran
    obtain ⟨_, _, _, ran⟩ := bind_eq_ok ran
    rw [run_pure] at ran
    cases ran
    rfl

theorem eq_of_sync (answers : Answers (mount.sync durability : Engine δ Mount) next) :
    next = mount.markSynced mount.generation := by
  obtain ⟨host, after, ran⟩ := answers
  obtain ⟨_, _, _, ran⟩ := bind_eq_ok ran
  obtain ⟨_, _, _, ran⟩ := bind_eq_ok ran
  obtain ⟨_, _, ran⟩ := lift_bind_eq_ok ran
  obtain ⟨_, _, _, ran⟩ := bind_eq_ok ran
  obtain ⟨_, _, ran⟩ := lift_bind_eq_ok ran
  obtain ⟨_, _, _, ran⟩ := bind_eq_ok ran
  rw [run_pure] at ran
  cases ran
  rfl

section Refusals

theorem refusesOnly_readInode (superblock : Superblock) (number : UInt32) :
    RefusesOnly Error.Foreseen (superblock.readInode number : Engine δ Inode) := by
  unfold Superblock.readInode
  dsimp only
  split
  · exact refusesOnly_throw (.outOfRange _ _)
  · refine (refusesOnly_readBlock .device .outOfMemory _ _).bind fun block _ => ?_
    obtain ⟨record, inode, cut, decoded⟩ := Inode.decode_window_exists block number
    refine (refusesOnly_lift_ok cut).bind fun found answers => ?_
    cases cut.symm.trans answers.of_lift
    exact refusesOnly_lift_ok decoded

theorem refusesOnly_writeInode (mount : Mount) (number : UInt32) (inode : Inode)
    (durability : Durability) :
    RefusesOnly Error.Foreseen (mount.writeInode number inode durability : Engine δ Mount) := by
  unfold Mount.writeInode
  dsimp only
  split
  · exact refusesOnly_throw (.outOfRange _ _)
  · refine (refusesOnly_readBlock .device .outOfMemory _ _).bind fun block _ => ?_
    obtain ⟨changed, spliced⟩ := inode.splice_exists block number
    exact (refusesOnly_lift_ok spliced).bind fun _ _ =>
      (refusesOnly_writeBlock .device _ _ _ _).bind fun _ _ => refusesOnly_pure _

theorem refusesOnly_loadBitmap {region : Region} {start blocks length : UInt32}
    (words : start.toNat + blocks.toNat ≤ UInt32.size) :
    RefusesOnly Error.Foreseen (loadBitmap region start blocks length : Engine δ Bitmap) :=
  (refusesOnly_readSpan .device .outOfMemory words).bind fun _ _ =>
    refusesOnly_lift fun _ => Bitmap.foreseen_load

theorem refusesOnly_mount : RefusesOnly Error.Foreseen (BlockFs.mount : Engine δ Mount) := by
  unfold BlockFs.mount
  refine (refusesOnly_readBlock .device .outOfMemory _ _).bind fun block _ => ?_
  refine (refusesOnly_lift fun _ => Superblock.foreseen_decode).bind fun superblock _ => ?_
  refine (refusesOnly_lift fun _ => Superblock.foreseen_validate).bind fun _ valid => ?_
  have room := (Superblock.validate_eq_ok valid.of_lift).1
  obtain ⟨inodeStart, inodeBegun⟩ := Geometry.inodeBitmapStart_exists room
  obtain ⟨blockStart, blockBegun⟩ := Geometry.blockBitmapStart_exists room
  have inodePlace := Geometry.toNat_inodeBitmapStart inodeBegun
  have blockPlace := Geometry.toNat_blockBitmapStart blockBegun
  have bound := superblock.geometry.totalBlocks.toNat_lt
  have wordSize : UInt32.size = 2 ^ 32 := rfl
  have inodeWords : inodeStart.toNat + superblock.inodeBitmapBlocks.toNat ≤ UInt32.size := by
    unfold Geometry.HasData Geometry.metadata at room
    change _ + superblock.geometry.inodeBitmapBlocks.toNat ≤ _
    omega
  have blockWords : blockStart.toNat + superblock.blockBitmapBlocks.toNat ≤ UInt32.size := by
    unfold Geometry.HasData Geometry.metadata at room
    change _ + superblock.geometry.blockBitmapBlocks.toNat ≤ _
    omega
  refine (refusesOnly_report _).bind fun _ _ => ?_
  refine (refusesOnly_lift_ok inodeBegun).bind fun start begun => ?_
  cases inodeBegun.symm.trans begun.of_lift
  refine (refusesOnly_loadBitmap inodeWords).bind fun _ _ => ?_
  refine (refusesOnly_lift_ok blockBegun).bind fun start begun => ?_
  cases blockBegun.symm.trans begun.of_lift
  refine (refusesOnly_loadBitmap blockWords).bind fun _ _ => ?_
  exact (refusesOnly_readInode _ _).bind fun _ _ =>
    (refusesOnly_report _).bind fun _ _ => refusesOnly_pure _

/-- A sync of a mount that has its shape fails only when the device does. -/
theorem refusesOnly_sync {admitted : Error → Prop}
    (device : ∀ region cause, admitted (.device region cause)) (shaped : mount.Shaped)
    (durability : Durability) :
    RefusesOnly admitted (mount.sync durability : Engine δ Mount) := by
  obtain ⟨plan⟩ := shaped.syncPlan
  have inodePlace := plan.inodeStart_toNat
  have blockPlace := plan.blockStart_toNat
  have inodeLength := plan.inodeBlocks_length
  have blockLength := shaped.blocks.length_content plan.blockBlocks_eq
  have bound := mount.geometry.totalBlocks.toNat_lt
  have wordSize : UInt32.size = 2 ^ 32 := rfl
  have room : 1 + mount.superblock.inodeTableBlocks.toNat +
      mount.superblock.inodeBitmapBlocks.toNat + mount.superblock.blockBitmapBlocks.toNat <
      mount.geometry.totalBlocks.toNat := shaped.room
  unfold Mount.sync
  refine (refusesOnly_report _).bind fun _ _ => ?_
  refine (refusesOnly_writeBlock device _ _ _ _).bind fun _ _ => ?_
  refine (refusesOnly_lift_ok plan.inodeStart_eq).bind fun start begun => ?_
  cases plan.inodeStart_eq.symm.trans begun.of_lift
  refine (refusesOnly_writeSpan device plan.inodeBlocks_eq (by omega)).bind fun _ _ => ?_
  refine (refusesOnly_lift_ok plan.blockStart_eq).bind fun start begun => ?_
  cases plan.blockStart_eq.symm.trans begun.of_lift
  exact (refusesOnly_writeSpan device plan.blockBlocks_eq (by omega)).bind fun _ _ =>
    refusesOnly_pure _

theorem refusesOnly_unmount {admitted : Error → Prop}
    (device : ∀ region cause, admitted (.device region cause)) (shaped : mount.Shaped) :
    RefusesOnly admitted (mount.unmount : Engine δ Unit) :=
  (refusesOnly_sync device shaped _).bind fun _ _ => refusesOnly_report _

/-- A failure of the last sync is reported and goes no further. -/
theorem drop_eq_ok (mount : Mount) (host : Host δ) :
    ∃ after, mount.drop.run.run host = (.ok (), after) := by
  unfold Mount.drop
  split
  · cases synced : (mount.sync .writeThrough).run.run host with
    | mk found between =>
        cases found with
        | ok changed =>
            exact ⟨between,
              run_tryCatch_of_ok ((run_bind_of_ok synced).trans (run_pure () between))⟩
        | error error =>
            exact ⟨_, (run_tryCatch_of_error (run_bind_of_error synced)).trans (run_report _ _)⟩
  · exact ⟨host, rfl⟩

theorem refusesOnly_take (pool : Pool) (mount : Mount) :
    RefusesOnly Error.Foreseen (pool.take.perform mount : Engine δ (Answer × Mount)) := by
  rw [Pool.perform_take]
  exact (refusesOnly_lift fun _ => Pool.foreseen_takes).bind fun _ _ =>
    (refusesOnly_report _).bind fun _ _ => refusesOnly_pure _

theorem refusesOnly_give (pool : Pool) {reserved : UInt32}
    (limit : pool.reserved mount = .ok reserved) (number : UInt32) :
    RefusesOnly Error.Foreseen
      ((pool.give number).perform mount : Engine δ (Answer × Mount)) := by
  rw [Pool.perform_give]
  refine (refusesOnly_lift fun _ => Pool.foreseen_gives limit).bind fun given _ => ?_
  cases given with
  | none => exact refusesOnly_pure _
  | some changed => exact (refusesOnly_report _).bind fun _ _ => refusesOnly_pure _

theorem refusesOnly_perform (shaped : mount.Shaped) (operation : Operation) :
    RefusesOnly Error.Foreseen (operation.perform mount : Engine δ (Answer × Mount)) := by
  cases operation with
  | takeInode => exact refusesOnly_take .inodes mount
  | takeBlock => exact refusesOnly_take .blocks mount
  | freeInode number => exact refusesOnly_give .inodes rfl number
  | freeBlock number =>
      obtain ⟨_, limit, _⟩ := Geometry.reservedBlocks_exists shaped.room
      exact refusesOnly_give .blocks limit number
  | readInode => exact (refusesOnly_readInode _ _).bind fun _ _ => refusesOnly_pure _
  | writeInode => exact (refusesOnly_writeInode _ _ _ _).bind fun _ _ => refusesOnly_pure _
  | sync => exact (refusesOnly_sync .device shaped _).bind fun _ _ => refusesOnly_pure _
  | superblock | geometry | stats | root | isDirty => exact refusesOnly_pure _
  | inodeBitmap | blockBitmap =>
      exact (refusesOnly_lift fun _ => Bitmap.foreseen_ask).bind fun _ _ => refusesOnly_pure _

end Refusals

end BlockFs
