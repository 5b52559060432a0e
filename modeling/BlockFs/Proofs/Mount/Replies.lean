import BlockFs.Proofs.Engine.Perfect
import BlockFs.Proofs.Mount.Acceptance
import BlockFs.Proofs.Mount.Pools

namespace BlockFs

open Engine

/-- The record of an inode in the table of a disk. -/
def Superblock.inodeOn (superblock : Superblock) (disk : Nat → Block) (number : UInt32) :
    Except Error Inode :=
  if superblock.inodes ≤ number then .error (.outOfRange number.toNat superblock.inodes.toNat)
  else
    let address := Inode.address number
    window (disk address.block.toNat).bytes address.offset inodeSize >>= Inode.decode

/-- What an operation answers when no call fails. -/
def Operation.reply (mount : Mount) (disk : Nat → Block) : Operation → Except Error Answer
  | .takeInode => .number <$> mount.inodeBitmap.firstFree
  | .freeInode number =>
      if number = rootInode then .error (.outOfRange number.toNat mount.superblock.inodes.toNat)
      else (fun _ => .done) <$> mount.inodeBitmap.test number
  | .takeBlock => .number <$> mount.blockBitmap.firstFree
  | .freeBlock number => do
      let reserved ← mount.geometry.reservedBlocks
      if number < reserved then .error (.outOfRange number.toNat mount.superblock.blocks.toNat)
      else (fun _ => .done) <$> mount.blockBitmap.test number
  | .readInode number => .inode <$> mount.superblock.inodeOn disk number
  | .writeInode number _ _ => (fun _ => .done) <$> mount.superblock.inodeOn disk number
  | .sync _ => .ok .done
  | .superblock => .ok (.superblock mount.superblock)
  | .geometry => .ok (.geometry mount.geometry)
  | .stats => .ok (.stats mount.stats)
  | .root => .ok (.inode mount.root)
  | .isDirty => .ok (.flag mount.isDirty)
  | .inodeBitmap query => .bitmap <$> mount.inodeBitmap.ask query
  | .blockBitmap query => .bitmap <$> mount.blockBitmap.ask query

section Values

variable (mount : Mount) (disk : Nat → Block)

theorem Superblock.inodeOn_of_le {superblock : Superblock} {number : UInt32}
    (outside : superblock.inodes ≤ number) : superblock.inodeOn disk number =
      .error (.outOfRange number.toNat superblock.inodes.toNat) :=
  if_pos outside

theorem Superblock.inodeOn_of_lt {superblock : Superblock} {number : UInt32}
    (inside : number < superblock.inodes) : superblock.inodeOn disk number =
      (window (disk (Inode.address number).block.toNat).bytes (Inode.address number).offset
        inodeSize >>= Inode.decode) :=
  if_neg (UInt32.not_le.mpr inside)

theorem Superblock.inodeOn_exists {superblock : Superblock} {number : UInt32}
    (inside : number < superblock.inodes) :
    ∃ inode, superblock.inodeOn disk number = .ok inode := by
  obtain ⟨record, inode, cut, decoded⟩ :=
    Inode.decode_window_exists (disk (Inode.address number).block.toNat) number
  exact ⟨inode, by rw [inodeOn_of_lt disk inside, cut]; exact decoded⟩

theorem Pool.reply_give (pool : Pool) (number : UInt32) :
    (pool.give number).reply mount disk = (do
      if number < (← pool.reserved mount) then
        .error (.outOfRange number.toNat (pool.total mount.superblock).toNat)
      else (fun _ => .done) <$> (pool.map mount).test number) := by
  cases pool with
  | inodes =>
      simp only [Pool.reserved, bind, Except.bind, Pool.lt_reserved_inodes_iff]
      rfl
  | blocks => rfl

/-- What a call on a pool answers is its reply, whatever the disk holds. -/
theorem Pool.answer_eq_reply (pool : Pool) (call : Pool.Call) :
    call.answer pool mount = (call.operation pool).reply mount disk := by
  cases call with
  | take => cases pool <;> rfl
  | give number =>
      rw [Pool.Call.operation, pool.reply_give, Pool.Call.answer, Pool.admits]
      cases pool.reserved mount with
      | error error => rfl
      | ok reserved =>
          simp only [bind, Except.bind]
          split <;> rfl

end Values

section Work

variable {δ : Type} [BlockDevice δ] {mount : Mount} {host between : Host δ} {operation : Operation}

/-- An operation that fails only in its first part. -/
theorem step_of_work {α : Type} {work : Engine δ α} {result : Except Error α}
    {rest : α → Engine δ (Answer × Mount)} {told : α → Answer}
    (performs : operation.perform mount = work >>= rest)
    (worked : work.run.run host = (result, between))
    (finishes : ∀ value, ∃ next after,
      (rest value).run.run between = (.ok (told value, next), after)) :
    (operation.step (mount, host)).1 = told <$> result := by
  cases result with
  | error error =>
      have ran : (operation.perform mount).run.run host = (.error error, between) := by
        rw [performs]
        exact run_bind_of_error worked
      rw [step_of_error ran]
      rfl
  | ok value =>
      obtain ⟨next, after, finished⟩ := finishes value
      have ran : (operation.perform mount).run.run host = (.ok (told value, next), after) := by
        rw [performs, run_bind_of_ok worked, finished]
      rw [step_of_ok ran]
      rfl

end Work

variable {mount : Mount} {host : Host Perfect} {number : UInt32}

theorem run_readBlock_perfect (room : blockSize ≤ host.bufferLimit) (region : Region)
    (block : UInt32) :
    (readBlock region block).run.run host = (.ok (host.disk block.toNat), host) := by
  rw [readBlock, run_bind_of_ok (run_reserve_of_le room), fetch, run_call, Perfect.read_block]
  rfl

theorem run_writeBlock_perfect (region : Region) (block : UInt32) (content : Block)
    (durability : Durability) (host : Host Perfect) :
    (writeBlock region block content.bytes durability).run.run host =
      (.ok (), { host with device := host.device.put block content }) := by
  rw [writeBlock, run_call, Perfect.write_block]
  rfl

theorem run_readInode_perfect (room : blockSize ≤ host.bufferLimit) (superblock : Superblock)
    (number : UInt32) :
    (superblock.readInode number).run.run host = (superblock.inodeOn host.disk number, host) := by
  unfold Superblock.readInode Superblock.inodeOn
  split
  · rfl
  · rw [run_bind_of_ok (run_readBlock_perfect room _ _)]
    dsimp only
    cases window (host.disk (Inode.address number).block.toNat).bytes
        (Inode.address number).offset inodeSize with
    | error error => exact run_bind_of_error (run_lift _ _)
    | ok record => rw [run_bind_of_ok (run_lift _ _), run_lift]; rfl

/-- A write of an inode is refused where a read of it is. -/
theorem run_writeInode_perfect (room : blockSize ≤ host.bufferLimit) (mount : Mount)
    (number : UInt32) (inode : Inode) (durability : Durability) :
    ∃ next after, (mount.writeInode number inode durability).run.run host =
      ((fun _ => next) <$> mount.superblock.inodeOn host.disk number, after) := by
  unfold Mount.writeInode
  by_cases outside : mount.superblock.inodes ≤ number
  · rw [if_pos outside, Superblock.inodeOn_of_le _ outside]
    exact ⟨mount, host, rfl⟩
  · obtain ⟨found, read⟩ :=
      Superblock.inodeOn_exists host.disk (UInt32.not_le.mp outside)
    obtain ⟨changed, spliced⟩ :=
      inode.splice_exists (host.disk (Inode.address number).block.toNat) number
    rw [if_neg outside, read, run_bind_of_ok (run_readBlock_perfect room _ _),
      run_bind_of_ok (by rw [run_lift, spliced])]
    refine ⟨_, _, run_bind_of_ok (run_writeBlock_perfect _ _ _ _ host)⟩

theorem Mount.Shaped.metadata_lt (shaped : mount.Shaped) :
    mount.geometry.metadata < UInt32.size :=
  Nat.lt_trans shaped.room mount.geometry.totalBlocks.toNat_lt

/-- On a perfect disk every operation answers what its reply says. -/
theorem step_reply (room : blockSize ≤ host.bufferLimit) (shaped : mount.Shaped)
    (operation : Operation) :
    (operation.step (mount, host)).1 = operation.reply mount host.disk := by
  cases operation with
  | takeInode =>
      exact (Pool.inodes.step_fst .take mount host).trans (Pool.inodes.answer_eq_reply mount _ .take)
  | takeBlock =>
      exact (Pool.blocks.step_fst .take mount host).trans (Pool.blocks.answer_eq_reply mount _ .take)
  | freeInode number =>
      exact (Pool.inodes.step_fst (.give number) mount host).trans
        (Pool.inodes.answer_eq_reply mount _ (.give number))
  | freeBlock number =>
      exact (Pool.blocks.step_fst (.give number) mount host).trans
        (Pool.blocks.answer_eq_reply mount _ (.give number))
  | inodeBitmap query | blockBitmap query =>
      exact step_of_work rfl (run_lift _ _) fun reply => ⟨_, _, rfl⟩
  | superblock | geometry | stats | root | isDirty => rfl
  | readInode number =>
      exact step_of_work rfl (run_readInode_perfect room _ _) fun inode => ⟨_, _, rfl⟩
  | writeInode number inode durability =>
      obtain ⟨next, after, wrote⟩ := run_writeInode_perfect room mount number inode durability
      refine (step_of_work rfl wrote fun written => ⟨_, _, rfl⟩).trans ?_
      exact (LawfulFunctor.comp_map _ _ _).symm
  | sync durability =>
      obtain ⟨after, synced, _⟩ :=
        completes_sync host.device.healthy shaped (Nat.le_of_lt shaped.metadata_lt) durability
      have ran : ((Operation.sync durability).perform mount).run.run host =
          (.ok (.done, mount.markSynced mount.generation), after) := run_bind_of_ok synced
      rw [step_of_ok ran]
      rfl

end BlockFs
