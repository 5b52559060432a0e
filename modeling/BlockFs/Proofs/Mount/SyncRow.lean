import BlockFs.Proofs.Engine.Rows
import BlockFs.Proofs.Mount.Change

namespace BlockFs

open Engine

namespace SyncPlan

variable {mount : Mount} (plan : SyncPlan mount)

/-- What a sync writes, in its order. -/
def row : List Placement :=
  ⟨.superblock, superblockBlock.toNat, mount.superblock.encode⟩ ::
    (Placement.span .inodeBitmap plan.inodeStart.toNat plan.inodeBlocks ++
      Placement.span .blockBitmap plan.blockStart.toNat plan.blockBlocks)

theorem blockBlocks_length (shaped : mount.Shaped) :
    plan.blockBlocks.length = mount.superblock.blockBitmapBlocks.toNat :=
  shaped.blocks.length_content plan.blockBlocks_eq

theorem map_block_row (shaped : mount.Shaped) :
    plan.row.map Placement.block = superblockBlock.toNat ::
      (List.range' plan.inodeStart.toNat mount.superblock.inodeBitmapBlocks.toNat ++
        List.range' plan.blockStart.toNat mount.superblock.blockBitmapBlocks.toNat) := by
  simp only [row, List.map_cons, List.map_append, Placement.map_block_span,
    plan.inodeBlocks_length, plan.blockBlocks_length shaped]

/-- The blocks of the row are those that a sync is for. -/
theorem mem_map_block_row (shaped : mount.Shaped) {block : Nat} :
    block ∈ plan.row.map Placement.block ↔ mount.geometry.Synced block := by
  have inodePlace : plan.inodeStart.toNat = 1 + mount.geometry.inodeTableBlocks.toNat :=
    plan.inodeStart_toNat
  have blockPlace := plan.blockStart_toNat
  have last : mount.geometry.metadata = plan.blockStart.toNat +
      mount.superblock.blockBitmapBlocks.toNat := by
    rw [blockPlace, inodePlace]
    rfl
  simp only [plan.map_block_row shaped, List.mem_cons, List.mem_append, List.mem_range'_1,
    Geometry.Synced, last]
  omega

theorem block_lt (shaped : mount.Shaped) {placement : Placement} (member : placement ∈ plan.row) :
    placement.block < mount.geometry.totalBlocks.toNat := by
  have room := shaped.room
  have zero : superblockBlock.toNat = 0 := rfl
  unfold Geometry.HasData at room
  rcases (plan.mem_map_block_row shaped).mp (List.mem_map_of_mem member) with first | ⟨_, behind⟩
  · omega
  · omega

/-- A disk in memory that refuses to write the first block of the map of the inodes. -/
theorem row_of_broken (shaped : mount.Shaped) (maps : 0 < mount.geometry.inodeBitmapBlocks.toNat)
    {disk : RamDisk} (covered : mount.geometry.totalBlocks.toNat ≤ disk.blockCount) :
    ∃ first refused rest, plan.row = [first] ++ refused :: rest ∧
      first.block = superblockBlock.toNat ∧ first.content = mount.superblock.encode ∧
      refused.region = .inodeBitmap ∧
      (disk.heal.failWrites [plan.inodeStart]).writeCauses first.block = none ∧
      (disk.heal.failWrites [plan.inodeStart]).writeCauses refused.block =
        some (.injected .write) := by
  have length : plan.inodeBlocks.length = mount.geometry.inodeBitmapBlocks.toNat :=
    plan.inodeBlocks_length
  obtain ⟨content, rest, listed⟩ : ∃ content rest, plan.inodeBlocks = content :: rest :=
    List.exists_cons_of_length_pos (by omega)
  have split : plan.row = [⟨.superblock, superblockBlock.toNat, mount.superblock.encode⟩] ++
      ⟨.inodeBitmap, plan.inodeStart.toNat, content⟩ ::
        (Placement.span .inodeBitmap (plan.inodeStart.toNat + 1) rest ++
          Placement.span .blockBitmap plan.blockStart.toNat plan.blockBlocks) := by
    simp only [row, listed, Placement.span, List.cons_append, List.nil_append]
  have place := plan.inodeStart_toNat
  have zero : superblockBlock.toNat = 0 := rfl
  have refuses {placement : Placement} (member : placement ∈ plan.row) :=
    disk.writeCauses_failWrites plan.inodeStart
      (Nat.lt_of_lt_of_le (plan.block_lt shaped member) covered)
  rw [split] at refuses
  refine ⟨_, _, _, split, rfl, rfl, rfl, ?_, ?_⟩
  · rw [refuses List.mem_cons_self]
    exact if_neg (by dsimp only; omega)
  · rw [refuses (List.mem_append_right _ List.mem_cons_self)]
    exact if_pos rfl

theorem nodup_row (shaped : mount.Shaped) : (plan.row.map Placement.block).Nodup := by
  have inodePlace := plan.inodeStart_toNat
  have blockPlace := plan.blockStart_toNat
  have zero : superblockBlock.toNat = 0 := rfl
  simp only [plan.map_block_row shaped, List.nodup_cons, List.nodup_append, List.mem_append,
    List.mem_range'_1]
  exact ⟨by omega, List.nodup_range', List.nodup_range', fun inode _ block _ => by omega⟩

theorem region_row (shaped : mount.Shaped) {placement : Placement}
    (member : placement ∈ plan.row) :
    placement.region = mount.geometry.regionOf placement.block := by
  have inodePlace : plan.inodeStart.toNat = 1 + mount.geometry.inodeTableBlocks.toNat :=
    plan.inodeStart_toNat
  have blockPlace : plan.blockStart.toNat =
    plan.inodeStart.toNat + mount.geometry.inodeBitmapBlocks.toNat := plan.blockStart_toNat
  have inodes : plan.inodeBlocks.length = mount.geometry.inodeBitmapBlocks.toNat :=
    plan.inodeBlocks_length
  have blocks : plan.blockBlocks.length = mount.geometry.blockBitmapBlocks.toNat :=
    plan.blockBlocks_length shaped
  have zero : superblockBlock.toNat = 0 := rfl
  unfold Geometry.regionOf Geometry.metadata
  rcases List.mem_cons.mp member with rfl | member
  · rw [if_pos (Nat.le_refl _)]
  · rcases List.mem_append.mp member with inside | inside
    · rcases Placement.region_span inside with ⟨region, low, high⟩
      rw [region, if_neg (by omega), if_neg (by omega), if_pos (by omega)]
    · rcases Placement.region_span inside with ⟨region, low, high⟩
      rw [region, if_neg (by omega), if_neg (by omega), if_neg (by omega), if_pos (by omega)]

end SyncPlan

variable {δ : Type} [BlockDevice δ] {mount next : Mount} {host after : Host δ}
  {durability : Durability} {answer : Except Error Answer}

theorem performs_sync (plan : SyncPlan mount) (shaped : mount.Shaped)
    (early : Nat → Error → Prop) (durability : Durability) :
    Performs early durability plan.row (mount.markSynced mount.generation)
      (mount.sync durability : Engine δ Mount) := by
  have inodePlace := plan.inodeStart_toNat
  have blockPlace := plan.blockStart_toNat
  have inodes := plan.inodeBlocks_length
  have blocks := plan.blockBlocks_length shaped
  have bound := mount.superblock.blocks.toNat_lt
  have wordSize : UInt32.size = 2 ^ 32 := rfl
  have room : 1 + mount.superblock.inodeTableBlocks.toNat +
    mount.superblock.inodeBitmapBlocks.toNat + mount.superblock.blockBitmapBlocks.toNat <
    mount.superblock.blocks.toNat := shaped.room
  have inodeWords : plan.inodeStart.toNat + plan.inodeBlocks.length ≤ UInt32.size := by omega
  have blockWords : plan.blockStart.toNat + plan.blockBlocks.length ≤ UInt32.size := by omega
  exact (performs_report _).skip <| (performs_writeBlock mount.superblock.encode).bind <|
    (performs_lift plan.inodeStart_eq).skip <|
    (performs_writeSpan plan.inodeBlocks_eq inodeWords).bind <|
    (performs_lift plan.blockStart_eq).skip <|
    (performs_writeSpan plan.blockBlocks_eq blockWords).map fun _ => _

/-- What a sync does: it writes its row as far as the device takes it. -/
theorem step_sync (plan : SyncPlan mount) (shaped : mount.Shaped)
    (stepped : (Operation.sync durability).step (mount, host) = (answer, next, after)) :
    ∃ done outcome, Carries durability host.device plan.row done outcome after.device ∧
      answer = outcome.map (fun _ => .done) ∧
      next = if outcome.isOk then mount.markSynced mount.generation else mount := by
  have performs := (performs_sync plan shaped (fun _ _ => False) durability (δ := δ)).map
    fun synced => (Answer.done, synced)
  rcases step_eq stepped with ⟨value, rfl, ran⟩ | ⟨error, rfl, rfl, ran⟩
  · rcases performs _ _ _ ran with ⟨_, ⟨_, none, _⟩ | ⟨done, outcome, carries, answered⟩⟩
    · exact none.elim
    · cases outcome with
      | error error => cases answered
      | ok complete =>
          cases answered
          exact ⟨done, _, carries, rfl, rfl⟩
  · rcases performs _ _ _ ran with ⟨_, ⟨_, none, _⟩ | ⟨done, outcome, carries, answered⟩⟩
    · exact none.elim
    · cases outcome with
      | error error =>
          cases answered
          exact ⟨done, _, carries, rfl, rfl⟩
      | ok complete => cases answered

variable [LawfulBlockDevice δ] {causes : Nat → Option DeviceError} {devices : δ → Prop}
  {done : List Placement} {outcome : Except Error Unit}

theorem sync_progress {synced : Except Error Mount} (plan : SyncPlan mount)
    (shaped : mount.Shaped) (unwritable : Unwritable causes devices) (member : devices host.device)
    (progressed : progress causes plan.row = (done, outcome))
    (ran : (mount.sync durability).run.run host = (synced, after)) :
    synced = outcome.map (fun _ => mount.markSynced mount.generation) ∧
      Placed done host.disk after.disk := by
  rcases performs_sync plan shaped (fun _ _ => False) durability _ _ _ ran with
    ⟨_, ⟨_, none, _⟩ | ⟨_, _, carries, answered⟩⟩
  · exact none.elim
  · cases progressed.symm.trans (carries.progress_eq unwritable member)
    exact ⟨answered, carries.placed (plan.nodup_row shaped)⟩

theorem step_sync_progress (plan : SyncPlan mount) (shaped : mount.Shaped)
    (unwritable : Unwritable causes devices) (member : devices host.device)
    (progressed : progress causes plan.row = (done, outcome))
    (stepped : (Operation.sync durability).step (mount, host) = (answer, next, after)) :
    answer = outcome.map (fun _ => .done) ∧
      (next = if outcome.isOk then mount.markSynced mount.generation else mount) ∧
      Placed done host.disk after.disk := by
  rcases step_sync plan shaped stepped with ⟨_, _, carries, answered, changed⟩
  cases progressed.symm.trans (carries.progress_eq unwritable member)
  exact ⟨answered, changed, carries.placed (plan.nodup_row shaped)⟩

end BlockFs
