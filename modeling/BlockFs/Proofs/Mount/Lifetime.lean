import BlockFs.Mount.Lifetime
import BlockFs.Proofs.Engine.Transfer
import BlockFs.Proofs.Mount.Congruence
import BlockFs.Proofs.Mount.Mirror

namespace BlockFs

open Engine

variable {δ : Type} [BlockDevice δ] {host after : Host δ}

/-- A write of an inode reads a block and writes it back with the record in it, unless it fails
before. -/
theorem writeInode_parts {mount : Mount} {number : UInt32} {inode : Inode} {durability : Durability}
    {answer : Except Error Mount}
    (ran : (mount.writeInode number inode durability).run.run host = (answer, after)) :
    ((∃ error, answer = .error error) ∧ (after = host ∨ ∃ found,
      (readBlock .inodeTable (Inode.address number).block).run.run host = (found, after))) ∨
    number < mount.superblock.inodes ∧ ∃ block between changed outcome,
      (readBlock .inodeTable (Inode.address number).block).run.run host = (.ok block, between) ∧
        block.splice (Inode.address number).offset inode.encode.bytes = .ok changed ∧
        (writeBlock .inodeTable (Inode.address number).block changed.bytes durability).run.run
          between = (outcome, after) ∧
        answer = outcome.map fun _ =>
          if number = rootInode then { mount with root := inode } else mount := by
  unfold Mount.writeInode at ran
  dsimp only at ran
  split at ran
  · cases ran
    exact .inl ⟨⟨_, rfl⟩, .inl rfl⟩
  · rename_i inside
    obtain ⟨block, between, read, ran⟩ | ⟨error, failed, rfl⟩ := bind_cases ran
    · obtain ⟨changed, spliced, ran⟩ | ⟨error, _, rfl, rfl⟩ := lift_bind_cases ran
      · refine .inr ⟨UInt32.not_le.mp inside, block, between, changed, ?_⟩
        obtain ⟨_, _, wrote, ran⟩ | ⟨error, failed, rfl⟩ := bind_cases ran
        · rw [run_pure] at ran
          cases ran
          exact ⟨_, read, spliced, wrote, rfl⟩
        · exact ⟨_, read, spliced, failed, rfl⟩
      · exact .inl ⟨⟨error, rfl⟩, .inr ⟨_, read⟩⟩
    · exact .inl ⟨⟨error, rfl⟩, .inr ⟨_, failed⟩⟩

variable [LawfulBlockDevice δ]

theorem toNat_address_block (number : UInt32) :
    (Inode.address number).block.toNat = 1 + number.toNat / inodesPerBlock := by
  apply toNat_ofNat_of_lt
  have := number.toNat_lt
  change 1 + number.toNat / 60 < 2 ^ 32
  omega

theorem address_offset_le (number : UInt32) :
    (Inode.address number).offset + inodeSize ≤ blockSize := by
  have place := Nat.mod_lt number.toNat (show 0 < inodesPerBlock by decide)
  change number.toNat % 60 * 68 + 68 ≤ 4096
  change number.toNat % 60 < 60 at place
  omega

/-- Every record lies inside its block. -/
theorem Inode.decode_window_exists (block : Block) (number : UInt32) :
    ∃ record inode, window block.bytes (address number).offset inodeSize = .ok record ∧
      decode record = .ok inode := by
  have inside : (address number).offset + inodeSize ≤ block.bytes.size := by
    rw [block.size_bytes]
    exact address_offset_le number
  have size : (block.bytes.extract (address number).offset
      ((address number).offset + inodeSize)).size = inodeSize := by
    rw [ByteArray.size_extract]
    omega
  exact ⟨_, _, if_pos inside, if_pos size⟩

theorem Inode.splice_exists (block : Block) (number : UInt32) (inode : Inode) :
    ∃ changed, block.splice (address number).offset inode.encode.bytes = .ok changed :=
  block.splice_exists _ _ (by rw [Octets.size_bytes]; exact address_offset_le number)

/-- An inode's record lies behind the superblock and in front of the maps. -/
theorem Mount.TableFits.address_block {mount : Mount} (fits : mount.TableFits) {number : UInt32}
    (inside : number < mount.superblock.inodes) :
    superblockBlock.toNat < (Inode.address number).block.toNat ∧
      (Inode.address number).block.toNat < 1 + mount.superblock.inodeTableBlocks.toNat := by
  have below := UInt32.lt_iff_toNat_lt.mp inside
  unfold Mount.TableFits at fits
  have rank : number.toNat / inodesPerBlock < mount.superblock.inodeTableBlocks.toNat :=
    Nat.div_lt_of_lt_mul (by omega)
  rw [toNat_address_block]
  exact ⟨Nat.lt_add_right _ Nat.zero_lt_one, by omega⟩

theorem Mount.TableFits.not_synced {mount : Mount} {number : UInt32}
    (fits : mount.TableFits) (inside : number < mount.superblock.inodes) :
    ¬ mount.geometry.Synced (Inode.address number).block.toNat := by
  obtain ⟨low, high⟩ := fits.address_block inside
  rintro (first | ⟨behind, _⟩)
  · exact Nat.ne_of_gt low first
  · exact Nat.not_le.mpr high behind

theorem readInode_eq_ok {superblock : Superblock} {number : UInt32} {inode : Inode}
    (ran : (superblock.readInode number).run.run host = (.ok inode, after)) :
    number < superblock.inodes ∧
      (window (host.disk (Inode.address number).block.toNat).bytes (Inode.address number).offset
        inodeSize >>= Inode.decode) = .ok inode := by
  unfold Superblock.readInode at ran
  dsimp only at ran
  split at ran
  · cases ran
  · rename_i inside
    refine ⟨UInt32.not_le.mp inside, ?_⟩
    obtain ⟨block, between, read, ran⟩ := bind_eq_ok ran
    obtain ⟨record, cut, decoded⟩ := lift_bind_eq_ok ran
    rw [run_lift, Prod.mk.injEq] at decoded
    rw [← readBlock_eq_ok read, cut]
    exact decoded.1

/-- A write of an inode puts its record in place, or fails and leaves the disk as it was. -/
theorem writeInode_cases {mount : Mount} {number : UInt32} {inode : Inode} {durability : Durability}
    {answer : Except Error Mount}
    (ran : (mount.writeInode number inode durability).run.run host = (answer, after)) :
    ((∃ error, answer = .error error) ∧ after.disk = host.disk) ∨
      number < mount.superblock.inodes ∧
        answer = .ok (if number = rootInode then { mount with root := inode } else mount) ∧
        ∃ block, (host.disk (Inode.address number).block.toNat).splice
            (Inode.address number).offset inode.encode.bytes = .ok block ∧
          after.disk = overlay host.disk (Inode.address number).block.toNat [block] := by
  obtain ⟨failed, rfl | ⟨_, read⟩⟩ | ⟨inside, block, between, changed, outcome, read, spliced, wrote,
    rfl⟩ := writeInode_parts ran
  · exact .inl ⟨failed, rfl⟩
  · exact .inl ⟨failed, ((untouched_readBlock _ _).of_run read).disk⟩
  · have same := ((untouched_readBlock _ _).of_run read).disk
    rw [readBlock_eq_ok read] at spliced
    obtain ⟨rfl, put⟩ | ⟨⟨error, rfl⟩, kept⟩ := writeBlock_cases wrote
    · exact .inr ⟨inside, rfl, changed, spliced, put.trans (by rw [same])⟩
    · exact .inl ⟨⟨error, rfl⟩, kept.trans same⟩

theorem untouched_loadBitmap (region : Region) (start blocks length : UInt32) :
    Keeps Host.Untouched (loadBitmap region start blocks length : Engine δ Bitmap) :=
  silent_untouched.congruence.loadBitmap _ _ _ _

theorem loadBitmap_eq_ok {region : Region} {start blocks length : UInt32} {bitmap : Bitmap}
    (ran : (loadBitmap region start blocks length).run.run host = (.ok bitmap, after)) :
    Bitmap.load (spanBytes host.disk start.toNat blocks.toNat) length = .ok bitmap := by
  obtain ⟨bytes, between, read, ran⟩ := bind_eq_ok ran
  rw [run_lift, Prod.mk.injEq] at ran
  rw [← readSpan_eq_ok read]
  exact ran.1

theorem untouched_mount : Keeps Host.Untouched (mount : Engine δ Mount) :=
  silent_untouched.congruence.mount

/-- A mount that was accepted mirrors the disk, has a valid superblock and is clean. -/
theorem mount_eq_ok {mounted : Mount} (ran : mount.run.run host = (.ok mounted, after)) :
    mounted.Shaped ∧ mounted.Persisted host.disk ∧ mounted.superblock.validate = .ok () ∧
      (window (host.disk (Inode.address rootInode).block.toNat).bytes
        (Inode.address rootInode).offset inodeSize >>= Inode.decode) = .ok mounted.root ∧
      mounted.generation = 0 ∧ mounted.synced = 0 := by
  unfold mount at ran
  obtain ⟨block, first, read, ran⟩ := bind_eq_ok ran
  -- Each part is read from the disk as the parts before it left it.
  have firstSame := ((untouched_readBlock _ _).of_run read).disk
  obtain ⟨superblock, decoded, ran⟩ := lift_bind_eq_ok ran
  obtain ⟨_, valid, ran⟩ := lift_bind_eq_ok ran
  obtain ⟨_, second, reported, ran⟩ := bind_eq_ok ran
  have secondSame := ((untouched_report _).of_run reported).disk
  obtain ⟨inodeStart, inodeBegun, ran⟩ := lift_bind_eq_ok ran
  obtain ⟨inodeBitmap, third, inodeLoaded, ran⟩ := bind_eq_ok ran
  have thirdSame := ((untouched_loadBitmap _ _ _ _).of_run inodeLoaded).disk
  obtain ⟨blockStart, blockBegun, ran⟩ := lift_bind_eq_ok ran
  obtain ⟨blockBitmap, fourth, blockLoaded, ran⟩ := bind_eq_ok ran
  have fourthSame := ((untouched_loadBitmap _ _ _ _).of_run blockLoaded).disk
  obtain ⟨root, fifth, rootRead, ran⟩ := bind_eq_ok ran
  obtain ⟨_, _, _, ran⟩ := bind_eq_ok ran
  rw [run_pure] at ran
  cases ran
  have inodes := loadBitmap_eq_ok inodeLoaded
  have blocks := loadBitmap_eq_ok blockLoaded
  have rootFound := (readInode_eq_ok rootRead).2
  rw [readBlock_eq_ok read] at decoded
  rw [secondSame, firstSame] at inodes
  rw [thirdSame, secondSame, firstSame] at blocks
  rw [fourthSame, thirdSame, secondSame, firstSame] at rootFound
  exact ⟨⟨Superblock.magic_of_decode decoded, (Superblock.validate_eq_ok valid).1,
      .of_load inodes, .of_load blocks⟩,
    ⟨decoded, ⟨inodeStart, inodeBegun, inodes⟩, blockStart, blockBegun, blocks⟩,
    valid, rootFound, rfl, rfl⟩

/-- A mount that was accepted had room for its first block. -/
theorem room_of_mount {mounted : Mount} (ran : mount.run.run host = (.ok mounted, after)) :
    blockSize ≤ after.bufferLimit := by
  rw [(untouched_mount.of_run ran).bufferLimit]
  unfold mount at ran
  obtain ⟨_, _, read, _⟩ := bind_eq_ok ran
  exact room_of_readBlock read

theorem alike_sync (mount : Mount) (durability : Durability) :
    Keeps Host.Alike (mount.sync durability : Engine δ Mount) :=
  alike_congruence.sync mount rfl

/-- A sync carries out its plan, or fails when it has carried out a part of it. -/
theorem sync_cases {mount : Mount} (plan : SyncPlan mount) {durability : Durability}
    {answer : Except Error Mount}
    (ran : (mount.sync durability).run.run host = (answer, after)) :
    (answer = .ok (mount.markSynced mount.generation) ∧
        after.disk = plan.apply host.disk [mount.superblock.encode] plan.inodeBlocks
          plan.blockBlocks) ∨
      (∃ error, answer = .error error) ∧ ∃ first second third,
        first <+: [mount.superblock.encode] ∧ second <+: plan.inodeBlocks ∧
        third <+: plan.blockBlocks ∧ after.disk = plan.apply host.disk first second third := by
  unfold Mount.sync at ran
  rw [run_bind_of_ok (run_report _ _)] at ran
  generalize reported : ({ host with events := _ } : Host δ) = begun at ran
  have begunSame : begun.disk = host.disk := by rw [← reported]; rfl
  obtain ⟨_, first, wroteFirst, ran⟩ | ⟨error, failed, rfl⟩ := bind_cases ran
  · obtain ⟨_, firstDisk⟩ | ⟨⟨_, failed⟩, _⟩ := writeBlock_cases wroteFirst
    · rw [run_bind_of_ok (by rw [run_lift, plan.inodeStart_eq])] at ran
      obtain ⟨_, second, wroteSecond, ran⟩ | ⟨error, failed, rfl⟩ := bind_cases ran
      · have secondDisk := (writeSpan_wrote plan.inodeBlocks_eq wroteSecond).whole rfl
        rw [run_bind_of_ok (by rw [run_lift, plan.blockStart_eq])] at ran
        obtain ⟨_, third, wroteThird, ran⟩ | ⟨error, failed, rfl⟩ := bind_cases ran
        · have thirdDisk := (writeSpan_wrote plan.blockBlocks_eq wroteThird).whole rfl
          rw [run_pure] at ran
          cases ran
          refine .inl ⟨rfl, ?_⟩
          rw [thirdDisk, secondDisk, firstDisk, begunSame, SyncPlan.apply]
        · obtain ⟨third, part, thirdDisk⟩ := (writeSpan_wrote plan.blockBlocks_eq failed).part
          refine .inr ⟨⟨error, rfl⟩, _, _, third, List.prefix_rfl, List.prefix_rfl, part, ?_⟩
          rw [thirdDisk, secondDisk, firstDisk, begunSame, SyncPlan.apply]
      · obtain ⟨second, part, secondDisk⟩ := (writeSpan_wrote plan.inodeBlocks_eq failed).part
        refine .inr ⟨⟨error, rfl⟩, _, second, [], List.prefix_rfl, part, List.nil_prefix, ?_⟩
        rw [secondDisk, firstDisk, begunSame, SyncPlan.apply, overlay_nil]
    · cases failed
  · obtain ⟨ok, _⟩ | ⟨_, kept⟩ := writeBlock_cases failed
    · cases ok
    · refine .inr ⟨⟨error, rfl⟩, [], [], [], List.nil_prefix, List.nil_prefix, List.nil_prefix, ?_⟩
      rw [kept, begunSame, SyncPlan.apply, overlay_nil, overlay_nil, overlay_nil]

theorem sync_eq_ok {mount synced : Mount} {durability : Durability} (shaped : mount.Shaped)
    (ran : (mount.sync durability).run.run host = (.ok synced, after)) :
    synced = mount.markSynced mount.generation ∧ synced.Persisted after.disk := by
  obtain ⟨plan⟩ := shaped.syncPlan
  obtain ⟨ok, disk⟩ | ⟨⟨_, failed⟩, _⟩ := sync_cases plan ran
  · cases ok
    have stored := plan.persisted_apply_whole host.disk shaped
    rw [← disk] at stored
    exact ⟨rfl, stored.of_twin ⟨rfl, rfl, rfl⟩⟩
  · cases failed

theorem persisted_of_sync {mount synced : Mount} {durability : Durability} (shaped : mount.Shaped)
    (ran : (mount.sync durability).run.run host = (.ok synced, after)) :
    mount.Persisted after.disk := by
  obtain ⟨rfl, stored⟩ := sync_eq_ok shaped ran
  exact stored.of_twin ⟨rfl, rfl, rfl⟩

end BlockFs
