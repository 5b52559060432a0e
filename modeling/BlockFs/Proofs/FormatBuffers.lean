import BlockFs.Proofs.EmptyFilesystem

namespace BlockFs

open Engine

theorem Bitmap.room_of_fresh {bufferLimit : Nat} {blocks length used : UInt32} {bitmap : Bitmap}
    (made : fresh bufferLimit blocks length used = .ok bitmap) :
    blocks.toNat * blockSize ≤ bufferLimit := by
  obtain ⟨_, refused⟩ | ⟨_, ⟨_, refused⟩ | ⟨room, _⟩⟩ := fresh_cases bufferLimit blocks length used
  · cases made.symm.trans refused
  · cases made.symm.trans refused
  · exact room

variable {δ : Type} [BlockDevice δ] {host after : Host δ} {geometry : Geometry}

namespace Format

theorem writeInodeTable_room (ran : (writeInodeTable geometry).run.run host = (.ok (), after)) :
    geometry.inodeTableBlocks.toNat * blockSize ≤ host.bufferLimit := by
  obtain ⟨_, reserved, room, _⟩ := bind_eq_ok ran
  exact (reserve_eq_ok room).1

variable [LawfulBlockDevice δ]

theorem writeInodeBitmap_room (ran : (writeInodeBitmap geometry).run.run host = (.ok (), after)) :
    geometry.inodeBitmapBlocks.toNat * blockSize ≤ host.bufferLimit := by
  obtain ⟨_, _, _, made, _⟩ := writeInodeBitmap_eq_ok ran
  exact Bitmap.room_of_fresh made

theorem writeBlockBitmap_room (ran : (writeBlockBitmap geometry).run.run host = (.ok (), after)) :
    geometry.blockBitmapBlocks.toNat * blockSize ≤ host.bufferLimit := by
  obtain ⟨_, _, _, _, _, made, _⟩ := writeBlockBitmap_eq_ok ran
  exact Bitmap.room_of_fresh made

end Format

variable [LawfulBlockDevice δ]

theorem alike_format : Keeps Host.Alike (format : Engine δ Superblock) :=
  alike_congruence.format (fun _ => rfl)
    (fun rest => Keeps.bind .trans (fun host => .refl host) fun _ =>
      (keeps_lift .refl _).bind .trans rest)
    fun region host => (untouched_flush region host).toAlike

open Format in
theorem buffersFit_of_format {superblock : Superblock}
    (ran : format.run.run host = (.ok superblock, after)) :
    ∃ geometry mirror, mirror.superblock = superblock ∧ Formatted geometry mirror after.disk ∧
      geometry.BuffersFit after.bufferLimit := by
  obtain ⟨geometry, mirror, sized, same, outcome⟩ := format_eq_ok ran
  have kept := alike_format.of_run ran
  refine ⟨geometry, mirror, same, outcome, ?_⟩
  rw [kept.bufferLimit]
  rw [format, run_bind_of_ok (run_get host)] at ran
  obtain ⟨_, again, ran⟩ := lift_bind_eq_ok ran
  cases sized.symm.trans again
  obtain ⟨_, _, ran⟩ := lift_bind_eq_ok ran
  rw [run_bind_of_ok (run_report _ _)] at ran
  generalize begun : ({ host with events := _ } : Host δ) = zeroth at ran
  have limit : zeroth.bufferLimit = host.bufferLimit := by rw [← begun]
  obtain ⟨_, _, ran⟩ := lift_bind_eq_ok ran
  obtain ⟨_, first, wroteSuperblock, ran⟩ := bind_eq_ok ran
  obtain ⟨_, second, wroteTable, ran⟩ := bind_eq_ok ran
  obtain ⟨_, third, wroteInodes, ran⟩ := bind_eq_ok ran
  obtain ⟨_, fourth, wroteBlocks, ran⟩ := bind_eq_ok ran
  have firstLimit := (alike_congruence.writeSuperblock (fun _ => rfl) _).of_run wroteSuperblock
    |>.bufferLimit
  have secondLimit := (alike_congruence.writeInodeTable (fun _ => rfl) _).of_run wroteTable
    |>.bufferLimit
  have thirdLimit := (alike_congruence.writeInodeBitmap (fun _ => rfl) _).of_run wroteInodes
    |>.bufferLimit
  have table := writeInodeTable_room wroteTable
  have inodes := writeInodeBitmap_room wroteInodes
  have blocks := writeBlockBitmap_room wroteBlocks
  rw [firstLimit, limit] at table
  rw [secondLimit, firstLimit, limit] at inodes
  rw [thirdLimit, secondLimit, firstLimit, limit] at blocks
  exact ⟨table, inodes, blocks⟩

end BlockFs
