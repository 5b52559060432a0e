import BlockFs.Proofs.Engine.Congruence
import BlockFs.Proofs.Engine.Run
import BlockFs.Proofs.Span

namespace BlockFs

open Engine

def Host.disk {δ : Type} [BlockDevice δ] (host : Host δ) : Nat → Block :=
  BlockDevice.content host.device

/-- Devices of one size, and buffers of one limit. -/
structure Host.Alike {δ : Type} [BlockDevice δ] (before after : Host δ) : Prop where
  blockCount : BlockDevice.blockCount after.device = BlockDevice.blockCount before.device
  byteSize : BlockDevice.byteSize after.device = BlockDevice.byteSize before.device
  bufferLimit : after.bufferLimit = before.bufferLimit

/-- Nothing that a later call can see of the content has changed. -/
structure Host.Untouched {δ : Type} [BlockDevice δ] (before after : Host δ) : Prop
    extends Host.Alike before after where
  disk : after.disk = before.disk

namespace Host

variable {δ : Type} [BlockDevice δ] {first second third : Host δ}

theorem Alike.refl (host : Host δ) : Alike host host := ⟨rfl, rfl, rfl⟩

theorem Alike.trans (one : Alike first second) (two : Alike second third) : Alike first third :=
  ⟨two.blockCount.trans one.blockCount, two.byteSize.trans one.byteSize,
    two.bufferLimit.trans one.bufferLimit⟩

theorem Untouched.refl (host : Host δ) : Untouched host host := ⟨.refl host, rfl⟩

theorem Untouched.trans (one : Untouched first second) (two : Untouched second third) :
    Untouched first third :=
  ⟨one.toAlike.trans two.toAlike, two.disk.trans one.disk⟩

end Host

namespace Engine

variable {δ : Type} [BlockDevice δ] {host after : Host δ} {region : Region} {block : UInt32}
  {durability : Durability}

/-- What reports and reads keep, everything that is made of them keeps as well. -/
structure Silent (relation : Host δ → Host δ → Prop) : Prop where
  refl (host : Host δ) : relation host host
  trans {first second third : Host δ} (one : relation first second)
    (two : relation second third) : relation first third
  report (event : Event) : Keeps relation (report event : Engine δ Unit)
  fetch (region : Region) (block : UInt32) :
    Keeps relation (fetch region block : Engine δ Block)

namespace Silent

variable {relation : Host δ → Host δ → Prop} (silent : Silent relation)

include silent

theorem reserve (bytes : Nat) : Keeps relation (reserve bytes : Engine δ Unit) := by
  intro host
  rw [run_reserve]
  split <;> exact silent.refl host

theorem congruence : ReadCongruence fun (work _ : Engine δ _) => Keeps relation work where
  lift := keeps_lift silent.refl
  bind first rest := first.bind silent.trans rest
  reserve := silent.reserve
  report := silent.report
  fetch := silent.fetch

theorem readBlock (region : Region) (block : UInt32) :
    Keeps relation (readBlock region block : Engine δ Block) :=
  silent.congruence.readBlock region block

end Silent

theorem untouched_report (event : Event) : Keeps Host.Untouched (report event : Engine δ Unit) :=
  fun _ => ⟨⟨rfl, rfl, rfl⟩, rfl⟩

variable [LawfulBlockDevice δ]

theorem untouched_fetch (region : Region) (block : UInt32) :
    Keeps Host.Untouched (fetch region block : Engine δ Block) := fun _ =>
  ⟨⟨LawfulBlockDevice.blockCount_read _ _ _, LawfulBlockDevice.byteSize_read _ _ _, rfl⟩,
    LawfulBlockDevice.content_read _ _ _⟩

theorem silent_untouched : Silent (Host.Untouched : Host δ → Host δ → Prop) where
  refl := .refl
  trans := .trans
  report := untouched_report
  fetch := untouched_fetch

theorem untouched_readBlock (region : Region) (block : UInt32) :
    Keeps Host.Untouched (readBlock region block : Engine δ Block) :=
  silent_untouched.readBlock region block

theorem untouched_reserve (bytes : Nat) : Keeps Host.Untouched (reserve bytes : Engine δ Unit) :=
  silent_untouched.reserve bytes

theorem alike_writeBlock (region : Region) (block : UInt32) (data : ByteArray)
    (durability : Durability) :
    Keeps Host.Alike (writeBlock region block data durability : Engine δ Unit) := fun _ =>
  ⟨LawfulBlockDevice.blockCount_write _ _ _ _, LawfulBlockDevice.byteSize_write _ _ _ _, rfl⟩

/-- No computation changes what the device and the buffers have room for. -/
theorem alike_congruence :
    Congruence (· = ·) fun (work _ : Engine δ _) => Keeps Host.Alike work where
  lift := keeps_lift .refl
  bind first rest := first.bind .trans rest
  tryCatch first rest := first.tryCatch .trans rest
  reserve bytes host := (untouched_reserve bytes host).toAlike
  limited _ _ _ rest := Keeps.bind .trans (fun host => .refl host) fun _ =>
    (keeps_lift .refl _).bind .trans rest
  report event host := (untouched_report event host).toAlike
  syncing _ _ _ _ host := (untouched_report _ host).toAlike
  fetch region block host := (untouched_fetch region block host).toAlike
  writeBlock region block content _ _ _ := alike_writeBlock region block content.bytes _

theorem untouched_flush (region : Region) :
    Keeps Host.Untouched (call region BlockDevice.flush : Engine δ Unit) := fun _ =>
  ⟨⟨LawfulBlockDevice.blockCount_flush _, LawfulBlockDevice.byteSize_flush _, rfl⟩,
    LawfulBlockDevice.content_flush _⟩

theorem fetch_eq_ok {found : Block}
    (ran : (fetch region block).run.run host = (.ok found, after)) :
    found = host.disk block.toNat :=
  LawfulBlockDevice.read_eq_content (run_call_eq_ok ran).1

omit [LawfulBlockDevice δ] in
theorem readBlock_cases {answer : Except Error Block}
    (ran : (readBlock region block).run.run host = (answer, after)) :
    (blockSize ≤ host.bufferLimit ∧ (fetch region block).run.run host = (answer, after)) ∨
      host.bufferLimit < blockSize ∧ answer = .error (.outOfMemory blockSize) ∧ after = host := by
  by_cases room : blockSize ≤ host.bufferLimit
  · rw [readBlock, run_bind_of_ok (run_reserve_of_le room)] at ran
    exact .inl ⟨room, ran⟩
  · have short := Nat.lt_of_not_le room
    rw [readBlock, run_bind_of_error (by rw [run_reserve, if_pos short])] at ran
    cases ran
    exact .inr ⟨short, rfl, rfl⟩

theorem readBlock_eq_ok {found : Block}
    (ran : (readBlock region block).run.run host = (.ok found, after)) :
    found = host.disk block.toNat := by
  obtain ⟨_, fetched⟩ | ⟨_, failed, _⟩ := readBlock_cases ran
  · exact fetch_eq_ok fetched
  · cases failed

omit [LawfulBlockDevice δ] in
theorem room_of_readBlock {found : Block}
    (ran : (readBlock region block).run.run host = (.ok found, after)) :
    blockSize ≤ host.bufferLimit := by
  obtain ⟨room, _⟩ | ⟨_, failed, _⟩ := readBlock_cases ran
  · exact room
  · cases failed

/-- A write puts its block in place, or fails and leaves all as it was. -/
theorem writeBlock_cases {content : Block} {answer : Except Error Unit}
    (ran : (writeBlock region block content.bytes durability).run.run host = (answer, after)) :
    (answer = .ok () ∧ after.disk = overlay host.disk block.toNat [content]) ∨
      (∃ error, answer = .error error) ∧ after.disk = host.disk := by
  rw [writeBlock, run_call, Prod.mk.injEq] at ran
  obtain ⟨answered, rfl⟩ := ran
  cases wrote : (BlockDevice.write host.device block content.bytes durability).1 with
  | error cause =>
      rw [wrote] at answered
      exact .inr ⟨⟨_, answered.symm⟩, LawfulBlockDevice.content_write_of_error wrote⟩
  | ok done =>
      rw [wrote] at answered
      obtain ⟨size_bytes, changed⟩ := LawfulBlockDevice.content_write wrote
      refine .inl ⟨answered.symm, changed.trans ?_⟩
      funext index
      by_cases here : index = block.toNat
      · subst here
        rw [if_pos rfl]
        exact (overlay_first _ _ content []).symm
      · rw [if_neg here, overlay_of_outside (by rw [List.length_singleton]; omega)]
        rfl

theorem readBlocks_eq_ok {start : UInt32} {count done : Nat} {bytes found : ByteArray}
    (ran : (readBlocks region start count done bytes).run.run host = (.ok found, after)) :
    found = bytes ++ spanBytes host.disk (start.toNat + done) count := by
  induction count generalizing done bytes host with
  | zero =>
      rw [readBlocks, run_pure] at ran
      cases ran
      exact ByteArray.append_empty.symm
  | succ count ih =>
      rw [readBlocks] at ran
      obtain ⟨place, narrowed, ran⟩ := lift_bind_eq_ok ran
      obtain ⟨block, between, read, ran⟩ := bind_eq_ok ran
      have same := ((untouched_fetch region place).of_run read).disk
      rw [ih ran, same, fetch_eq_ok read, toNat_of_narrow narrowed, spanBytes,
        ByteArray.append_assoc, Nat.add_assoc]

theorem readSpan_eq_ok {start count : UInt32} {found : ByteArray}
    (ran : (readSpan region start count).run.run host = (.ok found, after)) :
    found = spanBytes host.disk start.toNat count.toNat := by
  obtain ⟨_, between, reserved, ran⟩ := bind_eq_ok ran
  rw [readBlocks_eq_ok ran, ((untouched_reserve _).of_run reserved).disk, Nat.add_zero,
    ByteArray.empty_append]

/-- The disk after a run of writes of which the last may have failed. -/
structure Wrote (before after : Host δ) (answer : Except Error Unit) (start : Nat)
    (blocks : List Block) : Prop where
  part : ∃ written, written <+: blocks ∧ after.disk = overlay before.disk start written
  whole : answer = .ok () → after.disk = overlay before.disk start blocks

theorem writeBlocks_wrote {start : UInt32} {done : Nat} {blocks : List Block}
    {answer : Except Error Unit}
    (ran : (writeBlocks region start durability done blocks).run.run host = (answer, after)) :
    Wrote host after answer (start.toNat + done) blocks := by
  induction blocks generalizing done host with
  | nil =>
      rw [writeBlocks, run_pure] at ran
      cases ran
      exact ⟨⟨[], List.prefix_rfl, (overlay_nil _ _).symm⟩, fun _ => (overlay_nil _ _).symm⟩
  | cons block rest ih =>
      -- When the first block is not written no other is.
      have nothing : after.disk = host.disk → (∃ error, answer = .error error) →
          Wrote host after answer (start.toNat + done) (block :: rest) := by
        rintro same ⟨error, rfl⟩
        exact ⟨⟨[], List.nil_prefix, by rw [overlay_nil, same]⟩, fun ok => nomatch ok⟩
      rw [writeBlocks] at ran
      obtain ⟨place, narrowed, ran⟩ | ⟨error, _, rfl, rfl⟩ := lift_bind_cases ran
      · obtain ⟨_, between, wrote, ran⟩ | ⟨error, failed, rfl⟩ := bind_cases ran
        · obtain ⟨_, changed⟩ | ⟨⟨_, failed⟩, _⟩ := writeBlock_cases wrote
          · rw [toNat_of_narrow narrowed] at changed
            obtain ⟨⟨written, part, partly⟩, whole⟩ := ih ran
            rw [changed, ← Nat.add_assoc] at partly whole
            rw [← overlay_cons] at partly
            exact ⟨⟨block :: written, List.cons_prefix_cons.mpr ⟨rfl, part⟩, partly⟩,
              fun ok => by rw [overlay_cons, whole ok]⟩
          · cases failed
        · obtain ⟨ok, _⟩ | ⟨_, same⟩ := writeBlock_cases failed
          · cases ok
          · exact nothing same ⟨error, rfl⟩
      · exact nothing rfl ⟨error, rfl⟩

theorem writeSpan_wrote {start : UInt32} {data : ByteArray} {blocks : List Block}
    {answer : Except Error Unit} (divided : blocksOf data = .ok blocks)
    (ran : (writeSpan region start data durability).run.run host = (answer, after)) :
    Wrote host after answer start.toNat blocks := by
  obtain ⟨found, again, ran⟩ | ⟨error, failed, _⟩ := lift_bind_cases ran
  · cases divided.symm.trans again
    exact writeBlocks_wrote ran
  · cases divided.symm.trans failed

theorem writeSpan_eq_ok {start : UInt32} {data : ByteArray}
    (ran : (writeSpan region start data durability).run.run host = (.ok (), after)) :
    ∃ blocks, blocksOf data = .ok blocks ∧ after.disk = overlay host.disk start.toNat blocks := by
  obtain ⟨blocks, divided, _⟩ := lift_bind_eq_ok ran
  exact ⟨blocks, divided, (writeSpan_wrote divided ran).whole rfl⟩

end Engine

end BlockFs
