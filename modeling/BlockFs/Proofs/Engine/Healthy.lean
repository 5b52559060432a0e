import BlockFs.Device.RamDisk
import BlockFs.Proofs.Engine.Transfer
import BlockFs.Proofs.Word

namespace BlockFs

open BlockDevice

/-- Devices that carry out every transfer of a block below the limit, and stay so. -/
structure Reliable {δ : Type} [BlockDevice δ] (limit : Nat) (devices : δ → Prop) : Prop where
  read {device : δ} {block : UInt32} (member : devices device) (inside : block.toNat < limit) :
    (∃ found, (read device block blockSize).1 = .ok found) ∧
      devices (read device block blockSize).2
  write {device : δ} {block : UInt32} {data : ByteArray} (durability : Durability)
    (member : devices device) (inside : block.toNat < limit)
    (size_bytes : data.size = blockSize) :
    (write device block data durability).1 = .ok () ∧
      devices (write device block data durability).2
  flush {device : δ} (member : devices device) :
    (flush device).1 = .ok () ∧ devices (flush device).2

/-- No call fails on the blocks below the limit, now or after other calls. -/
def Healthy {δ : Type} [BlockDevice δ] (limit : Nat) (device : δ) : Prop :=
  ∃ devices : δ → Prop, Reliable limit devices ∧ devices device

namespace RamDisk

theorem reliable (limit : Nat) : Reliable limit fun disk : RamDisk =>
    disk.failingReads = ∅ ∧ disk.failingWrites = ∅ ∧ limit ≤ disk.blockCount where
  read {disk block} member inside := by
    obtain ⟨reads, writes, covers⟩ := member
    have present : ¬ disk.blockCount ≤ block.toNat := Nat.not_le.mpr (by omega)
    refine ⟨⟨disk.image.page block.toNat, ?_⟩, reads, writes, covers⟩
    simp only [BlockDevice.read, RamDisk.read, checkTransfer, if_neg present, if_true, reads,
      Std.ExtTreeSet.contains_empty, Bool.false_eq_true, if_false]
  write {disk block data} durability member inside size_bytes := by
    obtain ⟨reads, writes, covers⟩ := member
    have present : ¬ disk.blockCount ≤ block.toNat := Nat.not_le.mpr (by omega)
    simp only [BlockDevice.write, RamDisk.write, checkWrite, if_neg present, dif_pos size_bytes,
      writes, Std.ExtTreeSet.contains_empty, Bool.false_eq_true, if_false]
    exact ⟨trivial, reads, trivial, covers⟩
  flush member := ⟨rfl, member⟩

theorem healthy {disk : RamDisk} {limit : Nat} (reads : disk.failingReads = ∅)
    (writes : disk.failingWrites = ∅) (covers : limit ≤ disk.blockCount) : Healthy limit disk :=
  ⟨_, reliable limit, reads, writes, covers⟩

end RamDisk

namespace Engine

variable {δ : Type} [BlockDevice δ] {α β : Type} {host : Host δ} {limit : Nat}

/-- The computation answers a value and leaves the device healthy. -/
def Completes (limit : Nat) (relation : Host δ → Host δ → Prop) (work : Engine δ α) (host : Host δ)
    (value : α) : Prop :=
  ∃ after, work.run.run host = (.ok value, after) ∧ Healthy limit after.device ∧ relation host after

variable {relation : Host δ → Host δ → Prop} {work : Engine δ α} {next : α → Engine δ β} {value : α}
  {result : β}

theorem Completes.bind (transitive : ∀ {first second third : Host δ},
      relation first second → relation second third → relation first third)
    (first : Completes limit relation work host value)
    (rest : ∀ after, Healthy limit after.device → relation host after →
      Completes limit relation (next value) after result) :
    Completes limit relation (work >>= next) host result := by
  obtain ⟨between, ran, healthy, kept⟩ := first
  obtain ⟨after, ranNext, healthyNext, keptNext⟩ := rest between healthy kept
  exact ⟨after, (run_bind_of_ok ran).trans ranNext, healthyNext, transitive kept keptNext⟩

/-- A sequence in which the relation is kept from an earlier host on. -/
theorem Completes.thread {start : Host δ} (transitive : ∀ {first second third : Host δ},
      relation first second → relation second third → relation first third)
    (kept : relation start host) (first : Completes limit relation work host value)
    (rest : ∀ after, Healthy limit after.device → relation start after →
      Completes limit relation (next value) after result) :
    Completes limit relation (work >>= next) host result :=
  first.bind transitive fun after healthy still => rest after healthy (transitive kept still)

theorem Completes.alike (completes : Completes limit Host.Untouched work host value) :
    Completes limit Host.Alike work host value := by
  obtain ⟨after, ran, healthy, kept⟩ := completes
  exact ⟨after, ran, healthy, kept.toAlike⟩

theorem completes_lift {answer : Except Error α} (healthy : Healthy limit host.device)
    (answered : answer = .ok value) :
    Completes limit Host.Untouched (liftM answer : Engine δ α) host value :=
  ⟨host, by rw [run_lift, answered], healthy, .refl host⟩

theorem completes_pure (healthy : Healthy limit host.device) (value : α) :
    Completes limit Host.Untouched (pure value : Engine δ α) host value :=
  ⟨host, rfl, healthy, .refl host⟩

theorem completes_get (healthy : Healthy limit host.device) :
    Completes limit Host.Untouched (get : Engine δ (Host δ)) host host :=
  ⟨host, rfl, healthy, .refl host⟩

theorem completes_report (healthy : Healthy limit host.device) (event : Event) :
    Completes limit Host.Untouched (report event) host () :=
  ⟨_, rfl, healthy, untouched_report event host⟩

theorem completes_reserve (healthy : Healthy limit host.device) {bytes : Nat}
    (room : bytes ≤ host.bufferLimit) : Completes limit Host.Untouched (reserve bytes) host () :=
  ⟨host, run_reserve_of_le room, healthy, .refl host⟩

variable [LawfulBlockDevice δ] {region : Region} {block start : UInt32} {durability : Durability}

theorem completes_fetch (healthy : Healthy limit host.device) (inside : block.toNat < limit) :
    Completes limit Host.Untouched (fetch region block) host (host.disk block.toNat) := by
  obtain ⟨devices, reliable, member⟩ := healthy
  obtain ⟨⟨found, read⟩, stays⟩ := reliable.read member inside
  have answered : (fetch region block).run.run host =
      (.ok found, { host with device := (BlockDevice.read host.device block blockSize).2 }) := by
    rw [fetch, run_call, read]
    rfl
  rw [← fetch_eq_ok answered]
  exact ⟨_, answered, ⟨devices, reliable, stays⟩, (untouched_fetch _ _).of_run answered⟩

theorem completes_readBlock (healthy : Healthy limit host.device)
    (room : blockSize ≤ host.bufferLimit) (inside : block.toNat < limit) :
    Completes limit Host.Untouched (readBlock region block) host (host.disk block.toNat) := by
  refine (completes_reserve healthy room).bind .trans fun after healthy untouched => ?_
  rw [← untouched.disk]
  exact completes_fetch healthy inside

theorem completes_writeBlock (healthy : Healthy limit host.device)
    (inside : block.toNat < limit) (content : Block) :
    Completes limit Host.Alike (writeBlock region block content.bytes durability) host () := by
  obtain ⟨devices, reliable, member⟩ := healthy
  obtain ⟨wrote, stays⟩ := reliable.write durability member inside content.size_bytes
  have answered : (writeBlock region block content.bytes durability).run.run host =
      (.ok (), { host with
        device := (BlockDevice.write host.device block content.bytes durability).2 }) := by
    rw [writeBlock, run_call, wrote]
    rfl
  exact ⟨_, answered, ⟨devices, reliable, stays⟩, (alike_writeBlock _ _ _ _).of_run answered⟩

theorem completes_flush (healthy : Healthy limit host.device) :
    Completes limit Host.Untouched (call region BlockDevice.flush : Engine δ Unit) host () := by
  obtain ⟨devices, reliable, member⟩ := healthy
  obtain ⟨flushed, stays⟩ := reliable.flush member
  exact ⟨_, by rw [run_call, flushed]; rfl, ⟨devices, reliable, stays⟩, untouched_flush region host⟩

theorem completes_readBlocks {count done : Nat} {bytes : ByteArray}
    (healthy : Healthy limit host.device) (inside : start.toNat + done + count ≤ limit)
    (words : start.toNat + done + count ≤ UInt32.size) :
    Completes limit Host.Untouched (readBlocks region start count done bytes) host
      (bytes ++ spanBytes host.disk (start.toNat + done) count) := by
  induction count generalizing done bytes host with
  | zero =>
      rw [spanBytes, ByteArray.append_empty]
      exact completes_pure healthy bytes
  | succ count ih =>
      obtain ⟨place, narrowed, placed⟩ := narrow_exists (start.toNat + done) (by omega)
      refine (completes_lift healthy narrowed).bind .trans fun second healthy untouched => ?_
      refine (completes_fetch healthy (by omega)).bind .trans fun third healthy untouched' => ?_
      have tail : Completes limit Host.Untouched (readBlocks region start count (done + 1)
          (bytes ++ (second.disk place.toNat).bytes)) third
          (bytes ++ (second.disk place.toNat).bytes ++
            spanBytes third.disk (start.toNat + (done + 1)) count) :=
        ih healthy (by omega) (by omega)
      have following : start.toNat + (done + 1) = place.toNat + 1 := by omega
      rw [following, ByteArray.append_assoc, untouched'.disk] at tail
      rw [spanBytes, ← untouched.disk, ← placed]
      exact tail

theorem completes_readSpan {count : UInt32} (healthy : Healthy limit host.device)
    (room : count.toNat * blockSize ≤ host.bufferLimit)
    (inside : start.toNat + count.toNat ≤ limit)
    (words : start.toNat + count.toNat ≤ UInt32.size) :
    Completes limit Host.Untouched (readSpan region start count) host
      (spanBytes host.disk start.toNat count.toNat) := by
  refine (completes_reserve healthy room).bind .trans fun after healthy untouched => ?_
  have read : Completes limit Host.Untouched (readBlocks region start count.toNat 0 .empty) after
      (.empty ++ spanBytes after.disk (start.toNat + 0) count.toNat) :=
    completes_readBlocks healthy inside words
  rw [ByteArray.empty_append, Nat.add_zero, untouched.disk] at read
  exact read

theorem completes_writeBlocks {done : Nat} {blocks : List Block}
    (healthy : Healthy limit host.device)
    (inside : start.toNat + done + blocks.length ≤ limit)
    (words : start.toNat + done + blocks.length ≤ UInt32.size) :
    Completes limit Host.Alike (writeBlocks region start durability done blocks) host () := by
  induction blocks generalizing done host with
  | nil => exact (completes_pure healthy ()).alike
  | cons block rest ih =>
      rw [List.length_cons] at inside words
      obtain ⟨place, narrowed, placed⟩ := narrow_exists (start.toNat + done) (by omega)
      refine (completes_lift healthy narrowed).alike.bind .trans fun second healthy alike => ?_
      refine (completes_writeBlock healthy (by omega) block).bind .trans fun third healthy _ => ?_
      exact ih healthy (by omega) (by omega)

theorem completes_writeSpan {data : ByteArray} {blocks : List Block}
    (healthy : Healthy limit host.device) (divided : blocksOf data = .ok blocks)
    (inside : start.toNat + blocks.length ≤ limit)
    (words : start.toNat + blocks.length ≤ UInt32.size) :
    Completes limit Host.Alike (writeSpan region start data durability) host () := by
  refine (completes_lift healthy divided).alike.bind .trans fun after healthy alike => ?_
  exact completes_writeBlocks healthy inside words

end Engine

end BlockFs
