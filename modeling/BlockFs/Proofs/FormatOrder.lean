import BlockFs.Proofs.FormatRow

namespace BlockFs

open Engine BlockDevice

section Records

/-- The record of a call that was to write a block. -/
def CallRecord.ofWrite (durability : Durability) (failed : Bool) (block : Nat) : CallRecord :=
  ⟨.write (.ofNat block) durability, failed⟩

variable {δ : Type} [BlockDevice δ] {durability : Durability} {monitor after : Monitor δ}

theorem Monitor.records_write {word : UInt32} {block : Nat} {data : ByteArray}
    (address : word.toNat = block) (monitor : Monitor δ) :
    (write monitor word data durability).2.records.toList = monitor.records.toList ++
      [.ofWrite durability (!(write monitor word data durability).1.isOk) block] := by
  have same : word = .ofNat block := by rw [← address, UInt32.ofNat_toNat]
  subst same
  exact Array.toList_push

theorem Monitor.records_flush (monitor : Monitor δ) :
    (flush monitor).2.records.toList =
      monitor.records.toList ++ [⟨.flush, !(flush monitor).1.isOk⟩] :=
  Array.toList_push

theorem Carries.records_of_ok {row : List Placement}
    (carries : Carries durability monitor row row (.ok ()) after) :
    after.records.toList = monitor.records.toList ++
      (row.map Placement.block).map (.ofWrite durability false) := by
  induction row generalizing monitor with
  | nil =>
      cases carries
      exact (List.append_nil _).symm
  | cons placement rest ih =>
      cases carries with
      | taken address wrote later =>
          rw [ih later, Monitor.records_write address, wrote, List.append_assoc]
          rfl

theorem Carries.records_of_error {done rest : List Placement} {refused : Placement} {error : Error}
    (carries : Carries durability monitor (done ++ refused :: rest) done (.error error) after) :
    after.records.toList = monitor.records.toList ++
      ((done.map Placement.block).map (.ofWrite durability false) ++
        [.ofWrite durability true refused.block]) := by
  induction done generalizing monitor with
  | nil =>
      cases carries with
      | refused address failed =>
          rw [Monitor.records_write address, failed]
          rfl
  | cons placement front ih =>
      cases carries with
      | taken address wrote later =>
          rw [ih later, Monitor.records_write address, wrote, List.append_assoc]
          rfl

end Records

theorem Placement.block_getElem {row : List Placement} {index : Nat}
    (blocks : row.map Placement.block = List.range row.length) (inside : index < row.length) :
    row[index].block = index := by
  have found := congrArg (·[index]?) blocks
  rw [List.getElem?_map, List.getElem?_eq_getElem inside, List.getElem?_range inside] at found
  exact Option.some.inj found

namespace Format

variable {geometry : Geometry}

namespace Layout

variable (layout : Layout geometry)

/-- The blocks of the layout, the first block of the device first. -/
def contents : List Block :=
  layout.row.map Placement.content

/-- The disk after the first blocks were laid out and no others. -/
structure LaidOut (count : Nat) (before after : Nat → Block) : Prop where
  front : ∀ index < count, layout.contents[index]? = some (after index)
  behind : ∀ index, count ≤ index → after index = before index

variable {layout}

theorem length_row (planned : geometry.Planned) : layout.row.length = geometry.metadata + 1 := by
  have length := congrArg List.length (layout.map_block_row planned)
  rwa [List.length_map, List.length_range] at length

theorem map_block_part (planned : geometry.Planned) {done : List Placement}
    (part : done <+: layout.row) : done.map Placement.block = List.range done.length := by
  have inside := part.length_le
  rw [length_row planned] at inside
  rw [List.prefix_iff_eq_take.mp (part.map Placement.block), layout.map_block_row planned,
    List.take_range, List.length_map, Nat.min_eq_left inside]

theorem laidOut_of_part (planned : geometry.Planned) {done : List Placement}
    {before after : Nat → Block} (part : done <+: layout.row) (placed : Placed done before after) :
    layout.LaidOut done.length before after := by
  have blocks := map_block_part planned part
  constructor
  · intro index below
    rw [contents, List.getElem?_map, List.prefix_iff_getElem?.mp part index below, Option.map_some,
      ← placed.written _ (List.getElem_mem below), Placement.block_getElem blocks below]
  · intro index above
    apply placed.others
    rw [blocks, List.mem_range]
    exact Nat.not_lt.mpr above

/-- A format that is begun anew leaves what it would have left at once. -/
theorem LaidOut.again {part whole : Nat} {before between after : Nat → Block}
    (within : part ≤ whole) (one : layout.LaidOut part before between)
    (two : layout.LaidOut whole between after) : layout.LaidOut whole before after :=
  ⟨two.front, fun index above =>
    (two.behind index above).trans (one.behind index (Nat.le_trans within above))⟩

variable (layout) in
/-- The row in front of a block, the block, and the rest of the row. -/
theorem row_split (planned : geometry.Planned) {block : Nat} (inside : block ≤ geometry.metadata) :
    ∃ done refused rest, layout.row = done ++ refused :: rest ∧ done.length = block ∧
      refused.block = block ∧ refused.region = geometry.regionOf block := by
  have within : block < layout.row.length := by
    rw [length_row planned]
    omega
  have split : layout.row =
      layout.row.take block ++ layout.row[block] :: layout.row.drop (block + 1) := by
    rw [← List.drop_eq_getElem_cons within, List.take_append_drop]
  have here := Placement.block_getElem (map_block_part planned List.prefix_rfl) within
  refine ⟨_, _, _, split, List.length_take_of_le (Nat.le_of_lt within), here, ?_⟩
  rw [layout.region_row planned (List.getElem_mem within), here]

end Layout

variable {δ : Type} [BlockDevice δ] {host after : Host δ} {answer : Except Error Superblock}

/-- A format lays the regions out and then flushes the device. -/
theorem run_format (layout : Layout geometry)
    (sized : Geometry.ofSize (byteSize host.device) = .ok geometry) :
    format.run.run host = (do
      regions geometry layout.mirror.superblock
      call .dataBlocks BlockDevice.flush
      report (.formatted layout.mirror.superblock)
      return layout.mirror.superblock : Engine δ Superblock).run.run
        { host with events := host.events.push (.formatting geometry layout.listing) } := by
  rw [format, run_bind_of_ok (run_get host), run_bind_of_ok (by rw [run_lift, sized]),
    run_bind_of_ok (by rw [run_lift, layout.listing_eq]), run_bind_of_ok (run_report _ _),
    run_bind_of_ok (by rw [run_lift, layout.empty.superblock])]
  simp only [regions, bind_assoc]

/-- A format ends for want of memory, or where the device refuses a block of its row, or with the
flush. -/
theorem format_cases (planned : geometry.Planned) (layout : Layout geometry)
    (sized : Geometry.ofSize (byteSize host.device) = .ok geometry)
    (ran : format.run.run host = (answer, after)) :
    (∃ error, geometry.Short host.bufferLimit error ∧ answer = .error error) ∨
    (∃ done error, Carries .writeBack host.device layout.row done (.error error) after.device ∧
      answer = .error error) ∨
    ∃ between, Carries .writeBack host.device layout.row layout.row (.ok ()) between ∧
      after.device = (BlockDevice.flush between).2 ∧
      answer = ((BlockDevice.flush between).1.mapError (.device .dataBlocks)).map
        fun _ => layout.mirror.superblock := by
  rw [run_format layout sized] at ran
  rcases bind_cases ran with ⟨_, between, laid, ran⟩ | ⟨error, laid, rfl⟩
  · rcases layout.performs_regions planned _ _ _ laid with
      ⟨_, ⟨_, _, failed⟩ | ⟨done, outcome, carries, answered⟩⟩
    · cases failed
    · cases outcome with
      | error error => cases answered
      | ok complete =>
          cases carries.done_eq
          refine .inr (.inr ⟨between.device, carries, ?_⟩)
          rcases bind_cases ran with ⟨_, flushed, called, ran⟩ | ⟨error, called, rfl⟩
          · rcases run_call_eq_ok called with ⟨flush, rfl⟩
            rw [run_bind_of_ok (run_report _ _), run_pure] at ran
            cases ran
            exact ⟨rfl, by rw [flush]; rfl⟩
          · rw [run_call, Prod.mk.injEq] at called
            rcases called with ⟨refused, rfl⟩
            exact ⟨rfl, by rw [refused]; rfl⟩
  · rcases layout.performs_regions planned _ _ _ laid with
      ⟨_, ⟨_, short, failed⟩ | ⟨done, outcome, carries, answered⟩⟩
    · cases failed
      exact .inl ⟨error, short, rfl⟩
    · cases outcome with
      | error cause =>
          cases answered
          exact .inr (.inl ⟨done, _, carries, rfl⟩)
      | ok complete => cases answered

/-- A format that has room for its buffers does not end for want of memory. -/
theorem format_memory (buffers : geometry.BuffersFit host.bufferLimit)
    (sized : Geometry.ofSize (byteSize host.device) = .ok geometry)
    (ran : format.run.run host = (answer, after)) (bytes : Nat) :
    answer ≠ .error (.outOfMemory bytes) := by
  have planned := (Geometry.ofSize_planned sized).1
  obtain ⟨layout⟩ := layout_exists planned
  rcases format_cases planned layout sized ran with
    ⟨_, ⟨short, _⟩, _⟩ | ⟨_, error, carries, rfl⟩ | ⟨between, _, _, rfl⟩
  · exact absurd buffers short
  · rcases carries.error_eq with ⟨region, cause, rfl⟩
    exact nofun
  · cases (BlockDevice.flush between).1 <;> exact nofun

/-- A format that has memory ends where the device refuses a block of its row, or with the flush. -/
theorem format_carries (planned : geometry.Planned) (layout : Layout geometry)
    (sized : Geometry.ofSize (byteSize host.device) = .ok geometry)
    (memory : ∀ bytes, answer ≠ .error (.outOfMemory bytes))
    (ran : format.run.run host = (answer, after)) :
    (∃ done error, Carries .writeBack host.device layout.row done (.error error) after.device ∧
      answer = .error error) ∨
    ∃ between, Carries .writeBack host.device layout.row layout.row (.ok ()) between ∧
      after.device = (BlockDevice.flush between).2 ∧
      answer = ((BlockDevice.flush between).1.mapError (.device .dataBlocks)).map
        fun _ => layout.mirror.superblock := by
  rcases format_cases planned layout sized ran with ⟨_, ⟨_, bytes, rfl⟩, failed⟩ | ended
  · exact absurd failed (memory bytes)
  · exact ended

theorem laidOut_of_carries [LawfulBlockDevice δ] (planned : geometry.Planned)
    (layout : Layout geometry) {between : δ}
    (carries : Carries .writeBack host.device layout.row layout.row (.ok ()) between)
    (flushed : after.device = (BlockDevice.flush between).2) :
    layout.LaidOut (geometry.metadata + 1) host.disk after.disk := by
  have placed := carries.placed (layout.nodup_row planned)
  rw [← LawfulBlockDevice.content_flush between, ← flushed] at placed
  rw [← Layout.length_row planned]
  exact Layout.laidOut_of_part planned List.prefix_rfl placed

/-- A format that succeeds lays out what the size of the device asks for, whatever the device
held. -/
theorem laidOut_of_format [LawfulBlockDevice δ] {superblock : Superblock}
    (planned : geometry.Planned) (layout : Layout geometry)
    (sized : Geometry.ofSize (byteSize host.device) = .ok geometry)
    (ran : format.run.run host = (.ok superblock, after)) :
    superblock = layout.mirror.superblock ∧
      layout.LaidOut (geometry.metadata + 1) host.disk after.disk := by
  rcases format_cases planned layout sized ran with
    ⟨_, _, failed⟩ | ⟨_, _, _, failed⟩ | ⟨between, carries, flushed, answered⟩
  · cases failed
  · cases failed
  · refine ⟨?_, laidOut_of_carries planned layout carries flushed⟩
    cases outcome : (BlockDevice.flush between).1 with
    | error cause =>
        rw [outcome] at answered
        cases answered
    | ok complete =>
        rw [outcome] at answered
        exact Except.ok.inj answered

/-- However a format ends that has memory, it has laid out the first blocks and no others. -/
theorem laidOut_of_run [LawfulBlockDevice δ] (planned : geometry.Planned)
    (layout : Layout geometry) (sized : Geometry.ofSize (byteSize host.device) = .ok geometry)
    (memory : ∀ bytes, answer ≠ .error (.outOfMemory bytes))
    (ran : format.run.run host = (answer, after)) :
    ∃ count ≤ geometry.metadata + 1, layout.LaidOut count host.disk after.disk := by
  rcases format_carries planned layout sized memory ran with
    ⟨done, _, carries, _⟩ | ⟨_, carries, flushed, _⟩
  · have placed := carries.placed (layout.nodup_row planned)
    exact ⟨_, Layout.length_row planned ▸ carries.part.length_le,
      Layout.laidOut_of_part planned carries.part placed⟩
  · exact ⟨_, Nat.le_refl _, laidOut_of_carries planned layout carries flushed⟩

variable {causes : Nat → Option DeviceError} {devices : δ → Prop}

/-- A format of a device that refuses none of the blocks gets as far as the flush. -/
theorem format_allowed (planned : geometry.Planned) (layout : Layout geometry)
    (sized : Geometry.ofSize (byteSize host.device) = .ok geometry)
    (unwritable : Unwritable causes devices) (member : devices host.device)
    (memory : ∀ bytes, answer ≠ .error (.outOfMemory bytes))
    (ran : format.run.run host = (answer, after))
    (allowed : ∀ block ≤ geometry.metadata, causes block = none) :
    ∃ between, Carries .writeBack host.device layout.row layout.row (.ok ()) between ∧
      after.device = (BlockDevice.flush between).2 ∧
      answer = ((BlockDevice.flush between).1.mapError (.device .dataBlocks)).map
        fun _ => layout.mirror.superblock := by
  have every : ∀ placement ∈ layout.row, causes placement.block = none := by
    intro placement inside
    have place := List.mem_map_of_mem (f := Placement.block) inside
    rw [layout.map_block_row planned, List.mem_range] at place
    exact allowed _ (Nat.le_of_lt_succ place)
  rcases format_carries planned layout sized memory ran with ⟨_, _, carries, _⟩ | ended
  · cases (progress_of_allowed every).symm.trans (carries.progress_eq unwritable member)
  · exact ended

/-- A format of a device that refuses a block stops at the first that it refuses. -/
theorem format_refused (planned : geometry.Planned) (layout : Layout geometry)
    (sized : Geometry.ofSize (byteSize host.device) = .ok geometry)
    (unwritable : Unwritable causes devices) (member : devices host.device)
    (memory : ∀ bytes, answer ≠ .error (.outOfMemory bytes))
    (ran : format.run.run host = (answer, after)) {block : Nat} {cause : DeviceError}
    (inside : block ≤ geometry.metadata) (refusal : causes block = some cause)
    (allowed : ∀ earlier < block, causes earlier = none) :
    ∃ done refused rest, layout.row = done ++ refused :: rest ∧ done.length = block ∧
      refused.block = block ∧ Carries .writeBack host.device (done ++ refused :: rest) done
        (.error (.device (geometry.regionOf block) cause)) after.device ∧
      answer = .error (.device (geometry.regionOf block) cause) := by
  obtain ⟨done, refused, rest, split, length, here, region⟩ := layout.row_split planned inside
  have front : ∀ placement ∈ done, causes placement.block = none := by
    intro placement member
    have place := List.mem_map_of_mem (f := Placement.block) member
    rw [Layout.map_block_part planned ⟨_, split.symm⟩, List.mem_range, length] at place
    exact allowed _ place
  have stopped := progress_of_refused front (here ▸ refusal) rest
  rw [region] at stopped
  refine ⟨done, refused, rest, split, length, here, ?_⟩
  rcases format_carries planned layout sized memory ran with
    ⟨_, _, carries, answered⟩ | ⟨_, carries, _⟩
  · rw [split] at carries
    cases stopped.symm.trans (carries.progress_eq unwritable member)
    exact ⟨carries, answered⟩
  · rw [split] at carries
    cases congrArg Prod.snd (stopped.symm.trans (carries.progress_eq unwritable member))

end Format

open Format

theorem format_of_unsized {δ : Type} [BlockDevice δ] {host : Host δ} {error : Error}
    (unsized : Geometry.ofSize (byteSize host.device) = .error error) :
    format.run.run host = (.error error, host) := by
  rw [format, run_bind_of_ok (run_get host)]
  exact run_bind_of_error (by rw [run_lift, unsized])

variable {δ : Type} [BlockDevice δ] [LawfulBlockDevice δ] {causes : Nat → Option DeviceError}
  {devices : Monitor δ → Prop} {host after : Host (Monitor δ)} {answer : Except Error Superblock}

/-- A format of a device that cannot be sized makes no call, and one that has room for its buffers
never wants memory.  Unless it does, it writes back the blocks from the first to the root directory's
listing, in their order, and ends where a block is refused, with the region of that block and with
all blocks from it on as they were; or else it ends with one flush.  It can be begun anew after any
such end. -/
theorem format_in_order (unwritable : Unwritable causes devices) (member : devices host.device)
    (ran : format.run.run host = (answer, after)) :
    (∀ error, Geometry.ofSize (byteSize host.device) = .error error →
      answer = .error error ∧ after = host) ∧
    ∀ geometry, Geometry.ofSize (byteSize host.device) = .ok geometry →
      (geometry.BuffersFit host.bufferLimit → ∀ bytes, answer ≠ .error (.outOfMemory bytes)) ∧
      ((∀ bytes, answer ≠ .error (.outOfMemory bytes)) →
        ∃ layout : Layout geometry, layout.listing.toNat = geometry.metadata ∧
          (∀ (ε : Type) [BlockDevice ε] [LawfulBlockDevice ε] (ideal final : Host ε) superblock,
            byteSize ideal.device = byteSize host.device →
            format.run.run ideal = (.ok superblock, final) →
            superblock = layout.mirror.superblock ∧
              layout.LaidOut (geometry.metadata + 1) ideal.disk final.disk) ∧
          (∀ block ≤ geometry.metadata, ∀ cause, causes block = some cause →
            (∀ earlier < block, causes earlier = none) →
            answer = .error (.device (geometry.regionOf block) cause) ∧
              after.device.records.toList = host.device.records.toList ++
                ((List.range block).map (.ofWrite .writeBack false) ++
                  [.ofWrite .writeBack true block]) ∧
              layout.LaidOut block host.disk after.disk) ∧
          ((∀ block ≤ geometry.metadata, causes block = none) →
            ∃ flushed : Except DeviceError Unit,
              answer = (flushed.mapError (.device .dataBlocks)).map
                  (fun _ => layout.mirror.superblock) ∧
                after.device.records.toList = host.device.records.toList ++
                  ((List.range (geometry.metadata + 1)).map (.ofWrite .writeBack false) ++
                    [⟨.flush, !flushed.isOk⟩]) ∧
                layout.LaidOut (geometry.metadata + 1) host.disk after.disk) ∧
          ∀ (ε : Type) [BlockDevice ε] [LawfulBlockDevice ε] (later final : Host ε) superblock,
            byteSize later.device = byteSize host.device → later.disk = after.disk →
            format.run.run later = (.ok superblock, final) →
            layout.LaidOut (geometry.metadata + 1) host.disk final.disk) := by
  refine ⟨fun error unsized => ?_, fun geometry sized => ⟨fun buffers => ?_, fun memory => ?_⟩⟩
  · cases ran.symm.trans (format_of_unsized unsized)
    exact ⟨rfl, rfl⟩
  · exact format_memory buffers sized ran
  · have planned := (Geometry.ofSize_planned sized).1
    obtain ⟨layout⟩ := layout_exists planned
    refine ⟨layout, (layout.tiles planned).listing, ?_, ?_, ?_, ?_⟩
    · intro ε _ _ ideal final superblock same completed
      exact laidOut_of_format planned layout (same ▸ sized) completed
    · intro block inside cause refusal allowed
      obtain ⟨done, refused, rest, split, rfl, here, carries, answered⟩ :=
        format_refused planned layout sized unwritable member memory ran inside refusal allowed
      have part : done <+: layout.row := ⟨_, split.symm⟩
      have placed := carries.placed (split ▸ layout.nodup_row planned)
      refine ⟨answered, ?_, Layout.laidOut_of_part planned part placed⟩
      rw [carries.records_of_error, Layout.map_block_part planned part, here]
    · intro allowed
      obtain ⟨between, carries, flushed, answered⟩ :=
        format_allowed planned layout sized unwritable member memory ran allowed
      refine ⟨_, answered, ?_, laidOut_of_carries planned layout carries flushed⟩
      rw [flushed, Monitor.records_flush, carries.records_of_ok, layout.map_block_row planned,
        List.append_assoc]
    · -- The next run writes all that this one may have left out.
      intro ε _ _ later final superblock same kept completed
      obtain ⟨count, inside, laid⟩ := laidOut_of_run planned layout sized memory ran
      have whole := (laidOut_of_format planned layout (same ▸ sized) completed).2
      rw [kept] at whole
      exact laid.again inside whole

/-- A disk of the least size, watched, that cannot write the map of the inodes. -/
def refusingHost : Host (Monitor RamDisk) where
  device := { device := leastHost.device.heal.failWrites [3] }
  bufferLimit := leastHost.bufferLimit

theorem refusingHost_sized :
    Geometry.ofSize (byteSize refusingHost.device) = .ok leastGeometry :=
  leastHost_sized

theorem format_in_order_least : ∃ after : Host (Monitor RamDisk),
    format.run.run refusingHost = (.error (.device .inodeBitmap (.injected .write)), after) ∧
      after.device.records.toList = (List.range 3).map (.ofWrite .writeBack false) ++
        [.ofWrite .writeBack true 3] ∧
      ∀ index, 3 ≤ index → after.disk index = leastHost.disk index := by
  rcases ran : format.run.run refusingHost with ⟨answer, after⟩
  have unwritable := refusingHost.device.device.unwritable.monitor
  have buffers : leastGeometry.BuffersFit refusingHost.bufferLimit := leastGeometry_buffersFit
  obtain ⟨_, sized⟩ := format_in_order unwritable ⟨rfl, rfl⟩ ran
  obtain ⟨remembers, laysOut⟩ := sized leastGeometry refusingHost_sized
  obtain ⟨layout, _, _, stops, _⟩ := laysOut (remembers buffers)
  have causes {index : Nat} (inside : index ≤ 3) :=
    leastHost.device.writeCauses_failWrites 3 (Nat.lt_of_le_of_lt inside (by decide))
  obtain ⟨rfl, records, laid⟩ := stops 3 (by decide) (.injected .write)
    (causes (Nat.le_refl _))
    fun earlier below => (causes (Nat.le_of_lt below)).trans (if_neg (Nat.ne_of_lt below))
  exact ⟨after, rfl, records, laid.behind⟩

end BlockFs
