import BlockFs.Proofs.Device.Request
import BlockFs.Proofs.Lives
import BlockFs.Proofs.Mount.Twins
import BlockFs.Proofs.RecordConfinement

/-!
The inode table as an array of records.

Records share blocks, so that a write of one of them writes back what was read of its neighbours.
`Change.recordAt` says what an operation does to each record, and `Session.History.recordAt` that
over the whole life of a formatted device a record is the one last written, whichever calls fail in
it.
-/

namespace BlockFs

open Engine

/-- The record of an inode on a disk. -/
def recordAt (disk : Nat → Block) (number : UInt32) : Octets inodeSize :=
  let address := Inode.address number
  .fit inodeSize
    ((disk address.block.toNat).bytes.extract address.offset (address.offset + inodeSize))

variable {disk changed : Nat → Block} {number : UInt32} {inode : Inode}

theorem byteAt_recordAt {position : Nat} (inside : position < inodeSize) :
    byteAt (recordAt disk number).bytes position =
      byteAt (disk (Inode.address number).block.toNat).bytes
        ((Inode.address number).offset + position) :=
  Octets.byteAt_fit_extract _ (Nat.le_refl _) inside

theorem window_recordAt (disk : Nat → Block) (number : UInt32) :
    window (disk (Inode.address number).block.toNat).bytes (Inode.address number).offset inodeSize =
      .ok (recordAt disk number).bytes :=
  window_eq_ok (recordAt disk number).size_bytes
    (by rw [Octets.size_bytes]; exact address_offset_le number)
    fun _ inside => (byteAt_recordAt inside).symm

theorem recordAt_congr (same : changed (Inode.address number).block.toNat =
    disk (Inode.address number).block.toNat) : recordAt changed number = recordAt disk number := by
  rw [recordAt, same]
  rfl

theorem recordAt_eq {record : Octets inodeSize}
    (found : window (disk (Inode.address number).block.toNat).bytes (Inode.address number).offset
      inodeSize = .ok record.bytes) : recordAt disk number = record := by
  rw [window_recordAt, Except.ok.injEq] at found
  exact Octets.ext_byteAt fun position => by rw [found]

/-- Records do not overlap: a write puts one in its place and leaves all others. -/
theorem RecordWritten.recordAt (written : RecordWritten number inode disk changed)
    (other : UInt32) : recordAt changed other =
      if other = number then inode.encode else BlockFs.recordAt disk other := by
  apply Octets.ext_byteAt_lt
  intro position inside
  rw [byteAt_recordAt inside, written]
  by_cases same : other = number
  · subst same
    rw [if_pos ⟨rfl, by omega, by omega⟩, if_pos rfl, Nat.add_sub_cancel_left]
  · rw [if_neg, if_neg same, byteAt_recordAt inside]
    rintro ⟨blocks, low, high⟩
    rw [toNat_address_block, toNat_address_block] at blocks
    have slots : other.toNat % inodesPerBlock = number.toNat % inodesPerBlock :=
      slot_unique inside low high
    apply same
    apply UInt32.toNat_inj.mp
    rw [← Nat.div_add_mod other.toNat inodesPerBlock, Nat.add_left_cancel blocks, slots,
      Nat.div_add_mod]

/-- The inode that an incident put into the table under a number. -/
def writtenTo (number : UInt32) : Incident → Option Inode
  | (.writeInode other inode _, .ok _) => if other = number then some inode else none
  | _ => none

theorem writtenTo_error (number : UInt32) (operation : Operation) (error : Error) :
    writtenTo number (operation, .error error) = none := by
  cases operation <;> rfl

theorem writtenTo_query {operation : Operation} (query : operation.isQuery = true)
    (number : UInt32) (answer : Answer) : writtenTo number (operation, .ok answer) = none := by
  cases operation <;> first | rfl | contradiction

/-- The inode of the last successful write under a number. -/
def lastWritten (number : UInt32) (trace : List Incident) : Option Inode :=
  trace.reverse.findSome? (writtenTo number)

theorem lastWritten_concat (number : UInt32) (trace : List Incident) (incident : Incident) :
    lastWritten number (trace ++ [incident]) =
      (writtenTo number incident).or (lastWritten number trace) :=
  latest_concat (writtenTo number) trace incident

/-- The record that formatting and the writes of a trace leave. -/
def recordAfter (listing : UInt32) (trace : List Incident) (number : UInt32) : Octets inodeSize :=
  match lastWritten number trace with
  | some inode => inode.encode
  | none => if number = rootInode then (Inode.root listing).encode else .zero inodeSize

theorem recordAfter_concat (listing : UInt32) (trace : List Incident) (incident : Incident) :
    recordAfter listing (trace ++ [incident]) number =
      ((writtenTo number incident).map Inode.encode).getD (recordAfter listing trace number) := by
  rw [recordAfter, lastWritten_concat]
  cases writtenTo number incident <;> rfl

theorem Formatted.recordAt {geometry : Geometry} {mirror : Mount} {listing : UInt32}
    (formatted : Formatted geometry mirror disk) (begun : geometry.dataStart = .ok listing)
    (inside : number < geometry.totalInodes) :
    BlockFs.recordAt disk number = recordAfter listing [] number := by
  apply recordAt_eq
  rw [formatted.record begun inside]
  change _ = Except.ok (if number = rootInode then _ else _ : Octets inodeSize).bytes
  split <;> rfl

section Changes

variable {mount next : Mount} {operation : Operation} {answer : Except Error Answer}

theorem Mount.TableFits.recordAt (fits : mount.TableFits)
    (agrees : mount.geometry.Agrees disk changed) (inside : number < mount.superblock.inodes) :
    BlockFs.recordAt changed number = BlockFs.recordAt disk number :=
  recordAt_congr (agrees _ (fits.not_synced inside))

/-- An operation leaves every record as it was, but for the one that it writes. -/
theorem Change.recordAt (change : Change mount disk operation answer next changed)
    (shaped : mount.Shaped) (fits : mount.TableFits) (inside : number < mount.superblock.inodes) :
    BlockFs.recordAt changed number =
      ((writtenTo number (operation, answer)).map Inode.encode).getD
        (BlockFs.recordAt disk number) := by
  cases change with
  | @wroteInode other _ _ _ _ spliced =>
      rw [(recordWritten_of_splice spliced).recordAt, writtenTo]
      by_cases same : number = other
      · rw [if_pos same, if_pos same.symm]
        rfl
      · rw [if_neg same, if_neg (Ne.symm same)]
        rfl
  | synced plan =>
      exact fits.recordAt
        (plan.agrees_apply disk shaped List.prefix_rfl List.prefix_rfl List.prefix_rfl) inside
  | interrupted plan superblock inodes blocks =>
      exact fits.recordAt (plan.agrees_apply disk shaped superblock inodes blocks) inside
  | failed =>
      rw [writtenTo_error]
      rfl
  | answered query =>
      rw [writtenTo_query query]
      rfl
  | _ => rfl

end Changes

variable {δ : Type} [BlockDevice δ]

theorem readInode_of_le {superblock : Superblock} (outside : superblock.inodes ≤ number)
    (host : Host δ) : (superblock.readInode number).run.run host =
      (.error (.outOfRange number.toNat superblock.inodes.toNat), host) := by
  unfold Superblock.readInode
  rw [if_pos outside]
  rfl

theorem writeInode_of_le {mount : Mount} (outside : mount.superblock.inodes ≤ number)
    (inode : Inode) (durability : Durability) (host : Host δ) :
    (mount.writeInode number inode durability).run.run host =
      (.error (.outOfRange number.toNat mount.superblock.inodes.toNat), host) := by
  unfold Mount.writeInode
  rw [if_pos outside]
  rfl

variable [LawfulBlockDevice δ] {host start last after : Host δ}

theorem sync_agrees {mount : Mount} {durability : Durability} {answer : Except Error Mount}
    (shaped : mount.Shaped) (ran : (mount.sync durability).run.run host = (answer, after)) :
    mount.geometry.Agrees host.disk after.disk := by
  obtain ⟨plan⟩ := shaped.syncPlan
  obtain ⟨_, written⟩ | ⟨_, first, second, third, superblock, inodes, blocks, written⟩ :=
    sync_cases plan ran
  · rw [written]
    exact plan.agrees_apply _ shaped List.prefix_rfl List.prefix_rfl List.prefix_rfl
  · rw [written]
    exact plan.agrees_apply _ shaped superblock inodes blocks

theorem finish_agrees {mount : Mount} {ending : Ending} {answer : Except Error Unit}
    (shaped : mount.Shaped) (ended : (ending.finish mount).run.run host = (answer, after)) :
    mount.geometry.Agrees host.disk after.disk := by
  obtain ⟨_, _, rfl⟩ | ⟨_, _, _, ran, rfl, _⟩ := finish_cases ended
  · exact .refl _
  · have agrees := sync_agrees shaped ran
    exact agrees

/-- A formatted device always holds, of each inode, the record last written. -/
theorem Session.History.recordAt {geometry : Geometry} {mirror : Mount} {listing : UInt32}
    {trace : List Incident} {session : Session δ}
    (history : History (.idle start) trace session)
    (formatted : Formatted geometry mirror start.disk)
    (begun : geometry.dataStart = .ok listing) (inside : number < geometry.totalInodes) :
    BlockFs.recordAt session.host.disk number = recordAfter listing trace number := by
  have planned := formatted.planned
  have initial := formatted.intact
  induction history with
  | start => exact formatted.recordAt begun inside
  | operate history stepped ih =>
      obtain ⟨_, shaped, same⟩ := history.intact planned initial
      subst same
      rw [recordAfter_concat, ← ih]
      exact (step_change shaped stepped).recordAt shaped (planned.tableFits rfl) inside
  | mount _ ran ih | refuse _ ran ih =>
      rw [← ih]
      exact recordAt_congr (congrFun (untouched_mount.of_run ran).disk _)
  | finish history ended ih =>
      obtain ⟨_, shaped, same⟩ := history.intact planned initial
      subst same
      rw [← ih]
      exact (planned.tableFits rfl).recordAt (finish_agrees shaped ended) inside
  | @disturb _ session _ _ same ih =>
      rw [← ih]
      cases session <;> exact recordAt_congr (congrFun same.disk _)

/-- A read of an inode needs its block and nothing else. -/
theorem run_readInode {superblock : Superblock} {block : Block}
    (inside : number < superblock.inodes)
    (read : (readBlock .inodeTable (Inode.address number).block).run.run host =
      (.ok block, after)) :
    (superblock.readInode number).run.run host =
      (Inode.decode (recordAt host.disk number).bytes, after) := by
  unfold Superblock.readInode
  rw [if_neg (UInt32.not_le.mpr inside), run_bind_of_ok read, readBlock_eq_ok read,
    run_bind_of_ok (by rw [run_lift, window_recordAt]), run_lift]

/-- The smallest disk, formatted and mounted, takes the record of an inode. -/
theorem leastHost_writes {number : UInt32} (inside : number < 120) (inode : Inode)
    (durability : Durability) (covered : (Inode.address number).block.toNat < 6) :
    ∃ superblock start mounted ready next after,
      format.run.run leastHost = (.ok superblock, start) ∧
        BlockFs.mount.run.run start = (.ok mounted, ready) ∧
        (Operation.writeInode number inode durability).step (mounted, ready) =
          (.ok .done, next, after) ∧
        next.geometry = leastGeometry ∧
        ∃ last, (readBlock .inodeTable 1).run.run after = (.ok (after.disk 1), last) := by
  obtain ⟨mirror, start, mounted, ready, formatted, outcome, twin, accepted, _, healthy, _⟩ :=
    leastHost_session
  have same := twin.geometry_eq.trans (outcome.empty.geometry_eq outcome.planned)
  have inodes : mounted.superblock.inodes = 120 := congrArg Geometry.totalInodes same
  obtain ⟨next, after, stepped, twin', stays⟩ :=
    step_writeInode inode durability healthy (room_of_mount accepted) (inodes ▸ inside) covered
  have room : blockSize ≤ after.bufferLimit := by
    rw [(alike_step stepped).bufferLimit]
    exact room_of_mount accepted
  obtain ⟨last, read, _⟩ : Completes 6 Host.Untouched (readBlock .inodeTable 1) after _ :=
    completes_readBlock stays room (by decide)
  exact ⟨_, start, mounted, ready, next, after, formatted, accepted, stepped,
    twin'.geometry_eq.trans same, last, read⟩

/-- The inode table is an array.  After any life of a formatted device each inode is read as it was
last written, and at first there is a root directory with nothing behind it.  Numbers behind the
last inode are refused before any call of the device. -/
theorem readInode_last_written {superblock : Superblock} {trace : List Incident} {mount : Mount}
    (formatted : format.run.run host = (.ok superblock, start))
    (history : Session.History (.idle start) trace (.active mount last)) :
    mount.geometry = superblock.geometry ∧
    (∃ listing, mount.geometry.dataStart = .ok listing ∧
      ∀ number < mount.superblock.inodes, ∀ block after,
        (readBlock .inodeTable (Inode.address number).block).run.run last = (.ok block, after) →
        ∃ found, (mount.readInode number).run.run last = (.ok found, after) ∧
          (∀ inode, lastWritten number trace = some inode →
            Inode.decode inode.encode.bytes = .ok found ∧ (inode.Canonical → found = inode)) ∧
          (lastWritten number trace = none →
            if number = rootInode then found = .root listing
            else Inode.decode (fill 0 inodeSize) = .ok found)) ∧
    ∀ number, mount.superblock.inodes ≤ number → ∀ (inode : Inode) (durability : Durability)
      (ε : Type) [BlockDevice ε] (other : Host ε),
      (mount.readInode number).run.run other =
          (.error (.outOfRange number.toNat mount.superblock.inodes.toNat), other) ∧
        (mount.writeInode number inode durability).run.run other =
          (.error (.outOfRange number.toNat mount.superblock.inodes.toNat), other) := by
  obtain ⟨geometry, mirror, _, rfl, outcome⟩ := format_eq_ok formatted
  have planned := outcome.planned
  have described := outcome.empty.geometry_eq planned
  obtain ⟨listing, begun, _⟩ := Geometry.dataStart_exists planned.hasData
  obtain ⟨_, _, same⟩ := history.intact planned outcome.intact
  refine ⟨same.trans described.symm, ⟨listing, same ▸ begun, ?_⟩, ?_⟩
  · intro number inside block after read
    have record := history.recordAt outcome begun
      (show number < geometry.totalInodes from same ▸ inside)
    obtain ⟨found, decoded⟩ := Inode.decode_exists (recordAt last.disk number)
    refine ⟨found, by rw [Mount.readInode, run_readInode inside read, decoded], ?_, ?_⟩
    all_goals rw [show recordAt last.disk number = _ from record, recordAfter] at decoded
    · intro inode written
      rw [written] at decoded
      refine ⟨decoded, fun canonical => ?_⟩
      rw [inode.decode_encode, Inode.stored_eq_iff.mpr canonical, Except.ok.injEq] at decoded
      exact decoded.symm
    · intro untouched
      rw [untouched] at decoded
      dsimp only at decoded
      split at decoded
      · rename_i root
        rw [Inode.decode_encode_root, Except.ok.injEq] at decoded
        rw [if_pos root, decoded]
      · rename_i other
        rw [if_neg other]
        exact decoded
  · intro number outside inode durability ε _ other
    exact ⟨readInode_of_le outside other, writeInode_of_le outside inode durability other⟩

theorem readInode_last_written_least :
    ∃ (superblock : Superblock) (mount : Mount) (start last : Host RamDisk) (trace : List Incident),
      format.run.run leastHost = (.ok superblock, start) ∧
        Session.History (.idle start) trace (.active mount last) ∧
        lastWritten 1 trace = some (.root 9) ∧ lastWritten rootInode trace = none ∧
        (∃ after, (mount.readInode 1).run.run last = (.ok (.root 9), after)) ∧
        ∃ after, (mount.readInode rootInode).run.run last = (.ok (.root 5), after) := by
  obtain ⟨superblock, start, _, _, mount, last, formatted, accepted, stepped, same, after, read⟩ :=
    leastHost_writes (show (1 : UInt32) < 120 by decide) (.root 9) .writeBack (by decide)
  have history := (Session.History.start.mount accepted).operate stepped
  obtain ⟨_, ⟨listing, begun, reads⟩, _⟩ := readInode_last_written formatted history
  have inodes : mount.superblock.inodes = 120 := congrArg Geometry.totalInodes same
  rw [same, show leastGeometry.dataStart = .ok 5 from rfl] at begun
  cases begun
  obtain ⟨found, second, wrote, _⟩ := reads 1 (by rw [inodes]; decide) _ _ read
  obtain ⟨root, first, _, unwritten⟩ := reads rootInode (by rw [inodes]; decide) _ _ read
  refine ⟨_, mount, start, last, _, formatted, history, rfl, rfl, ⟨after, ?_⟩, after, ?_⟩
  · rw [second, (wrote _ rfl).2 (by decide)]
  · rw [first, show root = _ from unwritten rfl]

end BlockFs
