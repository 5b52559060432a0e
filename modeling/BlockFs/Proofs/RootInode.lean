import BlockFs.Proofs.InodeTable

namespace BlockFs

open Engine

/-- The record of the root is that of the copy, which was read from the table or written last. -/
structure Mount.CachesRoot (mount : Mount) (disk : Nat → Block) (trace : List Incident) : Prop where
  record : Inode.decode (recordAt disk rootInode).bytes = .ok mount.root.stored
  source : mount.root.Canonical ∨ lastWritten rootInode trace = some mount.root

variable {mount next mounted : Mount} {disk changed : Nat → Block} {trace : List Incident}
  {operation : Operation} {answer : Except Error Answer}

theorem Change.root (change : Change mount disk operation answer next changed) :
    next.root = (writtenTo rootInode (operation, answer)).getD mount.root := by
  cases change with
  | @wroteInode other =>
      rw [writtenTo]
      by_cases root : other = rootInode
      · rw [if_pos root, if_pos root]
        rfl
      · rw [if_neg root, if_neg root]
        rfl
  | failed =>
      rw [writtenTo_error]
      rfl
  | answered query =>
      rw [writtenTo_query query]
      rfl
  | _ => rfl

theorem Mount.CachesRoot.change (caches : mount.CachesRoot disk trace)
    (change : Change mount disk operation answer next changed) (shaped : mount.Shaped)
    (fits : mount.TableFits) (inside : rootInode < mount.superblock.inodes) :
    next.CachesRoot changed (trace ++ [(operation, answer)]) := by
  have record := change.recordAt shaped fits inside
  have root := change.root
  have last := lastWritten_concat rootInode trace (operation, answer)
  cases written : writtenTo rootInode (operation, answer) with
  | none =>
      rw [written] at record root last
      refine ⟨?_, ?_⟩
      · rw [record, root]
        exact caches.record
      · rw [last, root]
        exact caches.source
  | some inode =>
      rw [written] at record root last
      refine ⟨?_, .inr ?_⟩
      · rw [record, root, Option.map_some, Option.getD_some, Option.getD_some]
        exact inode.decode_encode
      · rw [last, root]
        rfl

variable {δ : Type} [BlockDevice δ] [LawfulBlockDevice δ] {host start last after : Host δ}

theorem cachesRoot_mount (accepted : BlockFs.mount.run.run host = (.ok mounted, after))
    (trace : List Incident) : mounted.CachesRoot after.disk trace := by
  obtain ⟨_, _, _, found, _⟩ := mount_eq_ok accepted
  simp only [window_recordAt, bind, Except.bind] at found
  have canonical := Inode.canonical_of_decode found
  refine ⟨?_, .inl canonical⟩
  rw [(untouched_mount.of_run accepted).disk, Inode.stored_eq_iff.mpr canonical]
  exact found

theorem Session.History.cachesRoot {geometry : Geometry} {mirror : Mount} {session : Session δ}
    (history : History (.idle start) trace session)
    (formatted : Formatted geometry mirror start.disk) :
    match session with
    | .idle _ => True
    | .active mount host => mount.CachesRoot host.disk trace := by
  have planned := formatted.planned
  have initial := formatted.intact
  induction history with
  | start | refuse | finish => trivial
  | operate history stepped ih =>
      obtain ⟨_, shaped, same⟩ := history.intact planned initial
      subst same
      exact ih.change (step_change shaped stepped) shaped (planned.tableFits rfl)
        (UInt32.lt_iff_toNat_lt.mpr planned.inodes_pos)
  | mount _ accepted => exact cachesRoot_mount accepted _
  | @disturb _ session _ _ same ih =>
      cases session with
      | idle => trivial
      | active mount host =>
          change mount.CachesRoot _ _
          rw [same.disk]
          exact ih

theorem Session.History.run_readInode_root {superblock : Superblock} {block : Block}
    (history : History (.idle start) trace (.active mount last))
    (formatted : format.run.run host = (.ok superblock, start))
    (read : (readBlock .inodeTable 1).run.run last = (.ok block, after)) :
    (mount.readInode rootInode).run.run last = (.ok mount.root.stored, after) ∧
      (mount.root.Canonical ∨ lastWritten rootInode trace = some mount.root) := by
  obtain ⟨geometry, mirror, _, _, outcome⟩ := format_eq_ok formatted
  have planned := outcome.planned
  have caches : mount.CachesRoot last.disk trace := history.cachesRoot outcome
  obtain ⟨_, _, same⟩ := history.intact planned outcome.intact
  subst same
  have inside : rootInode < mount.superblock.inodes :=
    UInt32.lt_iff_toNat_lt.mpr planned.inodes_pos
  have answered := run_readInode inside read
  rw [caches.record] at answered
  exact ⟨answered, caches.source⟩

/-- Whenever its block can be read, the root is read from the table as the mount's copy would be
after it was stored.  This is the copy itself exactly if the copy is canonical, as it is unless the
last write of the root was of an inode that is not. -/
theorem readInode_root {superblock : Superblock} {block : Block}
    (formatted : format.run.run host = (.ok superblock, start))
    (history : Session.History (.idle start) trace (.active mount last))
    (read : (readBlock .inodeTable 1).run.run last = (.ok block, after)) :
    ∃ found, (mount.readInode rootInode).run.run last = (.ok found, after) ∧
      Inode.decode mount.root.encode.bytes = .ok found ∧
      (found = mount.root ↔ mount.root.Canonical) ∧
      ((∀ inode, lastWritten rootInode trace = some inode → inode.Canonical) →
        found = mount.root) := by
  obtain ⟨answered, source⟩ := history.run_readInode_root formatted read
  refine ⟨_, answered, mount.root.decode_encode, Inode.stored_eq_iff, fun written => ?_⟩
  apply Inode.stored_eq_iff.mpr
  rcases source with canonical | last
  · exact canonical
  · exact written _ last

theorem readInode_root_least :
    ∃ (superblock : Superblock) (mount : Mount) (start last after : Host RamDisk)
      (trace : List Incident) (block : Block),
      format.run.run leastHost = (.ok superblock, start) ∧
        Session.History (.idle start) trace (.active mount last) ∧
        (readBlock .inodeTable 1).run.run last = (.ok block, after) ∧ mount.root = .root 9 ∧
        (mount.readInode rootInode).run.run last = (.ok (.root 9), after) := by
  obtain ⟨superblock, start, _, _, mount, last, formatted, accepted, stepped, _, after, read⟩ :=
    leastHost_writes (show rootInode < 120 by decide) (.root 9) .writeThrough (by decide)
  have root : mount.root = .root 9 := (step_change (mount_eq_ok accepted).1 stepped).root
  have history := (Session.History.start.mount accepted).operate stepped
  obtain ⟨found, answered, _, agrees, _⟩ := readInode_root formatted history read
  rw [root] at agrees
  rw [agrees.mpr (by decide)] at answered
  exact ⟨_, mount, start, last, after, _, _, formatted, history, read, root, answered⟩

/-- A root directory whose payload is that of a short symbolic link. -/
def misfitRoot : Inode :=
  { Inode.root 5 with payload := .inlined (.zero payloadLength) }

/-- A write of such a root leaves a copy that the table does not agree with. -/
theorem readInode_root_differs :
    ∃ (superblock : Superblock) (mount : Mount) (start last after : Host RamDisk)
      (trace : List Incident) (block : Block) (found : Inode),
      format.run.run leastHost = (.ok superblock, start) ∧
        Session.History (.idle start) trace (.active mount last) ∧
        (readBlock .inodeTable 1).run.run last = (.ok block, after) ∧ mount.root = misfitRoot ∧
        (mount.readInode rootInode).run.run last = (.ok found, after) ∧ found ≠ mount.root := by
  obtain ⟨superblock, start, _, _, mount, last, formatted, accepted, stepped, _, after, read⟩ :=
    leastHost_writes (show rootInode < 120 by decide) misfitRoot .writeThrough (by decide)
  have root : mount.root = misfitRoot := (step_change (mount_eq_ok accepted).1 stepped).root
  have history := (Session.History.start.mount accepted).operate stepped
  refine ⟨_, mount, start, last, after, _, _, _, formatted, history, read, root,
    (history.run_readInode_root formatted read).1, fun same => ?_⟩
  rw [Inode.stored_eq_iff, root] at same
  exact absurd same (by decide)

end BlockFs
