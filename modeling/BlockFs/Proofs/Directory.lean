import BlockFs.Directory
import BlockFs.Proofs.Device.Request
import BlockFs.Proofs.Word

/-!
Directory listings, slot by slot.

`slotAt` is the semantic model: a block is a row of slots with some bytes behind the last one.  An
inode number and a name fill a slot, so that a slot holds exactly one entry and each entry has one
form.  Slots share no bytes: a write settles its slot and leaves all else, and after any writes a
slot holds the last entry that went to it.
-/

namespace BlockFs

namespace DirEntry

variable {entry : DirEntry} {slot : Octets slotSize}

theorem byteAt_encode_name (entry : DirEntry) (position : Nat) :
    byteAt entry.encode.bytes (4 + position) = byteAt entry.name.bytes position := by
  have size : (packWords [entry.inode]).size = 4 := size_packWords _
  rw [encode, byteAt_append_right (by omega), size, Nat.add_sub_cancel_left]

/-- The slot that is encoded does not depend on what was in the buffer. -/
theorem encodeInto_octets (entry : DirEntry) (buffer : Octets slotSize) :
    entry.encodeInto buffer.bytes = .ok entry.encode.bytes := by
  have size : (packWords [entry.inode]).size = 4 := size_packWords _
  obtain ⟨front, put⟩ := buffer.putWords_exists 0 [entry.inode]
    (show 0 + 4 ≤ slotSize by decide)
  obtain ⟨written, spliced⟩ := front.splice_exists 4 entry.name.bytes
    (Nat.le_of_eq (congrArg (4 + ·) entry.name.size_bytes))
  have same : written = entry.encode := by
    apply Octets.ext_byteAt_lt
    intro position (inside : position < 4 + nameLength)
    rw [Octets.byteAt_splice spliced, Octets.byteAt_putWords put, encode, byteAt_append, size,
      Octets.size_bytes]
    by_cases inNumber : position < 4
    · have within : 0 ≤ position ∧ position < 0 + 4 * [entry.inode].length :=
        ⟨Nat.zero_le _, by rwa [List.length_singleton, Nat.zero_add]⟩
      rw [if_neg (by omega), if_pos within, if_pos inNumber, Nat.sub_zero]
    · rw [if_pos (by omega), if_neg inNumber]
  rw [encodeInto, Octets.ofBuffer_bytes, ok_bind, put, ok_bind, spliced, ok_bind, same]
  rfl

/-- Each entry has one form, and the bytes of a slot are always the form of an entry. -/
theorem decode_eq_ok_iff : decode slot.bytes = .ok entry ↔ entry.encode = slot := by
  constructor
  · intro decoded
    rw [decode, if_pos slot.size_bytes] at decoded
    cases decoded
    apply Octets.ext_byteAt_lt
    intro position inside
    by_cases inNumber : position < 4
    · have packed := byteAt_packWords_wordsAt slot.bytes 0 1
        (Octets.fit nameLength (slot.bytes.extract 4 slotSize)).bytes inNumber
      rwa [Nat.zero_add] at packed
    · obtain ⟨offset, rfl⟩ := Nat.exists_eq_add_of_le (Nat.le_of_not_lt inNumber)
      rw [byteAt_encode_name]
      exact Octets.byteAt_fit_extract slot.bytes (Nat.le_refl _) (Nat.lt_of_add_lt_add_left inside)
  · rintro rfl
    have inode : wordAt entry.encode.bytes 0 = entry.inode :=
      wordAt_packWords (show [entry.inode][0]? = some entry.inode from rfl) _
    have name : Octets.fit nameLength (entry.encode.bytes.extract 4 slotSize) = entry.name := by
      apply Octets.ext_byteAt_lt
      intro position inside
      rw [Octets.byteAt_fit_extract _ (Nat.le_refl _) inside, byteAt_encode_name]
    rw [decode, if_pos entry.encode.size_bytes, inode, name]

theorem decode_exists (slot : Octets slotSize) : ∃ entry, decode slot.bytes = .ok entry :=
  ⟨_, if_pos slot.size_bytes⟩

theorem encode_unused : unused.encode = .zero slotSize := by
  have name : Octets.fit nameLength ((fill 0 slotSize).extract 4 slotSize) = .zero nameLength := by
    apply Octets.ext_byteAt_lt
    intro position inside
    rw [Octets.byteAt_fit_extract _ (Nat.le_refl _) inside, byteAt_fill_zero, Octets.byteAt_zero]
  apply decode_eq_ok_iff.mp
  rw [decode, if_pos (Octets.size_bytes _), Octets.zero, wordAt_fill_zero, name]
  rfl

theorem isUnused_unused : unused.isUnused = true :=
  beq_iff_eq.mpr (Octets.byteAt_zero nameLength 0)

end DirEntry

namespace Listing

variable {block after : Block} {slot other : Nat} {entry : DirEntry}

theorem end_le (inside : slot < slotsPerBlock) : slot * slotSize + slotSize ≤ blockSize := by
  rw [← Nat.succ_mul]
  exact Nat.mul_le_of_le_div slotSize (slot + 1) blockSize inside

/-- The bytes of a slot. -/
def slotAt (block : Block) (slot : Nat) : Octets slotSize :=
  .fit slotSize (block.bytes.extract (slot * slotSize) (slot * slotSize + slotSize))

theorem byteAt_slotAt {position : Nat} (inSlot : position < slotSize) :
    byteAt (slotAt block slot).bytes position =
      byteAt block.bytes (slot * slotSize + position) :=
  Octets.byteAt_fit_extract block.bytes (Nat.le_refl _) inSlot

theorem window_slotAt (block : Block) (inside : slot < slotsPerBlock) :
    window block.bytes (slot * slotSize) slotSize = .ok (slotAt block slot).bytes :=
  window_eq_ok (slotAt block slot).size_bytes (by rw [block.size_bytes]; exact end_le inside)
    fun _ inSlot => (byteAt_slotAt inSlot).symm

theorem get_eq (block : Block) (inside : slot < slotsPerBlock) :
    get block slot = DirEntry.decode (slotAt block slot).bytes := by
  simp only [get, window_slotAt block inside, bind, Except.bind]

/-- A slot holds the entry that its bytes are the form of. -/
theorem get_eq_ok_iff (inside : slot < slotsPerBlock) :
    get block slot = .ok entry ↔ entry.encode = slotAt block slot := by
  rw [get_eq block inside, DirEntry.decode_eq_ok_iff]

theorem get_exists (block : Block) (inside : slot < slotsPerBlock) :
    ∃ entry, get block slot = .ok entry := by
  rw [get_eq block inside]
  exact DirEntry.decode_exists (slotAt block slot)

theorem set_exists (block : Block) (inside : slot < slotsPerBlock) (entry : DirEntry) :
    ∃ after, set block slot entry = .ok after :=
  block.splice_exists (slot * slotSize) entry.encode.bytes
    (by rw [Octets.size_bytes]; exact end_le inside)

/-- To write an entry is to encode it into the bytes of its slot. -/
theorem set_eq_encodeInto (block : Block) (inside : slot < slotsPerBlock) (entry : DirEntry) :
    (window block.bytes (slot * slotSize) slotSize >>= entry.encodeInto >>=
      block.splice (slot * slotSize)) = set block slot entry := by
  have encoded := entry.encodeInto_octets (slotAt block slot)
  simp only [window_slotAt block inside, encoded, set, bind, Except.bind]

theorem byteAt_set (written : set block slot entry = .ok after) (position : Nat) :
    byteAt after.bytes position =
      if slot * slotSize ≤ position ∧ position < slot * slotSize + slotSize then
        byteAt entry.encode.bytes (position - slot * slotSize)
      else byteAt block.bytes position := by
  rw [Octets.byteAt_splice written, Octets.size_bytes]

/-- Slots do not overlap: a write puts an entry into one and leaves all others. -/
theorem slotAt_set (written : set block slot entry = .ok after) (other : Nat) :
    slotAt after other = if other = slot then entry.encode else slotAt block other := by
  apply Octets.ext_byteAt_lt
  intro position inSlot
  rw [byteAt_slotAt inSlot, byteAt_set written]
  by_cases same : other = slot
  · subst same
    rw [if_pos ⟨by omega, by omega⟩, if_pos rfl, Nat.add_sub_cancel_left]
  · rw [if_neg, if_neg same, byteAt_slotAt inSlot]
    rintro ⟨low, high⟩
    exact same (slot_unique inSlot low high)

theorem get_set (written : set block slot entry = .ok after) (inside : other < slotsPerBlock) :
    get after other = if other = slot then .ok entry else get block other := by
  by_cases same : other = slot
  · rw [if_pos same, get_eq_ok_iff inside, slotAt_set written, if_pos same]
  · rw [if_neg same, get_eq after inside, get_eq block inside, slotAt_set written, if_neg same]

theorem byteAt_set_tail (written : set block slot entry = .ok after)
    (inside : slot < slotsPerBlock) {position : Nat} (behind : slotsPerBlock * slotSize ≤ position) :
    byteAt after.bytes position = byteAt block.bytes position := by
  rw [byteAt_set written, if_neg]
  rintro ⟨-, inSlot⟩
  have before : slot * slotSize + slotSize ≤ slotsPerBlock * slotSize := by
    rw [← Nat.succ_mul]
    exact Nat.mul_le_mul_right slotSize inside
  omega

/-- What was read from a slot changes nothing when it is written there. -/
theorem set_of_get (inside : slot < slotsPerBlock) (held : get block slot = .ok entry) :
    set block slot entry = .ok block := by
  obtain ⟨after, written⟩ := set_exists block inside entry
  rw [written, Except.ok.injEq]
  apply Octets.ext_byteAt
  intro position
  rw [byteAt_set written]
  split
  · rename_i inSlot
    rw [(get_eq_ok_iff inside).mp held, byteAt_slotAt (by omega), Nat.add_sub_of_le inSlot.1]
  · rfl

theorem get_empty (inside : slot < slotsPerBlock) : get empty slot = .ok .unused := by
  rw [get_eq_ok_iff inside, DirEntry.encode_unused]
  apply Octets.ext_byteAt_lt
  intro position inSlot
  rw [byteAt_slotAt inSlot, empty, Octets.byteAt_zero, Octets.byteAt_zero]

theorem isEmpty_of_get (held : get block 0 = .ok entry) :
    isEmpty block.bytes = entry.isUnused := by
  rw [get, Nat.zero_mul] at held
  change (window block.bytes 0 slotSize >>= DirEntry.decode) = .ok entry at held
  rw [isEmpty, held]

theorem isEmpty_empty : isEmpty empty.bytes = true := by
  rw [isEmpty_of_get (get_empty (by decide)), DirEntry.isUnused_unused]

/-- An entry that goes to a slot. -/
structure Write where
  slot : Fin slotsPerBlock
  entry : DirEntry

def setAll (block : Block) (writes : List Write) : Except Error Block :=
  writes.foldlM (fun block write => set block write.slot write.entry) block

/-- The entry that went to a slot last. -/
def lastIn (slot : Nat) (writes : List Write) : Option DirEntry :=
  latest (fun write => if write.slot = slot then some write.entry else none) writes

theorem setAll_cons (write : Write) (rest : List Write)
    (written : set block write.slot write.entry = .ok after) :
    setAll block (write :: rest) = setAll after rest := by
  rw [setAll, List.foldlM_cons, written]
  rfl

/-- After any writes a slot holds the last entry that went to it, or what it held before. -/
theorem get_setAll (block : Block) (writes : List Write) :
    ∃ after, setAll block writes = .ok after ∧ ∀ slot < slotsPerBlock,
      get after slot = (lastIn slot writes).elim (get block slot) .ok := by
  induction writes generalizing block with
  | nil => exact ⟨block, rfl, fun _ _ => rfl⟩
  | cons write rest ih =>
      obtain ⟨next, written⟩ := set_exists block write.slot.isLt write.entry
      obtain ⟨after, completed, held⟩ := ih next
      refine ⟨after, (setAll_cons write rest written).trans completed, fun slot inside => ?_⟩
      rw [held slot inside, lastIn, lastIn, latest_cons, get_set written inside]
      -- The first write shows only in a slot that no later one goes to.
      cases latest _ rest with
      | some => rfl
      | none =>
          by_cases here : write.slot = slot
          · rw [if_pos here.symm, if_pos here]
            rfl
          · rw [if_neg fun same => here same.symm, if_neg here]
            rfl

theorem setAll_unused (slots : List (Fin slotsPerBlock)) :
    setAll empty (slots.map fun slot => ⟨slot, .unused⟩) = .ok empty := by
  induction slots with
  | nil => rfl
  | cons slot rest ih =>
      have same := set_of_get slot.isLt (get_empty slot.isLt)
      rw [List.map_cons, setAll_cons ⟨slot, .unused⟩ _ same, ih]

/-- The slots of a block are apart from each other and from the bytes behind them, and each holds
exactly one entry.  A listing without entries is a block with unused ones in all its slots; what
goes to the first slot last decides whether it stays one. -/
theorem slots_independent :
    (∀ (block : Block) (slot : Fin slotsPerBlock) (entry : DirEntry), ∃ after,
      (window block.bytes (slot * slotSize) slotSize >>= entry.encodeInto >>=
        block.splice (slot * slotSize)) = .ok after ∧
      set block slot entry = .ok after ∧ get after slot = .ok entry ∧
      (∀ other : Fin slotsPerBlock, other ≠ slot → get after other = get block other) ∧
      ∀ position, slotsPerBlock * slotSize ≤ position →
        byteAt after.bytes position = byteAt block.bytes position) ∧
    (∀ (block : Block) (slot : Fin slotsPerBlock), ∃ entry,
      get block slot = .ok entry ∧ set block slot entry = .ok block) ∧
    setAll (.zero blockSize) ((List.finRange slotsPerBlock).map fun slot => ⟨slot, .unused⟩) =
      .ok empty ∧
    ∀ writes : List Write, ∃ after, setAll empty writes = .ok after ∧
      (isEmpty after.bytes = true ↔
        ∀ entry, lastIn 0 writes = some entry → entry.isUnused = true) := by
  refine ⟨fun block slot entry => ?_, fun block slot => ?_, setAll_unused _, fun writes => ?_⟩
  · obtain ⟨after, written⟩ := set_exists block slot.isLt entry
    refine ⟨after, (set_eq_encodeInto block slot.isLt entry).trans written, written, ?_, ?_,
      fun position => byteAt_set_tail written slot.isLt⟩
    · rw [get_set written slot.isLt, if_pos rfl]
    · intro other different
      rw [get_set written other.isLt, if_neg (Fin.val_ne_of_ne different)]
  · obtain ⟨entry, held⟩ := get_exists block slot.isLt
    exact ⟨entry, held, set_of_get slot.isLt held⟩
  · obtain ⟨after, completed, held⟩ := get_setAll empty writes
    have first := held 0 (by decide)
    refine ⟨after, completed, ?_⟩
    cases last : lastIn 0 writes with
    | none =>
        rw [last, Option.elim_none, get_empty (by decide)] at first
        rw [isEmpty_of_get first]
        simp only [DirEntry.isUnused_unused, reduceCtorEq, false_implies, implies_true]
    | some entry =>
        rw [last, Option.elim_some] at first
        rw [isEmpty_of_get first]
        simp only [Option.some.injEq, forall_eq']

end Listing

end BlockFs
