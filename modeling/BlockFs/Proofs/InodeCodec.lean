import BlockFs.Proofs.Codec

/-!
Inode records, written and read.

A record has no mark for the kind of its payload: mode and size tell it.  So an inode is read back
as it was if its payload is of the kind that they call for, and a record is written back as it was
if it holds nothing behind a block number.  What was read once is stable from then on.
-/

namespace BlockFs.Inode

variable {inode : Inode} {record : Octets inodeSize}

theorem canonical_iff : inode.Canonical ↔
    ((∃ target, inode.payload = .inlined target) ↔ storesInline inode.mode inode.size) := by
  rw [Canonical, inlineData?]
  cases inode.payload <;> cases storesInline inode.mode inode.size <;> simp

/-- A payload that was read is written as it was, or as the number in front and zeros behind. -/
theorem byteAt_encode_decodePayload (mode size : UInt32) (record : Octets inodeSize)
    {position : Nat} (inside : position < payloadLength) :
    byteAt (decodePayload mode size record.bytes).encode.bytes position =
      if storesInline mode size ∨ position < 4 then byteAt record.bytes (payloadOffset + position)
      else 0 := by
  cases inlines : storesInline mode size with
  | true =>
      simp only [decodePayload, inlines, if_true, Payload.encode, true_or]
      exact Octets.byteAt_fit_extract record.bytes (Nat.le_refl _) inside
  | false =>
      simp only [decodePayload, inlines, Bool.false_eq_true, if_false, Payload.encode, false_or]
      by_cases inNumber : position < 4
      · rw [if_pos inNumber]
        exact byteAt_packWords_wordsAt record.bytes payloadOffset 1 _ inNumber
      · rw [if_neg inNumber, byteAt_append_right (by simp; omega), byteAt_fill_zero]

/-- The bytes of a record that was read and written again. -/
theorem byteAt_encode_of_decode (decoded : decode record.bytes = .ok inode) {position : Nat}
    (inside : position < inodeSize) :
    byteAt inode.encode.bytes position =
      if storesInline inode.mode inode.size ∨ position < payloadOffset + 4 then
        byteAt record.bytes position
      else 0 := by
  obtain ⟨words, payload⟩ := fields_of_decode decoded
  by_cases inWords : position < payloadOffset
  · have packed := byteAt_packWords_wordsAt record.bytes 0 9 inode.payload.encode.bytes inWords
    rw [← words, Nat.zero_add] at packed
    rw [if_pos (.inr (by omega)), ← packed]
    rfl
  · obtain ⟨offset, rfl⟩ := Nat.exists_eq_add_of_le (Nat.le_of_not_lt inWords)
    have written := byteAt_encode_decodePayload inode.mode inode.size record
      (Nat.lt_of_add_lt_add_left inside)
    rw [byteAt_encode_payload, payload, written]
    simp only [Nat.add_lt_add_iff_left]

/-- A record with a block number is written back as it was if only zeros follow the number. -/
theorem encode_eq_iff (decoded : decode record.bytes = .ok inode) :
    inode.encode = record ↔ storesInline inode.mode inode.size ∨
      ∀ position, payloadOffset + 4 ≤ position → position < inodeSize →
        byteAt record.bytes position = 0 := by
  constructor
  · intro same
    by_cases inlines : storesInline inode.mode inode.size
    · exact .inl inlines
    · refine .inr fun position behind inside => ?_
      rw [← same, byteAt_encode_of_decode decoded inside, if_neg]
      exact not_or.mpr ⟨inlines, Nat.not_lt.mpr behind⟩
  · intro kept
    apply Octets.ext_byteAt_lt
    intro position inside
    rw [byteAt_encode_of_decode decoded inside]
    split
    · rfl
    · rename_i lost
      obtain ⟨blocks, behind⟩ := not_or.mp lost
      exact ((kept.resolve_left blocks) position (Nat.not_lt.mp behind) inside).symm

theorem decode_encode_of_decode (decoded : decode record.bytes = .ok inode) :
    decode inode.encode.bytes = .ok inode := by
  rw [decode_encode, stored_eq_iff.mpr (canonical_of_decode decoded)]

theorem put_payload_exists {n offset : Nat} (record : Octets n) (payload : Payload)
    (inside : offset + payloadLength ≤ n)
    (zeros : ∀ position, offset ≤ position → byteAt record.bytes position = 0) :
    ∃ after, payload.put record offset = .ok after ∧ ∀ position, byteAt after.bytes position =
      if offset ≤ position ∧ position < offset + payloadLength then
        byteAt payload.encode.bytes (position - offset)
      else byteAt record.bytes position := by
  cases payload with
  | block number =>
      have size : (packWords [number]).size = 4 := size_packWords _
      have wide : 4 ≤ payloadLength := by decide
      obtain ⟨after, put⟩ := record.putWords_exists offset [number]
        (by simp only [List.length_singleton]; omega)
      refine ⟨after, put, fun position => ?_⟩
      rw [Octets.byteAt_putWords put, List.length_singleton, Payload.encode, byteAt_append, size,
        byteAt_fill_zero]
      by_cases inNumber : offset ≤ position ∧ position < offset + 4
      · rw [if_pos inNumber, if_pos (by omega), if_pos (by omega)]
      · rw [if_neg inNumber]
        by_cases behind : offset ≤ position
        · have pastNumber : ¬ position - offset < 4 := by omega
          rw [zeros position behind, if_neg pastNumber, ite_self]
        · rw [if_neg (by omega)]
  | inlined target =>
      have size : offset + target.bytes.size ≤ n := by rwa [target.size_bytes]
      obtain ⟨after, spliced⟩ := record.splice_exists offset target.bytes size
      refine ⟨after, spliced, fun position => ?_⟩
      rw [Octets.byteAt_splice spliced, target.size_bytes, Payload.encode]

/-- The record that is encoded does not depend on what was in the buffer. -/
theorem encodeInto_octets (inode : Inode) (buffer : Octets inodeSize) :
    inode.encodeInto buffer.bytes = .ok inode.encode.bytes := by
  have size : (packWords inode.words).size = payloadOffset := size_packWords _
  obtain ⟨front, put⟩ := buffer.putWords_exists 0 inode.words
    (show 0 + payloadOffset ≤ inodeSize by decide)
  obtain ⟨cleared, clear⟩ := front.clear_exists (show payloadOffset ≤ inodeSize by decide)
  obtain ⟨written, filled, payload⟩ := put_payload_exists cleared inode.payload
    (Nat.le_refl inodeSize) fun position behind => by rw [Octets.byteAt_clear clear, if_pos behind]
  have same : written = inode.encode := by
    apply Octets.ext_byteAt_lt
    intro position inside
    rw [payload, encode, byteAt_append, size]
    by_cases inWords : position < payloadOffset
    · have outside := Nat.not_le.mpr inWords
      rw [if_neg fun within => outside within.1, if_pos inWords, Octets.byteAt_clear clear,
        if_neg outside, Octets.byteAt_putWords put,
        if_pos ⟨Nat.zero_le _, by rwa [Nat.zero_add]⟩, Nat.sub_zero]
    · rw [if_pos ⟨Nat.le_of_not_lt inWords, inside⟩, if_neg inWords]
  rw [encodeInto, Octets.ofBuffer_bytes, ok_bind, put, ok_bind, clear, ok_bind, filled, ok_bind,
    same]
  rfl

/-- What becomes of an inode that is written and read, and of a record that is read and written.
The nine words of an inode always come back, all of it exactly if its payload is of the kind that
mode and size call for; a record comes back exactly if it holds nothing behind a block number, and
reading it once more finds what was found before. -/
theorem record_round_trips (inode : Inode) (record buffer : Octets inodeSize) :
    (∃ written read, inode.encodeInto buffer.bytes = .ok written ∧ decode written = .ok read ∧
      read.words = inode.words ∧
      (read = inode ↔
        ((∃ target, inode.payload = .inlined target) ↔ storesInline inode.mode inode.size))) ∧
    ∃ read written, decode record.bytes = .ok read ∧ read.encodeInto buffer.bytes = .ok written ∧
      (written = record.bytes ↔ storesInline read.mode read.size ∨
        ∀ position, payloadOffset + 4 ≤ position → position < inodeSize →
          byteAt record.bytes position = 0) ∧
      decode written = .ok read := by
  constructor
  · refine ⟨_, _, inode.encodeInto_octets buffer, inode.decode_encode, rfl, ?_⟩
    rw [stored_eq_iff, canonical_iff]
  · obtain ⟨read, decoded⟩ := decode_exists record
    refine ⟨read, _, decoded, read.encodeInto_octets buffer, ?_, decode_encode_of_decode decoded⟩
    rw [← encode_eq_iff decoded]
    constructor
    · intro same
      exact Octets.ext_byteAt fun position => by rw [same]
    · exact congrArg Octets.bytes

end BlockFs.Inode
