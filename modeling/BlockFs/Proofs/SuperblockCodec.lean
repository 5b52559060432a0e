import BlockFs.Proofs.Codec

namespace BlockFs

/-- The magic number lies in these four bytes, the least significant one in front. -/
theorem wordAt_eq_formatMagic_iff {bytes : ByteArray} :
    wordAt bytes 0 = formatMagic ↔
      byteAt bytes 0 = 0x11 ∧ byteAt bytes 1 = 0xce ∧ byteAt bytes 2 = 0xad ∧
        byteAt bytes 3 = 0xde := by
  have first := (byteAt bytes 0).toNat_lt
  have second := (byteAt bytes 1).toNat_lt
  have third := (byteAt bytes 2).toNat_lt
  have digits := toNat_wordAt bytes 0
  have magic : formatMagic.toNat = 0xDEADCE11 := rfl
  simp only [← UInt32.toNat_inj, ← UInt8.toNat_inj, digits, magic, Nat.zero_add,
    UInt8.reduceToNat]
  omega

namespace Superblock

variable {superblock read : Superblock} {bytes other : ByteArray} {block : Block}

/-- The block that is encoded does not depend on what was in the buffer. -/
theorem encodeInto_block (superblock : Superblock) (buffer : Block) :
    superblock.encodeInto buffer.bytes = .ok superblock.encode.bytes := by
  have size : (packWords superblock.words).size = superblockLength := size_packWords _
  have count : 4 * superblock.words.length = superblockLength := rfl
  obtain ⟨cleared, clear⟩ := buffer.clear_exists (Nat.zero_le blockSize)
  obtain ⟨written, put⟩ := cleared.putWords_exists 0 superblock.words
    (by rw [count]; decide)
  have same : written = superblock.encode := by
    apply Octets.ext_byteAt
    intro position
    rw [Octets.byteAt_putWords put, Octets.byteAt_clear clear, if_pos (Nat.zero_le position),
      encode, byteAt_append, size, byteAt_fill_zero, count]
    simp only [Nat.zero_le, true_and, Nat.zero_add, Nat.sub_zero]
  rw [encodeInto, Octets.ofBuffer_bytes, ok_bind, clear, ok_bind, put, ok_bind, same]
  rfl

theorem decode_exists_iff (long : superblockLength ≤ bytes.size) :
    (∃ read, decode bytes = .ok read) ↔ wordAt bytes 0 = formatMagic := by
  constructor
  · rintro ⟨read, decoded⟩
    refine Decidable.not_not.mp fun wrong => ?_
    rw [decode_eq_wrongMagic long wrong] at decoded
    contradiction
  · intro magic
    exact ⟨_, by rw [decode, if_neg (Nat.not_lt.mpr long), if_neg (not_not_intro magic)]⟩

theorem decode_congr (long : superblockLength ≤ bytes.size)
    (alsoLong : superblockLength ≤ other.size)
    (same : ∀ position < superblockLength, byteAt bytes position = byteAt other position) :
    decode bytes = decode other := by
  have word (position : Nat) (inside : position + 4 ≤ superblockLength) :
      wordAt bytes position = wordAt other position :=
    wordAt_congr fun offset _ => same (position + offset) (by omega)
  rw [decode, decode, if_neg (Nat.not_lt.mpr long), if_neg (Nat.not_lt.mpr alsoLong),
    word 0 (by decide), word 4 (by decide), word 8 (by decide), word 12 (by decide),
    word 16 (by decide), word 20 (by decide), word 24 (by decide), word 28 (by decide)]

theorem decode_encode_eq (superblock : Superblock) :
    decode superblock.encode.bytes =
      if superblock.magic = formatMagic then .ok superblock
      else .error (.wrongMagic superblock.magic) := by
  by_cases magic : superblock.magic = formatMagic
  · rw [if_pos magic, decode_encode magic]
  · have first : wordAt superblock.encode.bytes 0 = superblock.magic :=
      superblock.wordAt_encode 0 rfl
    have long : superblockLength ≤ superblock.encode.bytes.size := by
      rw [Octets.size_bytes]
      decide
    rw [if_neg magic, decode_eq_wrongMagic long (by rwa [first]), first]

/-- The bytes of a superblock that was read and written again. -/
theorem byteAt_encode_of_decode (decoded : decode bytes = .ok read) (position : Nat) :
    byteAt read.encode.bytes position =
      if position < superblockLength then byteAt bytes position else 0 := by
  have size : (packWords read.words).size = superblockLength := size_packWords read.words
  by_cases inside : position < superblockLength
  · have packed := byteAt_packWords_wordsAt bytes 0 8
      (fill 0 (blockSize - superblockLength)) inside
    rw [← (fields_of_decode decoded).2, Nat.zero_add] at packed
    rwa [if_pos inside, encode]
  · rw [if_neg inside, encode, byteAt_append_right (by omega), byteAt_fill_zero]

/-- A block is written back as it was if only zeros follow the eight words. -/
theorem encode_eq_iff (decoded : decode block.bytes = .ok read) :
    read.encode = block ↔
      ∀ position, superblockLength ≤ position → position < blockSize →
        byteAt block.bytes position = 0 := by
  constructor
  · intro same position behind _
    rw [← same, byteAt_encode_of_decode decoded, if_neg (Nat.not_lt.mpr behind)]
  · intro zeros
    apply Octets.ext_byteAt_lt
    intro position inside
    rw [byteAt_encode_of_decode decoded]
    split
    · rfl
    · rename_i behind
      exact (zeros position (Nat.not_lt.mp behind) inside).symm

/-- What becomes of a superblock that is written and read, whatever was in the buffer before, and
of a block that is read and written.  Four bytes decide whether a byte string is read, so that none
of them can change unnoticed, and 32 bytes what is read from it. -/
theorem block_round_trips (superblock : Superblock) (buffer block : Block)
    {bytes other : ByteArray} (long : superblockLength ≤ bytes.size)
    (alsoLong : superblockLength ≤ other.size) :
    (superblock.encodeInto buffer.bytes = .ok superblock.encode.bytes ∧
      decode superblock.encode.bytes =
        if superblock.magic = formatMagic then .ok superblock
        else .error (.wrongMagic superblock.magic)) ∧
    ((∃ read, decode bytes = .ok read) ↔
      byteAt bytes 0 = 0x11 ∧ byteAt bytes 1 = 0xce ∧ byteAt bytes 2 = 0xad ∧
        byteAt bytes 3 = 0xde) ∧
    (∀ read, decode bytes = .ok read → ∀ position < 4,
      byteAt other position ≠ byteAt bytes position →
        decode other = .error (.wrongMagic (wordAt other 0))) ∧
    ((∀ position < superblockLength, byteAt bytes position = byteAt other position) →
      decode bytes = decode other) ∧
    ∀ read, decode block.bytes = .ok read →
      (∀ position < blockSize, byteAt read.encode.bytes position =
        if position < superblockLength then byteAt block.bytes position else 0) ∧
      (read.encode = block ↔
        ∀ position, superblockLength ≤ position → position < blockSize →
          byteAt block.bytes position = 0) := by
  refine ⟨⟨superblock.encodeInto_block buffer, superblock.decode_encode_eq⟩, ?_, ?_,
    decode_congr long alsoLong, fun read decoded =>
      ⟨fun position _ => byteAt_encode_of_decode decoded position, encode_eq_iff decoded⟩⟩
  · rw [decode_exists_iff long, wordAt_eq_formatMagic_iff]
  · intro read decoded position inMagic changed
    have magic := (decode_exists_iff long).mp ⟨read, decoded⟩
    refine decode_eq_wrongMagic alsoLong fun unchanged => changed ?_
    have kept := byteAt_of_wordAt_eq (unchanged.trans magic.symm) inMagic
    rwa [Nat.zero_add] at kept

/-- Eight different words come back, and not from a string that has the first of the four bytes
only. -/
theorem block_round_trips_changed :
    let superblock : Superblock := ⟨formatMagic, 1, 2, 3, 4, 5, 6, 7⟩
    let stale : Block := ⟨fill 0xAA blockSize, size_fill 0xAA blockSize⟩
    superblock.encodeInto stale.bytes = .ok superblock.encode.bytes ∧
      decode superblock.encode.bytes = .ok superblock ∧
      superblockLength ≤ (fill 0x11 superblockLength).size ∧
      decode (fill 0x11 superblockLength) = .error (.wrongMagic 0x11111111) := by
  intro superblock stale
  have long : superblockLength ≤ superblock.encode.bytes.size := by
    rw [Octets.size_bytes]
    decide
  have alsoLong : superblockLength ≤ (fill 0x11 superblockLength).size :=
    Nat.le_of_eq (size_fill 0x11 superblockLength).symm
  obtain ⟨⟨written, decoded⟩, _, rejected, _⟩ :=
    superblock.block_round_trips stale superblock.encode long alsoLong
  rw [if_pos (show superblock.magic = formatMagic from rfl)] at decoded
  have second : byteAt superblock.encode.bytes 1 = 0xce :=
    (wordAt_eq_formatMagic_iff.mp (superblock.wordAt_encode 0 rfl)).2.1
  have changed : byteAt (fill 0x11 superblockLength) 1 ≠ byteAt superblock.encode.bytes 1 := by
    rw [second]
    decide
  refine ⟨written, decoded, alsoLong, ?_⟩
  rw [rejected superblock decoded 1 (by decide) changed]
  rfl

end Superblock

end BlockFs
