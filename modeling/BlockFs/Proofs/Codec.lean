import BlockFs.Inode
import BlockFs.Superblock
import BlockFs.Proofs.Word

namespace BlockFs

namespace Superblock

theorem wordAt_encode (superblock : Superblock) (index : Nat) {word : UInt32}
    (found : superblock.words[index]? = some word) :
    wordAt superblock.encode.bytes (4 * index) = word :=
  wordAt_packWords found _

theorem decode_encode {superblock : Superblock} (magic : superblock.magic = formatMagic) :
    decode superblock.encode.bytes = .ok superblock := by
  have size : ¬ superblock.encode.bytes.size < superblockLength := by
    rw [Octets.size_bytes]
    decide
  have first : wordAt superblock.encode.bytes 0 = superblock.magic :=
    superblock.wordAt_encode 0 rfl
  rw [decode, if_neg size, if_neg (by rw [first, magic]; exact fun differs => differs rfl)]
  rw [first, superblock.wordAt_encode 1 rfl, superblock.wordAt_encode 2 rfl,
    superblock.wordAt_encode 3 rfl, superblock.wordAt_encode 4 rfl,
    superblock.wordAt_encode 5 rfl, superblock.wordAt_encode 6 rfl,
    superblock.wordAt_encode 7 rfl]

theorem decode_eq_wrongMagic {bytes : ByteArray} (long : superblockLength ≤ bytes.size)
    (wrong : wordAt bytes 0 ≠ formatMagic) :
    decode bytes = .error (.wrongMagic (wordAt bytes 0)) := by
  rw [decode, if_neg (Nat.not_lt.mpr long), if_pos wrong]

/-- What is read are the eight words in front, the first of which is the magic number. -/
theorem fields_of_decode {bytes : ByteArray} {superblock : Superblock}
    (decoded : decode bytes = .ok superblock) :
    superblock.magic = formatMagic ∧ superblock.words = wordsAt bytes 0 8 := by
  unfold decode at decoded
  split at decoded
  · contradiction
  · split at decoded
    · contradiction
    · rename_i same
      cases decoded
      exact ⟨Decidable.not_not.mp same, rfl⟩

theorem magic_of_decode {bytes : ByteArray} {superblock : Superblock}
    (decoded : decode bytes = .ok superblock) : superblock.magic = formatMagic :=
  (fields_of_decode decoded).1

end Superblock

namespace Inode

/-- A record of zeros. -/
def blank : Inode where
  mode := 0
  uid := 0
  gid := 0
  size := 0
  ctime := 0
  atime := 0
  mtime := 0
  blocks := 0
  nlink := 0
  payload := .block 0

theorem decode_zeros : decode (fill 0 inodeSize) = .ok blank := by
  rw [decode, if_pos (size_fill 0 inodeSize)]
  simp only [wordAt_fill_zero, decodePayload]
  rfl

theorem wordAt_encode (inode : Inode) (index : Nat) {word : UInt32}
    (found : inode.words[index]? = some word) :
    wordAt inode.encode.bytes (4 * index) = word :=
  wordAt_packWords found _

theorem byteAt_encode_payload (inode : Inode) (position : Nat) :
    byteAt inode.encode.bytes (payloadOffset + position) =
      byteAt inode.payload.encode.bytes position := by
  have size : (packWords inode.words).size = payloadOffset := by
    rw [size_packWords]
    rfl
  rw [encode, byteAt_append_right (by omega), size, Nat.add_sub_cancel_left]

theorem wordAt_encode_block {inode : Inode} {number : UInt32}
    (payload : inode.payload = .block number) :
    wordAt inode.encode.bytes payloadOffset = number := by
  have inPayload : wordAt inode.encode.bytes payloadOffset = wordAt inode.payload.encode.bytes 0 :=
    wordAt_congr fun offset _ => by rw [byteAt_encode_payload, Nat.zero_add]
  rw [inPayload, payload]
  exact wordAt_packWords (show [number][0]? = some number from rfl) _

/-- An inode as it is read back after it was written: mode and size settle what the payload is. -/
def stored (inode : Inode) : Inode :=
  { inode with payload := decodePayload inode.mode inode.size inode.encode.bytes }

theorem decode_encode (inode : Inode) : decode inode.encode.bytes = .ok inode.stored := by
  rw [decode, if_pos inode.encode.size_bytes]
  rw [show wordAt inode.encode.bytes 0 = inode.mode from inode.wordAt_encode 0 rfl,
    inode.wordAt_encode 1 rfl, inode.wordAt_encode 2 rfl,
    inode.wordAt_encode 3 rfl, inode.wordAt_encode 4 rfl,
    inode.wordAt_encode 5 rfl, inode.wordAt_encode 6 rfl,
    inode.wordAt_encode 7 rfl, inode.wordAt_encode 8 rfl]
  rfl

/-- The payload is of the kind that mode and size call for. -/
def Canonical (inode : Inode) : Prop :=
  inode.inlineData?.isSome = storesInline inode.mode inode.size

instance (inode : Inode) : Decidable inode.Canonical :=
  inferInstanceAs (Decidable (_ = _))

/-- Exactly the canonical inodes are read back as they were written. -/
theorem stored_eq_iff {inode : Inode} : inode.stored = inode ↔ inode.Canonical := by
  have payload : inode.stored = inode ↔
      decodePayload inode.mode inode.size inode.encode.bytes = inode.payload :=
    ⟨congrArg Inode.payload, fun same => by rw [stored, same]⟩
  rw [payload, Canonical, inlineData?, decodePayload]
  cases kind : inode.payload with
  | block number =>
      rw [wordAt_encode_block kind]
      cases storesInline inode.mode inode.size <;> simp
  | inlined target =>
      have cut : Octets.fit payloadLength (inode.encode.bytes.extract payloadOffset inodeSize) =
          target := by
        apply Octets.ext_byteAt_lt
        intro position inside
        rw [Octets.byteAt_fit_extract _ (Nat.le_refl _) inside, byteAt_encode_payload, kind,
          Payload.encode]
      rw [cut]
      cases storesInline inode.mode inode.size <;> simp

theorem decode_exists (record : Octets inodeSize) : ∃ inode, decode record.bytes = .ok inode :=
  ⟨_, if_pos record.size_bytes⟩

/-- What is read from a record: its words, and the payload that they call for. -/
theorem fields_of_decode {record : ByteArray} {inode : Inode}
    (decoded : decode record = .ok inode) : inode.words = wordsAt record 0 9 ∧
      inode.payload = decodePayload inode.mode inode.size record := by
  unfold decode at decoded
  split at decoded
  · cases decoded
    exact ⟨rfl, rfl⟩
  · contradiction

/-- Whatever is read from a record is canonical. -/
theorem canonical_of_decode {record : ByteArray} {inode : Inode}
    (decoded : decode record = .ok inode) : inode.Canonical := by
  obtain ⟨_, payload⟩ := fields_of_decode decoded
  rw [Canonical, inlineData?, payload, decodePayload]
  cases storesInline inode.mode inode.size <;> rfl

theorem decode_encode_root (listing : UInt32) :
    decode (root listing).encode.bytes = .ok (root listing) := by
  have canonical : (root listing).Canonical :=
    show false = storesInline FileMode.root (.ofNat blockSize) by decide
  rw [decode_encode, stored_eq_iff.mpr canonical]

end Inode

end BlockFs
