import BlockFs.Error

/-!
Byte strings: constant runs, windows that stay inside their buffer, and strings of a fixed length.

`byteAt` is the semantic model: a byte string is the function from positions to bytes that is zero
past its end, together with its size.
-/

namespace BlockFs

/-- Core's comparison of byte strings, also where another one is imported. -/
instance instDecidableEqBytes : DecidableEq ByteArray := ByteArray.instDecidableEq

/-- The byte at a position; zero past the end. -/
def byteAt (bytes : ByteArray) (position : Nat) : UInt8 :=
  if inside : position < bytes.size then bytes[position] else 0

/-- Appends `count` copies of a byte. -/
def pad (value : UInt8) : (count : Nat) → ByteArray → ByteArray
  | 0, bytes => bytes
  | count + 1, bytes => pad value count (bytes.push value)

def fill (value : UInt8) (count : Nat) : ByteArray :=
  pad value count (.emptyWithCapacity count)

theorem size_pad (value : UInt8) (count : Nat) (bytes : ByteArray) :
    (pad value count bytes).size = bytes.size + count := by
  induction count generalizing bytes with
  | zero => rfl
  | succ count ih => rw [pad, ih, ByteArray.size_push]; omega

@[simp] theorem size_fill (value : UInt8) (count : Nat) : (fill value count).size = count := by
  rw [fill, size_pad]
  exact Nat.zero_add count

/-- The bytes `offset ..< offset + length`, all of which the buffer must have. -/
def window (bytes : ByteArray) (offset length : Nat) : Except Error ByteArray :=
  if offset + length ≤ bytes.size then .ok (bytes.extract offset (offset + length))
  else .error (.fault (.outOfBounds offset length bytes.size))

structure Octets (n : Nat) where
  bytes : ByteArray
  size_bytes : bytes.size = n
deriving DecidableEq

namespace Octets

variable {n : Nat}

attribute [simp] size_bytes

def zero (n : Nat) : Octets n := ⟨fill 0 n, size_fill 0 n⟩

instance : Inhabited (Octets n) := ⟨zero n⟩

def ofBytes? (n : Nat) (bytes : ByteArray) : Option (Octets n) :=
  if size_bytes : bytes.size = n then some ⟨bytes, size_bytes⟩ else none

/-- The content of a buffer that must have length `n`. -/
def ofBuffer (n : Nat) (buffer : ByteArray) : Except Error (Octets n) :=
  if size_bytes : buffer.size = n then .ok ⟨buffer, size_bytes⟩
  else .error (.fault (.bufferLength buffer.size))

/-- Cut to length `n`, or filled up with zeros. -/
def fit (n : Nat) (bytes : ByteArray) : Octets n where
  bytes := bytes.extract 0 n ++ fill 0 (n - bytes.size)
  size_bytes := by
    simp only [ByteArray.size_append, ByteArray.size_extract, size_fill]
    omega

/-- Puts `patch` in place of the bytes from `offset` on. -/
def splice (octets : Octets n) (offset : Nat) (patch : ByteArray) : Except Error (Octets n) :=
  if inside : offset + patch.size ≤ n then
    .ok {
      bytes := octets.bytes.extract 0 offset ++ patch ++
        octets.bytes.extract (offset + patch.size) n
      size_bytes := by
        simp only [ByteArray.size_append, ByteArray.size_extract, octets.size_bytes]
        omega }
  else .error (.fault (.outOfBounds offset patch.size n))

/-- Puts zeros in place of the bytes from `offset` on. -/
def clear (octets : Octets n) (offset : Nat) : Except Error (Octets n) :=
  octets.splice offset (fill 0 (n - offset))

end Octets

/-- What a device moves in one transfer. -/
abbrev Block := Octets blockSize

/-- The blocks that a buffer of whole blocks holds. -/
def blocksOf (bytes : ByteArray) : Except Error (List Block) :=
  if bytes.size % blockSize = 0 then
    .ok ((List.range (bytes.size / blockSize)).map fun index =>
      .fit blockSize (bytes.extract (index * blockSize) ((index + 1) * blockSize)))
  else .error (.fault (.bufferLength bytes.size))

end BlockFs
