import BlockFs.Word

/-!
Free-space maps: one bit for each inode or block, set while the unit is free.

`bitAt` is the semantic model.  Bit `p` of a map is bit `p % 8` of byte `p / 8`.  A map may have
more bits than units; both constructors clear the bits behind the last unit, so that a search for a
free unit never finds one of them.
-/

namespace BlockFs

/-- The bit at a position, lowest bit of each byte first. -/
def bitAt (bytes : ByteArray) (position : Nat) : Bool :=
  (byteAt bytes (position / 8)).toNat.testBit (position % 8)

/-- The byte whose lowest `count` bits are set. -/
def lowBits (count : Nat) : UInt8 :=
  .ofNat (1 <<< count - 1)

/-- Bytes in which exactly the bits `start ..< stop` are set: at most two bytes are mixed. -/
def bitRange (size start stop : Nat) : Octets size :=
  let first := start / 8
  let last := stop / 8
  .fit size <|
    if first < last then
      (pad 0xFF (last - first - 1) ((fill 0 first).push (~~~lowBits (start % 8)))).push
        (lowBits (stop % 8))
    else (fill 0 first).push (lowBits (stop % 8) &&& ~~~lowBits (start % 8))

/-- Clears the bits from position `stop` on. -/
def clearFrom (bytes : ByteArray) (stop : Nat) : Octets bytes.size :=
  .fit bytes.size <|
    (bytes.extract 0 (stop / 8)).push (byteAt bytes (stop / 8) &&& lowBits (stop % 8))

/-- Set bits of a byte, added up in pairs, in fours and at last in one sum. -/
def bitCount (byte : UInt8) : Nat :=
  let pairs := byte - (byte >>> 1 &&& (0x55 : UInt8))
  let fours := (pairs &&& (0x33 : UInt8)) + (pairs >>> 2 &&& (0x33 : UInt8))
  (fours + fours >>> 4 &&& (0x0F : UInt8)).toNat

theorem bitCount_eq (byte : UInt8) :
    bitCount byte = (List.range 8).countP byte.toNat.testBit := by
  have every : ∀ number < 256, bitCount (.ofNat number) =
      (List.range 8).countP (UInt8.ofNat number).toNat.testBit := by decide +kernel
  simpa only [UInt8.ofNat_toNat] using every byte.toNat byte.toNat_lt

def lowestBit (byte : UInt8) : Nat :=
  (List.range 8).findIdx byte.toNat.testBit

/-- Set bits of the first `count` bytes, added to `total`. -/
def countBits (bytes : ByteArray) : (count total : Nat) → Nat
  | 0, total => total
  | count + 1, total => countBits bytes count (total + bitCount (byteAt bytes count))

/-- The first set bit of the `count` bytes from `position` on. -/
def firstBit (bytes : ByteArray) : (count position : Nat) → Option Nat
  | 0, _ => none
  | count + 1, position =>
      if byteAt bytes position = 0 then firstBit bytes count (position + 1)
      else some (8 * position + lowestBit (byteAt bytes position))

structure Bitmap where
  bytes : ByteArray
  length : UInt32
  length_le : length.toNat ≤ 8 * bytes.size
deriving DecidableEq

namespace Bitmap

/-- A map of `blocks` blocks whose first `used` units are taken.  No buffer larger than
`bufferLimit` bytes can be had. -/
def fresh (bufferLimit : Nat) (blocks length used : UInt32) : Except Error Bitmap :=
  let size := blocks.toNat * blockSize
  if fits : length.toNat ≤ 8 * size then
    if size ≤ bufferLimit then
      .ok {
        bytes := (bitRange size (min used.toNat length.toNat) length.toNat).bytes
        length
        length_le := by rw [Octets.size_bytes]; exact fits }
    else .error (.outOfMemory size)
  else .error (.outOfRange length.toNat (8 * size))

/-- The map that a device holds; bits behind the last unit are cleared. -/
def load (bytes : ByteArray) (length : UInt32) : Except Error Bitmap :=
  if fits : length.toNat ≤ 8 * bytes.size then
    .ok {
      bytes := (clearFrom bytes length.toNat).bytes
      length
      length_le := by rw [Octets.size_bytes]; exact fits }
  else .error (.outOfRange length.toNat (8 * bytes.size))

variable (bitmap : Bitmap)

def isEmpty : Bool := bitmap.length == 0

def blocks : UInt32 := .ofNat (bitmap.bytes.size / blockSize)

def test (index : UInt32) : Except Error Bool :=
  if index < bitmap.length then .ok (bitAt bitmap.bytes index.toNat)
  else .error (.outOfRange index.toNat bitmap.length.toNat)

theorem size_set (bytes : ByteArray) (position : Nat) (byte : UInt8)
    (inside : position < bytes.size) : (bytes.set position byte inside).size = bytes.size := by
  simp only [ByteArray.set, ByteArray.size, Array.size_set]

/-- Changes the byte that holds a unit's bit, given a mask of this one bit. -/
def update (change : (byte mask : UInt8) → UInt8) (index : UInt32) : Except Error Bitmap :=
  if inside : index < bitmap.length then
    have inBytes : index.toNat / 8 < bitmap.bytes.size := by
      have := bitmap.length_le
      have := UInt32.lt_iff_toNat_lt.mp inside
      omega
    let mask := lowBits (index.toNat % 8 + 1) &&& ~~~lowBits (index.toNat % 8)
    .ok {
      bytes := bitmap.bytes.set (index.toNat / 8) (change bitmap.bytes[index.toNat / 8] mask) inBytes
      length := bitmap.length
      length_le := by rw [size_set]; exact bitmap.length_le }
  else .error (.outOfRange index.toNat bitmap.length.toNat)

def markUsed (index : UInt32) : Except Error Bitmap :=
  bitmap.update (fun byte mask => byte &&& ~~~mask) index

def markFree (index : UInt32) : Except Error Bitmap :=
  bitmap.update (fun byte mask => byte ||| mask) index

def firstFree : Except Error UInt32 :=
  match firstBit bitmap.bytes ((bitmap.length.toNat + 7) / 8) 0 with
  | none => .error .exhausted
  | some position =>
      if position < bitmap.length.toNat then .ok (.ofNat position) else .error .exhausted

def countFree : Nat := countBits bitmap.bytes bitmap.bytes.size 0

end Bitmap

end BlockFs
