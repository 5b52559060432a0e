import BlockFs.Bytes

namespace BlockFs

/-- The word of a number that must be below `2 ^ 32`. -/
def narrow (number : Nat) : Except Error UInt32 :=
  if number < UInt32.size then .ok (.ofNat number) else .error (.fault .wordOverflow)

/-- The word before a word that must not be zero. -/
def predecessor (word : UInt32) : Except Error UInt32 :=
  if word = 0 then .error (.fault .wordOverflow) else .ok (word - 1)

def saturatingPred (word : UInt32) : UInt32 :=
  if word = 0 then 0 else word - 1

def saturatingSucc (word : UInt32) : UInt32 :=
  if word + 1 = 0 then word else word + 1

theorem toNat_of_narrow {number : Nat} {word : UInt32} (narrowed : narrow number = .ok word) :
    word.toNat = number := by
  unfold narrow at narrowed
  split at narrowed
  · rename_i fits
    cases narrowed
    exact Nat.mod_eq_of_lt fits
  · contradiction

/-- The little-endian value of the four bytes from a position on. -/
def wordAt (bytes : ByteArray) (position : Nat) : UInt32 :=
  UInt32.ofNat ((byteAt bytes position).toNat + 0x100 * (byteAt bytes (position + 1)).toNat +
    0x10000 * (byteAt bytes (position + 2)).toNat + 0x1000000 * (byteAt bytes (position + 3)).toNat)

/-- Appends the four bytes of a word, least significant first. -/
def pushWord (bytes : ByteArray) (word : UInt32) : ByteArray :=
  (((bytes.push word.toUInt8).push (word >>> 8).toUInt8).push (word >>> 16).toUInt8).push
    (word >>> 24).toUInt8

@[simp] theorem size_pushWord (bytes : ByteArray) (word : UInt32) :
    (pushWord bytes word).size = bytes.size + 4 := by
  simp only [pushWord, ByteArray.size_push]

def packWords (words : List UInt32) : ByteArray :=
  words.foldl pushWord .empty

theorem size_foldl_pushWord (words : List UInt32) (bytes : ByteArray) :
    (words.foldl pushWord bytes).size = bytes.size + 4 * words.length := by
  induction words generalizing bytes with
  | nil => rfl
  | cons word rest ih => rw [List.foldl_cons, ih, size_pushWord, List.length_cons]; omega

@[simp] theorem size_packWords (words : List UInt32) :
    (packWords words).size = 4 * words.length := by
  rw [packWords, size_foldl_pushWord]
  exact Nat.zero_add _

/-- Puts words, one behind another, in place of the bytes from `offset` on. -/
def Octets.putWords {n : Nat} : Octets n → (offset : Nat) → List UInt32 → Except Error (Octets n)
  | octets, _, [] => .ok octets
  | octets, offset, word :: rest => do
      let octets ← octets.splice offset (pushWord .empty word)
      octets.putWords (offset + 4) rest

end BlockFs
