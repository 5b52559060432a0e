import BlockFs.Bytes
import Std.Data.ExtTreeMap

/-!
The bytes of a medium, kept by block: a block that was never written is zero and takes no room.

`page` is the semantic model.  The last block of an image may be partial; its page is zero from the
end of the image on.
-/

namespace BlockFs

structure Image where
  size : Nat
  pages : Std.ExtTreeMap Nat Block

namespace Image

def zeros (size : Nat) : Image := ⟨size, ∅⟩

variable (image : Image)

def page (index : Nat) : Block := image.pages.getD index (.zero blockSize)

def setPage (index : Nat) (block : Block) : Image :=
  { image with pages := image.pages.insert index block }

/-- The bytes of a page that lie inside the image. -/
def chunk (index : Nat) : ByteArray :=
  (image.page index).bytes.extract 0 (image.size - index * blockSize)

/-- The pages that are not zero, in order. -/
def occupied : List (Nat × Block) :=
  image.pages.toList.filter fun entry => entry.2 != .zero blockSize

def peek (index : Nat) : Except Error Block :=
  if (index + 1) * blockSize ≤ image.size then .ok (image.page index)
  else .error (.fault (.outOfBounds (index * blockSize) blockSize image.size))

/-- Puts the part of `bytes` that falls on a page into it; `bytes` begin at `offset`. -/
def patchPage (offset : Nat) (bytes : ByteArray) (index : Nat) : Image :=
  let first := max offset (index * blockSize)
  let last := min (offset + bytes.size) ((index + 1) * blockSize)
  match (image.page index).splice (first - index * blockSize)
      (bytes.extract (first - offset) (last - offset)) with
  | .ok block => image.setPage index block
  | .error _ => image

/-- Overwrites bytes wherever they lie, the partial last block included. -/
def poke (offset : Nat) (bytes : ByteArray) : Except Error Image :=
  if offset + bytes.size ≤ image.size then
    let first := offset / blockSize
    let last := (offset + bytes.size + (blockSize - 1)) / blockSize
    .ok ((List.range' first (last - first)).foldl
      (fun patched index => patched.patchPage offset bytes index) image)
  else .error (.fault (.outOfBounds offset bytes.size image.size))

/-- Cuts the image, or lengthens it with zeros. -/
def resize (size : Nat) : Image :=
  let kept := { image with
    size
    pages := image.pages.filter fun index _ => index * blockSize < size }
  if size % blockSize = 0 then kept
  else kept.setPage (size / blockSize) (.fit blockSize (kept.chunk (size / blockSize)))

end Image

end BlockFs
