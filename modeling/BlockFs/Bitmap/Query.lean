import BlockFs.Bitmap.Basic

namespace BlockFs.Bitmap

inductive Query where
  | test (index : UInt32)
  | firstFree
  | countFree
  | length
  | isEmpty
  | blocks
  | bytes
  /-- Whether loading the map's own bytes gives the map again. -/
  | reload
deriving DecidableEq, Repr

inductive Reply where
  | flag (value : Bool)
  | number (value : Nat)
  | bytes (value : ByteArray)
deriving DecidableEq

def ask (bitmap : Bitmap) : Query → Except Error Reply
  | .test index => .flag <$> bitmap.test index
  | .firstFree => (fun index => .number index.toNat) <$> bitmap.firstFree
  | .countFree => .ok (.number bitmap.countFree)
  | .length => .ok (.number bitmap.length.toNat)
  | .isEmpty => .ok (.flag bitmap.isEmpty)
  | .blocks => .ok (.number bitmap.blocks.toNat)
  | .bytes => .ok (.bytes bitmap.bytes)
  | .reload => (fun loaded => .flag (loaded == bitmap)) <$> load bitmap.bytes bitmap.length

end BlockFs.Bitmap
