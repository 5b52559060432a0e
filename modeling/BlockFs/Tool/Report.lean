import BlockFs.Tool.Style

namespace BlockFs.Tool

def programName : String := "mkfs-tinyfs"

def programVersion : String := "0.1.0"

def unlines (lines : List String) : String :=
  String.join (lines.map (· ++ "\n"))

def logLine (colored : Bool) (level : Level) (text : String) : String :=
  "[" ++ (Style.ofLevel level).paint colored level.name ++ "] " ++ text

def failureLine (colored : Bool) (text : String) : String :=
  Style.alarm.paint colored (programName ++ ":") ++ " " ++ text

/-- A failure and its cause; the message of a device failure holds its cause already. -/
def chain (error : Error) : String :=
  match error.cause with
  | some cause => s!"{error.message}: {cause.message}"
  | none => error.message

/-- A heading and what is said about it. -/
def headed (colored : Bool) (title text : String) : String :=
  Style.heading.paint colored title ++ text

def extent (blocks start : UInt32) : String :=
  s!": {blocks} blocks from block {start}"

def summary (colored : Bool) (superblock : Superblock) : Except Error (List String) := do
  let geometry := superblock.geometry
  let inodeBitmapStart ← geometry.inodeBitmapStart
  let blockBitmapStart ← geometry.blockBitmapStart
  let dataStart ← geometry.dataStart
  return [
    headed colored "Superblock" s!" (block size {blockSize} B)",
    s!"\tmagic={hexadecimal superblock.magic}",
    s!"\tnr_blocks={superblock.blocks}",
    s!"\tnr_inodes={superblock.inodes} (istore={superblock.inodeTableBlocks} blocks)",
    s!"\tnr_ifree_blocks={superblock.inodeBitmapBlocks}",
    s!"\tnr_bfree_blocks={superblock.blockBitmapBlocks}",
    s!"\tnr_free_inodes={superblock.freeInodes}",
    s!"\tnr_free_blocks={superblock.freeBlocks}",
    headed colored "Inode store" <|
      extent geometry.inodeTableBlocks Geometry.inodeTableStart ++ s!", inode size = {inodeSize} B",
    headed colored "Ifree blocks" (extent geometry.inodeBitmapBlocks inodeBitmapStart),
    headed colored "Bfree blocks" (extent geometry.blockBitmapBlocks blockBitmapStart),
    headed colored "Data blocks" <|
      extent geometry.dataBlocks dataStart ++ s!" (root listing at {dataStart})"]

end BlockFs.Tool
