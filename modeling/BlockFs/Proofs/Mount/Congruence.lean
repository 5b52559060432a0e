import BlockFs.Format
import BlockFs.Mount.Operation
import BlockFs.Proofs.Engine.Congruence

namespace BlockFs

def Operation.writes : Operation → Bool
  | .writeInode .. | .sync _ => true
  | _ => false

/-- The same operation, but for durabilities that are tied. -/
inductive Operation.Tied (tied : Durability → Durability → Prop) : Operation → Operation → Prop where
  | writeInode (number : UInt32) (inode : Inode) {durability durability' : Durability}
      (choices : tied durability durability') :
      Tied tied (.writeInode number inode durability) (.writeInode number inode durability')
  | sync {durability durability' : Durability} (choices : tied durability durability') :
      Tied tied (.sync durability) (.sync durability')
  | silent {operation : Operation} (silent : operation.writes = false) :
      Tied tied operation operation

theorem Operation.Tied.refl {tied : Durability → Durability → Prop}
    (reflexive : ∀ durability, tied durability durability) (operation : Operation) :
    Operation.Tied tied operation operation := by
  cases operation with
  | writeInode number inode durability => exact .writeInode number inode (reflexive durability)
  | sync durability => exact .sync (reflexive durability)
  | _ => exact .silent rfl

namespace Engine

variable {δ ε : Type} [BlockDevice δ] [BlockDevice ε]
  {relates : ∀ {α : Type}, Engine δ α → Engine ε α → Prop}

namespace ReadCongruence

section

variable (congruence : ReadCongruence relates)

include congruence

theorem readInode (superblock : Superblock) (number : UInt32) :
    relates (superblock.readInode number : Engine δ Inode) (superblock.readInode number) := by
  unfold Superblock.readInode
  dsimp only
  split
  · exact congruence.throw _
  · refine congruence.bind (congruence.readBlock _ _) fun block => ?_
    exact congruence.bind (congruence.lift _) fun record => congruence.lift _

theorem loadBitmap (region : Region) (start blocks length : UInt32) :
    relates (loadBitmap region start blocks length : Engine δ Bitmap)
      (loadBitmap region start blocks length) :=
  congruence.bind (congruence.readSpan _ _ _) fun _ => congruence.lift _

theorem mount : relates (BlockFs.mount : Engine δ Mount) BlockFs.mount := by
  refine congruence.bind (congruence.readBlock _ _) fun block => ?_
  refine congruence.bind (congruence.lift _) fun superblock => ?_
  refine congruence.bind (congruence.lift _) fun _ => ?_
  refine congruence.bind (congruence.report _) fun _ => ?_
  refine congruence.bind (congruence.lift _) fun inodeStart => ?_
  refine congruence.bind (congruence.loadBitmap _ _ _ _) fun inodeBitmap => ?_
  refine congruence.bind (congruence.lift _) fun blockStart => ?_
  refine congruence.bind (congruence.loadBitmap _ _ _ _) fun blockBitmap => ?_
  refine congruence.bind (congruence.readInode _ _) fun root => ?_
  exact congruence.bind (congruence.report _) fun _ => congruence.pure _

theorem perform (mount : Mount) {operation : Operation} (silent : operation.writes = false) :
    relates (operation.perform mount : Engine δ (Answer × Mount)) (operation.perform mount) := by
  cases operation with
  | takeInode | takeBlock =>
      refine congruence.bind (congruence.lift _) fun taken => ?_
      exact congruence.bind (congruence.report _) fun _ => congruence.pure _
  | freeInode | freeBlock =>
      refine congruence.bind (congruence.lift _) fun freed => ?_
      cases freed with
      | none => exact congruence.pure _
      | some changed => exact congruence.bind (congruence.report _) fun _ => congruence.pure _
  | readInode => exact congruence.bind (congruence.readInode _ _) fun _ => congruence.pure _
  | writeInode | sync => contradiction
  | superblock | geometry | stats | root | isDirty => exact congruence.pure _
  | inodeBitmap | blockBitmap =>
      exact congruence.bind (congruence.lift _) fun _ => congruence.pure _

end

end ReadCongruence

namespace Congruence

variable {tied : Durability → Durability → Prop} {durability durability' : Durability}

section

variable (congruence : Congruence tied relates)

include congruence

theorem writeInode (mount : Mount) (number : UInt32) (inode : Inode)
    (choices : tied durability durability') :
    relates (mount.writeInode number inode durability : Engine δ Mount)
      (mount.writeInode number inode durability') := by
  unfold Mount.writeInode
  dsimp only
  split
  · exact congruence.throw _
  · refine congruence.bind (congruence.readBlock _ _) fun block => ?_
    refine congruence.bind (congruence.lift _) fun changed => ?_
    exact congruence.bind (congruence.writeBlock _ _ _ choices) fun _ => congruence.pure _

theorem sync (mount : Mount) (choices : tied durability durability') :
    relates (mount.sync durability : Engine δ Mount) (mount.sync durability') := by
  refine congruence.bind (congruence.syncing _ choices) fun _ => ?_
  refine congruence.bind (congruence.writeBlock _ _ _ choices) fun _ => ?_
  refine congruence.bind (congruence.lift _) fun inodeStart => ?_
  refine congruence.bind (congruence.writeSpan _ _ _ choices) fun _ => ?_
  refine congruence.bind (congruence.lift _) fun blockStart => ?_
  exact congruence.bind (congruence.writeSpan _ _ _ choices) fun _ => congruence.pure _

theorem perform (mount : Mount) {operation operation' : Operation}
    (same : operation.Tied tied operation') :
    relates (operation.perform mount : Engine δ (Answer × Mount)) (operation'.perform mount) := by
  cases same with
  | writeInode number inode choices =>
      exact congruence.bind (congruence.writeInode _ _ _ choices) fun _ => congruence.pure _
  | sync choices => exact congruence.bind (congruence.sync _ choices) fun _ => congruence.pure _
  | silent silent => exact congruence.toReadCongruence.perform mount silent

section Format

variable (reflexive : ∀ durability, tied durability durability) (geometry : Geometry)

include reflexive

theorem writeSuperblock (superblock : Superblock) :
    relates (Format.writeSuperblock superblock : Engine δ Unit)
      (Format.writeSuperblock superblock) :=
  congruence.bind (congruence.report _) fun _ => congruence.writeBlock _ _ _ (reflexive _)

theorem writeInodeTable :
    relates (Format.writeInodeTable geometry : Engine δ Unit) (Format.writeInodeTable geometry) := by
  refine congruence.bind (congruence.reserve _) fun _ => ?_
  refine congruence.bind (congruence.lift _) fun table => ?_
  exact congruence.bind (congruence.report _) fun _ => congruence.writeBlocks _ _ (reflexive _) _ _

theorem writeInodeBitmap :
    relates (Format.writeInodeBitmap geometry : Engine δ Unit)
      (Format.writeInodeBitmap geometry) := by
  refine congruence.limited (Bitmap.fresh · _ _ _) fun bitmap => ?_
  refine congruence.bind (congruence.report _) fun _ => ?_
  exact congruence.bind (congruence.lift _) fun start => congruence.writeSpan _ _ _ (reflexive _)

theorem writeBlockBitmap :
    relates (Format.writeBlockBitmap geometry : Engine δ Unit)
      (Format.writeBlockBitmap geometry) := by
  refine congruence.bind (congruence.lift _) fun reserved => ?_
  refine congruence.limited (Bitmap.fresh · _ _ _) fun bitmap => ?_
  refine congruence.bind (congruence.report _) fun _ => ?_
  exact congruence.bind (congruence.lift _) fun start => congruence.writeSpan _ _ _ (reflexive _)

theorem writeListing :
    relates (Format.writeListing geometry : Engine δ Unit) (Format.writeListing geometry) := by
  refine congruence.bind (congruence.lift _) fun listing => ?_
  exact congruence.bind (congruence.report _) fun _ => congruence.writeBlock _ _ _ (reflexive _)

omit geometry

/-- Formatting looks at the size of the device and flushes it, which nothing else does. -/
theorem format
    (sized : ∀ {α : Type} {next : Geometry → Engine δ α} {otherNext : Geometry → Engine ε α},
      (∀ geometry, relates (next geometry) (otherNext geometry)) →
      relates
        (get >>= fun host : Host δ =>
          (liftM (Geometry.ofSize (BlockDevice.byteSize host.device)) : Engine δ Geometry) >>= next)
        (get >>= fun host : Host ε =>
          (liftM (Geometry.ofSize (BlockDevice.byteSize host.device)) : Engine ε Geometry) >>=
            otherNext))
    (flushed : ∀ region, relates (call region BlockDevice.flush : Engine δ Unit)
      (call region BlockDevice.flush)) :
    relates (BlockFs.format : Engine δ Superblock) BlockFs.format := by
  refine sized fun geometry => ?_
  refine congruence.bind (congruence.lift _) fun dataStart => ?_
  refine congruence.bind (congruence.report _) fun _ => ?_
  refine congruence.bind (congruence.lift _) fun superblock => ?_
  refine congruence.bind (congruence.writeSuperblock reflexive superblock) fun _ => ?_
  refine congruence.bind (congruence.writeInodeTable reflexive geometry) fun _ => ?_
  refine congruence.bind (congruence.writeInodeBitmap reflexive geometry) fun _ => ?_
  refine congruence.bind (congruence.writeBlockBitmap reflexive geometry) fun _ => ?_
  refine congruence.bind (congruence.writeListing reflexive geometry) fun _ => ?_
  refine congruence.bind (flushed _) fun _ => ?_
  exact congruence.bind (congruence.report _) fun _ => congruence.pure _

end Format

end

end Congruence

end Engine

end BlockFs
