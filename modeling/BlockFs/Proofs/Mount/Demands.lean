import BlockFs.Proofs.Mount.Refusals

/-!
What a mount demands of a device, one demand after the other.

`Mount.demands` lists them for a disk, with the error that each one ends in.  Which reads fail is
left open: `Engine.Meets` says that a computation goes through its demands in order, for devices
that serve some blocks and refuse some.
-/

namespace BlockFs

open Engine

/-- A check of what was read, or the read of a block. -/
inductive Demand where
  | check (objection : Option Error)
  | read (region : Region) (block : Nat)

namespace Demand

def that (holds : Prop) [Decidable holds] (error : Error) : Demand :=
  .check (if holds then none else some error)

/-- The `count` blocks from `start` on, each of which must be readable. -/
def span (region : Region) (start : Nat) : (count : Nat) → List Demand
  | 0 => []
  | count + 1 => .read region start :: span region (start + 1) count

/-- The outcomes of a demand on a device that may serve some blocks and refuse some. -/
inductive Yields (serves : Nat → Prop) (refuses : Nat → DeviceError → Prop) :
    Demand → Option Error → Prop where
  | check {objection : Option Error} : Yields serves refuses (.check objection) objection
  | served {region : Region} {block : Nat} (serve : serves block) :
      Yields serves refuses (.read region block) none
  | refused {region : Region} {block : Nat} {cause : DeviceError} (refuse : refuses block cause) :
      Yields serves refuses (.read region block) (some (.device region cause))

end Demand

/-- Demands made in order, up to the first that is not met. -/
inductive Follows (serves : Nat → Prop) (refuses : Nat → DeviceError → Prop) :
    List Demand → Option Error → Prop where
  | nil : Follows serves refuses [] none
  | refuse {demand : Demand} {rest : List Demand} {error : Error}
      (yields : demand.Yields serves refuses (some error)) :
      Follows serves refuses (demand :: rest) (some error)
  | pass {demand : Demand} {rest : List Demand} {outcome : Option Error}
      (yields : demand.Yields serves refuses none) (follows : Follows serves refuses rest outcome) :
      Follows serves refuses (demand :: rest) outcome

variable {serves : Nat → Prop} {refuses : Nat → DeviceError → Prop}

namespace Follows

variable {first second : List Demand} {outcome : Option Error} {error : Error}

theorem append (met : Follows serves refuses first none)
    (follows : Follows serves refuses second outcome) :
    Follows serves refuses (first ++ second) outcome := by
  induction first with
  | nil => exact follows
  | cons demand rest ih =>
      cases met with
      | pass yields met => exact .pass yields (ih met)

theorem append_ended (ended : Follows serves refuses first (some error)) (second : List Demand) :
    Follows serves refuses (first ++ second) (some error) := by
  induction first with
  | nil => cases ended
  | cons demand rest ih =>
      cases ended with
      | refuse yields => exact .refuse yields
      | pass yields follows => exact .pass yields (ih follows)

theorem check (objection : Option Error) : Follows serves refuses [.check objection] objection := by
  cases objection with
  | none => exact .pass .check .nil
  | some error => exact .refuse .check

end Follows

/-- Devices whose reads succeed and fail as told, and stay so while they are read. -/
structure Readings {δ : Type} [BlockDevice δ] (serves : Nat → Prop)
    (refuses : Nat → DeviceError → Prop) (devices : δ → Prop) : Prop where
  stays {device : δ} (member : devices device) (block : UInt32) :
    devices (BlockDevice.read device block blockSize).2
  served {device : δ} {block : UInt32} {found : Block} (member : devices device)
    (read : (BlockDevice.read device block blockSize).1 = .ok found) : serves block.toNat
  refused {device : δ} {block : UInt32} {cause : DeviceError} (member : devices device)
    (failed : (BlockDevice.read device block blockSize).1 = .error cause) :
    refuses block.toNat cause

namespace Engine

variable {δ : Type} [BlockDevice δ] {α β : Type}

/-- Work that goes through its demands: it answers when all of them are met, and else ends with the
objection to the first that is not.  It may always run out of memory before. -/
def Meets (serves : Nat → Prop) (refuses : Nat → DeviceError → Prop) (devices : δ → Prop)
    (work : Engine δ α) (host : Host δ) (demands : List Demand) (good : α → Prop) : Prop :=
  devices host.device → ∀ answer after, work.run.run host = (answer, after) →
    devices after.device ∧ Host.Untouched host after ∧
      match answer with
      | .ok value => Follows serves refuses demands none ∧ good value
      | .error error => (∃ bytes, error = .outOfMemory bytes ∧ host.bufferLimit < bytes) ∨
          Follows serves refuses demands (some error)

variable {devices : δ → Prop} {work : Engine δ α} {next : α → Engine δ β} {host : Host δ}
  {first second : List Demand} {good : α → Prop} {fine : β → Prop}

theorem Meets.bind (meets : Meets serves refuses devices work host first good)
    (rest : ∀ value after, good value → Host.Untouched host after →
      Meets serves refuses devices (next value) after second fine) :
    Meets serves refuses devices (work >>= next) host (first ++ second) fine := by
  intro member answer after ran
  obtain ⟨value, between, answered, ran⟩ | ⟨error, failed, rfl⟩ := bind_cases ran
  · obtain ⟨member, untouched, met, holds⟩ := meets member _ _ answered
    obtain ⟨member, untouched', outcome⟩ := rest value between holds untouched member _ _ ran
    refine ⟨member, untouched.trans untouched', ?_⟩
    cases answer with
    | ok result => exact ⟨met.append outcome.1, outcome.2⟩
    | error error =>
        obtain ⟨bytes, rfl, above⟩ | follows := outcome
        · exact .inl ⟨bytes, rfl, untouched.bufferLimit ▸ above⟩
        · exact .inr (met.append follows)
  · obtain ⟨member, untouched, outcome⟩ := meets member _ _ failed
    exact ⟨member, untouched, outcome.imp_right fun ended => ended.append_ended second⟩

/-- A part that makes no demand. -/
theorem Meets.silent (meets : Meets serves refuses devices work host [] good)
    (rest : ∀ value after, good value → Host.Untouched host after →
      Meets serves refuses devices (next value) after second fine) :
    Meets serves refuses devices (work >>= next) host second fine :=
  meets.bind rest

theorem Meets.one {demand : Demand} (meets : Meets serves refuses devices work host [demand] good)
    (rest : ∀ value after, good value → Host.Untouched host after →
      Meets serves refuses devices (next value) after second fine) :
    Meets serves refuses devices (work >>= next) host (demand :: second) fine :=
  meets.bind rest

theorem Meets.weaken {other : α → Prop}
    (meets : Meets serves refuses devices work host first good)
    (weaker : ∀ value, good value → other value) :
    Meets serves refuses devices work host first other := by
  intro member answer after ran
  obtain ⟨member, untouched, outcome⟩ := meets member answer after ran
  refine ⟨member, untouched, ?_⟩
  cases answer with
  | ok value => exact ⟨outcome.1, weaker value outcome.2⟩
  | error error => exact outcome

theorem meets_pure (value : α) :
    Meets serves refuses devices (pure value : Engine δ α) host [] (· = value) := by
  intro member answer after ran
  cases ran
  exact ⟨member, .refl host, .nil, rfl⟩

theorem meets_report (event : Event) :
    Meets serves refuses devices (report event) host [] fun _ => True := by
  intro member answer after ran
  cases ran
  exact ⟨member, untouched_report event host, .nil, trivial⟩

theorem meets_reserve (bytes : Nat) :
    Meets serves refuses devices (reserve bytes) host [] fun _ => True := by
  intro member answer after ran
  rw [run_reserve] at ran
  split at ran
  · rename_i above
    cases ran
    exact ⟨member, .refl host, .inl ⟨bytes, rfl, above⟩⟩
  · cases ran
    exact ⟨member, .refl host, .nil, trivial⟩

theorem meets_lift {result : Except Error α}
    (met : ∀ value, result = .ok value → Follows serves refuses first none ∧ good value)
    (ended : ∀ error, result = .error error → Follows serves refuses first (some error)) :
    Meets serves refuses devices (liftM result : Engine δ α) host first good := by
  intro member answer after ran
  rw [run_lift, Prod.mk.injEq] at ran
  obtain ⟨rfl, rfl⟩ := ran
  refine ⟨member, .refl host, ?_⟩
  cases result with
  | ok value => exact met value rfl
  | error error => exact .inr (ended error rfl)

theorem meets_lift_ok {result : Except Error α} {value : α} (answered : result = .ok value) :
    Meets serves refuses devices (liftM result : Engine δ α) host [] (· = value) :=
  meets_lift (fun _ found => ⟨.nil, Except.ok.inj (found.symm.trans answered)⟩)
    fun _ failed => nomatch answered.symm.trans failed

variable [LawfulBlockDevice δ] (readings : Readings serves refuses devices)

include readings

theorem meets_fetch (region : Region) (block : UInt32) :
    Meets serves refuses devices (fetch region block) host [.read region block.toNat]
      (· = host.disk block.toNat) := by
  intro member answer after ran
  have untouched := (untouched_fetch region block).of_run ran
  cases answer with
  | ok found =>
      obtain ⟨served, rfl⟩ := run_call_eq_ok ran
      exact ⟨readings.stays member block, untouched, .pass (.served (readings.served member served))
        .nil, fetch_eq_ok ran⟩
  | error error =>
      rw [fetch, run_call, Prod.mk.injEq] at ran
      obtain ⟨failed, rfl⟩ := ran
      cases read : (BlockDevice.read host.device block blockSize).1 with
      | ok found =>
          rw [read] at failed
          cases failed
      | error cause =>
          rw [read] at failed
          cases failed
          exact ⟨readings.stays member block, untouched,
            .inr (.refuse (.refused (readings.refused member read)))⟩

theorem meets_readBlock (region : Region) (block : UInt32) :
    Meets serves refuses devices (readBlock region block) host [.read region block.toNat]
      (· = host.disk block.toNat) := by
  refine (meets_reserve blockSize).silent fun _ after _ untouched => ?_
  rw [← untouched.disk]
  exact meets_fetch readings region block

theorem meets_readBlocks {region : Region} {start : UInt32} {count done : Nat} {bytes : ByteArray}
    (words : start.toNat + done + count ≤ UInt32.size) :
    Meets serves refuses devices (readBlocks region start count done bytes) host
      (Demand.span region (start.toNat + done) count)
      (· = bytes ++ spanBytes host.disk (start.toNat + done) count) := by
  induction count generalizing done bytes host with
  | zero =>
      rw [spanBytes, ByteArray.append_empty]
      exact meets_pure bytes
  | succ count ih =>
      obtain ⟨place, narrowed, placed⟩ := narrow_exists (start.toNat + done) (by omega)
      refine (meets_lift_ok narrowed).silent ?_
      rintro _ second rfl untouched
      rw [Demand.span, spanBytes, ← placed]
      refine (meets_fetch readings region _).one ?_
      rintro _ third rfl untouched'
      rw [← ByteArray.append_assoc, placed, ← untouched.disk, ← untouched'.disk, Nat.add_assoc]
      exact ih (by omega)

theorem meets_readSpan {region : Region} {start count : UInt32}
    (words : start.toNat + count.toNat ≤ UInt32.size) :
    Meets serves refuses devices (readSpan region start count) host
      (Demand.span region start.toNat count.toNat)
      (· = spanBytes host.disk start.toNat count.toNat) := by
  refine (meets_reserve _).silent fun _ after _ untouched => ?_
  have meets : Meets serves refuses devices (readBlocks region start count.toNat 0 .empty) after
      (Demand.span region start.toNat count.toNat)
      (· = .empty ++ spanBytes after.disk start.toNat count.toNat) :=
    meets_readBlocks readings words
  rwa [ByteArray.empty_append, untouched.disk] at meets

end Engine

/-- The eight words at the start of a block, whatever they are. -/
def Superblock.found (block : Block) : Superblock where
  magic := wordAt block.bytes 0
  blocks := wordAt block.bytes 4
  inodes := wordAt block.bytes 8
  inodeTableBlocks := wordAt block.bytes 12
  inodeBitmapBlocks := wordAt block.bytes 16
  blockBitmapBlocks := wordAt block.bytes 20
  freeInodes := wordAt block.bytes 24
  freeBlocks := wordAt block.bytes 28

namespace Demand

/-- There are blocks behind the metadata, and the counters leave room for what is never free. -/
def sizes (superblock : Superblock) : List Demand :=
  [that (superblock.metadataBlocks < superblock.blocks.toNat)
      (.outOfRange superblock.metadataBlocks superblock.blocks.toNat),
    that (superblock.freeInodes.toNat < superblock.inodes.toNat)
      (.outOfRange superblock.freeInodes.toNat superblock.inodes.toNat),
    that (superblock.freeBlocks.toNat < superblock.blocks.toNat - superblock.metadataBlocks)
      (.outOfRange superblock.freeBlocks.toNat
        (superblock.blocks.toNat - superblock.metadataBlocks))]

/-- The blocks of a map are readable and have a bit for each of its units. -/
def map (region : Region) (start blocks length : Nat) : List Demand :=
  span region start blocks ++
    [that (length ≤ bitsPerBlock * blocks) (.outOfRange length (bitsPerBlock * blocks))]

end Demand

namespace Mount

/-- What a mount demands of a disk, in order. -/
def demands (disk : Nat → Block) : List Demand :=
  let superblock := Superblock.found (disk 0)
  let inodeBitmapStart := 1 + superblock.inodeTableBlocks.toNat
  let blockBitmapStart := inodeBitmapStart + superblock.inodeBitmapBlocks.toNat
  .read .superblock 0 ::
    (Demand.that (superblock.magic = formatMagic) (.wrongMagic superblock.magic) ::
    (Demand.sizes superblock ++
    (Demand.map .inodeBitmap inodeBitmapStart superblock.inodeBitmapBlocks.toNat
      superblock.inodes.toNat ++
    (Demand.map .blockBitmap blockBitmapStart superblock.blockBitmapBlocks.toNat
      superblock.blocks.toNat ++
    [.read .inodeTable 1]))))

end Mount

theorem Superblock.decode_eq_found (block : Block) :
    decode block.bytes =
      if (found block).magic = formatMagic then .ok (found block)
      else .error (.wrongMagic (found block).magic) := by
  have long : superblockLength ≤ block.bytes.size := by
    rw [block.size_bytes]
    decide
  by_cases same : wordAt block.bytes 0 = formatMagic
  · rw [decode, if_neg (Nat.not_lt.mpr long), if_neg (not_not_intro same),
      if_pos (show (found block).magic = formatMagic from same)]
    rfl
  · rw [decode_eq_wrongMagic long same, if_neg (show ¬ (found block).magic = formatMagic from same)]
    rfl

namespace Follows

variable {rest : List Demand} {outcome : Option Error} {holds : Prop} [Decidable holds]
  {error : Error}

theorem pass_that (proved : holds) (follows : Follows serves refuses rest outcome) :
    Follows serves refuses (.that holds error :: rest) outcome := by
  refine .pass ?_ follows
  rw [Demand.that, if_pos proved]
  exact .check

theorem refuse_that (fails : ¬ holds) :
    Follows serves refuses (.that holds error :: rest) (some error) := by
  refine .refuse ?_
  rw [Demand.that, if_neg fails]
  exact .check

theorem of_validate_ok {superblock : Superblock} (valid : superblock.validate = .ok ()) :
    Follows serves refuses (Demand.sizes superblock) none := by
  obtain ⟨room, inodes, blocks⟩ := Superblock.validate_eq_ok valid
  have data := superblock.toNat_dataBlocks
  rw [UInt32.lt_iff_toNat_lt] at inodes blocks
  rw [data] at blocks
  exact .pass_that room (.pass_that inodes (.pass_that blocks .nil))

theorem of_validate_error {superblock : Superblock}
    (refused : superblock.validate = .error error) :
    Follows serves refuses (Demand.sizes superblock) (some error) := by
  have data : superblock.geometry.dataBlocks.toNat =
      superblock.blocks.toNat - superblock.metadataBlocks := superblock.toNat_dataBlocks
  unfold Superblock.validate at refused
  dsimp only at refused
  split at refused
  · rename_i none
    rw [none] at data
    cases refused
    exact .refuse_that (Nat.not_lt.mpr (Nat.le_of_sub_eq_zero data.symm))
  · rename_i some
    have room : superblock.metadataBlocks < superblock.blocks.toNat := by
      apply Nat.lt_of_sub_ne_zero
      intro zero
      exact some (UInt32.toNat_inj.mp (data.trans zero))
    split at refused
    · rename_i full
      cases refused
      exact .pass_that room (.refuse_that (Nat.not_lt.mpr (UInt32.le_iff_toNat_le.mp full)))
    · rename_i inodes
      have fewer := UInt32.lt_iff_toNat_lt.mp (UInt32.not_le.mp inodes)
      split at refused
      · rename_i full
        rw [UInt32.le_iff_toNat_le, data] at full
        cases refused
        rw [data]
        exact .pass_that room (.pass_that fewer (.refuse_that (Nat.not_lt.mpr full)))
      · cases refused

end Follows

namespace Engine

variable {δ : Type} [BlockDevice δ] {devices : δ → Prop} {host : Host δ}

theorem meets_decode (block : Block) :
    Meets serves refuses devices (liftM (Superblock.decode block.bytes) : Engine δ Superblock) host
      [.that ((Superblock.found block).magic = formatMagic)
        (.wrongMagic (Superblock.found block).magic)] (· = Superblock.found block) := by
  rw [Superblock.decode_eq_found]
  by_cases same : (Superblock.found block).magic = formatMagic
  · rw [if_pos same]
    exact meets_lift (fun _ found => ⟨.pass_that same .nil, (Except.ok.inj found).symm⟩) nofun
  · rw [if_neg same]
    refine meets_lift nofun fun error refused => ?_
    cases refused
    exact .refuse_that same

theorem meets_validate (superblock : Superblock) :
    Meets serves refuses devices (liftM superblock.validate : Engine δ Unit) host
      (Demand.sizes superblock) fun _ => superblock.validate = .ok () :=
  meets_lift (fun _ valid => ⟨.of_validate_ok valid, valid⟩) fun _ => .of_validate_error

variable [LawfulBlockDevice δ] (readings : Readings serves refuses devices)

include readings

theorem meets_loadBitmap {region : Region} {start blocks length : UInt32}
    (words : start.toNat + blocks.toNat ≤ UInt32.size) :
    Meets serves refuses devices (loadBitmap region start blocks length) host
      (Demand.map region start.toNat blocks.toNat length.toNat) fun _ => True := by
  refine (meets_readSpan readings words).bind fun bytes after found _ => ?_
  have bits : 8 * bytes.size = bitsPerBlock * blocks.toNat := by
    rw [found, size_spanBytes, Nat.mul_left_comm, Nat.mul_comm]
  refine meets_lift (fun bitmap loaded => ?_) fun error refused => ?_
  · rw [← bits]
    exact ⟨.pass_that (Bitmap.load_eq_ok_iff.mp loaded).1 .nil, trivial⟩
  · obtain ⟨large, rfl⟩ := Bitmap.load_eq_error_iff.mp refused
    rw [← bits]
    exact .refuse_that (Nat.not_le.mpr large)

theorem meets_readInode {superblock : Superblock} {number : UInt32}
    (inside : number < superblock.inodes) :
    Meets serves refuses devices (superblock.readInode number) host
      [.read .inodeTable (Inode.address number).block.toNat] fun _ => True := by
  unfold Superblock.readInode
  rw [if_neg (UInt32.not_le.mpr inside)]
  refine (meets_readBlock readings _ _).one fun block after _ _ => ?_
  obtain ⟨record, inode, cut, decoded⟩ := Inode.decode_window_exists block number
  refine (meets_lift_ok cut).silent ?_
  rintro _ between rfl _
  exact meets_lift (fun _ _ => ⟨.nil, trivial⟩) fun _ failed => nomatch decoded.symm.trans failed

/-- Every mount goes through the demands on the disk that it finds. -/
theorem meets_mount : Meets serves refuses devices mount host (Mount.demands host.disk)
    fun _ => True := by
  unfold mount Mount.demands
  dsimp only
  have inFirst : host.disk superblockBlock.toNat = host.disk 0 := rfl
  refine (meets_readBlock readings .superblock superblockBlock).one fun block first same _ => ?_
  rw [same, inFirst]
  refine (meets_decode (host.disk 0)).one fun superblock second same _ => ?_
  rw [← same]
  refine (meets_validate superblock).bind fun _ third valid _ => ?_
  have room := (Superblock.validate_eq_ok valid).1
  obtain ⟨inodeStart, inodeBegun⟩ := Geometry.inodeBitmapStart_exists room
  obtain ⟨blockStart, blockBegun⟩ := Geometry.blockBitmapStart_exists room
  have inodePlace := Geometry.toNat_inodeBitmapStart inodeBegun
  have blockPlace := Geometry.toNat_blockBitmapStart blockBegun
  have bound := superblock.blocks.toNat_lt
  have wordSize : UInt32.size = 2 ^ 32 := rfl
  change inodeStart.toNat = 1 + superblock.inodeTableBlocks.toNat at inodePlace
  change blockStart.toNat = 1 + superblock.inodeTableBlocks.toNat +
    superblock.inodeBitmapBlocks.toNat at blockPlace
  change 1 + superblock.inodeTableBlocks.toNat + superblock.inodeBitmapBlocks.toNat +
    superblock.blockBitmapBlocks.toNat < superblock.blocks.toNat at room
  have rootInside : rootInode < superblock.inodes :=
    UInt32.lt_of_le_of_lt UInt32.zero_le (Superblock.validate_eq_ok valid).2.1
  rw [← inodePlace] at blockPlace ⊢
  rw [← blockPlace]
  refine (meets_report _).silent fun _ _ _ _ => (meets_lift_ok inodeBegun).silent ?_
  rintro _ _ rfl _
  refine (meets_loadBitmap readings (by omega)).bind fun _ _ _ _ => ?_
  refine (meets_lift_ok blockBegun).silent ?_
  rintro _ _ rfl _
  refine (meets_loadBitmap readings (by omega)).bind fun _ _ _ _ => ?_
  refine (meets_readInode readings rootInside).one fun _ _ _ _ => ?_
  exact (meets_report _).silent fun _ _ _ _ => (meets_pure _).weaken fun _ _ => trivial

end Engine

end BlockFs
