import BlockFs.Proofs.Mount.Tracking

/-!
Who owns which unit, told from the operations alone.

A `Ledger` is kept by listening to the operations and their answers.  `Mount.Sound` says that the
maps and the counters of a mount agree with it, and every operation keeps it so.
-/

namespace BlockFs

abbrev Incident := Operation × Except Error Answer

/-- A set of units with one unit put in or taken out. -/
def mark (used : UInt32 → Bool) (number : UInt32) (value : Bool) : UInt32 → Bool :=
  fun other => if other = number then value else used other

theorem mark_of_ne {used : UInt32 → Bool} {number other : UInt32} {value : Bool}
    (differs : other ≠ number) : mark used number value other = used other :=
  if_neg differs

theorem mark_self (used : UInt32 → Bool) (number : UInt32) (value : Bool) :
    mark used number value number = value :=
  if_pos rfl

theorem mark_true {used : UInt32 → Bool} {other : UInt32} (already : used other = true)
    (number : UInt32) : mark used number true other = true := by
  rw [mark]
  split
  · rfl
  · exact already

structure Ledger where
  inodes : UInt32 → Bool
  blocks : UInt32 → Bool

namespace Ledger

/-- The units of a pool that are in use. -/
def units (ledger : Ledger) : Pool → UInt32 → Bool
  | .inodes => ledger.inodes
  | .blocks => ledger.blocks

def initial (reserved : UInt32) : Ledger where
  inodes number := decide (number = rootInode)
  blocks number := decide (number < reserved)

def record (ledger : Ledger) : Incident → Ledger
  | (.takeInode, .ok (.number number)) => { ledger with inodes := mark ledger.inodes number true }
  | (.freeInode number, .ok .done) => { ledger with inodes := mark ledger.inodes number false }
  | (.takeBlock, .ok (.number number)) => { ledger with blocks := mark ledger.blocks number true }
  | (.freeBlock number, .ok .done) => { ledger with blocks := mark ledger.blocks number false }
  | _ => ledger

def replay (ledger : Ledger) (trace : List Incident) : Ledger :=
  trace.foldl record ledger

variable {ledger : Ledger} {operation : Operation}

theorem record_error (ledger : Ledger) (operation : Operation) (error : Error) :
    ledger.record (operation, .error error) = ledger := by
  cases operation <;> rfl

theorem record_query (query : operation.isQuery = true) (answer : Answer) :
    ledger.record (operation, .ok answer) = ledger := by
  cases operation <;> first | rfl | contradiction

theorem replay_concat (ledger : Ledger) (trace : List Incident) (incident : Incident) :
    ledger.replay (trace ++ [incident]) = (ledger.replay trace).record incident := by
  rw [replay, List.foldl_append]
  rfl

theorem replay_cons (ledger : Ledger) (incident : Incident) (trace : List Incident) :
    ledger.replay (incident :: trace) = (ledger.record incident).replay trace :=
  rfl

theorem replay_append (ledger : Ledger) (first second : List Incident) :
    ledger.replay (first ++ second) = (ledger.replay first).replay second :=
  List.foldl_append

theorem units_record (pool : Pool) {number : UInt32} {incident : Incident}
    (used : ledger.units pool number = true) (other : incident ≠ (pool.give number, .ok .done)) :
    (ledger.record incident).units pool number = true := by
  -- A mark is only taken away from the unit that is given back.
  cases pool <;> unfold record <;> split <;> first
    | exact used
    | exact mark_true used _
    | exact (mark_of_ne (by rintro rfl; exact other rfl)).trans used

/-- What only one incident can end stays true as long as that one does not happen. -/
theorem replay_of_not_mem (holds : Ledger → Prop) {ending : Incident} {trace : List Incident}
    (step : ∀ {ledger incident}, holds ledger → incident ≠ ending → holds (ledger.record incident))
    (start : holds ledger) (absent : ending ∉ trace) : holds (ledger.replay trace) := by
  induction trace generalizing ledger with
  | nil => exact start
  | cons incident rest ih =>
      rw [List.mem_cons, not_or] at absent
      exact ih (step start (Ne.symm absent.1)) absent.2

theorem units_record_take (pool : Pool) (ledger : Ledger) (number : UInt32) :
    (ledger.record (pool.take, .ok (.number number))).units pool number = true := by
  cases pool <;> exact mark_self _ number true

/-- A unit that was taken and is not in use any more was given back in between. -/
theorem mem_of_units_replay (pool : Pool) {number : UInt32} {trace : List Incident}
    (unused : (ledger.replay ((pool.take, .ok (.number number)) :: trace)).units pool number =
      false) :
    (pool.give number, .ok .done) ∈ trace := by
  apply Classical.byContradiction
  intro absent
  rw [replay_cons, replay_of_not_mem (·.units pool number = true) (units_record pool)
    (units_record_take pool ledger number) absent] at unused
  contradiction

end Ledger

/-- A map that has the bits of a set of units, and a counter of those that are free. -/
structure Bitmap.Agrees (bitmap : Bitmap) (counter : UInt32) (used : UInt32 → Bool) : Prop where
  counted : counter.toNat = bitmap.freeUnits
  bits : ∀ number < bitmap.length, bitAt bitmap.bytes number.toNat = !used number

namespace Bitmap.Agrees

variable {bitmap after : Bitmap} {counter number : UInt32} {used : UInt32 → Bool}

theorem mark_bits {free : Bool} (agrees : bitmap.Agrees counter used)
    (assigned : bitmap.Assigns after number free) :
    ∀ other < after.length, bitAt after.bytes other.toNat = !mark used number (!free) other := by
  intro other inside
  rw [assigned.length] at inside
  rw [assigned.bits, mark]
  by_cases same : other = number
  · rw [if_pos same, if_pos (congrArg UInt32.toNat same), Bool.not_not]
  · rw [if_neg same, if_neg fun equal => same (UInt32.toNat_inj.mp equal), agrees.bits other inside]

theorem take (agrees : bitmap.Agrees counter used) (found : bitmap.firstFree = .ok number)
    (assigned : bitmap.Assigns after number false) :
    after.Agrees (saturatingPred counter) (mark used number true) := by
  refine ⟨?_, agrees.mark_bits assigned⟩
  rw [toNat_saturatingPred, agrees.counted,
    ← assigned.freeUnits_take (firstFree_eq_ok found).2.1, Nat.add_sub_cancel]

theorem give (agrees : bitmap.Agrees counter used)
    (wasUsed : bitAt bitmap.bytes number.toNat = false)
    (assigned : bitmap.Assigns after number true) :
    after.Agrees (saturatingSucc counter) (mark used number false) := by
  have more := assigned.freeUnits_give wasUsed
  have bound := after.freeUnits_le
  have word := after.length.toNat_lt
  refine ⟨?_, agrees.mark_bits assigned⟩
  rw [toNat_saturatingSucc (show _ < 2 ^ 32 by rw [agrees.counted]; omega), agrees.counted, more]

theorem mark_free (agrees : bitmap.Agrees counter used) (tight : bitmap.Sealed)
    (free : bitAt bitmap.bytes number.toNat = true) : mark used number false = used := by
  funext other
  rw [mark]
  split
  · rename_i same
    subst same
    have inside : other < bitmap.length := by
      rw [UInt32.lt_iff_toNat_lt]
      apply Nat.lt_of_not_le
      intro behind
      rw [tight _ behind] at free
      contradiction
    rw [agrees.bits other inside, Bool.not_eq_true'] at free
    exact free.symm
  · rfl

theorem least (agrees : bitmap.Agrees counter used) (found : bitmap.firstFree = .ok number) :
    used number = false ∧ ∀ lower < number, used lower = true := by
  obtain ⟨inside, free, below⟩ := firstFree_eq_ok found
  constructor
  · rwa [agrees.bits number inside, Bool.not_eq_true'] at free
  · intro lower before
    have taken := below lower.toNat (UInt32.lt_iff_toNat_lt.mp before)
    rwa [agrees.bits lower (UInt32.lt_trans before inside), Bool.not_eq_false'] at taken

end Bitmap.Agrees

namespace Mount

/-- A mount of a device of a given geometry, whose units are in use as the ledger says. -/
structure Sound (geometry : Geometry) (ledger : Ledger) (mount : Mount) : Prop where
  planned : geometry.Planned
  geometry_eq : mount.geometry = geometry
  inodes : mount.inodeBitmap.Agrees mount.superblock.freeInodes ledger.inodes
  blocks : mount.blockBitmap.Agrees mount.superblock.freeBlocks ledger.blocks
  root : ledger.inodes rootInode = true
  reserved : ∀ number : UInt32, number.toNat ≤ geometry.metadata → ledger.blocks number = true

variable {geometry : Geometry} {ledger : Ledger} {mount next : Mount} {disk changed : Nat → Block}

theorem Sound.inodes_length (sound : mount.Sound geometry ledger) (shaped : mount.Shaped) :
    mount.inodeBitmap.length = geometry.totalInodes :=
  shaped.inodes.length.trans (congrArg Geometry.totalInodes sound.geometry_eq)

theorem Sound.blocks_length (sound : mount.Sound geometry ledger) (shaped : mount.Shaped) :
    mount.blockBitmap.length = geometry.totalBlocks :=
  shaped.blocks.length.trans (congrArg Geometry.totalBlocks sound.geometry_eq)

theorem Sound.root_inside (sound : mount.Sound geometry ledger) (shaped : mount.Shaped) :
    rootInode < mount.inodeBitmap.length := by
  rw [sound.inodes_length shaped]
  exact UInt32.lt_iff_toNat_lt.mpr sound.planned.inodes_pos

theorem Sound.root_used (sound : mount.Sound geometry ledger) (shaped : mount.Shaped) :
    bitAt mount.inodeBitmap.bytes rootInode.toNat = false := by
  rw [sound.inodes.bits rootInode (sound.root_inside shaped), sound.root]
  rfl

theorem Sound.metadata_inside (sound : mount.Sound geometry ledger) (shaped : mount.Shaped)
    {number : UInt32} (low : number.toNat ≤ geometry.metadata) :
    number < mount.blockBitmap.length := by
  rw [sound.blocks_length shaped, UInt32.lt_iff_toNat_lt]
  exact Nat.lt_of_le_of_lt low sound.planned.hasData

theorem Sound.metadata_used (sound : mount.Sound geometry ledger) (shaped : mount.Shaped)
    {number : UInt32} (low : number.toNat ≤ geometry.metadata) :
    bitAt mount.blockBitmap.bytes number.toNat = false := by
  rw [sound.blocks.bits number (sound.metadata_inside shaped low), sound.reserved number low]
  rfl

theorem Sound.of_twin (sound : mount.Sound geometry ledger) (twin : mount.Twin next) :
    next.Sound geometry ledger := by
  refine ⟨sound.planned, twin.geometry_eq.trans sound.geometry_eq, ?_, ?_, sound.root,
    sound.reserved⟩
  · rw [twin.inodeBitmap, twin.superblock]
    exact sound.inodes
  · rw [twin.blockBitmap, twin.superblock]
    exact sound.blocks

theorem Sound.change {operation : Operation} {answer : Except Error Answer}
    (sound : mount.Sound geometry ledger) (shaped : mount.Shaped)
    (change : Change mount disk operation answer next changed) :
    next.Sound geometry (ledger.record (operation, answer)) := by
  cases change with
  | tookInode found assigned =>
      exact ⟨sound.planned, sound.geometry_eq, sound.inodes.take found assigned, sound.blocks,
        mark_true sound.root _, sound.reserved⟩
  | freedInode notRoot used assigned =>
      exact ⟨sound.planned, sound.geometry_eq, sound.inodes.give used assigned, sound.blocks,
        (mark_of_ne notRoot.symm).trans sound.root, sound.reserved⟩
  | keptInode free =>
      change mount.Sound geometry { ledger with inodes := mark ledger.inodes _ false }
      rw [sound.inodes.mark_free shaped.inodes.tight free]
      exact sound
  | tookBlock found assigned =>
      exact ⟨sound.planned, sound.geometry_eq, sound.inodes, sound.blocks.take found assigned,
        sound.root, fun other low => mark_true (sound.reserved other low) _⟩
  | freedBlock limit notReserved used assigned =>
      have place := Geometry.toNat_reservedBlocks shaped.room limit
      have behind := UInt32.le_iff_toNat_le.mp notReserved
      rw [place, sound.geometry_eq] at behind
      refine ⟨sound.planned, sound.geometry_eq, sound.inodes, sound.blocks.give used assigned,
        sound.root, ?_⟩
      intro other low
      refine (mark_of_ne ?_).trans (sound.reserved other low)
      rintro rfl
      omega
  | keptBlock free =>
      change mount.Sound geometry { ledger with blocks := mark ledger.blocks _ false }
      rw [sound.blocks.mark_free shaped.blocks.tight free]
      exact sound
  | wroteInode inside =>
      split
      · exact sound.of_twin ⟨rfl, rfl, rfl⟩
      · exact sound
  | synced plan => exact sound.of_twin ⟨rfl, rfl, rfl⟩
  | interrupted | failed =>
      rw [Ledger.record_error]
      exact sound
  | answered query =>
      rw [Ledger.record_query query]
      exact sound

end Mount

end BlockFs
