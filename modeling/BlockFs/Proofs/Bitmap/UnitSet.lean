import BlockFs.Proofs.Bitmap.FreeSet
import Mathlib.Data.Nat.Count
import Mathlib.Order.Interval.Finset.Nat

/-!
A free-space map and the finite set of its free units.

`Bitmap.Holds` ties a map to a set, bit by bit.  Both constructors make a map that holds a set, and
every change of a map is one of its set.  `Bitmap.Reflects` is what can be seen of this: all
questions about a map are answered from the set.
-/

namespace BlockFs.Bitmap

/-- The map holds the set: exactly the bits of its members are set, and all of them are units. -/
structure Holds (bitmap : Bitmap) (units : Finset Nat) : Prop where
  inside : ∀ unit ∈ units, unit < bitmap.length.toNat
  bits : ∀ position, bitAt bitmap.bytes position = decide (position ∈ units)

/-- What a map that holds a set answers.  No sum of its first bytes' bits leaves the word range. -/
structure Reflects (bitmap : Bitmap) (units : Finset Nat) : Prop where
  inside : ∀ unit ∈ units, unit < bitmap.length.toNat
  test : ∀ index < bitmap.length, bitmap.test index = .ok (decide (index.toNat ∈ units))
  testBehind : ∀ index, bitmap.length ≤ index →
    bitmap.test index = .error (.outOfRange index.toNat bitmap.length.toNat)
  firstFree : ∀ index, bitmap.firstFree = .ok index ↔ IsLeast (units : Set Nat) index.toNat
  exhausted : ∀ error, bitmap.firstFree = .error error ↔ units = ∅ ∧ error = .exhausted
  countFree : bitmap.countFree = units.card
  sums : ∀ count ≤ bitmap.bytes.size, countBits bitmap.bytes count 0 < UInt32.size
  padding : ∀ position, bitmap.length.toNat ≤ position → bitAt bitmap.bytes position = false

/-- How a map comes to be, with the set that it holds then. -/
inductive Begins (bitmap : Bitmap) : (units : Finset Nat) → Prop where
  | fresh {bufferLimit : Nat} {blocks length used : UInt32}
      (made : fresh bufferLimit blocks length used = .ok bitmap) :
      Begins bitmap (Finset.Ico used.toNat length.toNat)
  | load {bytes : ByteArray} {length : UInt32} (loaded : load bytes length = .ok bitmap) :
      Begins bitmap {unit ∈ Finset.range length.toNat | bitAt bytes unit}

inductive Edit where
  | use (index : UInt32)
  | free (index : UInt32)
deriving DecidableEq, Repr

namespace Edit

def index : Edit → UInt32
  | .use index | .free index => index

def perform (bitmap : Bitmap) : Edit → Except Error Bitmap
  | .use index => bitmap.markUsed index
  | .free index => bitmap.markFree index

/-- What an edit of a map does to the set that it holds. -/
def onSet (length : UInt32) (units : Finset Nat) : Edit → Finset Nat
  | .use index => units.erase index.toNat
  | .free index => if index < length then insert index.toNat units else units

end Edit

/-- An edit that is refused leaves the map as it was. -/
def edit (bitmap : Bitmap) (change : Edit) : Bitmap :=
  match change.perform bitmap with
  | .ok after => after
  | .error _ => bitmap

variable {bitmap after : Bitmap} {units : Finset Nat} {index : UInt32} {change : Edit}

namespace Holds

theorem tight (holds : bitmap.Holds units) : bitmap.Sealed := by
  intro position behind
  rw [holds.bits]
  exact decide_eq_false fun member => Nat.not_lt.mpr behind (holds.inside position member)

theorem filter_range (holds : bitmap.Holds units) {count : Nat}
    (covers : bitmap.length.toNat ≤ count) :
    {position ∈ Finset.range count | bitAt bitmap.bytes position} = units := by
  ext unit
  rw [Finset.mem_filter, Finset.mem_range, holds.bits, decide_eq_true_iff]
  exact ⟨And.right, fun member =>
    ⟨Nat.lt_of_lt_of_le (holds.inside unit member) covers, member⟩⟩

theorem freeUnits (holds : bitmap.Holds units) : bitmap.freeUnits = units.card := by
  rw [← holds.filter_range (Nat.le_refl _), ← Nat.count_eq_card_filter_range, Nat.count]
  simp only [Bitmap.freeUnits, Bool.decide_eq_true]

theorem isLeast (holds : bitmap.Holds units) (found : bitmap.firstFree = .ok index) :
    IsLeast (units : Set Nat) index.toNat := by
  obtain ⟨_, free, below⟩ := firstFree_eq_ok found
  rw [holds.bits] at free
  refine ⟨of_decide_eq_true free, fun unit member => Nat.le_of_not_lt fun lower => ?_⟩
  have taken := below unit lower
  rw [holds.bits, decide_eq_true (Finset.mem_coe.mp member)] at taken
  cases taken

theorem empty_of_exhausted (holds : bitmap.Holds units) {error : Error}
    (failed : bitmap.firstFree = .error error) : units = ∅ := by
  apply Finset.card_eq_zero.mp
  rw [← holds.freeUnits, freeUnits_eq_zero failed]

theorem countBits_lt (holds : bitmap.Holds units) {count : Nat}
    (within : count ≤ bitmap.bytes.size) : countBits bitmap.bytes count 0 < UInt32.size := by
  have part : countBits bitmap.bytes count 0 ≤ bitmap.countFree := by
    rw [Bitmap.countFree, countBits_eq, countBits_eq, Nat.zero_add, Nat.zero_add]
    exact (List.range_sublist.mpr (Nat.mul_le_mul_left 8 within)).countP_le
  calc countBits bitmap.bytes count 0
      ≤ bitmap.countFree := part
    _ = bitmap.freeUnits := countFree_eq_freeUnits holds.tight
    _ ≤ bitmap.length.toNat := bitmap.freeUnits_le
    _ < UInt32.size := bitmap.length.toNat_lt

theorem reflects (holds : bitmap.Holds units) : bitmap.Reflects units where
  inside := holds.inside
  test index inside := by rw [test_of_lt inside, holds.bits]
  testBehind index behind := if_neg (UInt32.not_lt.mpr behind)
  firstFree index := by
    refine ⟨holds.isLeast, fun least => ?_⟩
    cases found : bitmap.firstFree with
    | ok other => rw [UInt32.toNat_inj.mp ((holds.isLeast found).unique least)]
    | error error =>
        have member := least.1
        rw [holds.empty_of_exhausted found] at member
        simp at member
  exhausted error := by
    constructor
    · intro failed
      exact ⟨holds.empty_of_exhausted failed, (firstFree_eq_error failed).1⟩
    · rintro ⟨rfl, rfl⟩
      exact firstFree_eq_exhausted_iff.mpr (holds.freeUnits.trans Finset.card_empty)
  countFree := (countFree_eq_freeUnits holds.tight).trans holds.freeUnits
  sums _ within := holds.countBits_lt within
  padding := holds.tight

/-- Maps of one length and size that hold the same set are equal. -/
theorem unique (holds : bitmap.Holds units) (other : after.Holds units)
    (length : after.length = bitmap.length) (size : after.bytes.size = bitmap.bytes.size) :
    after = bitmap :=
  ext_bits length size other.tight holds.tight fun position _ => by
    rw [other.bits, holds.bits]

theorem erase (holds : bitmap.Holds units) (assigned : bitmap.Assigns after index false) :
    after.Holds (units.erase index.toNat) := by
  refine ⟨fun unit member => ?_, fun position => ?_⟩
  · rw [assigned.length]
    exact holds.inside unit (Finset.mem_of_mem_erase member)
  · rw [assigned.bits, holds.bits]
    by_cases here : position = index.toNat <;> simp [here]

theorem insert (holds : bitmap.Holds units) (assigned : bitmap.Assigns after index true) :
    after.Holds (insert index.toNat units) := by
  refine ⟨fun unit member => ?_, fun position => ?_⟩
  · rw [assigned.length]
    rcases Finset.mem_insert.mp member with rfl | member
    · exact UInt32.lt_iff_toNat_lt.mp assigned.inside
    · exact holds.inside unit member
  · rw [assigned.bits, holds.bits]
    by_cases here : position = index.toNat <;> simp [here]

end Holds

theorem Begins.holds (begins : bitmap.Begins units) : bitmap.Holds units := by
  cases begins with
  | fresh made =>
      obtain ⟨length, _, bits⟩ := fresh_spec made
      refine ⟨fun unit member => ?_, fun position => ?_⟩
      · rw [length]
        exact (Finset.mem_Ico.mp member).2
      · rw [bits, decide_eq_decide, Finset.mem_Ico]
  | @load bytes _ loaded =>
      obtain ⟨_, rfl, _, tight, same⟩ := load_eq_ok_iff.mp loaded
      refine ⟨fun unit member => ?_, fun position => ?_⟩
      · exact Finset.mem_range.mp (Finset.mem_of_mem_filter unit member)
      · by_cases inside : position < bitmap.length.toNat
        · simp [same position inside, inside]
        · simp [tight position (Nat.not_lt.mp inside), inside]

theorem Edit.perform_of_lt (bitmap : Bitmap) (inside : change.index < bitmap.length) :
    ∃ after free, change.perform bitmap = .ok after ∧ bitmap.Assigns after change.index free ∧
      ∀ units, bitmap.Holds units → after.Holds (change.onSet bitmap.length units) := by
  cases change with
  | use index =>
      obtain ⟨after, marked⟩ := update_exists _ inside
      have assigned := markUsed_assigns marked
      exact ⟨after, false, marked, assigned, fun units holds => holds.erase assigned⟩
  | free index =>
      obtain ⟨after, marked⟩ := update_exists _ inside
      have assigned := markFree_assigns marked
      refine ⟨after, true, marked, assigned, fun units holds => ?_⟩
      rw [onSet, if_pos (show index < bitmap.length from inside)]
      exact holds.insert assigned

theorem Edit.perform_of_le (bitmap : Bitmap) (behind : bitmap.length ≤ change.index) :
    change.perform bitmap = .error (.outOfRange change.index.toNat bitmap.length.toNat) := by
  cases change <;> exact dif_neg (UInt32.not_lt.mpr behind)

@[simp]
theorem Edit.onSet_onSet (change : Edit) (length : UInt32) (units : Finset Nat) :
    change.onSet length (change.onSet length units) = change.onSet length units := by
  cases change with
  | use index => simp [onSet]
  | free index => by_cases inside : index < length <;> simp [onSet, inside]

/-- An edit of a unit behind the last one does nothing to the set either. -/
theorem Edit.onSet_of_le (holds : bitmap.Holds units) (behind : bitmap.length ≤ change.index) :
    change.onSet bitmap.length units = units := by
  cases change with
  | use index =>
      refine Finset.erase_eq_of_notMem fun member => ?_
      exact Nat.not_lt.mpr (UInt32.le_iff_toNat_le.mp behind) (holds.inside _ member)
  | free index => exact if_neg (UInt32.not_lt.mpr behind)

/-- What one edit keeps: the size of the map, and that it holds the edited set. -/
theorem Holds.edit (holds : bitmap.Holds units) (change : Edit) :
    (bitmap.edit change).Holds (change.onSet bitmap.length units) ∧
      (bitmap.edit change).length = bitmap.length ∧
      (bitmap.edit change).bytes.size = bitmap.bytes.size := by
  by_cases inside : change.index < bitmap.length
  · obtain ⟨after, free, done, assigned, kept⟩ := Edit.perform_of_lt bitmap inside
    rw [Bitmap.edit, done]
    exact ⟨kept units holds, assigned.length, assigned.size⟩
  · have behind := UInt32.not_lt.mp inside
    rw [Bitmap.edit, Edit.perform_of_le bitmap behind, Edit.onSet_of_le holds behind]
    exact ⟨holds, rfl, rfl⟩

theorem Holds.edits (holds : bitmap.Holds units) (changes : List Edit) :
    (changes.foldl Bitmap.edit bitmap).Holds
        (changes.foldl (Edit.onSet bitmap.length) units) ∧
      (changes.foldl Bitmap.edit bitmap).length = bitmap.length ∧
      (changes.foldl Bitmap.edit bitmap).bytes.size = bitmap.bytes.size := by
  induction changes generalizing bitmap units with
  | nil => exact ⟨holds, rfl, rfl⟩
  | cons change rest ih =>
      obtain ⟨edited, sameLength, sameSize⟩ := holds.edit change
      obtain ⟨all, length, size⟩ := ih edited
      rw [sameLength] at all length
      exact ⟨all, length, size.trans sameSize⟩

/-- An edit of a unit of the map succeeds, and the second time it changes nothing. -/
theorem Holds.perform (holds : bitmap.Holds units) (inside : change.index < bitmap.length) :
    ∃ after, change.perform bitmap = .ok after ∧
      after.Holds (change.onSet bitmap.length units) ∧ change.perform after = .ok after := by
  obtain ⟨after, _, done, assigned, kept⟩ := Edit.perform_of_lt bitmap inside
  have edited := kept units holds
  rw [← assigned.length] at inside
  obtain ⟨again, _, repeated, unchanged, keptAgain⟩ := Edit.perform_of_lt after inside
  have twice := keptAgain _ edited
  rw [assigned.length, Edit.onSet_onSet] at twice
  rw [edited.unique twice unchanged.length unchanged.size] at repeated
  exact ⟨after, done, edited, repeated⟩

/-- A map is the set of its free units: after any edits of a map that was made or loaded, all
questions are answered from the edited set.  One further edit changes just this set, does so once
only, and is refused behind the last unit. -/
theorem edits_reflect_units (begins : bitmap.Begins units) (changes : List Edit) :
    let last := changes.foldl Bitmap.edit bitmap
    let left := changes.foldl (Edit.onSet bitmap.length) units
    last.Reflects left ∧ last.length = bitmap.length ∧ last.bytes.size = bitmap.bytes.size ∧
      ∀ change : Edit,
        (change.index < bitmap.length → ∃ after, change.perform last = .ok after ∧
          after.Reflects (change.onSet bitmap.length left) ∧
          change.perform after = .ok after) ∧
        (bitmap.length ≤ change.index →
          change.perform last = .error (.outOfRange change.index.toNat bitmap.length.toNat) ∧
          last.edit change = last) := by
  intro last left
  obtain ⟨holds, length, size⟩ := begins.holds.edits changes
  refine ⟨holds.reflects, length, size, fun change => ⟨fun inside => ?_, fun behind => ?_⟩⟩
  · rw [← length] at inside ⊢
    obtain ⟨after, done, edited, repeated⟩ := holds.perform inside
    exact ⟨after, done, edited.reflects, repeated⟩
  · rw [← length] at behind ⊢
    have refused := Edit.perform_of_le last behind
    refine ⟨refused, ?_⟩
    rw [Bitmap.edit, refused]

theorem edits_reflect_units_padded :
    ∃ bitmap, load (fill 0xFF 2) 10 = .ok bitmap ∧
      let last := [Edit.use 0, .free 12, .use 9].foldl Bitmap.edit bitmap
      last.Reflects (Finset.Ico 1 9) ∧ last.edit (.free 12) = last := by
  obtain ⟨bitmap, loaded⟩ : ∃ bitmap, load (fill 0xFF 2) 10 = .ok bitmap :=
    ⟨_, dif_pos (by decide)⟩
  obtain ⟨_, length, _⟩ := load_eq_ok_iff.mp loaded
  obtain ⟨reflects, _, _, refused⟩ :=
    edits_reflect_units (.load loaded) [.use 0, .free 12, .use 9]
  have units : [Edit.use 0, .free 12, .use 9].foldl (Edit.onSet 10)
      {unit ∈ Finset.range 10 | bitAt (fill 0xFF 2) unit} = Finset.Ico 1 9 := by decide
  rw [length] at reflects refused
  exact ⟨bitmap, loaded, units ▸ reflects, ((refused (.free 12)).2 (by decide)).2⟩

end BlockFs.Bitmap
