import BlockFs.Proofs.Bitmap.UnitSet

namespace BlockFs.Bitmap

variable {bitmap after : Bitmap} {index : UInt32}

theorem perform_eq_edit (change : Edit) (inside : change.index < bitmap.length) :
    change.perform bitmap = .ok (bitmap.edit change) := by
  obtain ⟨_, _, done, _⟩ := Edit.perform_of_lt bitmap inside
  rw [edit, done]

theorem length_edit (bitmap : Bitmap) (change : Edit) :
    (bitmap.edit change).length = bitmap.length := by
  by_cases inside : change.index < bitmap.length
  · obtain ⟨after, _, done, assigned, _⟩ := Edit.perform_of_lt bitmap inside
    rw [edit, done, assigned.length]
  · rw [edit, Edit.perform_of_le bitmap (UInt32.not_lt.mp inside)]

theorem assigns_use (inside : index < bitmap.length) :
    bitmap.Assigns (bitmap.edit (.use index)) index false :=
  markUsed_assigns (perform_eq_edit (.use index) inside)

theorem assigns_free (inside : index < bitmap.length) :
    bitmap.Assigns (bitmap.edit (.free index)) index true :=
  markFree_assigns (perform_eq_edit (.free index) inside)

theorem edit_free_comm (inside : index < bitmap.length) {second : UInt32}
    (alsoInside : second < bitmap.length) :
    (bitmap.edit (.free index)).edit (.free second) =
      (bitmap.edit (.free second)).edit (.free index) := by
  have one := assigns_free inside
  have two := assigns_free alsoInside
  have oneTwo := assigns_free (one.length ▸ alsoInside)
  have twoOne := assigns_free (two.length ▸ inside)
  refine eq_of_bits ?_ ?_ fun position => ?_
  · rw [oneTwo.length, one.length, twoOne.length, two.length]
  · rw [oneTwo.size, one.size, twoOne.size, two.size]
  · rw [oneTwo.bits, one.bits, twoOne.bits, two.bits]
    split <;> split <;> rfl

theorem firstFree_of_least (inside : index < bitmap.length)
    (free : bitAt bitmap.bytes index.toNat = true)
    (below : ∀ lower < index.toNat, bitAt bitmap.bytes lower = false) :
    bitmap.firstFree = .ok index := by
  cases found : bitmap.firstFree with
  | error error =>
      have used := (firstFree_eq_error found).2 index.toNat (UInt32.lt_iff_toNat_lt.mp inside)
      rw [free] at used
      cases used
  | ok other =>
      obtain ⟨_, alsoFree, least⟩ := firstFree_eq_ok found
      obtain lower | same | higher := Nat.lt_trichotomy other.toNat index.toNat
      · rw [below _ lower] at alsoFree
        cases alsoFree
      · rw [UInt32.toNat_inj.mp same]
      · rw [least _ higher] at free
        cases free

/-- After a unit was freed the search finds it, unless a lower one was free before. -/
theorem Assigns.firstFree_of_ok {first : UInt32} (assigned : bitmap.Assigns after index true)
    (found : bitmap.firstFree = .ok first) : after.firstFree = .ok (min index first) := by
  obtain ⟨inside, free, below⟩ := firstFree_eq_ok found
  by_cases lower : index ≤ first
  · rw [show min index first = index from if_pos lower]
    refine firstFree_of_least (assigned.length ▸ assigned.inside) ?_ fun unit small => ?_
    · rw [assigned.bits, if_pos rfl]
    · rw [assigned.bits, if_neg (Nat.ne_of_lt small)]
      exact below unit (Nat.lt_of_lt_of_le small (UInt32.le_iff_toNat_le.mp lower))
  · rw [show min index first = first from if_neg lower]
    have higher := UInt32.lt_iff_toNat_lt.mp (UInt32.not_le.mp lower)
    refine firstFree_of_least (assigned.length ▸ inside) ?_ fun unit small => ?_
    · rw [assigned.bits, if_neg (Nat.ne_of_lt higher), free]
    · rw [assigned.bits, if_neg (Nat.ne_of_lt (Nat.lt_trans small higher)), below unit small]

theorem Assigns.firstFree_of_error {error : Error} (assigned : bitmap.Assigns after index true)
    (failed : bitmap.firstFree = .error error) : after.firstFree = .ok index := by
  have inside := UInt32.lt_iff_toNat_lt.mp assigned.inside
  refine firstFree_of_least (assigned.length ▸ assigned.inside) ?_ fun unit small => ?_
  · rw [assigned.bits, if_pos rfl]
  · rw [assigned.bits, if_neg (Nat.ne_of_lt small)]
    exact (firstFree_eq_error failed).2 unit (Nat.lt_trans small inside)

/-- A unit that was free, taken and given back leaves the map as it was. -/
theorem edit_free_edit_use (inside : index < bitmap.length)
    (free : bitAt bitmap.bytes index.toNat = true) :
    (bitmap.edit (.use index)).edit (.free index) = bitmap := by
  have used := assigns_use inside
  have freed := assigns_free (used.length ▸ inside)
  refine eq_of_bits (freed.length.trans used.length) (freed.size.trans used.size) fun position => ?_
  rw [freed.bits, used.bits]
  split
  · rename_i here
    rw [here, free]
  · rfl

end BlockFs.Bitmap
