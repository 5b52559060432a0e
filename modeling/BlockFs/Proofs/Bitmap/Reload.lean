import BlockFs.Proofs.Bitmap.UnitSet

namespace BlockFs.Bitmap

variable {bitmap : Bitmap} {bytes other : ByteArray} {length : UInt32}

theorem Copies.test (copies : bitmap.Copies bytes length) {index : UInt32}
    (inside : index < length) : bitmap.test index = .ok (bitAt bytes index.toNat) := by
  have below := UInt32.lt_iff_toNat_lt.mp inside
  rw [test_of_lt (copies.length ▸ inside), copies.bits, decide_eq_true below, Bool.true_and]

/-- Strings of one size load alike exactly if they agree up to the last unit, or are too short. -/
theorem load_eq_load_iff : load other length = load bytes length ↔
    other.size = bytes.size ∧ (length.toNat ≤ 8 * bytes.size →
      ∀ index < length.toNat, bitAt other index = bitAt bytes index) := by
  by_cases fits : length.toNat ≤ 8 * bytes.size
  · obtain ⟨bitmap, loaded⟩ := load_exists fits
    obtain ⟨_, sameLength, size, tight, bits⟩ := load_eq_ok_iff.mp loaded
    rw [loaded, load_eq_ok_iff]
    constructor
    · rintro ⟨_, _, otherSize, _, otherBits⟩
      refine ⟨otherSize.symm.trans size, fun _ index inside => ?_⟩
      rw [← otherBits index inside, bits index inside]
    · rintro ⟨sameSize, same⟩
      refine ⟨sameSize ▸ fits, sameLength, size.trans sameSize.symm, tight, ?_⟩
      intro index inside
      rw [bits index inside, same fits index inside]
  · have short := Nat.lt_of_not_le fits
    have refused := load_eq_error_iff.mpr ⟨short, rfl⟩
    rw [refused, load_eq_error_iff]
    constructor
    · rintro ⟨_, same⟩
      injection same with _ capacity
      exact ⟨by omega, fun long => absurd long fits⟩
    · rintro ⟨sameSize, _⟩
      rw [sameSize]
      exact ⟨short, rfl⟩

theorem Sealed.reload (tight : bitmap.Sealed) : load bitmap.bytes bitmap.length = .ok bitmap :=
  load_eq_ok_iff.mpr ⟨bitmap.length_le, rfl, rfl, tight, fun _ _ => rfl⟩

/-- Loading is refused exactly when the string is too short, and otherwise copies it up to the last
unit.  Then the strings that load to the same map are those of its size with the same bits up to the
last unit; a refusal tells no more of a string than its size.  After any edits of a map that was
made or loaded, loading its bytes gives it back. -/
theorem load_normalises (bytes : ByteArray) (length : UInt32) :
    (∀ error, load bytes length = .error error ↔
      8 * bytes.size < length.toNat ∧ error = .outOfRange length.toNat (8 * bytes.size)) ∧
    (length.toNat ≤ 8 * bytes.size → ∃ bitmap, load bytes length = .ok bitmap ∧
      bitmap.Copies bytes length ∧
      (∀ index < length, bitmap.test index = .ok (bitAt bytes index.toNat)) ∧
      ∀ other, load other length = .ok bitmap ↔
        other.size = bytes.size ∧ ∀ index < length.toNat, bitAt other index = bitAt bytes index) ∧
    (8 * bytes.size < length.toNat → ∀ other,
      load other length = load bytes length ↔ other.size = bytes.size) ∧
    ∀ (start : Bitmap) (units : Finset Nat), start.Begins units → ∀ changes : List Edit,
      let last := changes.foldl Bitmap.edit start
      load last.bytes last.length = .ok last := by
  refine ⟨fun error => load_eq_error_iff, fun fits => ?accepted, fun short other => ?refused,
    fun start units begins changes => ?again⟩
  case accepted =>
    obtain ⟨bitmap, loaded⟩ := load_exists fits
    have copies := copies_of_load loaded
    refine ⟨bitmap, loaded, copies, fun index inside => copies.test inside, fun other => ?_⟩
    rw [← loaded, load_eq_load_iff]
    exact and_congr_right fun _ => forall_prop_of_true fits
  case refused =>
    rw [load_eq_load_iff]
    exact and_iff_left fun fits => absurd short (Nat.not_lt.mpr fits)
  case again =>
    obtain ⟨holds, _, _⟩ := begins.holds.edits changes
    exact holds.tight.reload

/-- Ten units in two bytes: the last six bits do not count, and an edited map is loaded as it is. -/
theorem load_normalises_padded : ∃ bitmap, load (fill 0xFF 2) 10 = .ok bitmap ∧
    bitmap.Copies (fill 0xFF 2) 10 ∧
    load ((fill 0xFF 1).push 0x03) 10 = .ok bitmap ∧
    let last := [Edit.use 3, .free 12, .use 9].foldl Bitmap.edit bitmap
    load last.bytes last.length = .ok last := by
  obtain ⟨_, accepted, _, again⟩ := load_normalises (fill 0xFF 2) 10
  obtain ⟨bitmap, loaded, copies, _, alike⟩ := accepted (by decide)
  have stored := (alike ((fill 0xFF 1).push 0x03)).mpr ⟨by decide, by decide⟩
  exact ⟨bitmap, loaded, copies, stored, again bitmap _ (.load loaded) _⟩

end BlockFs.Bitmap
