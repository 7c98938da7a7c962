import Mathlib.Data.List.Nodup
import PerArity.Parameter
import PerArity.Proofs.Traversal

/-!
# The names of a range of parameters

Naming a range either gives one letter for each index, or fails with the least index that has no
letter, which the error names if it can be written. For a range that starts at or below the last
letter, that index can only be the capacity itself, so the failure does not depend on how far the
range reaches. The letters of a range ascend, so they are all different, and a further name among
them makes a repetition exactly when it is one of them.

Naming two adjacent ranges one after the other ends like naming them as one, wherever they lie: the
indices are met in the same order, so the first one without a letter is the same.
-/

namespace PerArity.Parameter

/-- The letter at an index, as a text. It is a letter of the alphabet below the capacity only. -/
def letterAt (i : Int) : String := String.singleton (Char.ofNat (65 + i.toNat))

theorem name_eq_ok {i : Int} (h : 0 ≤ i) (h' : i < capacity) : name i = .ok (letterAt i) := by
  rw [name, dif_pos ⟨h, h'⟩]
  rfl

theorem name_eq_error {i : Int} (h : ¬(0 ≤ i ∧ i < capacity)) :
    name i = .error (.about i (.unsupportedParameter i)) := by
  rw [name, dif_neg h]

theorem capacity_eq : (capacity : Int) = 26 := rfl

theorem isPrintable_capacity : Text.IsPrintable capacity :=
  Text.isPrintable_of_natAbs_lt (by decide)

theorem name_capacity : name capacity = .error (.unsupportedParameter capacity) := by
  rw [name_eq_error (by decide), Error.about_eq isPrintable_capacity]

theorem valueName_eq_ok {i : Int} (h : 0 ≤ i) (h' : i < capacity) :
    valueName i = .ok (Text.lower (letterAt i)) := by
  rw [valueName, name_eq_ok h h']
  rfl

theorem valueName_capacity : valueName capacity = .error (.unsupportedParameter capacity) := by
  rw [valueName, name_capacity]
  rfl

/-! ## Ranges of letters -/

/-- The letters at the indices of a range. -/
def letters (start stop : Int) : List String := (IndexRange.mk start stop).toList.map letterAt

@[simp] theorem length_letters (start stop : Int) :
    (letters start stop).length = (stop - start).toNat := by
  rw [letters, List.length_map, IndexRange.length_toList]
  rfl

variable {start stop : Int}

theorem letters_eq_nil (h : stop ≤ start) : letters start stop = [] := by
  rw [letters, IndexRange.toList_eq_nil h, List.map_nil]

theorem letters_ne_nil (h : start < stop) : letters start stop ≠ [] := by
  rw [← List.length_pos_iff, length_letters]
  omega

theorem letters_append {middle : Int} (h : start ≤ middle) (h' : middle ≤ stop) :
    letters start middle ++ letters middle stop = letters start stop := by
  rw [letters, letters, letters, ← List.map_append, IndexRange.toList_append h h']

/-- An empty range has no index to fail at, wherever it lies. -/
theorem names_of_empty (h : stop ≤ start) : names ⟨start, stop⟩ = .ok (letters start stop) := by
  rw [names, IndexRange.traverse_eq_mapM, letters_eq_nil h, IndexRange.toList_eq_nil h]
  rfl

theorem names_eq_ok (h : 0 ≤ start) (h' : stop ≤ capacity) :
    names ⟨start, stop⟩ = .ok (letters start stop) := by
  rw [names, IndexRange.traverse_eq_mapM]
  apply mapM_eq_ok_map
  intro i hi
  obtain ⟨h1, h2⟩ := IndexRange.mem_toList.mp hi
  exact name_eq_ok (Int.le_trans h h1) (Int.lt_of_lt_of_le h2 h')

theorem valueNames_eq_ok (h : 0 ≤ start) (h' : stop ≤ capacity) :
    valueNames ⟨start, stop⟩ = .ok ((letters start stop).map Text.lower) := by
  rw [valueNames, IndexRange.traverse_eq_mapM, letters, List.map_map]
  apply mapM_eq_ok_map
  intro i hi
  obtain ⟨h1, h2⟩ := IndexRange.mem_toList.mp hi
  exact valueName_eq_ok (Int.le_trans h h1) (Int.lt_of_lt_of_le h2 h')

/-! ## Ranges that reach too far -/

theorem names_eq_error (h : 0 ≤ start) (h' : start ≤ capacity) (hstop : capacity < stop) :
    names ⟨start, stop⟩ = .error (.unsupportedParameter capacity) := by
  refine IndexRange.traverse_eq_error h' hstop ?_ name_capacity
  intro i hi hi'
  exact ⟨letterAt i, name_eq_ok (Int.le_trans h hi) hi'⟩

theorem names_of_unnamed (h : ¬(0 ≤ start ∧ start < capacity)) (h' : start < stop) :
    names ⟨start, stop⟩ = .error (.about start (.unsupportedParameter start)) :=
  IndexRange.traverse_eq_error (Int.le_refl start) h'
    (fun _ hi hi' ↦ absurd hi' (Int.not_lt.mpr hi)) (name_eq_error h)

theorem valueNames_eq_error (h : 0 ≤ start) (h' : start ≤ capacity) (hstop : capacity < stop) :
    valueNames ⟨start, stop⟩ = .error (.unsupportedParameter capacity) := by
  refine IndexRange.traverse_eq_error h' hstop ?_ valueName_capacity
  intro i hi hi'
  exact ⟨Text.lower (letterAt i), valueName_eq_ok (Int.le_trans h hi) hi'⟩

/-! ## Adjacent ranges -/

/-- The names of two ranges, made one range after the other. -/
def namesInTurn (first second : IndexRange) : Except Error (List String) := do
  let before ← names first
  let after ← names second
  return before ++ after

/-- Adjacent ranges can be named in turn or as one. -/
theorem namesInTurn_eq_names {middle : Int} (h : start ≤ middle) (h' : middle ≤ stop) :
    namesInTurn ⟨start, middle⟩ ⟨middle, stop⟩ = names ⟨start, stop⟩ := by
  rw [namesInTurn, names, names, names, IndexRange.traverse_eq_mapM, IndexRange.traverse_eq_mapM,
    IndexRange.traverse_eq_mapM, ← IndexRange.toList_append h h', List.mapM_append]

/-! ## Ascending letters -/

theorem toNat_letter : ∀ k : Fin capacity, (letter k).toNat = 'A'.toNat + k := by decide

theorem isUpper_letter : ∀ k : Fin capacity, (letter k).isUpper = true := by decide

theorem exists_letter {i : Int} (h : 0 ≤ i) (h' : i < capacity) :
    ∃ k : Fin capacity, (k : Int) = i ∧ letterAt i = String.singleton (letter k) :=
  ⟨⟨i.toNat, by omega⟩, Int.toNat_of_nonneg h, rfl⟩

theorem letter_lt {k l : Fin capacity} (h : k < l) : letter k < letter l := by
  rw [Char.lt_def, UInt32.lt_iff_toNat_lt]
  change (letter k).toNat < (letter l).toNat
  rw [toNat_letter, toNat_letter]
  exact Nat.add_lt_add_left h _

theorem letterAt_lt {i j : Int} (hi : 0 ≤ i) (hij : i < j) (hj : j < capacity) :
    letterAt i < letterAt j := by
  obtain ⟨k, rfl, hk⟩ := exists_letter hi (Int.lt_trans hij hj)
  obtain ⟨l, rfl, hl⟩ := exists_letter (Int.le_trans hi (Int.le_of_lt hij)) hj
  have hlt : letter k < letter l := letter_lt (Int.ofNat_lt.mp hij)
  rw [hk, hl, String.lt_iff, String.toList_singleton, String.toList_singleton]
  exact List.Lex.rel hlt

theorem letterAt_inj {i j : Int} (hi : 0 ≤ i) (hi' : i < capacity) (hj : 0 ≤ j) (hj' : j < capacity)
    (h : letterAt i = letterAt j) : i = j := by
  obtain ⟨k, rfl, hk⟩ := exists_letter hi hi'
  obtain ⟨l, rfl, hl⟩ := exists_letter hj hj'
  rw [hk, hl] at h
  have hcode := congrArg Char.toNat (String.singleton_inj.mp h)
  rw [toNat_letter, toNat_letter] at hcode
  omega

theorem letterAt_mem_letters_iff {i : Int} (hi : 0 ≤ i) (hi' : i < capacity) (h : 0 ≤ start)
    (h' : stop ≤ capacity) : letterAt i ∈ letters start stop ↔ start ≤ i ∧ i < stop := by
  rw [letters, List.mem_map]
  constructor
  · rintro ⟨j, hj, hletter⟩
    obtain ⟨hstart, hstop⟩ := IndexRange.mem_toList.mp hj
    obtain rfl := letterAt_inj (Int.le_trans h hstart) (Int.lt_of_lt_of_le hstop h') hi hi' hletter
    exact ⟨hstart, hstop⟩
  · intro hrange
    exact ⟨i, IndexRange.mem_toList.mpr hrange, rfl⟩

theorem exists_letter_of_mem_letters (h : 0 ≤ start) (h' : stop ≤ capacity) {name : String}
    (hname : name ∈ letters start stop) :
    ∃ k : Fin capacity, name = String.singleton (letter k) := by
  obtain ⟨i, hi, rfl⟩ := List.mem_map.mp hname
  obtain ⟨hstart, hstop⟩ : start ≤ i ∧ i < stop := IndexRange.mem_toList.mp hi
  obtain ⟨k, -, hk⟩ := exists_letter (Int.le_trans h hstart) (Int.lt_of_lt_of_le hstop h')
  exact ⟨k, hk⟩

theorem lower_letter (k : Fin capacity) :
    Text.lower (String.singleton (letter k)) = String.singleton (Text.lowerChar (letter k)) := by
  have hletter : ∀ k : Fin capacity, letter k ≠ '\u03A3' ∧ letter k ≠ '\u0130' := by decide
  obtain ⟨hsigma, hdotted⟩ := hletter k
  exact Text.lower_singleton hsigma hdotted

theorem length_of_mem_letters {s : String} (h : s ∈ letters start stop) : s.length = 1 := by
  obtain ⟨i, -, rfl⟩ := List.mem_map.mp h
  exact String.length_singleton

theorem pairwise_letters (h : 0 ≤ start) (h' : stop ≤ capacity) :
    (letters start stop).Pairwise (· < ·) := by
  rw [letters, List.pairwise_map]
  refine (IndexRange.pairwise_toList _).imp_of_mem fun hi hj hlt ↦ ?_
  obtain ⟨hstart, -⟩ : start ≤ _ ∧ _ := IndexRange.mem_toList.mp hi
  obtain ⟨-, hstop⟩ : _ ∧ _ < stop := IndexRange.mem_toList.mp hj
  exact letterAt_lt (Int.le_trans h hstart) hlt (Int.lt_of_lt_of_le hstop h')

theorem nodup_letters (h : 0 ≤ start) (h' : stop ≤ capacity) : (letters start stop).Nodup := by
  rw [List.nodup_iff_pairwise_ne]
  refine (pairwise_letters h h').imp fun hlt heq ↦ ?_
  exact String.lt_irrefl _ (heq ▸ hlt)

theorem getElem?_letters {k : Nat} (h : start + k < stop) :
    (letters start stop)[k]? = some (letterAt (start + k)) := by
  rw [letters, List.getElem?_map, IndexRange.getElem?_toList h]
  rfl

/-- A name after the letters of a range is a repetition only if it is one of them. -/
theorem nodup_letters_append_iff (h : 0 ≤ start) (h' : stop ≤ capacity) {s : String} :
    (letters start stop ++ [s]).Nodup ↔ s ∉ letters start stop := by
  rw [← List.concat_eq_append, List.nodup_concat]
  exact and_iff_left (nodup_letters h h')

end PerArity.Parameter
