import PerArity.Proofs.Naming

/-!
# Lists of names as texts

A range is named in one of three ways. An empty range has no names wherever it lies, a range within
the alphabet has one letter for each index, and any other range fails at its first index without a
letter, which the error names if it can be written. The text of a range ends in the same way, with
the letters separated by a comma and a blank.

The letters can be read off that text again by cutting it at its separators. The reason is that no
letter is a comma: where an item does not contain the first character of the separator, no separator
begins inside it, so the first one that is found stands right after the first item, and the rest of
the text is cut in the same way (`Text.split_intercalate`).
-/

namespace PerArity

namespace Text

open String (Slice)
open String.Slice Pattern Model

/-! ## Cutting a text at its separators -/

section

variable {separator item rest before : String} {c : Char} {cs : List Char} {s : Slice}
  {pos stop : s.Pos}

/-- No separator begins inside an item. -/
private theorem not_matchesAt_item (hseparator : separator.toList = c :: cs)
    (hitem : c ∉ item.toList) (hpos : pos.Splits before (item ++ rest))
    (hstop : stop.Splits (before ++ item) rest) {p : s.Pos} (hle : pos ≤ p) (hlt : p < stop) :
    ¬MatchesAt separator p := by
  intro hmatch
  obtain ⟨_, after, hp⟩ := ForwardStringSearcher.matchesAt_iff_splits.mp hmatch
  -- the item is `passed`, up to the separator, and then `left`, which begins like the separator
  obtain ⟨passed, rfl, -⟩ := (hpos.le_iff_exists_eq_append hp).mp hle
  obtain ⟨left, hsome, hbefore, hleft⟩ := (hp.lt_iff_exists_eq_append hstop).mp hlt
  rw [String.append_assoc, String.append_right_inj] at hbefore
  obtain ⟨d, ds, hds⟩ := List.exists_cons_of_ne_nil (mt String.toList_eq_nil_iff.mp hsome)
  have hhead : c = d := by
    have hchars := congrArg String.toList hleft
    rw [String.toList_append, String.toList_append, hseparator, hds] at hchars
    exact (List.cons.inj hchars).1
  apply hitem
  rw [hbefore, String.toList_append, hds, hhead]
  exact List.mem_append_right _ List.mem_cons_self

private theorem copy_subslice (hpos : pos.Splits before (item ++ rest))
    (hstop : stop.Splits (before ++ item) rest) (hle : pos ≤ stop) :
    (s.subslice pos stop hle).copy = item := by
  obtain ⟨_, hcopy⟩ := copy_slice_eq_iff_splits.mpr ⟨before, rest, hpos, hstop⟩
  simpa using hcopy

/-- Looking for a separator from the beginning of an item on leads to the end of the item. -/
private theorem split_to_end [StrictPatternModel separator]
    (hseparator : separator.toList = c :: cs) (hitem : c ∉ item.toList)
    (hpos : pos.Splits before (item ++ rest)) (hstop : stop.Splits (before ++ item) rest) :
    ∃ hle : pos ≤ stop, (s.subslice pos stop hle).copy = item ∧
      Model.split separator pos pos (Std.le_refl pos) = Model.split separator pos stop hle := by
  have hle : pos ≤ stop := (hpos.le_iff_exists_eq_append hstop).mpr ⟨item, rfl, rfl⟩
  refine ⟨hle, copy_subslice hpos hstop hle, ?_⟩
  exact split_eq_of_not_matchesAt stop hle fun p ↦ not_matchesAt_item hseparator hitem hpos hstop

private theorem split_of_splits [StrictPatternModel separator]
    (hseparator : separator.toList = c :: cs) {items : List String} (hsome : items ≠ [])
    (hitems : ∀ item ∈ items, c ∉ item.toList)
    (hpos : pos.Splits before (separator.intercalate items)) :
    (Model.split separator pos pos (Std.le_refl pos)).map Subslice.copy = items := by
  induction items generalizing before pos with
  | nil => exact absurd rfl hsome
  | cons item items ih =>
    have hitem : c ∉ item.toList := hitems item List.mem_cons_self
    cases items with
    | nil =>
      rw [String.intercalate_singleton] at hpos
      have hend : s.endPos.Splits (before ++ item) "" :=
        Slice.splits_endPos_iff.mpr ⟨hpos.eq_append.symm, rfl⟩
      rw [← String.append_empty (s := item)] at hpos
      obtain ⟨hle, hcopy, hsplit⟩ := split_to_end hseparator hitem hpos hend
      rw [hsplit, split_endPos, List.map_singleton, hcopy]
    | cons next items =>
      rw [String.intercalate_cons_cons, String.append_assoc] at hpos
      have hend := hpos.splits_rotateRight
      have hnext := hend.splits_rotateRight
      have hmatch := ForwardStringSearcher.isLongestMatchAt_iff_splits.mpr ⟨_, _, hend, hnext⟩
      obtain ⟨hle, hcopy, hsplit⟩ := split_to_end hseparator hitem hpos hend
      rw [hsplit, split_eq_of_isLongestMatchAt hmatch, List.map_cons, hcopy,
        ih (List.cons_ne_nil _ _) (fun i hi ↦ hitems i (List.mem_cons_of_mem _ hi)) hnext]

/-- Items that do not contain the first character of their separator are found again by cutting the
text at its separators. -/
theorem split_intercalate (hseparator : separator.toList = c :: cs) {items : List String}
    (hsome : items ≠ []) (hitems : ∀ item ∈ items, c ∉ item.toList) :
    ((separator.intercalate items).split separator).toList.map (·.copy) = items := by
  have hne : separator ≠ "" := by
    rintro rfl
    cases hseparator
  have : StrictPatternModel separator := ForwardStringSearcher.strictPatternModel hne
  have : LawfulToForwardSearcherModel separator :=
    ForwardStringSearcher.lawfulToForwardSearcherModel hne
  have hpos := Slice.splits_startPos (separator.intercalate items).toSlice
  rw [String.copy_toSlice] at hpos
  have hsplit := split_of_splits hseparator hsome hitems hpos
  rwa [Subslice.copy_eq, ← List.map_map, ← toList_splitToSubslice_eq_modelSplit,
    ← Slice.toList_split_eq_splitToSubslice] at hsplit

end

end Text

namespace Parameter

variable {start stop : Int}

/-! ## The three ways a range is named -/

theorem nameList_of_names {ns : List String} (h : names ⟨start, stop⟩ = .ok ns) :
    nameList ⟨start, stop⟩ = .ok (", ".intercalate ns) := by
  rw [nameList, h]
  rfl

theorem nameList_of_error {e : Error} (h : names ⟨start, stop⟩ = .error e) :
    nameList ⟨start, stop⟩ = .error e := by
  rw [nameList, h]
  rfl

theorem exists_letter_at (h : 0 ≤ start) (h' : stop ≤ capacity) {i : Nat}
    (hi : i < (letters start stop).length) :
    ∃ c : Char, (letters start stop)[i]? = some (String.singleton c) ∧ c.isUpper = true ∧
      (c.toNat : Int) = 'A'.toNat + (start + i) := by
  rw [length_letters] at hi
  have hplace : start + i < stop := by omega
  obtain ⟨k, hindex, hname⟩ :=
    exists_letter (show 0 ≤ start + i by omega) (Int.lt_of_lt_of_le hplace h')
  refine ⟨letter k, ?_, isUpper_letter k, ?_⟩
  · rw [getElem?_letters hplace, hname]
  · rw [toNat_letter, Int.natCast_add, hindex]

theorem comma_notMem_of_mem_letters (h : 0 ≤ start) (h' : stop ≤ capacity) {name : String}
    (hname : name ∈ letters start stop) : ',' ∉ name.toList := by
  obtain ⟨k, rfl⟩ := exists_letter_of_mem_letters h h' hname
  rw [String.toList_singleton, List.mem_singleton]
  intro hcomma
  have hupper := isUpper_letter k
  rw [← hcomma] at hupper
  cases hupper

theorem split_letters (h : 0 ≤ start) (h' : stop ≤ capacity) (hlt : start < stop) :
    ((", ".intercalate (letters start stop)).split ", ").toList.map (·.copy) =
      letters start stop :=
  Text.split_intercalate rfl (letters_ne_nil hlt) fun _ ↦ comma_notMem_of_mem_letters h h'

/-- The index at which a range fails that is neither empty nor within the alphabet. -/
theorem names_of_outside (hlt : start < stop) (h : ¬(0 ≤ start ∧ stop ≤ capacity)) :
    ∃ index : Int, index = (if 0 ≤ start ∧ start < capacity then (capacity : Int) else start) ∧
      names ⟨start, stop⟩ = .error (.about index (.unsupportedParameter index)) := by
  by_cases hstart : 0 ≤ start ∧ start < capacity
  · obtain ⟨hpos, hcap⟩ := hstart
    rw [if_pos ⟨hpos, hcap⟩]
    refine ⟨_, rfl, ?_⟩
    rw [names_eq_error hpos (Int.le_of_lt hcap) (by omega), Error.about_eq isPrintable_capacity]
  · rw [if_neg hstart]
    exact ⟨_, rfl, names_of_unnamed hstart hlt⟩

/-- **How a range is named, and the text of its names.** An empty range has no names and an empty
text, wherever it lies. A range within the alphabet has as many names as indices, capital letters in
strictly ascending order, the one at a place being the letter of the index there; its text is made
of them with `, ` in between, and cutting it there gives them back. Every other range fails, at its
start if that has no letter and otherwise at the first index after Z; the error says which, unless
that index has too many digits to be written. -/
theorem names_outcome (start stop : Int) :
    if stop ≤ start then
      names ⟨start, stop⟩ = .ok [] ∧ nameList ⟨start, stop⟩ = .ok ""
    else if 0 ≤ start ∧ stop ≤ 26 then
      ∃ ns, names ⟨start, stop⟩ = .ok ns ∧ nameList ⟨start, stop⟩ = .ok (", ".intercalate ns) ∧
        (ns.length : Int) = stop - start ∧ ns.Pairwise (· < ·) ∧
        (∀ i < ns.length, ∃ c : Char, ns[i]? = some (String.singleton c) ∧ c.isUpper = true ∧
          (c.toNat : Int) = 'A'.toNat + (start + i)) ∧
        ((", ".intercalate ns).split ", ").toList.map (·.copy) = ns
    else
      ∃ index : Int, index = (if 0 ≤ start ∧ start < 26 then 26 else start) ∧
        if Text.IsPrintable index then
          names ⟨start, stop⟩ = .error (.unsupportedParameter index) ∧
            nameList ⟨start, stop⟩ = .error (.unsupportedParameter index) ∧
            (Error.unsupportedParameter index).message =
              "Parameter index " ++ toString index ++ " is outside 0-25"
        else
          names ⟨start, stop⟩ = .error .tooManyDigits ∧
            nameList ⟨start, stop⟩ = .error .tooManyDigits := by
  by_cases hempty : stop ≤ start
  · rw [if_pos hempty]
    have hnames := names_of_empty hempty
    rw [letters_eq_nil hempty] at hnames
    exact ⟨hnames, nameList_of_names hnames⟩
  rw [if_neg hempty]
  have hlt : start < stop := Int.not_le.mp hempty
  by_cases hinside : 0 ≤ start ∧ stop ≤ 26
  · rw [if_pos hinside]
    obtain ⟨hpos, hcap⟩ := hinside
    have hnames := names_eq_ok hpos hcap
    refine ⟨letters start stop, hnames, nameList_of_names hnames, ?_, pairwise_letters hpos hcap,
      fun i hi ↦ exists_letter_at hpos hcap hi, split_letters hpos hcap hlt⟩
    rw [length_letters, Int.toNat_of_nonneg (Int.sub_nonneg_of_le (Int.le_of_lt hlt))]
  · rw [if_neg hinside]
    obtain ⟨index, hindex, hnames⟩ := names_of_outside hlt hinside
    refine ⟨index, hindex, ?_⟩
    by_cases hdigits : Text.IsPrintable index
    · rw [if_pos hdigits]
      rw [Error.about_eq hdigits] at hnames
      exact ⟨hnames, nameList_of_error hnames, rfl⟩
    · rw [if_neg hdigits]
      rw [Error.about_eq_tooManyDigits hdigits] at hnames
      exact ⟨hnames, nameList_of_error hnames⟩

/-- The least index with too many digits is not what the error of its range is about. -/
theorem names_of_too_great :
    names ⟨Text.tooGreat, Text.tooGreat + 1⟩ = .error .tooManyDigits ∧
      nameList ⟨Text.tooGreat, Text.tooGreat + 1⟩ = .error .tooManyDigits ∧
      ¬∃ index,
        names ⟨Text.tooGreat, Text.tooGreat + 1⟩ = .error (.unsupportedParameter index) := by
  have hgreat := Text.thousand_le_tooGreat
  have hcapacity : ¬(0 ≤ (Text.tooGreat : Int) ∧ (Text.tooGreat : Int) < capacity) := by
    rw [capacity]
    omega
  have hnames := names_of_unnamed hcapacity (Int.lt_succ (Text.tooGreat : Int))
  rw [Error.about_eq_tooManyDigits Text.not_isPrintable_tooGreat] at hnames
  refine ⟨hnames, nameList_of_error hnames, ?_⟩
  rintro ⟨index, hindex⟩
  cases hnames.symm.trans hindex

example : nameList ⟨23, 26⟩ = .ok "X, Y, Z" := by decide

end Parameter

end PerArity
