import PerArity.Formatting
import PerArity.Proofs.Outcome

/-!
# Runs with a larger bound

A run walks through its items in an order that does not depend on its bound: with a larger bound it
meets the same items first and then further ones. So it is the run with the smaller bound, continued
(`Family.fragments_eq_bind`), and both things that one wants to know follow. A failure of the run
with the smaller bound comes before anything new is met. And where the run with the larger bound
succeeds, its fragments begin with those of the other run, and its text with the text of the other.
-/

namespace PerArity

section

variable [Template.Formatter]

/-! ## Fragments that are added -/

namespace Family

variable {n m : Int}

/-- The fragments that a run with the bound `m` makes after those below the bound `n`. -/
def fragmentsFrom (family : Family) (n m : Int) (t : Target) : Except Error (List Fragment) :=
  match family with
  | partialApplication =>
    ((IndexRange.mk n m).toList.flatMap SplitPoint.ofArity).mapM (PartialApplication.fragment t)
  | complement => (IndexRange.mk n m).toList.mapM (Complement.fragment t)
  | complementTest => (IndexRange.mk n m).toList.mapM (ComplementTest.fragment t)

omit [Template.Formatter] in
private theorem mapM_append_eq_bind {α : Type} (f : α → Except Error Fragment) (l l' : List α) :
    (l ++ l').mapM f = l.mapM f >>= fun fs ↦ (l'.mapM f).map (fs ++ ·) := by
  rw [List.mapM_append]
  rfl

omit [Template.Formatter] in
private theorem aritiesBelow_traverse (h : 0 ≤ n) (f : Int → Except Error Fragment) :
    (aritiesBelow n >>= (·.traverse f)) = (IndexRange.mk 0 n).toList.mapM f := by
  rw [aritiesBelow, if_neg (Int.not_lt.mpr h)]
  exact IndexRange.traverse_eq_mapM _ f

omit [Template.Formatter] in
private theorem traverse_eq_bind (hn : 0 ≤ n) (hnm : n ≤ m) (f : Int → Except Error Fragment) :
    (aritiesBelow m >>= (·.traverse f)) = (aritiesBelow n >>= (·.traverse f)) >>= fun fs ↦
      ((IndexRange.mk n m).toList.mapM f).map (fs ++ ·) := by
  rw [aritiesBelow_traverse (Int.le_trans hn hnm), aritiesBelow_traverse hn,
    ← IndexRange.toList_append hn hnm, mapM_append_eq_bind]

/-- **A run with a larger bound is the run with the smaller one, continued.** -/
theorem fragments_eq_bind (family : Family) (hn : 0 ≤ n) (hnm : n ≤ m) (t : Target) :
    family.fragments m t =
      family.fragments n t >>= fun fs ↦ (family.fragmentsFrom n m t).map (fs ++ ·) := by
  cases family with
  | partialApplication =>
    rw [fragments, fragments, SplitPoint.below_eq_ok (Int.le_trans hn hnm),
      SplitPoint.below_eq_ok hn]
    change (SplitPoint.points m).mapM _ = (SplitPoint.points n).mapM _ >>= _
    rw [SplitPoint.points, ← IndexRange.toList_append hn hnm, List.flatMap_append,
      mapM_append_eq_bind]
    rfl
  | complement => exact traverse_eq_bind hn hnm _
  | complementTest => exact traverse_eq_bind hn hnm _

end Family

/-! ## Texts that go on -/

omit [Template.Formatter] in
theorem exists_intercalate_append (separator : RawText) (texts more : List RawText) :
    ∃ rest, separator.intercalate (texts ++ more) = separator.intercalate texts ++ rest := by
  induction texts with
  | nil => exact ⟨separator.intercalate more, rfl⟩
  | cons t texts ih =>
    cases texts with
    | nil =>
      cases more with
      | nil => exact ⟨[], (List.append_nil _).symm⟩
      | cons t' more =>
        rw [List.singleton_append, List.intercalate_cons_cons, List.intercalate_singleton,
          List.append_assoc]
        exact ⟨_, rfl⟩
    | cons t' texts =>
      obtain ⟨rest, hrest⟩ := ih
      rw [List.cons_append] at hrest
      rw [List.cons_append, List.cons_append, List.intercalate_cons_cons, hrest,
        List.intercalate_cons_cons, ← List.append_assoc]
      exact ⟨rest, rfl⟩

/-! ## Runs -/

/-- **Runs extend one another.** Take two bounds, the smaller of which is not negative. If the run
with the larger bound gives a declaration, then so does the run with the smaller one; its fragments
are as many first fragments of the other declaration as its own bound calls for, and the text of the
other declaration begins with its text. If the run with the smaller bound fails, the run with the
larger one fails in the same way, unless its own bound cannot be written. -/
theorem generate_grow (family : Family) (config : Config) {n m : Int} (hn : 0 ≤ n) (hnm : n ≤ m) :
    let smaller := (generate family.name { config with maxArity := n }).outcome
    let larger := (generate family.name { config with maxArity := m }).outcome
    (∀ d, larger = .ok d → ∃ d', smaller = .ok d' ∧ d'.fragments <+: d.fragments ∧
      (d'.fragments.length : Int) = family.fragmentCount n ∧ ∃ rest, d.text = d'.text ++ rest) ∧
    ∀ e, smaller = .error e → larger = .error (.about m e) := by
  intro smaller larger
  by_cases hdigits : Text.IsPrintable m
  · have hdigits' : Text.IsPrintable n := by
      unfold Text.IsPrintable at hdigits ⊢
      omega
    have hbind := family.fragments_eq_bind hn hnm config.target
    have hsmaller : smaller = _ := outcome_generate_name family hdigits'
    have hlarger : larger = _ := outcome_generate_name family hdigits
    constructor
    · intro d hd
      rw [hlarger, map_eq_ok_iff] at hd
      obtain ⟨all, hall, rfl⟩ := hd
      rw [hbind, bind_eq_ok_iff] at hall
      obtain ⟨first, hfirst, hmore⟩ := hall
      obtain ⟨more, -, rfl⟩ := map_eq_ok_iff.mp hmore
      refine ⟨_, by rw [hsmaller, hfirst]; rfl, List.prefix_append first more,
        Family.length_fragments hfirst, ?_⟩
      rw [Declaration.text, Family.declarationOf, List.map_append]
      exact exists_intercalate_append _ _ _
    · intro e he
      rw [hsmaller, map_eq_error_iff] at he
      rw [hlarger, hbind, he, Error.about_eq hdigits]
      rfl
  · -- the run with the larger bound does not get as far as its fragments
    have hlarger : larger = _ := outcome_generate_unprintable family hdigits
    rw [hlarger]
    exact ⟨nofun, fun e _ ↦ by rw [Error.about_eq_tooManyDigits hdigits]⟩

end

attribute [local instance] Template.Formatter.standard

/-- Runs of partial application with the bounds three and five, and runs of test cases that both ask
for a letter too many. -/
theorem generate_grow_three_five :
    let config : Config := { maxArity := 0, target := Target.typescript, outputRoot := ⟨.root, []⟩ }
    (∃ d d', (generate "partial" { config with maxArity := 5 }).outcome = .ok d ∧
      (generate "partial" { config with maxArity := 3 }).outcome = .ok d' ∧
        d'.fragments <+: d.fragments ∧ d'.fragments.length = 3 ∧ ∃ rest, d.text = d'.text ++ rest) ∧
    (generate "complement-tests" { config with maxArity := 28 }).outcome =
        .error (.unsupportedParameter 26) ∧
      (generate "complement-tests" { config with maxArity := 40 }).outcome =
        .error (.unsupportedParameter 26) := by
  intro config
  have hsound (n : Int) : ({ config with maxArity := n } : Config).target.Sound :=
    Target.sound_typescript
  constructor
  · obtain ⟨hextends, -⟩ := generate_grow .partialApplication config
      (show (0 : Int) ≤ 3 by decide) (show (3 : Int) ≤ 5 by decide)
    obtain ⟨d, hd⟩ := exists_generate_of_sound (hsound 5) (by decide) (by decide)
      .partialApplication
    obtain ⟨d', hd', hprefix, hlength, hrest⟩ := hextends d hd
    exact ⟨d, d', hd, hd', hprefix, Int.ofNat.inj hlength, hrest⟩
  · obtain ⟨-, hfails⟩ := generate_grow .complementTest config
      (show (0 : Int) ≤ 28 by decide) (show (28 : Int) ≤ 40 by decide)
    have hfail : (generate Family.complementTest.name { config with maxArity := 28 }).outcome =
        .error (.unsupportedParameter 26) :=
      generate_of_many (hsound 28) .complementTest (by decide)
        (Text.isPrintable_of_natAbs_lt (by decide))
    have hfail' := hfails _ hfail
    rw [Error.about_eq (Text.isPrintable_of_natAbs_lt (by decide))] at hfail'
    exact ⟨hfail, hfail'⟩

/-- A run that fails at a letter, and one whose bound is so large that it fails at once. -/
theorem generate_too_great_of_large :
    let config : Config := { maxArity := 0, target := Target.typescript, outputRoot := ⟨.root, []⟩ }
    (28 : Int) ≤ Text.tooGreat ∧
      (generate "complement" { config with maxArity := 28 }).outcome =
        .error (.unsupportedParameter 26) ∧
      (generate "complement" { config with maxArity := Text.tooGreat }).outcome =
        .error .tooManyDigits :=
  ⟨Int.ofNat_le.mpr (Nat.le_trans (by decide) Text.thousand_le_tooGreat),
    generate_of_many Target.sound_typescript .complement (by decide)
      (Text.isPrintable_of_natAbs_lt (by decide)),
    outcome_generate_unprintable .complement Text.not_isPrintable_tooGreat⟩

end PerArity
