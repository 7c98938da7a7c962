import PerArity.Formatting
import PerArity.Proofs.Fragments

/-!
# The parameters on both sides of a split point

A split point cuts the range of all parameters in two: those given up front and the remaining ones.
The two parts are adjacent, so naming one after the other is naming all parameters
(`Parameter.namesInTurn_eq_names`), and where a letter is missing both ways fail alike. The letters
of both parts together are what a member declares, except for the name of the result, so whatever
names a member shows, in whichever of its fields, are names that it declares.
-/

namespace PerArity

open Parameter (capacity letters namesInTurn)

namespace PartialApplication

section

variable [Template.Formatter] {p : SplitPoint} {t : Target} {given others : List String}

/-! ## The names in the fields of a member -/

/-- The names that a field of a member shows, given the names of the parameters given up front and
those of the remaining ones. -/
def shownNames (t : Target) (given others : List String) : MemberField → List String
  | .typeParams => given ++ others ++ [t.returnTypeParam]
  | .allParams => given ++ others
  | .boundParams => given
  | .remainingParams => others
  | .ret => [t.returnTypeParam]

/-- The member whose fields show these names: the remaining parameters are written as those of a
function type, and in every other field the names are separated by commas. -/
def memberShowing (t : Target) (given others : List String) : Except Error String := do
  let remaining ← t.callableParams (shownNames t given others .remainingParams)
  (t.partialMemberTemplate.fill fun
    | .remainingParams => .text remaining
    | field => .text (Parameter.commaSeparated (shownNames t given others field))).mapError
      .template

omit [Template.Formatter] in
theorem shownNames_subset (field : MemberField) :
    shownNames t given others field ⊆ shownNames t given others .typeParams := by
  have hall : given ++ others ⊆ given ++ others ++ [t.returnTypeParam] :=
    List.subset_append_left _ _
  cases field with
  | typeParams => exact List.Subset.refl _
  | allParams => exact hall
  | boundParams => exact List.Subset.trans (List.subset_append_left _ _) hall
  | remainingParams => exact List.Subset.trans (List.subset_append_right _ _) hall
  | ret => exact List.subset_append_right _ _

theorem member_eq_memberShowing (h : 0 ≤ p.bound) (h' : p.bound ≤ p.arity)
    (hcap : p.arity ≤ capacity) :
    member p t = memberShowing t (letters 0 p.bound) (letters p.bound p.arity) := by
  rw [member_eq h h' hcap, memberShowing, ← Parameter.letters_append h h']
  refine bind_congr fun remaining ↦ ?_
  congr 2
  funext field
  cases field with
  | typeParams => rfl
  | allParams => rfl
  | boundParams => rfl
  | remainingParams => rfl
  | ret => exact congrArg Template.Value.text String.intercalate_singleton.symm

/-! ## Both parts of the parameters -/

omit [Template.Formatter] in
/-- Within the capacity both parts have their names, and together these are the names of all
parameters. -/
theorem names_of_parts (h : 0 ≤ p.bound) (h' : p.bound ≤ p.arity) (hcap : p.arity ≤ capacity) :
    Parameter.names ⟨0, p.bound⟩ = .ok (letters 0 p.bound) ∧
      Parameter.names ⟨p.bound, p.arity⟩ = .ok (letters p.bound p.arity) ∧
      Parameter.names ⟨0, p.arity⟩ = .ok (letters 0 p.bound ++ letters p.bound p.arity) := by
  refine ⟨Parameter.names_eq_ok (Int.le_refl 0) (Int.le_trans h' hcap),
    Parameter.names_eq_ok h hcap, ?_⟩
  rw [Parameter.letters_append h h']
  exact Parameter.names_eq_ok (Int.le_refl 0) hcap

/-- **A split point loses no parameter and repeats none.** Naming two adjacent ranges in turn ends
like naming them as one, with the same names or with the same error. So at every split point that is
listed below a bound one of two things happens. Either the names of the parameters given up front,
followed by those of the remaining ones, are the names of all parameters; there are as many
remaining names as the split point says, fewer than the arity; and for every target the member shows
no name that it does not declare. Or there is a parameter without a name, and then naming the two
parts in turn and naming all parameters fail at the same index. -/
theorem names_given_then_remaining :
    (∀ start middle stop : Int, start ≤ middle → middle ≤ stop →
      namesInTurn ⟨start, middle⟩ ⟨middle, stop⟩ = Parameter.names ⟨start, stop⟩) ∧
    ∀ (n : Int) (ps : List SplitPoint), SplitPoint.below n = .ok ps → ∀ p ∈ ps,
      (∃ given others, Parameter.names ⟨0, p.bound⟩ = .ok given ∧
        Parameter.names ⟨p.bound, p.arity⟩ = .ok others ∧
        Parameter.names ⟨0, p.arity⟩ = .ok (given ++ others) ∧
        (others.length : Int) = p.remaining ∧ 0 ≤ p.remaining ∧ p.remaining ≤ p.arity - 1 ∧
        ∀ t, member p t = memberShowing t given others ∧
          ∀ field, shownNames t given others field ⊆ shownNames t given others .typeParams) ∨
      ∃ index, Parameter.names ⟨0, p.arity⟩ = .error (.unsupportedParameter index) ∧
        namesInTurn ⟨0, p.bound⟩ ⟨p.bound, p.arity⟩ = .error (.unsupportedParameter index) := by
  refine ⟨fun start middle stop ↦ Parameter.namesInTurn_eq_names, fun n ps hps p hp ↦ ?_⟩
  obtain ⟨-, rfl⟩ := SplitPoint.of_below hps
  obtain ⟨hpos, hle, -⟩ := SplitPoint.mem_points.mp hp
  have hbound : 0 ≤ p.bound := Int.le_of_lt hpos
  rcases Int.lt_or_le capacity p.arity with hcap | hcap
  · right
    have hall := Parameter.names_eq_error (Int.le_refl 0) (Int.natCast_nonneg _) hcap
    refine ⟨capacity, hall, ?_⟩
    rw [Parameter.namesInTurn_eq_names hbound hle, hall]
  · left
    obtain ⟨hgiven, hothers, hall⟩ := names_of_parts hbound hle hcap
    refine ⟨_, _, hgiven, hothers, hall, ?_, ?_, ?_,
      fun t ↦ ⟨member_eq_memberShowing hbound hle hcap, shownNames_subset⟩⟩
    · rw [Parameter.length_letters, SplitPoint.remaining, Int.toNat_of_nonneg (by omega)]
    · rw [SplitPoint.remaining]
      omega
    · rw [SplitPoint.remaining]
      omega

end

attribute [local instance] Template.Formatter.standard

/-- Two ranges that begin below the letters and end beyond them, three parameters of which one is
given up front, and twenty-seven of which two are. -/
theorem names_given_then_remaining_of_three :
    namesInTurn ⟨-2, 5⟩ ⟨5, 40⟩ = Parameter.names ⟨-2, 40⟩ ∧
    (∃ given others, Parameter.names ⟨0, 1⟩ = .ok given ∧ Parameter.names ⟨1, 3⟩ = .ok others ∧
      Parameter.names ⟨0, 3⟩ = .ok (given ++ others) ∧ others.length = 2 ∧
        member ⟨3, 1⟩ Target.typescript = memberShowing Target.typescript given others) ∧
    ∃ index, Parameter.names ⟨0, 27⟩ = .error (.unsupportedParameter index) ∧
      namesInTurn ⟨0, 2⟩ ⟨2, 27⟩ = .error (.unsupportedParameter index) := by
  obtain ⟨hranges, hpoints⟩ := names_given_then_remaining
  have hbelow := hpoints 28 _ (SplitPoint.below_eq_ok (by decide))
  refine ⟨hranges (-2) 5 40 (by decide) (by decide), ?_, ?_⟩
  · have hall := Parameter.names_eq_ok (Int.le_refl 0) (show (3 : Int) ≤ capacity by decide)
    obtain ⟨given, others, hgiven, hothers, hboth, hlength, -, -, hmember⟩ | ⟨index, herror, -⟩ :=
      hbelow ⟨3, 1⟩ (SplitPoint.mem_points.mpr (by decide))
    · obtain ⟨htext, -⟩ := hmember Target.typescript
      exact ⟨given, others, hgiven, hothers, hboth, Int.ofNat.inj hlength, htext⟩
    · cases hall.symm.trans herror
  · have herror := Parameter.names_eq_error (Int.le_refl 0) (Int.natCast_nonneg _)
      (show (capacity : Int) < 27 by decide)
    obtain ⟨given, others, -, -, hall, -⟩ | hfail :=
      hbelow ⟨27, 2⟩ (SplitPoint.mem_points.mpr (by decide))
    · cases hall.symm.trans herror
    · exact hfail

end PartialApplication

end PerArity
