import PerArity.Formatting
import PerArity.Proofs.Fragments
import PerArity.Proofs.RegisteredTargets

/-!
# How a run ends

A run of a family walks through the arities in ascending order and ends at the first fragment that
fails. Where the templates are plain, it follows from the bound and the faults of the templates
alone which fragment that is: a template that is looked at for the first time at some arity fails
there, and only when all of them are sound does the run get as far as the arity whose last parameter
has no letter. `Family.failure?` is this table, and `Family.fragments_outcome` says that a run
follows it.

An extended placeholder can suit the values of one arity and not those of the next, so without that
condition no property of the templates by themselves decides how a run ends (`generate_of_spec`).
-/

namespace PerArity

open Parameter (capacity)

namespace Family

/-! ## The table -/

/-- The fault of the first faulty template that a run looks at. The members of partial application
begin at arity one and have parameters left over from arity two on. -/
def templateFault? (family : Family) (n : Int) (t : Target) : Option Template.Fault :=
  match family with
  | partialApplication =>
    (if 2 ≤ n then t.partialMemberTemplate.fault? else none).or
      (if 3 ≤ n then t.callableParamTemplate.fault? else none)
  | complement =>
    (if 1 ≤ n then t.boundTemplate.fault?.or t.complementDeclarationTemplate.fault? else none).or
      (if 2 ≤ n then t.callableParamTemplate.fault? else none)
  | complementTest => if 1 ≤ n then t.complementTestTemplate.fault? else none

/-- The failure of a run, if it fails. A bound that cannot be written is not even recorded. -/
def failure? (family : Family) (n : Int) (t : Target) : Option Error :=
  if ¬Text.IsPrintable n then some .tooManyDigits
  else if n < 0 then some (.invalidArity n)
  else
    match family.templateFault? n t with
    | some fault => some (.template fault)
    | none => if 28 ≤ n then some (.unsupportedParameter 26) else none

/-- The number of fragments of a run. -/
def fragmentCount (family : Family) (n : Int) : Int :=
  match family with
  | partialApplication => n * (n - 1) / 2
  | complement => n
  | complementTest => n

variable {n : Int} {t : Target} {fault : Template.Fault}

theorem templateFault?_of_sound (ht : t.Sound) (family : Family) (n : Int) :
    family.templateFault? n t = none := by
  cases family with
  | partialApplication => simp [templateFault?, ht.partialMember.fault, ht.callableParam.fault]
  | complement =>
    simp [templateFault?, ht.bound.fault, ht.complementDeclaration.fault, ht.callableParam.fault]
  | complementTest => simp [templateFault?, ht.complementTest.fault]

/-- Where all templates are sound, the bound on the arities alone decides how a run ends. -/
theorem failure?_of_sound (ht : t.Sound) (family : Family) (n : Int) :
    family.failure? n t =
      if ¬Text.IsPrintable n then some .tooManyDigits
      else if n < 0 then some (.invalidArity n)
      else if 28 ≤ n then some (.unsupportedParameter 26) else none := by
  rw [failure?, templateFault?_of_sound ht]

private theorem ite_none_eq_none {c : Prop} [Decidable c] {x : Option Template.Fault} :
    (if c then x else none) = none ↔ (c → x = none) := by
  by_cases h : c <;> simp [h]

/-! ## Families with one fragment for each arity -/

private theorem aritiesBelow_eq_ok (h : 0 ≤ n) : aritiesBelow n = .ok ⟨0, n⟩ := by
  rw [aritiesBelow, if_neg (Int.not_lt.mpr h)]

private theorem traverse_of_first {f : Int → Except Error Fragment} {k : Int} {e : Error}
    (hk : 0 ≤ k) (hn : k < n) (hbefore : ∀ a, 0 ≤ a → a < k → ∃ b, f a = .ok b)
    (hfirst : f k = .error e) : (aritiesBelow n >>= (·.traverse f)) = .error e := by
  rw [aritiesBelow_eq_ok (by omega)]
  exact IndexRange.traverse_eq_error hk hn hbefore hfirst

private theorem exists_traverse {f : Int → Except Error Fragment} (h : 0 ≤ n)
    (hf : ∀ a, 0 ≤ a → a < n → ∃ b, f a = .ok b) :
    ∃ fs, (aritiesBelow n >>= (·.traverse f)) = .ok fs ∧ (fs.length : Int) = n := by
  obtain ⟨fs, hfs, hlength⟩ := IndexRange.exists_traverse_eq_ok (r := ⟨0, n⟩) hf
  refine ⟨fs, ?_, ?_⟩
  · rw [aritiesBelow_eq_ok h]
    exact hfs
  · rw [hlength, IndexRange.size, Int.sub_zero, Int.toNat_of_nonneg h]

/-! ## Partial application -/

variable [Template.Formatter]

/-- The failure of the first point of an arity is that of the run, if no point of a smaller arity
fails. -/
private theorem partialApplication_of_first {k : Int} {e : Error} (hk : 1 ≤ k) (hn : k < n)
    (hbefore : ∀ p ∈ SplitPoint.points k, ∃ f, PartialApplication.fragment t p = .ok f)
    (hfirst : PartialApplication.fragment t ⟨k, 1⟩ = .error e) :
    partialApplication.fragments n t = .error e := by
  obtain ⟨rest, hrest⟩ := SplitPoint.points_eq_append hk hn
  rw [fragments, SplitPoint.below_eq_ok (by omega), hrest]
  exact mapM_eq_error hbefore hfirst

private theorem partialApplication_of_faulty_member (ht : t.IsPlain) (hn : 2 ≤ n)
    (hfault : t.partialMemberTemplate.fault? = some fault) :
    partialApplication.fragments n t = .error (.template fault) := by
  refine partialApplication_of_first (Int.le_refl 1) hn ?_ ?_
  · intro p hp
    obtain ⟨h1, h2, h3⟩ := SplitPoint.mem_points.mp hp
    omega
  · exact PartialApplication.fragment_of_faulty ht (by decide) (by decide) (by decide) (.inl rfl)
      hfault

private theorem partialApplication_of_faulty_callable (ht : t.IsPlain) (hn : 3 ≤ n)
    (hsound : t.partialMemberTemplate.fault? = none)
    (hfault : t.callableParamTemplate.fault? = some fault) :
    partialApplication.fragments n t = .error (.template fault) := by
  refine partialApplication_of_first (show (1 : Int) ≤ 2 by decide) hn ?_ ?_
  · -- below arity two nothing is left over, so the faulty template is not looked at
    intro p hp
    obtain ⟨h1, h2, h3⟩ := SplitPoint.mem_points.mp hp
    have := Parameter.capacity_eq
    exact PartialApplication.exists_fragment ht (by omega) h2 (by omega) (.inl (by omega)) hsound
  · exact PartialApplication.fragment_of_faulty_callable ht (by decide) (by decide) (by decide)
      hfault

private theorem partialApplication_of_unsupported (ht : t.IsPlain) (hn : 28 ≤ n)
    (hmember : t.partialMemberTemplate.fault? = none)
    (hcallable : t.callableParamTemplate.fault? = none) :
    partialApplication.fragments n t = .error (.unsupportedParameter 26) := by
  refine partialApplication_of_first (show (1 : Int) ≤ 27 by decide) hn ?_ ?_
  · intro p hp
    obtain ⟨h1, h2, h3⟩ := SplitPoint.mem_points.mp hp
    have := Parameter.capacity_eq
    exact PartialApplication.exists_fragment ht (by omega) h2 (by omega) (.inr hcallable) hmember
  · exact PartialApplication.fragment_of_unsupported (by decide)

private theorem exists_partialApplication (ht : t.IsPlain) (h : 0 ≤ n) (hn : n < 28)
    (hmember : 2 ≤ n → t.partialMemberTemplate.fault? = none)
    (hcallable : 3 ≤ n → t.callableParamTemplate.fault? = none) :
    ∃ fs, partialApplication.fragments n t = .ok fs ∧
      (fs.length : Int) = partialApplication.fragmentCount n := by
  have hpoint : ∀ p ∈ SplitPoint.points n, ∃ f, PartialApplication.fragment t p = .ok f := by
    intro p hp
    obtain ⟨h1, h2, h3⟩ := SplitPoint.mem_points.mp hp
    have := Parameter.capacity_eq
    refine PartialApplication.exists_fragment ht (by omega) h2 (by omega) ?_ (hmember (by omega))
    -- the template of a callable parameter matters unless all arguments are given
    rcases Int.lt_or_eq_of_le h2 with hlt | heq
    · exact .inr (hcallable (by omega))
    · exact .inl heq
  obtain ⟨fs, hfs, hlength⟩ := exists_mapM_eq_ok hpoint
  refine ⟨fs, ?_, ?_⟩
  · rw [fragments, SplitPoint.below_eq_ok h]
    exact hfs
  · rw [hlength, SplitPoint.length_points h, fragmentCount]

/-! ## Complement declarations -/

private theorem complement_of_faulty_bound (ht : t.IsPlain) (hn : 1 ≤ n)
    (hfault : t.boundTemplate.fault? = some fault) :
    complement.fragments n t = .error (.template fault) :=
  traverse_of_first (Int.le_refl 0) hn (fun a h h' ↦ absurd h' (Int.not_lt.mpr h))
    (Complement.fragment_of_faulty_bound ht (by decide) (.inl (Int.le_refl 0)) hfault)

private theorem complement_of_faulty_declaration (ht : t.IsPlain) (hn : 1 ≤ n)
    (hbound : t.boundTemplate.fault? = none)
    (hfault : t.complementDeclarationTemplate.fault? = some fault) :
    complement.fragments n t = .error (.template fault) :=
  traverse_of_first (Int.le_refl 0) hn (fun a h h' ↦ absurd h' (Int.not_lt.mpr h))
    (Complement.fragment_of_faulty ht (by decide) (.inl (Int.le_refl 0)) hbound hfault)

private theorem complement_of_faulty_callable (ht : t.IsPlain) (hn : 2 ≤ n)
    (hbound : t.boundTemplate.fault? = none)
    (hdeclaration : t.complementDeclarationTemplate.fault? = none)
    (hfault : t.callableParamTemplate.fault? = some fault) :
    complement.fragments n t = .error (.template fault) := by
  refine traverse_of_first (show (0 : Int) ≤ 1 by decide) hn ?_
    (Complement.fragment_of_faulty_callable ht (by decide) (by decide) hfault)
  -- at arity zero the predicate has no parameters to show
  intro a h h'
  have := Parameter.capacity_eq
  exact Complement.exists_fragment ht (by omega) (.inl (by omega)) hbound hdeclaration

private theorem complement_of_unsupported (ht : t.IsPlain) (hn : 28 ≤ n)
    (hbound : t.boundTemplate.fault? = none)
    (hdeclaration : t.complementDeclarationTemplate.fault? = none)
    (hcallable : t.callableParamTemplate.fault? = none) :
    complement.fragments n t = .error (.unsupportedParameter 26) := by
  refine traverse_of_first (show (0 : Int) ≤ 27 by decide) hn ?_
    (Complement.fragment_of_unsupported (by decide))
  intro a h h'
  have := Parameter.capacity_eq
  exact Complement.exists_fragment ht (by omega) (.inr hcallable) hbound hdeclaration

private theorem exists_complement (ht : t.IsPlain) (h : 0 ≤ n) (hn : n < 28)
    (hbound : 1 ≤ n → t.boundTemplate.fault? = none)
    (hdeclaration : 1 ≤ n → t.complementDeclarationTemplate.fault? = none)
    (hcallable : 2 ≤ n → t.callableParamTemplate.fault? = none) :
    ∃ fs, complement.fragments n t = .ok fs ∧
      (fs.length : Int) = complement.fragmentCount n := by
  apply exists_traverse h
  intro a h0 hlt
  have := Parameter.capacity_eq
  refine Complement.exists_fragment ht (by omega) ?_ (hbound (by omega)) (hdeclaration (by omega))
  rcases Int.lt_or_le 0 a with hpos | hzero
  · exact .inr (hcallable (by omega))
  · exact .inl hzero

/-! ## Test cases for complement declarations -/

private theorem complementTest_of_faulty (ht : t.IsPlain) (hn : 1 ≤ n)
    (hfault : t.complementTestTemplate.fault? = some fault) :
    complementTest.fragments n t = .error (.template fault) :=
  traverse_of_first (Int.le_refl 0) hn (fun a h h' ↦ absurd h' (Int.not_lt.mpr h))
    (ComplementTest.fragment_of_faulty ht (Int.le_refl 0) (by decide) hfault)

private theorem complementTest_of_unsupported (ht : t.IsPlain) (hn : 28 ≤ n)
    (hsound : t.complementTestTemplate.fault? = none) :
    complementTest.fragments n t = .error (.unsupportedParameter 26) := by
  refine traverse_of_first (show (0 : Int) ≤ 27 by decide) hn ?_
    (ComplementTest.fragment_of_unsupported (by decide))
  intro a h h'
  have := Parameter.capacity_eq
  exact ComplementTest.exists_fragment ht h (by omega) hsound

private theorem exists_complementTest (ht : t.IsPlain) (h : 0 ≤ n) (hn : n < 28)
    (hsound : 1 ≤ n → t.complementTestTemplate.fault? = none) :
    ∃ fs, complementTest.fragments n t = .ok fs ∧
      (fs.length : Int) = complementTest.fragmentCount n := by
  apply exists_traverse h
  intro a h0 hlt
  have := Parameter.capacity_eq
  exact ComplementTest.exists_fragment ht h0 (by omega) (hsound (by omega))

/-! ## All families -/

theorem fragments_of_negative (family : Family) (h : n < 0) (hdigits : Text.IsPrintable n) :
    family.fragments n t = .error (.invalidArity n) := by
  cases family with
  | partialApplication =>
    rw [fragments, SplitPoint.below_eq_error h, Error.about_eq hdigits]
    rfl
  | complement =>
    rw [fragments, aritiesBelow, if_pos h, Error.about_eq hdigits]
    rfl
  | complementTest =>
    rw [fragments, aritiesBelow, if_pos h, Error.about_eq hdigits]
    rfl

theorem fragments_of_faulty (ht : t.IsPlain) (family : Family)
    (hfault : family.templateFault? n t = some fault) :
    family.fragments n t = .error (.template fault) := by
  cases family with
  | partialApplication =>
    rw [templateFault?, Option.or_eq_some_iff] at hfault
    rcases hfault with hmember | ⟨hmember, hcallable⟩
    · obtain ⟨hn, hmember⟩ := Option.ite_none_right_eq_some.mp hmember
      exact partialApplication_of_faulty_member ht hn hmember
    · obtain ⟨hn, hcallable⟩ := Option.ite_none_right_eq_some.mp hcallable
      rw [if_pos (by omega)] at hmember
      exact partialApplication_of_faulty_callable ht hn hmember hcallable
  | complement =>
    rw [templateFault?, Option.or_eq_some_iff] at hfault
    rcases hfault with houter | ⟨houter, hcallable⟩
    · obtain ⟨hn, houter⟩ := Option.ite_none_right_eq_some.mp houter
      rcases Option.or_eq_some_iff.mp houter with hbound | ⟨hbound, hdeclaration⟩
      · exact complement_of_faulty_bound ht hn hbound
      · exact complement_of_faulty_declaration ht hn hbound hdeclaration
    · obtain ⟨hn, hcallable⟩ := Option.ite_none_right_eq_some.mp hcallable
      rw [if_pos (by omega), Option.or_eq_none_iff] at houter
      exact complement_of_faulty_callable ht hn houter.1 houter.2 hcallable
  | complementTest =>
    obtain ⟨hn, hfault⟩ := Option.ite_none_right_eq_some.mp hfault
    exact complementTest_of_faulty ht hn hfault

theorem fragments_of_unsupported (ht : t.IsPlain) (family : Family) (hn : 28 ≤ n)
    (hsound : family.templateFault? n t = none) :
    family.fragments n t = .error (.unsupportedParameter 26) := by
  cases family with
  | partialApplication =>
    rw [templateFault?, Option.or_eq_none_iff, ite_none_eq_none, ite_none_eq_none] at hsound
    exact partialApplication_of_unsupported ht hn (hsound.1 (by omega)) (hsound.2 (by omega))
  | complement =>
    rw [templateFault?, Option.or_eq_none_iff, ite_none_eq_none, ite_none_eq_none,
      Option.or_eq_none_iff] at hsound
    obtain ⟨hbound, hdeclaration⟩ := hsound.1 (by omega)
    exact complement_of_unsupported ht hn hbound hdeclaration (hsound.2 (by omega))
  | complementTest =>
    rw [templateFault?, ite_none_eq_none] at hsound
    exact complementTest_of_unsupported ht hn (hsound (by omega))

theorem exists_fragments (ht : t.IsPlain) (family : Family) (h : 0 ≤ n) (hn : n < 28)
    (hsound : family.templateFault? n t = none) :
    ∃ fs, family.fragments n t = .ok fs ∧ (fs.length : Int) = family.fragmentCount n := by
  cases family with
  | partialApplication =>
    rw [templateFault?, Option.or_eq_none_iff, ite_none_eq_none, ite_none_eq_none] at hsound
    exact exists_partialApplication ht h hn hsound.1 hsound.2
  | complement =>
    rw [templateFault?, Option.or_eq_none_iff, ite_none_eq_none, ite_none_eq_none,
      Option.or_eq_none_iff] at hsound
    exact exists_complement ht h hn (fun h1 ↦ (hsound.1 h1).1) (fun h1 ↦ (hsound.1 h1).2) hsound.2
  | complementTest =>
    rw [templateFault?, ite_none_eq_none] at hsound
    exact exists_complementTest ht h hn hsound

/-- The fragments of a family end as the table has it. -/
theorem fragments_outcome (ht : t.IsPlain) (family : Family) (hdigits : Text.IsPrintable n) :
    match family.failure? n t with
    | some e => family.fragments n t = .error e
    | none => ∃ fs, family.fragments n t = .ok fs ∧ (fs.length : Int) = family.fragmentCount n := by
  rw [failure?, if_neg (not_not.mpr hdigits)]
  by_cases hneg : n < 0
  · rw [if_pos hneg]
    exact fragments_of_negative family hneg hdigits
  rw [if_neg hneg]
  cases hfault : family.templateFault? n t with
  | some fault => exact fragments_of_faulty ht family hfault
  | none =>
    by_cases hn : 28 ≤ n
    · rw [if_pos hn]
      exact fragments_of_unsupported ht family hn hfault
    · rw [if_neg hn]
      exact exists_fragments ht family (Int.not_lt.mp hneg) (Int.not_le.mp hn) hfault

theorem length_fragments {family : Family} {fs : List Fragment}
    (h : family.fragments n t = .ok fs) : (fs.length : Int) = family.fragmentCount n := by
  cases family with
  | partialApplication =>
    obtain ⟨hn, hfs⟩ := PartialApplication.fragments_eq_ok h
    rw [length_of_mapM hfs, SplitPoint.length_points hn, fragmentCount]
  | complement =>
    obtain ⟨hn, hfs⟩ := Complement.fragments_eq_ok h
    rw [length_of_mapM hfs, IndexRange.length_toList, IndexRange.size, Int.sub_zero,
      Int.toNat_of_nonneg hn, fragmentCount]
  | complementTest =>
    obtain ⟨hn, hfs⟩ := ComplementTest.fragments_eq_ok h
    rw [length_of_mapM hfs, IndexRange.length_toList, IndexRange.size, Int.sub_zero,
      Int.toNat_of_nonneg hn, fragmentCount]

end Family

section

variable [Template.Formatter]

theorem generate_of_unknown {name : String} (h : ∀ family : Family, name ≠ family.name)
    (config : Config) : generate name config = ⟨[], .error (.unknownFamily name)⟩ := by
  have hname : Family.ofName? name = none :=
    Option.eq_none_iff_forall_ne_some.mpr fun family hfamily ↦
      h family (Family.ofName?_eq_some_iff.mp hfamily)
  rw [generate, hname]
  rfl

/-- **The outcome of every run of a plain target.** A name that belongs to no family fails at once.
The run of a family fails exactly as its table says, and otherwise gives a declaration with all its
fragments. -/
theorem outcome_generate (config : Config) (ht : config.target.IsPlain) :
    (∀ name, (∀ family : Family, name ≠ family.name) →
      (generate name config).outcome = .error (.unknownFamily name)) ∧
    ∀ family : Family,
      match family.failure? config.maxArity config.target with
      | some e => (generate family.name config).outcome = .error e
      | none =>
        ∃ d, (generate family.name config).outcome = .ok d ∧
          (d.fragments.length : Int) = family.fragmentCount config.maxArity := by
  refine ⟨fun name hname ↦ by rw [generate_of_unknown hname], fun family ↦ ?_⟩
  by_cases hdigits : Text.IsPrintable config.maxArity
  · -- the table speaks about the fragments, and the declaration is made of them
    have htable := Family.fragments_outcome ht family hdigits
    rw [outcome_generate_name family hdigits]
    cases hfailure : family.failure? config.maxArity config.target with
    | some e =>
      rw [hfailure] at htable
      rw [htable]
      rfl
    | none =>
      rw [hfailure] at htable
      obtain ⟨fs, hfs, hlength⟩ := htable
      exact ⟨_, by rw [hfs]; rfl, hlength⟩
  · rw [Family.failure?, if_pos hdigits]
    exact outcome_generate_unprintable family hdigits

end

attribute [local instance] Template.Formatter.standard

/-- Ten members below arity five, a family that does not exist, and a bound below zero. -/
theorem outcome_generate_of_flow :
    let config (n : Int) : Config := { maxArity := n, outputRoot := ⟨.root, []⟩ }
    Target.flow.IsPlain ∧
      (generate "curry" (config 5)).outcome = .error (.unknownFamily "curry") ∧
      (∃ d, (generate "partial" (config 5)).outcome = .ok d ∧ d.fragments.length = 10) ∧
      (generate "complement" (config (-1))).outcome = .error (.invalidArity (-1)) := by
  intro config
  have hsound : Target.flow.Sound := Target.sound_flow
  obtain ⟨hunknown, hfive⟩ := outcome_generate (config 5) hsound.isPlain
  obtain ⟨-, hnegative⟩ := outcome_generate (config (-1)) hsound.isPlain
  have hfive := hfive .partialApplication
  have hnegative := hnegative .complement
  rw [Family.failure?_of_sound hsound,
    if_neg (not_not.mpr (Text.isPrintable_of_natAbs_lt (by decide)))] at hfive hnegative
  obtain ⟨d, hd, hlength⟩ := hfive
  exact ⟨hsound.isPlain, hunknown "curry" (by rintro (_ | _ | _) <;> decide),
    ⟨d, hd, Int.ofNat.inj hlength⟩, hnegative⟩

/-- A test case that lays out its position by its arguments. Without arguments this can be done, and
so there is a suite of one test case, but with one argument it cannot. -/
theorem generate_of_spec :
    let t : Target := { Target.flow with
      complementTestTemplate := ⟨"\x7bindex:\x7bcall_args\x7d\x7d"⟩ }
    let config (n : Int) : Config := { maxArity := n, target := t, outputRoot := ⟨.root, []⟩ }
    (∃ d, (generate "complement-tests" (config 1)).outcome = .ok d) ∧
      (generate "complement-tests" (config 2)).outcome =
        .error (.template (.unshowable "ValueError"
          "Invalid format specifier ''a',' for object of type 'int'")) := by
  intro t config
  have hone : (generate "complement-tests" (config 1)).outcome.isOk = true := by decide +kernel
  exact ⟨exists_of_isOk hone, by decide +kernel⟩

/-! ## Sound targets -/

variable [Template.Formatter] {config : Config}

/-- Where all templates are sound, a run gives its declaration, or the bound on the arities is
negative or too large, or cannot be written. -/
theorem generate_cases_of_sound (ht : config.target.Sound) (family : Family) :
    (¬Text.IsPrintable config.maxArity ∧
      (generate family.name config).outcome = .error .tooManyDigits) ∨
    (config.maxArity < 0 ∧
      (generate family.name config).outcome = .error (.invalidArity config.maxArity)) ∨
    (28 ≤ config.maxArity ∧
      (generate family.name config).outcome = .error (.unsupportedParameter 26)) ∨
    (0 ≤ config.maxArity ∧ config.maxArity < 28 ∧
      ∃ d, (generate family.name config).outcome = .ok d) := by
  by_cases hdigits : Text.IsPrintable config.maxArity
  · right
    rw [outcome_generate_name family hdigits]
    have hsound := Family.templateFault?_of_sound ht family config.maxArity
    rcases Int.lt_or_le config.maxArity 0 with hneg | hnonneg
    · exact .inl ⟨hneg, by rw [Family.fragments_of_negative family hneg hdigits]; rfl⟩
    rcases Int.lt_or_le config.maxArity 28 with hfew | hlarge
    · obtain ⟨fs, hfs, -⟩ := Family.exists_fragments ht.isPlain family hnonneg hfew hsound
      exact .inr (.inr ⟨hnonneg, hfew, _, by rw [hfs]; rfl⟩)
    · have hfails := Family.fragments_of_unsupported ht.isPlain family hlarge hsound
      exact .inr (.inl ⟨hlarge, by rw [hfails]; rfl⟩)
  · exact .inl ⟨hdigits, outcome_generate_unprintable family hdigits⟩

theorem generate_of_many (ht : config.target.Sound) (family : Family) (hmany : 28 ≤ config.maxArity)
    (hdigits : Text.IsPrintable config.maxArity) :
    (generate family.name config).outcome = .error (.unsupportedParameter 26) := by
  obtain ⟨hno, -⟩ | ⟨hneg, -⟩ | ⟨-, herror⟩ | ⟨-, hfew, -⟩ := generate_cases_of_sound ht family
  · exact absurd hdigits hno
  · omega
  · exact herror
  · omega

theorem exists_generate_of_sound (ht : config.target.Sound) (hnonneg : 0 ≤ config.maxArity)
    (hfew : config.maxArity < 28) (family : Family) :
    ∃ d, (generate family.name config).outcome = .ok d := by
  have hdigits : Text.IsPrintable config.maxArity := Text.isPrintable_of_natAbs_lt (by omega)
  obtain ⟨hmany, -⟩ | ⟨hneg, -⟩ | ⟨hlarge, -⟩ | ⟨-, -, hd⟩ := generate_cases_of_sound ht family
  · exact absurd hdigits hmany
  · omega
  · omega
  · exact hd

end PerArity
