import PerArity.Generation
import PerArity.Proofs.Filling
import PerArity.Proofs.Naming
import PerArity.Proofs.SplitPoints

/-!
# How a single fragment ends

A fragment first names its parameters and then fills templates, the inner ones before the outer one.
So a fragment of an arity beyond the capacity fails at the capacity whatever the templates, and
within the capacity, if the templates are plain, the first faulty one that is looked at decides. The
template of a callable parameter is looked at only where there is a parameter left to show.

The run of a family is its fragments in order, put into a declaration (`outcome_generate_name`),
unless its bound has too many digits to be recorded.
-/

namespace PerArity

open Parameter (capacity letters)

variable [Template.Formatter] {t : Target} {fault : Template.Fault}

/-! ## Partial application -/

namespace PartialApplication

variable {p : SplitPoint}

/-- The texts in a member, given the letters of all parameters, those of the parameters given up
front and the text of the remaining ones. -/
def values (t : Target) (all given : List String) (remaining : String) : MemberField → String
  | .typeParams => Parameter.commaSeparated (all ++ [t.returnTypeParam])
  | .allParams => Parameter.commaSeparated all
  | .boundParams => Parameter.commaSeparated given
  | .remainingParams => remaining
  | .ret => t.returnTypeParam

/-- Where all letters are there, what remains is to fill two templates. The range of the remaining
parameters begins at a letter or is empty. -/
theorem member_eq_of_named (harity : p.arity ≤ capacity) (hbound : p.bound ≤ capacity)
    (h : 0 ≤ p.bound ∨ p.arity ≤ p.bound) :
    member p t = t.callableParams (letters p.bound p.arity) >>= fun remaining ↦
      (t.partialMemberTemplate.fill
        (.text ∘ values t (letters 0 p.arity) (letters 0 p.bound) remaining)).mapError
          .template := by
  have hothers : Parameter.names ⟨p.bound, p.arity⟩ = .ok (letters p.bound p.arity) := by
    rcases h with hpos | hempty
    · exact Parameter.names_eq_ok hpos harity
    · exact Parameter.names_of_empty hempty
  rw [member, Parameter.names_eq_ok (Int.le_refl 0) harity,
    Parameter.names_eq_ok (Int.le_refl 0) hbound, hothers]
  change (t.callableParams _ >>= fun remaining ↦ _) = _
  refine bind_congr fun remaining ↦ ?_
  congr 2
  funext field
  cases field <;> rfl

theorem member_eq (h : 0 ≤ p.bound) (h' : p.bound ≤ p.arity) (hcap : p.arity ≤ capacity) :
    member p t = t.callableParams (letters p.bound p.arity) >>= fun remaining ↦
      (t.partialMemberTemplate.fill
        (.text ∘ values t (letters 0 p.arity) (letters 0 p.bound) remaining)).mapError .template :=
  member_eq_of_named hcap (Int.le_trans h' hcap) (.inl h)

theorem exists_remaining (ht : t.callableParamTemplate.IsPlain)
    (h : p.arity ≤ p.bound ∨ t.callableParamTemplate.fault? = none) :
    ∃ remaining, t.callableParams (letters p.bound p.arity) = .ok remaining := by
  rcases h with hnone | hsound
  · exact ⟨"", by rw [Parameter.letters_eq_nil hnone, Target.callableParams_nil]⟩
  · exact Target.exists_callableParams ht hsound _

theorem fragment_of_unsupported (h : capacity < p.arity) :
    fragment t p = .error (.unsupportedParameter capacity) := by
  rw [fragment, member, Parameter.names_eq_error (Int.le_refl 0) (Int.natCast_nonneg _) h]
  rfl

theorem fragment_of_faulty_callable (ht : t.IsPlain) (h : 0 ≤ p.bound) (h' : p.bound < p.arity)
    (hcap : p.arity ≤ capacity) (hfault : t.callableParamTemplate.fault? = some fault) :
    fragment t p = .error (.template fault) := by
  rw [fragment, member_eq h (Int.le_of_lt h') hcap,
    Target.callableParams_of_faulty ht.callableParamTemplate hfault (Parameter.letters_ne_nil h')]
  rfl

private theorem member_eq_fill (ht : t.IsPlain) (h : 0 ≤ p.bound) (h' : p.bound ≤ p.arity)
    (hcap : p.arity ≤ capacity)
    (hcallable : p.bound = p.arity ∨ t.callableParamTemplate.fault? = none) :
    ∃ shown : MemberField → String,
      member p t = (t.partialMemberTemplate.fill (.text ∘ shown)).mapError .template := by
  obtain ⟨remaining, hremaining⟩ :=
    exists_remaining ht.callableParamTemplate (hcallable.imp_left fun heq ↦ heq.ge)
  exact ⟨_, by rw [member_eq h h' hcap, hremaining]; rfl⟩

theorem fragment_of_faulty (ht : t.IsPlain) (h : 0 ≤ p.bound) (h' : p.bound ≤ p.arity)
    (hcap : p.arity ≤ capacity)
    (hcallable : p.bound = p.arity ∨ t.callableParamTemplate.fault? = none)
    (hfault : t.partialMemberTemplate.fault? = some fault) :
    fragment t p = .error (.template fault) := by
  obtain ⟨shown, hmember⟩ := member_eq_fill ht h h' hcap hcallable
  rw [fragment, hmember,
    Template.fill_of_faulty ht.partialMemberTemplate (Template.shown_text shown) hfault]
  rfl

theorem exists_fragment (ht : t.IsPlain) (h : 0 ≤ p.bound) (h' : p.bound ≤ p.arity)
    (hcap : p.arity ≤ capacity)
    (hcallable : p.bound = p.arity ∨ t.callableParamTemplate.fault? = none)
    (hsound : t.partialMemberTemplate.fault? = none) : ∃ f, fragment t p = .ok f := by
  obtain ⟨shown, hmember⟩ := member_eq_fill ht h h' hcap hcallable
  obtain ⟨text, htext⟩ :=
    Template.exists_fill ht.partialMemberTemplate (Template.shown_text shown) hsound
  exact ⟨_, by rw [fragment, hmember, htext]; rfl⟩

/-- A fragment is there within the capacity only, and its text is the filled member. -/
theorem of_fragment {f : Fragment} (h : 0 ≤ p.bound) (h' : p.bound ≤ p.arity)
    (hf : fragment t p = .ok f) :
    p.arity ≤ capacity ∧ f.arity = p.arity ∧ f.bound = some p.bound ∧ ∃ remaining text,
      t.callableParams (letters p.bound p.arity) = .ok remaining ∧
        t.partialMemberTemplate.fill
          (.text ∘ values t (letters 0 p.arity) (letters 0 p.bound) remaining) = .ok text ∧
        f.text = text := by
  have hcap : p.arity ≤ capacity := by
    by_contra hlarge
    rw [fragment_of_unsupported (Int.not_le.mp hlarge)] at hf
    cases hf
  obtain ⟨text, hmember, hpure⟩ := bind_eq_ok_iff.mp hf
  obtain rfl := Except.ok.inj hpure
  rw [member_eq h h' hcap, bind_eq_ok_iff] at hmember
  obtain ⟨remaining, hremaining, hfill⟩ := hmember
  exact ⟨hcap, rfl, rfl, remaining, text, hremaining, mapError_eq_ok_iff.mp hfill, rfl⟩

end PartialApplication

/-! ## Complement declarations -/

namespace Complement

variable {a : Int}

/-- The texts in a declaration, given the letters and the bounded parameter of the predicate. -/
def values (t : Target) (names : List String) (fn : String) : ComplementField → String
  | .typeParams => Parameter.commaSeparated (names ++ [fn])
  | .fn => t.predicateTypeParam

/-- Within the capacity all letters are there, and what remains is to fill three templates. -/
theorem declare_eq (h : a ≤ capacity) :
    declare a t = t.callableParams (letters 0 a) >>= fun parameters ↦
      t.bound t.predicateTypeParam s!"({parameters}) => boolean" >>= fun fn ↦
        (t.complementDeclarationTemplate.fill
          (.text ∘ values t (letters 0 a) fn)).mapError .template := by
  rw [declare, Parameter.names_eq_ok (Int.le_refl 0) h]
  change (t.callableParams _ >>= fun parameters ↦ t.bound _ _ >>= fun fn ↦ _) = _
  refine bind_congr fun parameters ↦ bind_congr fun fn ↦ ?_
  congr 2
  funext field
  cases field <;> rfl

theorem fragment_of_unsupported (h : capacity < a) :
    fragment t a = .error (.unsupportedParameter capacity) := by
  rw [fragment, declare, Parameter.names_eq_error (Int.le_refl 0) (Int.natCast_nonneg _) h]
  rfl

theorem fragment_of_faulty_callable (ht : t.IsPlain) (h : 0 < a) (hcap : a ≤ capacity)
    (hfault : t.callableParamTemplate.fault? = some fault) :
    fragment t a = .error (.template fault) := by
  have hletters : letters 0 a ≠ [] := by
    rw [← List.length_pos_iff, Parameter.length_letters]
    omega
  rw [fragment, declare_eq hcap,
    Target.callableParams_of_faulty ht.callableParamTemplate hfault hletters]
  rfl

private theorem exists_predicate (ht : t.IsPlain)
    (hcallable : a ≤ 0 ∨ t.callableParamTemplate.fault? = none) :
    ∃ parameters, t.callableParams (letters 0 a) = .ok parameters := by
  rcases hcallable with hnone | hsound
  · have hletters : letters 0 a = [] := by
      rw [← List.length_eq_zero_iff, Parameter.length_letters]
      omega
    exact ⟨"", by rw [hletters, Target.callableParams_nil]⟩
  · exact Target.exists_callableParams ht.callableParamTemplate hsound _

theorem fragment_of_faulty_bound (ht : t.IsPlain) (hcap : a ≤ capacity)
    (hcallable : a ≤ 0 ∨ t.callableParamTemplate.fault? = none)
    (hfault : t.boundTemplate.fault? = some fault) : fragment t a = .error (.template fault) := by
  obtain ⟨parameters, hparameters⟩ := exists_predicate ht hcallable
  rw [fragment, declare_eq hcap, hparameters]
  -- the bounded parameter of the predicate is filled before the declaration around it
  change ((t.bound _ _ >>= _) >>= _) = _
  rw [Target.bound_of_faulty ht.boundTemplate hfault]
  rfl

private theorem declare_eq_fill (ht : t.IsPlain) (hcap : a ≤ capacity)
    (hcallable : a ≤ 0 ∨ t.callableParamTemplate.fault? = none)
    (hbound : t.boundTemplate.fault? = none) :
    ∃ fn, declare a t = (t.complementDeclarationTemplate.fill
      (.text ∘ values t (letters 0 a) fn)).mapError .template := by
  obtain ⟨parameters, hparameters⟩ := exists_predicate ht hcallable
  obtain ⟨fn, hfn⟩ := Target.exists_bound ht.boundTemplate hbound t.predicateTypeParam
    s!"({parameters}) => boolean"
  refine ⟨fn, ?_⟩
  rw [declare_eq hcap, hparameters]
  change t.bound _ _ >>= _ = _
  rw [hfn]
  rfl

theorem fragment_of_faulty (ht : t.IsPlain) (hcap : a ≤ capacity)
    (hcallable : a ≤ 0 ∨ t.callableParamTemplate.fault? = none)
    (hbound : t.boundTemplate.fault? = none)
    (hfault : t.complementDeclarationTemplate.fault? = some fault) :
    fragment t a = .error (.template fault) := by
  obtain ⟨fn, hdeclare⟩ := declare_eq_fill ht hcap hcallable hbound
  rw [fragment, hdeclare,
    Template.fill_of_faulty ht.complementDeclarationTemplate (Template.shown_text _) hfault]
  rfl

theorem exists_fragment (ht : t.IsPlain) (hcap : a ≤ capacity)
    (hcallable : a ≤ 0 ∨ t.callableParamTemplate.fault? = none)
    (hbound : t.boundTemplate.fault? = none)
    (hsound : t.complementDeclarationTemplate.fault? = none) : ∃ f, fragment t a = .ok f := by
  obtain ⟨fn, hdeclare⟩ := declare_eq_fill ht hcap hcallable hbound
  obtain ⟨text, htext⟩ := Template.exists_fill ht.complementDeclarationTemplate
    (Template.shown_text (values t (letters 0 a) fn)) hsound
  exact ⟨_, by rw [fragment, hdeclare, htext]; rfl⟩

/-- A fragment is there within the capacity only, and its text is the filled declaration. -/
theorem of_fragment {f : Fragment} (hf : fragment t a = .ok f) :
    a ≤ capacity ∧ f.arity = a ∧ f.bound = none ∧ ∃ parameters fn text,
      t.callableParams (letters 0 a) = .ok parameters ∧
        t.bound t.predicateTypeParam s!"({parameters}) => boolean" = .ok fn ∧
        t.complementDeclarationTemplate.fill (.text ∘ values t (letters 0 a) fn) = .ok text ∧
        f.text = text := by
  have hcap : a ≤ capacity := by
    by_contra hlarge
    rw [fragment_of_unsupported (Int.not_le.mp hlarge)] at hf
    cases hf
  obtain ⟨text, hdeclare, hpure⟩ := bind_eq_ok_iff.mp hf
  obtain rfl := Except.ok.inj hpure
  rw [declare_eq hcap, bind_eq_ok_iff] at hdeclare
  obtain ⟨parameters, hparameters, hbounded⟩ := hdeclare
  obtain ⟨fn, hfn, hfill⟩ := bind_eq_ok_iff.mp hbounded
  exact ⟨hcap, rfl, rfl, parameters, fn, text, hparameters, hfn, mapError_eq_ok_iff.mp hfill, rfl⟩

end Complement

/-! ## Test cases for complement declarations -/

namespace ComplementTest

variable {a : Int}

/-- The texts in a test case, given the lower-case letters. -/
def values (t : Target) (a : Int) (names : List String) : TestField → String
  | .index => toString a
  | .predicateParams => t.literalList (names.map fun v ↦ s!"{v}: '{v}'")
  | .callArgs => t.literalList (names.map fun v ↦ s!"'{v}'")
  | .negativeCase => negativeCase a t

/-- The values of a test case, which are its texts, but for the position. -/
def valueOf (t : Target) (a : Int) (names : List String) : TestField → Template.Value
  | .index => .number a
  | field => .text (values t a names field)

omit [Template.Formatter] in
theorem shown_valueOf (h : 0 ≤ a) (h' : a ≤ capacity) (t : Target) (names : List String)
    (field : TestField) : (valueOf t a names field).shown = .ok (values t a names field) := by
  have hcapacity := Parameter.capacity_eq
  have ha : Text.IsPrintable a := Text.isPrintable_of_natAbs_lt (by omega)
  cases field with
  | index => rw [valueOf, Template.Value.shown, Text.decimal?_eq_some ha, values]
  | _ => rfl

/-- Within the capacity all letters are there, and what remains is to fill one template. -/
theorem testCase_eq (h : a ≤ capacity) :
    testCase a a t = (t.complementTestTemplate.fill
      (valueOf t a ((letters 0 a).map Text.lower))).mapError .template := by
  rw [testCase, predicateParams, callArgs, Parameter.valueNames_eq_ok (Int.le_refl 0) h]
  change (t.complementTestTemplate.fill _).mapError _ = _
  congr 2
  funext field
  cases field <;> rfl

theorem fragment_of_unsupported (h : capacity < a) :
    fragment t a = .error (.unsupportedParameter capacity) := by
  rw [fragment, testCase, predicateParams,
    Parameter.valueNames_eq_error (Int.le_refl 0) (Int.natCast_nonneg _) h]
  rfl

theorem fragment_of_faulty (ht : t.IsPlain) (h : 0 ≤ a) (hcap : a ≤ capacity)
    (hfault : t.complementTestTemplate.fault? = some fault) :
    fragment t a = .error (.template fault) := by
  rw [fragment, testCase_eq hcap,
    Template.fill_of_faulty ht.complementTestTemplate (shown_valueOf h hcap t _) hfault]
  rfl

theorem exists_fragment (ht : t.IsPlain) (h : 0 ≤ a) (hcap : a ≤ capacity)
    (hsound : t.complementTestTemplate.fault? = none) : ∃ f, fragment t a = .ok f := by
  obtain ⟨text, htext⟩ := Template.exists_fill ht.complementTestTemplate
    (shown_valueOf h hcap t ((letters 0 a).map Text.lower)) hsound
  exact ⟨_, by rw [fragment, testCase_eq hcap, htext]; rfl⟩

/-- A fragment is there within the capacity only, and its text is the filled test case. -/
theorem of_fragment {f : Fragment} (hf : fragment t a = .ok f) :
    a ≤ capacity ∧ f.arity = a ∧ f.bound = none ∧ ∃ text,
      t.complementTestTemplate.fill (valueOf t a ((letters 0 a).map Text.lower)) = .ok text ∧
        f.text = text := by
  have hcap : a ≤ capacity := by
    by_contra hlarge
    rw [fragment_of_unsupported (Int.not_le.mp hlarge)] at hf
    cases hf
  obtain ⟨text, hcase, hpure⟩ := bind_eq_ok_iff.mp hf
  obtain rfl := Except.ok.inj hpure
  rw [testCase_eq hcap] at hcase
  exact ⟨hcap, rfl, rfl, text, mapError_eq_ok_iff.mp hcase, rfl⟩

end ComplementTest

/-! ## Whole runs -/

/-- The fragments of a family for all arities below a bound. -/
def Family.fragments (family : Family) (n : Int) (t : Target) : Except Error (List Fragment) :=
  match family with
  | partialApplication => SplitPoint.below n >>= (·.mapM (PartialApplication.fragment t))
  | complement => aritiesBelow n >>= (·.traverse (Complement.fragment t))
  | complementTest => aritiesBelow n >>= (·.traverse (ComplementTest.fragment t))

/-- What stands between the fragments of a family. -/
def Family.separator (family : Family) (t : Target) : String :=
  match family with
  | partialApplication => t.intersectionSeparator
  | complement => t.declarationSeparator
  | complementTest => t.testSeparator

namespace PartialApplication

variable {n : Int} {fs : List Fragment}

theorem fragments_eq_ok (h : Family.partialApplication.fragments n t = .ok fs) :
    0 ≤ n ∧ (SplitPoint.points n).mapM (fragment t) = .ok fs := by
  obtain ⟨points, hpoints, hfs⟩ := bind_eq_ok_iff.mp h
  obtain ⟨hn, rfl⟩ := SplitPoint.of_below hpoints
  exact ⟨hn, hfs⟩

end PartialApplication

omit [Template.Formatter] in
private theorem traverse_eq_ok {f : Int → Except Error Fragment} {n : Int} {fs : List Fragment}
    (h : (aritiesBelow n >>= (·.traverse f)) = .ok fs) :
    0 ≤ n ∧ (IndexRange.mk 0 n).toList.mapM f = .ok fs := by
  obtain ⟨arities, harities, hfs⟩ := bind_eq_ok_iff.mp h
  rw [aritiesBelow] at harities
  split at harities
  · cases harities
  · rename_i hn
    obtain rfl := Except.ok.inj harities
    rw [IndexRange.traverse_eq_mapM] at hfs
    exact ⟨Int.not_lt.mp hn, hfs⟩

theorem Complement.fragments_eq_ok {n : Int} {fs : List Fragment}
    (h : Family.complement.fragments n t = .ok fs) :
    0 ≤ n ∧ (IndexRange.mk 0 n).toList.mapM (fragment t) = .ok fs :=
  traverse_eq_ok h

theorem ComplementTest.fragments_eq_ok {n : Int} {fs : List Fragment}
    (h : Family.complementTest.fragments n t = .ok fs) :
    0 ≤ n ∧ (IndexRange.mk 0 n).toList.mapM (fragment t) = .ok fs :=
  traverse_eq_ok h

/-- The declaration of a family that certain fragments make. -/
def Family.declarationOf (family : Family) (n : Int) (t : Target) (fragments : List Fragment) :
    Declaration where
  kind := family.name
  target := t.name
  maxArity := n
  separator := family.separator t
  fragments := fragments

/-- A run makes the fragments of its family and puts them together. -/
theorem Family.outcome_declaration (family : Family) {n : Int} (hn : Text.IsPrintable n)
    (t : Target) :
    (family.declaration n t).outcome = (family.fragments n t).map (family.declarationOf n t) := by
  cases family with
  | partialApplication =>
    rw [Family.fragments, map_bind, Family.declaration, PartialApplication.declaration]
    simp only [Logged.outcome_bind, Logged.outcome_attempt, Error.digits_eq_ok hn]
    rfl
  | complement =>
    rw [Family.fragments, map_bind, Family.declaration, Complement.declaration]
    simp only [Logged.outcome_bind, Logged.outcome_attempt]
    rfl
  | complementTest =>
    rw [Family.fragments, map_bind, Family.declaration, ComplementTest.declaration]
    simp only [Logged.outcome_bind, Logged.outcome_attempt]
    rfl

theorem outcome_generate_name (family : Family) {config : Config}
    (hn : Text.IsPrintable config.maxArity) :
    (generate family.name config).outcome =
      (family.fragments config.maxArity config.target).map
        (family.declarationOf config.maxArity config.target) := by
  have hname : Family.ofName? family.name = some family := Family.ofName?_eq_some_iff.mpr rfl
  rw [generate, hname, ← Family.outcome_declaration family hn]
  simp only [Logged.outcome_bind, Logged.outcome_attempt, Error.digits_eq_ok hn]
  rfl

/-- The bound on the arities is recorded first, and that fails if it cannot be written. -/
theorem outcome_generate_unprintable (family : Family) {config : Config}
    (hn : ¬Text.IsPrintable config.maxArity) :
    (generate family.name config).outcome = .error .tooManyDigits := by
  have hname : Family.ofName? family.name = some family := Family.ofName?_eq_some_iff.mpr rfl
  rw [generate, hname]
  simp only [Logged.outcome_bind, Logged.outcome_attempt, Error.digits_eq_error hn]
  rfl

/-- What a run gives is the declaration of a family, made of all its fragments. -/
theorem generate_eq_ok_iff {name : String} {config : Config} {d : Declaration} :
    (generate name config).outcome = .ok d ↔
      ∃ (family : Family) (fragments : List Fragment), name = family.name ∧
        Text.IsPrintable config.maxArity ∧
        family.fragments config.maxArity config.target = .ok fragments ∧
        d = family.declarationOf config.maxArity config.target fragments := by
  constructor
  · intro h
    cases hname : Family.ofName? name with
    | none =>
      rw [generate, hname] at h
      cases h
    | some family =>
      obtain rfl := Family.ofName?_eq_some_iff.mp hname
      by_cases hn : Text.IsPrintable config.maxArity
      · rw [outcome_generate_name family hn, map_eq_ok_iff] at h
        obtain ⟨fragments, hfragments, rfl⟩ := h
        exact ⟨family, fragments, rfl, hn, hfragments, rfl⟩
      · rw [outcome_generate_unprintable family hn] at h
        cases h
  · rintro ⟨family, fragments, rfl, hn, hfragments, rfl⟩
    rw [outcome_generate_name family hn, hfragments]
    rfl

theorem Family.fragments_of_generate (family : Family) {config : Config} {d : Declaration}
    (h : (generate family.name config).outcome = .ok d) :
    family.fragments config.maxArity config.target = .ok d.fragments := by
  obtain ⟨family', fragments, hname, -, hfragments, rfl⟩ := generate_eq_ok_iff.mp h
  obtain rfl := Family.name_inj hname
  exact hfragments

end PerArity
