import PerArity.Formatting
import PerArity.Proofs.Nesting
import PerArity.Proofs.Outcome

/-!
# Balanced declarations

Generated text is put together by filling templates and joining texts. Joining balanced texts gives
a balanced text. Filling is an insertion: the characters of a template that stand for themselves are
nested, and a balanced value that is inserted between them leaves what is to be closed as it was
(`Template.passAll_join`). So if everything that a target supplies is balanced, the fragments are,
layer by layer, from the parameters of a function type to the declaration.
-/

namespace PerArity

open Parameter (capacity letters)
open Text (Nested)

/-! ## Templates -/

namespace Template

variable {F : Type}

/-- The characters of a template without its fields, doubled braces counting once. -/
def literals (ps : List (Part F)) : List Char :=
  ps.flatMap fun
    | .literal c => [c]
    | .field _ => []

private theorem literals_cons (p : Part F) (ps : List (Part F)) :
    literals (p :: ps) = literals [p] ++ literals ps :=
  (List.flatMap_append : ([p] ++ ps).flatMap _ = _)

/-- Without its placeholders the template is nested. Nothing is asked of a template with a fault,
because no text is made of it. -/
def Balanced [Field F] (t : Template F) : Prop := ∀ ps, t.parts = .ok ps → Nested (literals ps)

/-- Balanced texts do not change what is to be closed after a template. -/
theorem passAll_join {shown : F → String} (hshown : ∀ f, Text.Balanced (shown f))
    (ps : List (Part F)) (due : List Char) :
    Text.passAll due (String.join (ps.map (·.text shown))).toList =
      Text.passAll due (literals ps) := by
  induction ps generalizing due with
  | nil => rfl
  | cons p ps ih =>
    have hpart : Text.passAll due (p.text shown).toList = Text.passAll due (literals [p]) := by
      cases p with
      | literal c => rw [Part.text, String.toList_singleton]; rfl
      | field f => exact Nested.passAll (hshown f) due
    rw [List.map_cons, String.join_cons, String.toList_append, Text.passAll_append, hpart,
      literals_cons p ps, Text.passAll_append]
    congr 1
    funext due
    exact ih due

variable [Field F] [Formatter]

/-- **A plain and balanced template filled with balanced texts gives a balanced text.** -/
theorem balanced_fill {t : Template F} (hplain : t.IsPlain) (ht : t.Balanced) {value : F → Value}
    {shown : F → String} (hvalue : ∀ f, (value f).shown = .ok (shown f))
    (hshown : ∀ f, Text.Balanced (shown f)) {s : String} (h : t.fill value = .ok s) :
    Text.Balanced s := by
  rw [fill_eq hplain hvalue] at h
  obtain ⟨ps, hps, rfl⟩ := map_eq_ok_iff.mp h
  refine Text.nested_of_passAll ?_
  rw [passAll_join hshown]
  exact (ht ps hps).passAll []

end Template

/-! ## Targets -/

/-- A target that supplies nothing but balanced texts and templates. -/
structure Target.Balanced (t : Target) : Prop where
  /-- A bounded type parameter. -/
  boundTemplate : t.boundTemplate.Balanced
  /-- A parameter inside a function type. -/
  callableParamTemplate : t.callableParamTemplate.Balanced
  /-- A signature of partial application. -/
  partialMemberTemplate : t.partialMemberTemplate.Balanced
  /-- A complement declaration. -/
  complementDeclarationTemplate : t.complementDeclarationTemplate.Balanced
  /-- A test case. -/
  complementTestTemplate : t.complementTestTemplate.Balanced
  /-- What stands between the members of an intersection. -/
  intersectionSeparator : Text.Balanced t.intersectionSeparator
  /-- What stands between declarations. -/
  declarationSeparator : Text.Balanced t.declarationSeparator
  /-- What stands between test cases. -/
  testSeparator : Text.Balanced t.testSeparator
  /-- The type parameter for a result. -/
  returnTypeParam : Text.Balanced t.returnTypeParam
  /-- The type parameter for a predicate. -/
  predicateTypeParam : Text.Balanced t.predicateTypeParam
  /-- The comment that announces a type error. -/
  expectError : Text.Balanced t.expectError
  /-- The comment in place of a call that must be rejected. -/
  noNegativeCase : Text.Balanced t.noNegativeCase

namespace Target

/-- The nesting of a template that is read from its characters can be evaluated. -/
private theorem balanced_of_toList {F : Type} [Template.Field F] {t : Template F} {cs : List Char}
    (hsource : t.source.toList = cs)
    (hread : (Template.partsOf (Template.read (F := F) .outside cs)).toOption.all
      (fun ps ↦ decide (Nested (Template.literals ps))) = true) : t.Balanced := by
  intro ps hps
  rw [Template.parts, Template.pieces, hsource] at hps
  rw [hps] at hread
  exact of_decide_eq_true hread

theorem balanced_flow : flow.Balanced where
  boundTemplate := balanced_of_toList String.toList_ofList (by decide +kernel)
  callableParamTemplate := balanced_of_toList String.toList_ofList (by decide +kernel)
  partialMemberTemplate := balanced_of_toList
    (toList_append_eq String.toList_ofList String.toList_ofList) (by decide +kernel)
  complementDeclarationTemplate := balanced_of_toList String.toList_ofList (by decide +kernel)
  complementTestTemplate := balanced_of_toList
    (toList_append_eq (toList_append_eq String.toList_ofList String.toList_ofList)
      String.toList_ofList) (by decide +kernel)
  intersectionSeparator := by decide +kernel
  declarationSeparator := by decide +kernel
  testSeparator := by decide +kernel
  returnTypeParam := by decide +kernel
  predicateTypeParam := by decide +kernel
  expectError := by decide +kernel
  noNegativeCase := by decide +kernel

theorem balanced_typescript : typescript.Balanced where
  boundTemplate := balanced_of_toList String.toList_ofList (by decide +kernel)
  callableParamTemplate := balanced_of_toList String.toList_ofList (by decide +kernel)
  -- what a target does not set is what the other one has
  partialMemberTemplate := balanced_flow.partialMemberTemplate
  complementDeclarationTemplate := balanced_flow.complementDeclarationTemplate
  complementTestTemplate := balanced_flow.complementTestTemplate
  intersectionSeparator := balanced_flow.intersectionSeparator
  declarationSeparator := balanced_flow.declarationSeparator
  testSeparator := balanced_flow.testSeparator
  returnTypeParam := balanced_flow.returnTypeParam
  predicateTypeParam := balanced_flow.predicateTypeParam
  expectError := by decide +kernel
  noNegativeCase := balanced_flow.noNegativeCase

theorem balanced_of_mem_registered {t : Target} (h : t ∈ registered) : t.Balanced := by
  rcases mem_registered.mp h with rfl | rfl
  · exact balanced_flow
  · exact balanced_typescript

variable [Template.Formatter] {t : Target} {s : String}

theorem balanced_bound (hplain : t.boundTemplate.IsPlain) (ht : t.boundTemplate.Balanced)
    {name bound : String} (hname : Text.Balanced name) (hbound : Text.Balanced bound)
    (h : t.bound name bound = .ok s) : Text.Balanced s := by
  rw [bound_eq_fill] at h
  refine Template.balanced_fill hplain ht (Template.shown_text _) ?_ (mapError_eq_ok_iff.mp h)
  intro f
  cases f with
  | name => exact hname
  | bound => exact hbound

omit [Template.Formatter] in
theorem balanced_commaSeparated {items : List String} (h : ∀ s ∈ items, Text.Balanced s) :
    Text.Balanced (Parameter.commaSeparated items) :=
  Text.balanced_intercalate (by decide +kernel) h

theorem balanced_callableParams (hplain : t.callableParamTemplate.IsPlain)
    (ht : t.callableParamTemplate.Balanced) {names : List String}
    (hnames : ∀ name ∈ names, Text.Balanced name ∧ Text.Balanced (Text.lower name))
    (h : t.callableParams names = .ok s) : Text.Balanced s := by
  obtain ⟨parameters, hparameters, rfl⟩ := map_eq_ok_iff.mp h
  refine balanced_commaSeparated ?_
  intro parameter hmem
  obtain ⟨name, hname, hfill⟩ := exists_of_mem_mapM hparameters hmem
  rw [callableParam_eq_fill] at hfill
  refine Template.balanced_fill hplain ht (Template.shown_text _) ?_ (mapError_eq_ok_iff.mp hfill)
  intro f
  cases f with
  | value => exact (hnames name hname).2
  | type => exact (hnames name hname).1

omit [Template.Formatter] in
theorem balanced_literalList (t : Target) {items : List String}
    (h : ∀ s ∈ items, Text.Balanced s) : Text.Balanced (t.literalList items) := by
  rw [literalList]
  split
  · exact (balanced_commaSeparated h).append (by decide +kernel)
  · exact balanced_commaSeparated h

end Target

/-! ## Letters -/

theorem Parameter.balanced_of_mem_letters {start stop : Int} (h : 0 ≤ start) (h' : stop ≤ capacity)
    {name : String} (hname : name ∈ letters start stop) :
    Text.Balanced name ∧ Text.Balanced (Text.lower name) := by
  have hall : ∀ k : Fin capacity, Text.isDelimiter (letter k) = false ∧
      Text.isDelimiter (Text.lowerChar (letter k)) = false := by decide +kernel
  obtain ⟨k, rfl⟩ := exists_letter_of_mem_letters h h' hname
  obtain ⟨hupper, hlower⟩ := hall k
  rw [lower_letter, Text.Balanced, Text.Balanced, String.toList_singleton, String.toList_singleton]
  exact ⟨.plain hupper .nil, .plain hlower .nil⟩

section

/-! ## Fragments -/

variable [Template.Formatter] {t : Target} {n : Int} {fs : List Fragment}

theorem PartialApplication.balanced_fragments (hplain : t.IsPlain) (ht : t.Balanced)
    (h : Family.partialApplication.fragments n t = .ok fs) : ∀ f ∈ fs, f.text.Balanced := by
  intro f hf
  obtain ⟨p, hp, hfragment⟩ := exists_of_mem_mapM (fragments_eq_ok h).2 hf
  obtain ⟨hpos, hle, -⟩ := SplitPoint.mem_points.mp hp
  have hbound : 0 ≤ p.bound := Int.le_of_lt hpos
  obtain ⟨hcap, -, -, remaining, text, hremaining, hfill, htext⟩ :=
    of_fragment hbound hle hfragment
  have hletters : ∀ stop ≤ p.arity, ∀ name ∈ letters 0 stop, Text.Balanced name := by
    intro stop hstop name hname
    exact (Parameter.balanced_of_mem_letters (Int.le_refl 0) (Int.le_trans hstop hcap) hname).1
  rw [htext, RawText.balanced_ofString]
  refine Template.balanced_fill hplain.partialMemberTemplate ht.partialMemberTemplate
    (Template.shown_text _) ?_ hfill
  intro field
  cases field with
  | typeParams =>
    refine Target.balanced_commaSeparated ?_
    rw [List.forall_mem_append, List.forall_mem_singleton]
    exact ⟨hletters _ (Int.le_refl _), ht.returnTypeParam⟩
  | allParams => exact Target.balanced_commaSeparated (hletters _ (Int.le_refl _))
  | boundParams => exact Target.balanced_commaSeparated (hletters _ hle)
  | remainingParams =>
    exact Target.balanced_callableParams hplain.callableParamTemplate ht.callableParamTemplate
      (fun name ↦ Parameter.balanced_of_mem_letters hbound hcap) hremaining
  | ret => exact ht.returnTypeParam

theorem Complement.balanced_fragments (hplain : t.IsPlain) (ht : t.Balanced)
    (h : Family.complement.fragments n t = .ok fs) : ∀ f ∈ fs, f.text.Balanced := by
  intro f hf
  obtain ⟨a, -, hfragment⟩ := exists_of_mem_mapM (fragments_eq_ok h).2 hf
  obtain ⟨hcap, -, -, parameters, fn, text, hparameters, hfn, hfill, htext⟩ :=
    of_fragment hfragment
  have hletters : ∀ name ∈ letters 0 a, Text.Balanced name ∧ Text.Balanced (Text.lower name) :=
    fun name ↦ Parameter.balanced_of_mem_letters (Int.le_refl 0) hcap
  -- the parameters stand between parentheses in the bound of the predicate
  have hpredicate : Text.Balanced s!"({parameters}) => boolean" :=
    Text.Balanced.insert (a := "(") (b := ") => boolean") (by decide +kernel)
      (Target.balanced_callableParams hplain.callableParamTemplate ht.callableParamTemplate
        hletters hparameters)
  rw [htext, RawText.balanced_ofString]
  refine Template.balanced_fill hplain.complementDeclarationTemplate
    ht.complementDeclarationTemplate (Template.shown_text _) ?_ hfill
  intro field
  cases field with
  | typeParams =>
    refine Target.balanced_commaSeparated ?_
    rw [List.forall_mem_append, List.forall_mem_singleton]
    exact ⟨fun name hname ↦ (hletters name hname).1,
      Target.balanced_bound hplain.boundTemplate ht.boundTemplate ht.predicateTypeParam hpredicate
        hfn⟩
  | fn => exact ht.predicateTypeParam

omit [Template.Formatter] in
theorem ComplementTest.balanced_negativeCase (ht : t.Balanced) (a : Int) :
    Text.Balanced (negativeCase a t) := by
  rw [negativeCase]
  split
  · exact Text.Balanced.append (by decide +kernel) ht.noNegativeCase
  · -- the call without its numbers is balanced, and the numbers are inserted
    have hcall : Text.Balanced ("  " ++ t.expectError ++ ("
  fn(" ++ ")")) :=
      Text.Balanced.insert (by decide +kernel) ht.expectError
    rw [← String.append_assoc] at hcall
    refine hcall.insert (Target.balanced_commaSeparated ?_)
    intro s hs
    obtain ⟨i, -, rfl⟩ := List.mem_map.mp hs
    exact Text.balanced_int i

theorem ComplementTest.balanced_fragments (hplain : t.IsPlain) (ht : t.Balanced)
    (h : Family.complementTest.fragments n t = .ok fs) : ∀ f ∈ fs, f.text.Balanced := by
  intro f hf
  obtain ⟨a, ha, hfragment⟩ := exists_of_mem_mapM (fragments_eq_ok h).2 hf
  obtain ⟨hnonneg, -⟩ := IndexRange.mem_toList.mp ha
  obtain ⟨hcap, -, -, text, hfill, htext⟩ := of_fragment hfragment
  have hlower : ∀ v ∈ (letters 0 a).map Text.lower, Text.Balanced v := by
    intro v hv
    obtain ⟨name, hname, rfl⟩ := List.mem_map.mp hv
    exact (Parameter.balanced_of_mem_letters (Int.le_refl 0) hcap hname).2
  rw [htext, RawText.balanced_ofString]
  refine Template.balanced_fill hplain.complementTestTemplate ht.complementTestTemplate
    (shown_valueOf hnonneg hcap t _) ?_ hfill
  intro field
  cases field with
  | index => exact Text.balanced_int a
  | predicateParams =>
    refine t.balanced_literalList ?_
    intro s hs
    obtain ⟨v, hv, rfl⟩ := List.mem_map.mp hs
    have hbefore : Text.Balanced (v ++ ": '") := (hlower v hv).append (by decide +kernel)
    exact (hbefore.append (hlower v hv)).append (by decide +kernel)
  | callArgs =>
    refine t.balanced_literalList ?_
    intro s hs
    obtain ⟨v, hv, rfl⟩ := List.mem_map.mp hs
    exact Text.Balanced.insert (a := "'") (b := "'") (by decide +kernel) (hlower v hv)
  | negativeCase => exact balanced_negativeCase ht a

/-! ## Declarations -/

/-- **Delimiters stay balanced.** Both registered targets supply nothing but balanced texts and
templates. And whatever plain target does so, all fragments of a declaration that is generated for
it are balanced, and so is the text that they are joined to. -/
theorem balanced_generate :
    (∀ t ∈ Target.registered, t.IsPlain ∧ t.Balanced) ∧
    ∀ (name : String) (config : Config) (d : Declaration),
      config.target.IsPlain → config.target.Balanced → (generate name config).outcome = .ok d →
        (∀ f ∈ d.fragments, f.text.Balanced) ∧ d.text.Balanced := by
  refine ⟨fun t ht ↦ ?_, ?_⟩
  · exact ⟨(Target.sound_of_mem_registered ht).isPlain, Target.balanced_of_mem_registered ht⟩
  intro name config d hplain ht hd
  obtain ⟨family, fragments, -, -, hfragments, rfl⟩ := generate_eq_ok_iff.mp hd
  have htexts : ∀ f ∈ fragments, f.text.Balanced := by
    cases family with
    | partialApplication => exact PartialApplication.balanced_fragments hplain ht hfragments
    | complement => exact Complement.balanced_fragments hplain ht hfragments
    | complementTest => exact ComplementTest.balanced_fragments hplain ht hfragments
  have hseparator : RawText.Balanced (family.separator config.target) := by
    rw [RawText.balanced_ofString]
    cases family with
    | partialApplication => exact ht.intersectionSeparator
    | complement => exact ht.declarationSeparator
    | complementTest => exact ht.testSeparator
  refine ⟨htexts, RawText.balanced_intercalate hseparator ?_⟩
  rw [List.forall_mem_map]
  exact htexts

end

attribute [local instance] Template.Formatter.standard

/-- A target of one's own whose names and separators have delimiters in them. -/
theorem balanced_generate_own :
    let own : Target :=
      { Target.typescript with
        returnTypeParam := "Tuple<[R, (x: R) => []]>"
        intersectionSeparator := " & (\x7b\x7d) &\n" }
    let config : Config := { maxArity := 5, target := own, outputRoot := ⟨.root, []⟩ }
    own.IsPlain ∧ own.Balanced ∧ ∃ d, (generate "partial" config).outcome = .ok d ∧
      (∀ f ∈ d.fragments, f.text.Balanced) ∧ d.text.Balanced := by
  intro own config
  obtain ⟨hregistered, hgenerate⟩ := balanced_generate
  obtain ⟨-, hbase⟩ := hregistered Target.typescript (Target.mem_registered.mpr (.inr rfl))
  have hown : own.Balanced :=
    { hbase with
      returnTypeParam := by decide +kernel
      intersectionSeparator := by decide +kernel }
  have hsound : config.target.Sound := { Target.sound_typescript with }
  obtain ⟨d, hd⟩ := exists_generate_of_sound hsound (by decide) (by decide) .partialApplication
  exact ⟨hsound.isPlain, hown, d, hd, hgenerate _ config d hsound.isPlain hown hd⟩

/-- Nothing but a placeholder that fills its value up with parentheses, so the template is balanced
without it, and its texts are not. -/
theorem unbalanced_generate_of_spec :
    let own : Target := { Target.flow with partialMemberTemplate := ⟨"\x7bret:(>5\x7d"⟩ }
    let config : Config := { maxArity := 2, target := own, outputRoot := ⟨.root, []⟩ }
    own.Balanced ∧ ∃ d, (generate "partial" config).outcome = .ok d ∧
      ∃ f ∈ d.fragments, f.text = ("((((R" : RawText) ∧ ¬f.text.Balanced := by
  intro own config
  have hown : own.Balanced :=
    { Target.balanced_flow with
      partialMemberTemplate :=
        Target.balanced_of_toList String.toList_ofList (by decide +kernel) }
  have hrun : (generate "partial" config).outcome =
      .ok (Family.partialApplication.declarationOf 2 own [⟨1, ("((((R" : String), some 1⟩]) := by
    decide +kernel
  exact ⟨hown, _, hrun, _, List.mem_singleton_self _, rfl, by decide +kernel⟩

end PerArity
