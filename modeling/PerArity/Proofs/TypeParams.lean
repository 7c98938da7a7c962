import PerArity.Proofs.Outcome

/-!
# Whether type parameters collide

A fragment of partial application or of the complement declares the letters of its arity and, after
them, one name that its target has fixed: the name for the result, or the name for the predicate.
The letters differ from each other, so two declared names can only be the same when the fixed name
is one of the letters (`Parameter.nodup_letters_append_iff`). The registered targets call the
predicate `Fn`, which is no letter at all. They call the result `R`, and that is the letter at index
17: every fragment of partial application for eighteen or more parameters declares it twice.
-/

namespace PerArity

open Parameter (capacity letters)

section

variable [Template.Formatter] {t : Target} {n : Int} {fs : List Fragment} {f : Fragment}

/-! ## What a fragment declares -/

namespace PartialApplication

/-- The text of a member whose type parameters are the given names and then the result. -/
def Declares (t : Target) (names : List String) (text : RawText) : Prop :=
  ∃ (value : MemberField → Template.Value) (s : String),
    value .typeParams = .text (Parameter.commaSeparated (names ++ [t.returnTypeParam])) ∧
      t.partialMemberTemplate.fill value = .ok s ∧ text = s

theorem declares_of_mem (h : Family.partialApplication.fragments n t = .ok fs) (hf : f ∈ fs) :
    f.arity ≤ capacity ∧ f.arity < n ∧ Declares t (letters 0 f.arity) f.text := by
  obtain ⟨p, hp, hfragment⟩ := exists_of_mem_mapM (fragments_eq_ok h).2 hf
  obtain ⟨hpos, hle, hlt⟩ := SplitPoint.mem_points.mp hp
  have hbound : 0 ≤ p.bound := Int.le_of_lt hpos
  obtain ⟨hcap, harity, -, remaining, text, -, hfill, htext⟩ := of_fragment hbound hle hfragment
  rw [harity]
  exact ⟨hcap, hlt, _, text, rfl, hfill, htext⟩

theorem exists_arity_eq (h : Family.partialApplication.fragments n t = .ok fs) {a : Int}
    (hpos : 0 < a) (hlt : a < n) : ∃ f ∈ fs, f.arity = a := by
  have hp : ⟨a, 1⟩ ∈ SplitPoint.points n := SplitPoint.mem_points.mpr ⟨Int.le_refl 1, hpos, hlt⟩
  obtain ⟨f, hf, hfragment⟩ := exists_mem_of_mapM (fragments_eq_ok h).2 hp
  have hone : (0 : Int) ≤ (SplitPoint.mk a 1).bound := Int.one_nonneg
  obtain ⟨-, harity, -⟩ := of_fragment hone hpos hfragment
  exact ⟨f, hf, harity⟩

end PartialApplication

namespace Complement

/-- The text of a declaration whose type parameters are the given names and then the predicate with
its bound. -/
def Declares (t : Target) (names : List String) (text : RawText) : Prop :=
  ∃ (predicate bounded : String) (value : ComplementField → Template.Value) (s : String),
    t.bound t.predicateTypeParam predicate = .ok bounded ∧
      value .typeParams = .text (Parameter.commaSeparated (names ++ [bounded])) ∧
        t.complementDeclarationTemplate.fill value = .ok s ∧ text = s

theorem declares_of_mem (h : Family.complement.fragments n t = .ok fs) (hf : f ∈ fs) :
    f.arity ≤ capacity ∧ Declares t (letters 0 f.arity) f.text := by
  obtain ⟨a, -, hfragment⟩ := exists_of_mem_mapM (fragments_eq_ok h).2 hf
  obtain ⟨hcap, rfl, -, parameters, fn, text, -, hfn, hfill, htext⟩ := of_fragment hfragment
  exact ⟨hcap, _, fn, _, text, hfn, rfl, hfill, htext⟩

end Complement

/-! ## The fixed names -/

omit [Template.Formatter] in
theorem Target.returnTypeParam_mem_letters_iff (h : t ∈ registered) {a : Int} (ha : a ≤ capacity) :
    t.returnTypeParam ∈ letters 0 a ↔ 17 < a := by
  have hletter : t.returnTypeParam = Parameter.letterAt 17 := by
    rcases mem_registered.mp h with rfl | rfl <;> rfl
  rw [hletter, Parameter.letterAt_mem_letters_iff (by decide) (by decide) (Int.le_refl 0) ha]
  exact and_iff_right (by decide)

omit [Template.Formatter] in
theorem Target.predicateTypeParam_notMem_letters (h : t ∈ registered) (a : Int) :
    t.predicateTypeParam ∉ letters 0 a := by
  have hlength : t.predicateTypeParam.length = 2 := by
    rcases mem_registered.mp h with rfl | rfl <;> rfl
  intro hmem
  rw [Parameter.length_of_mem_letters hmem] at hlength
  cases hlength

/-! ## Collisions -/

/-- **Type parameters collide from eighteen parameters on**, and only in partial application. Take
any target that calls the result and the predicate what a registered target calls them. A fragment
of partial application declares its letters and the result without a repetition exactly when its
arity is below eighteen, so a run has fragments with a repetition exactly when its bound is above
eighteen. A fragment of the complement never repeats a name. -/
theorem typeParams_nodup_iff {config : Config} {s : Target} (hs : s ∈ Target.registered)
    (hret : config.target.returnTypeParam = s.returnTypeParam)
    (hfn : config.target.predicateTypeParam = s.predicateTypeParam) :
    (∀ d, (generate "partial" config).outcome = .ok d →
      (∀ f ∈ d.fragments, ∃ names, Parameter.names ⟨0, f.arity⟩ = .ok names ∧
        PartialApplication.Declares config.target names f.text ∧
          ((names ++ [config.target.returnTypeParam]).Nodup ↔ f.arity < 18)) ∧
      ((∃ f ∈ d.fragments, 18 ≤ f.arity) ↔ 18 < config.maxArity)) ∧
    ∀ d, (generate "complement" config).outcome = .ok d →
      ∀ f ∈ d.fragments, ∃ names, Parameter.names ⟨0, f.arity⟩ = .ok names ∧
        Complement.Declares config.target names f.text ∧
          (names ++ [config.target.predicateTypeParam]).Nodup := by
  constructor
  · intro d hd
    have hfs := Family.partialApplication.fragments_of_generate hd
    constructor
    · intro f hf
      obtain ⟨hcap, -, hdeclares⟩ := PartialApplication.declares_of_mem hfs hf
      refine ⟨_, Parameter.names_eq_ok (Int.le_refl 0) hcap, hdeclares, ?_⟩
      rw [Parameter.nodup_letters_append_iff (Int.le_refl 0) hcap, hret,
        Target.returnTypeParam_mem_letters_iff hs hcap]
      omega
    · constructor
      · rintro ⟨f, hf, hlarge⟩
        obtain ⟨-, hlt, -⟩ := PartialApplication.declares_of_mem hfs hf
        omega
      · intro hlarge
        obtain ⟨f, hf, harity⟩ := PartialApplication.exists_arity_eq hfs (by decide) hlarge
        exact ⟨f, hf, Int.le_of_eq harity.symm⟩
  · intro d hd f hf
    have hfs := Family.complement.fragments_of_generate hd
    obtain ⟨hcap, hdeclares⟩ := Complement.declares_of_mem hfs hf
    refine ⟨_, Parameter.names_eq_ok (Int.le_refl 0) hcap, hdeclares, ?_⟩
    rw [Parameter.nodup_letters_append_iff (Int.le_refl 0) hcap, hfn]
    exact Target.predicateTypeParam_notMem_letters hs f.arity

end

attribute [local instance] Template.Formatter.standard

/-- The arities below nineteen, in a target that shares its fixed names with a registered one: a
fragment of partial application declares the result twice, the complement repeats nothing. -/
theorem typeParams_nodup_iff_below_nineteen :
    let own : Target := { Target.typescript with name := "own", commentPrefix := "#" }
    let config : Config := { maxArity := 19, target := own, outputRoot := ⟨.root, []⟩ }
    (∃ d, (generate "partial" config).outcome = .ok d ∧
      ∃ f ∈ d.fragments, ∃ names, Parameter.names ⟨0, f.arity⟩ = .ok names ∧
        PartialApplication.Declares own names f.text ∧ ¬(names ++ [own.returnTypeParam]).Nodup) ∧
    ∃ d, (generate "complement" config).outcome = .ok d ∧
      ∀ f ∈ d.fragments, ∃ names, Parameter.names ⟨0, f.arity⟩ = .ok names ∧
        Complement.Declares own names f.text ∧ (names ++ [own.predicateTypeParam]).Nodup := by
  intro own config
  have hsound : config.target.Sound :=
    ⟨Target.sound_typescript.bound, Target.sound_typescript.callableParam,
      Target.sound_typescript.partialMember, Target.sound_typescript.complementDeclaration,
      Target.sound_typescript.complementTest⟩
  have hrun := exists_generate_of_sound hsound (by decide) (by decide)
  have hret : config.target.returnTypeParam = Target.flow.returnTypeParam := rfl
  have hfn : config.target.predicateTypeParam = Target.flow.predicateTypeParam := rfl
  obtain ⟨hpartial, hcomplement⟩ := typeParams_nodup_iff List.mem_cons_self hret hfn
  constructor
  · obtain ⟨d, hd⟩ := hrun .partialApplication
    obtain ⟨hfragments, hlarge⟩ := hpartial d hd
    obtain ⟨f, hf, harity⟩ := hlarge.mpr (by decide)
    obtain ⟨names, hnames, hdeclares, hnodup⟩ := hfragments f hf
    refine ⟨d, hd, f, hf, names, hnames, hdeclares, ?_⟩
    rw [hnodup]
    exact Int.not_lt.mpr harity
  · obtain ⟨d, hd⟩ := hrun .complement
    exact ⟨d, hd, hcomplement d hd⟩

end PerArity
