import PerArity.Target
import PerArity.Proofs.Traversal

/-!
# Whether a template can be filled

A plain template has two sorts of parts, characters that stand for themselves and fields, and if it
cannot be read to its end, then that is its fault. So filling it is a map over its parts
(`Template.fill_eq`): whether this succeeds is decided before any value is known, as long as the
values themselves can be written. What a filled part of a target leads to is therefore decided by
the fault of its template. Parameters of a function type are filled one by one, which makes a faulty
template harmless where there are no parameters.

Nothing of the kind holds of extended placeholders, which may suit some values and not others.
-/

namespace PerArity

namespace Template

variable {F : Type}

/-! ## Plain templates -/

/-- A part of a plain template. -/
inductive Part (F : Type) where
  /-- A character that stands for itself. -/
  | literal (c : Char)
  /-- A place for a value. -/
  | field (f : F)

/-- A part with a text in the place of a field. -/
def Part.text (shown : F → String) : Part F → String
  | literal c => String.singleton c
  | field f => shown f

/-- The parts that pieces stand for, or their leftmost fault. Extended placeholders have none. -/
def partsOf : List (Piece F) → Except Fault (List (Part F))
  | [] => .ok []
  | .literal c :: ps => (partsOf ps).map (.literal c :: ·)
  | .field f :: ps => (partsOf ps).map (.field f :: ·)
  | .extended _ :: ps => partsOf ps
  | .broken fault :: _ => .error fault

variable [Field F] {t : Template F} {fault : Fault}

/-- The parts of a plain template, or its leftmost fault. -/
def parts (t : Template F) : Except Fault (List (Part F)) := partsOf t.pieces

/-- The leftmost fault of a plain template, if it has one. -/
def fault? (t : Template F) : Option Fault :=
  match t.parts with
  | .ok _ => none
  | .error fault => some fault

theorem fault?_eq_some_iff : t.fault? = some fault ↔ t.parts = .error fault := by
  rw [fault?]
  cases t.parts <;> simp

theorem fault?_eq_none_iff : t.fault? = none ↔ ∃ ps, t.parts = .ok ps := by
  rw [fault?]
  cases t.parts <;> simp

/-! ## Literal characters -/

omit [Field F] in
private theorem mem_of_partsOf {ps : List (Piece F)} {qs : List (Part F)} {c : Char}
    (h : partsOf ps = .ok qs) (hc : .literal c ∈ qs) : .literal c ∈ ps := by
  fun_induction partsOf ps generalizing qs with
  | case1 =>
    obtain rfl := Except.ok.inj h
    cases hc
  | case2 d ps ih =>
    obtain ⟨rest, hrest, rfl⟩ := map_eq_ok_iff.mp h
    rcases List.mem_cons.mp hc with heq | hmem
    · rw [Part.literal.inj heq]
      exact List.mem_cons_self
    · exact List.mem_cons_of_mem _ (ih hrest hmem)
  | case3 f ps ih =>
    obtain ⟨rest, hrest, rfl⟩ := map_eq_ok_iff.mp h
    rcases List.mem_cons.mp hc with heq | hmem
    · cases heq
    · exact List.mem_cons_of_mem _ (ih hrest hmem)
  | case4 e ps ih => exact List.mem_cons_of_mem _ (ih h hc)
  | case5 => cases h

private theorem mem_of_read {scan : Scan} {cs : List Char} {c : Char}
    (h : .literal c ∈ read (F := F) scan cs) : c ∈ cs := by
  -- a literal is the first of the characters, or it is read from those behind
  fun_induction read (F := F) scan cs <;> simp_all [Opening.close] <;> grind

/-- A template has its literal characters from its source. -/
theorem mem_source_of_mem_parts {ps : List (Part F)} {c : Char} (h : t.parts = .ok ps)
    (hc : .literal c ∈ ps) : c ∈ t.source.toList :=
  mem_of_read (mem_of_partsOf h hc)

/-! ## Filling -/

variable [Formatter] {value : F → Value} {shown : F → String}

omit [Field F] [Formatter] in
theorem shown_text (shown : F → String) (f : F) :
    ((Value.text ∘ shown) f).shown = .ok (shown f) := rfl

omit [Field F] in
private theorem mapM_fill {ps : List (Piece F)} (hplain : ps.all Piece.isPlain = true)
    (hshown : ∀ f, (value f).shown = .ok (shown f)) (expand : List Char → Except Fault String) :
    ps.mapM (Piece.fill value expand) = (partsOf ps).map (·.map (Part.text shown)) := by
  induction ps with
  | nil => rfl
  | cons p ps ih =>
    rw [List.all_cons, Bool.and_eq_true] at hplain
    obtain ⟨hp, hps⟩ := hplain
    rw [List.mapM_cons, ih hps]
    cases p with
    | literal c => rw [partsOf, Piece.fill]; cases partsOf ps <;> rfl
    | field f => rw [partsOf, Piece.fill, hshown]; cases partsOf ps <;> rfl
    | extended e => cases hp
    | broken fault => rfl

/-- **A plain template is filled part by part.** -/
theorem fill_eq (hplain : t.IsPlain) (hshown : ∀ f, (value f).shown = .ok (shown f)) :
    t.fill value = t.parts.map fun ps ↦ String.join (ps.map (·.text shown)) := by
  change (t.pieces.mapM (Piece.fill value (fillChars value 1))).map String.join = _
  rw [mapM_fill hplain hshown, parts]
  cases partsOf t.pieces <;> rfl

theorem fill_of_faulty (hplain : t.IsPlain) (hshown : ∀ f, (value f).shown = .ok (shown f))
    (h : t.fault? = some fault) :
    (t.fill value).mapError Error.template = .error (.template fault) := by
  rw [fill_eq hplain hshown, fault?_eq_some_iff.mp h]
  rfl

theorem exists_fill (hplain : t.IsPlain) (hshown : ∀ f, (value f).shown = .ok (shown f))
    (h : t.fault? = none) : ∃ s, (t.fill value).mapError Error.template = .ok s := by
  obtain ⟨ps, hps⟩ := fault?_eq_none_iff.mp h
  exact ⟨_, by rw [fill_eq hplain hshown, hps]; rfl⟩

end Template

/-- What stands for the fields of a type parameter with a bound. -/
def BoundField.valueOf (name bound : String) : BoundField → String
  | .name => name
  | .bound => bound

/-- What stands for the fields of a parameter that is named after its type. -/
def CallableField.valueOf (name : String) : CallableField → String
  | .value => Text.lower name
  | .type => name

namespace Target

/-! ## Plain targets -/

/-- A target whose templates are plain. -/
structure IsPlain (t : Target) : Prop where
  /-- A type parameter with a bound. -/
  boundTemplate : t.boundTemplate.IsPlain
  /-- A parameter inside a function type. -/
  callableParamTemplate : t.callableParamTemplate.IsPlain
  /-- A signature of partial application. -/
  partialMemberTemplate : t.partialMemberTemplate.IsPlain
  /-- A complement declaration. -/
  complementDeclarationTemplate : t.complementDeclarationTemplate.IsPlain
  /-- A test case. -/
  complementTestTemplate : t.complementTestTemplate.IsPlain

variable [Template.Formatter] {t : Target} {fault : Template.Fault}

/-! ## Bounded type parameters -/

theorem bound_eq_fill (t : Target) (name bound : String) :
    t.bound name bound =
      (t.boundTemplate.fill (Template.Value.text ∘ BoundField.valueOf name bound)).mapError
        .template := by
  rw [Target.bound]
  congr 2
  funext f
  cases f <;> rfl

theorem bound_eq (hplain : t.boundTemplate.IsPlain) (name bound : String) :
    t.bound name bound = (t.boundTemplate.parts.map fun ps ↦
      String.join (ps.map (·.text (BoundField.valueOf name bound)))).mapError .template := by
  rw [bound_eq_fill, Template.fill_eq hplain (Template.shown_text _)]

theorem bound_of_faulty (hplain : t.boundTemplate.IsPlain)
    (h : t.boundTemplate.fault? = some fault) (name bound : String) :
    t.bound name bound = .error (.template fault) := by
  rw [bound_eq hplain, Template.fault?_eq_some_iff.mp h]
  rfl

theorem exists_bound (hplain : t.boundTemplate.IsPlain) (h : t.boundTemplate.fault? = none)
    (name bound : String) : ∃ s, t.bound name bound = .ok s := by
  obtain ⟨ps, hps⟩ := Template.fault?_eq_none_iff.mp h
  exact ⟨_, by rw [bound_eq hplain, hps]; rfl⟩

/-! ## Parameters of a function type -/

theorem callableParam_eq_fill (t : Target) (name : String) :
    t.callableParam name =
      (t.callableParamTemplate.fill (Template.Value.text ∘ CallableField.valueOf name)).mapError
        .template := by
  rw [callableParam]
  congr 2
  funext f
  cases f <;> rfl

theorem callableParam_eq (hplain : t.callableParamTemplate.IsPlain) (name : String) :
    t.callableParam name = (t.callableParamTemplate.parts.map fun ps ↦
      String.join (ps.map (·.text (CallableField.valueOf name)))).mapError .template := by
  rw [callableParam_eq_fill, Template.fill_eq hplain (Template.shown_text _)]

theorem callableParams_nil : t.callableParams [] = .ok "" := rfl

theorem callableParams_of_faulty (hplain : t.callableParamTemplate.IsPlain)
    (h : t.callableParamTemplate.fault? = some fault) {names : List String} (hnames : names ≠ []) :
    t.callableParams names = .error (.template fault) := by
  obtain ⟨name, names, rfl⟩ := List.exists_cons_of_ne_nil hnames
  rw [callableParams, List.mapM_cons, callableParam_eq hplain, Template.fault?_eq_some_iff.mp h]
  rfl

theorem exists_callableParams (hplain : t.callableParamTemplate.IsPlain)
    (h : t.callableParamTemplate.fault? = none) (names : List String) :
    ∃ s, t.callableParams names = .ok s := by
  obtain ⟨ps, hps⟩ := Template.fault?_eq_none_iff.mp h
  have hparam (name : String) : ∃ s, t.callableParam name = .ok s :=
    ⟨_, by rw [callableParam_eq hplain, hps]; rfl⟩
  obtain ⟨parameters, hparameters, -⟩ :=
    exists_mapM_eq_ok fun name (_ : name ∈ names) ↦ hparam name
  exact ⟨_, by rw [callableParams, hparameters]; rfl⟩

end Target

end PerArity
