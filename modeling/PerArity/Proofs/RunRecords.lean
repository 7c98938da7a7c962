import PerArity.Formatting
import PerArity.Proofs.Outcome

/-!
# What a journal tells

The journal of a run is decided by the outcome of the run. It begins with what is about to be
generated; partial application goes on with the number of its split points; and the last record says
how the run ended: with the number of fragments, or with the failure, if failures of that kind are
recorded. `records_generate_name` is the whole journal, as long as the bound on the arities can be
written; if it cannot, there is no journal.

Reading goes the other way: from the records of a level, or from those that speak of something
generated, one can tell how the run ended (`Logged.Tells`). The split points are counted before any
fragment is made, so their number stands in the journal also where no fragment is made of them.
-/

namespace PerArity

/-- Whether a record says that something has been generated. -/
def Record.isCompletion (r : Record) : Bool := "Generated ".toList.isPrefixOf r.message.toList

private theorem toString_text (s : String) : toString s = s := rfl

namespace Family

variable {family : Family} {n : Int} {t : Target} {r : Record}

/-- The record of what a run is about to generate. -/
def announcement (family : Family) (config : Config) : Record :=
  ⟨.info, .dispatch,
    s!"Generating {family.name} for {config.target.name} up to arity {config.maxArity}"⟩

/-- The record of the number of split points below a bound. -/
def enumeration (n : Int) : Record :=
  ⟨.debug, .enumeration, s!"Enumerated {n * (n - 1) / 2} split points below arity {n}"⟩

/-- The record of what a run is about to go through, if it keeps one. -/
def enumeration? (family : Family) (n : Int) : Option Record :=
  if family = partialApplication ∧ 0 ≤ n then some (enumeration n) else none

/-- The record of a success. -/
def completion (family : Family) (t : Target) (count : Nat) : Record :=
  match family with
  | partialApplication =>
    ⟨.info, .partialApplication, s!"Generated {count} partial signatures for {t.name}"⟩
  | complement => ⟨.info, .complement, s!"Generated {count} complement declarations"⟩
  | complementTest => ⟨.info, .complementTest, s!"Generated {count} complement test cases"⟩

/-- The record that a run ends with, if there is one for its outcome. -/
def ending? (family : Family) (t : Target) : Except Error Declaration → Option Record
  | .ok d => some (family.completion t d.fragments.length)
  | .error e => e.record?

private theorem isCompletion_announcement (config : Config) :
    (family.announcement config).isCompletion = false := by
  simp [announcement, Record.isCompletion, toString_text, List.isPrefixOf]

private theorem of_enumeration? (h : family.enumeration? n = some r) :
    r.level = .debug ∧ r.isCompletion = false := by
  obtain ⟨-, heq⟩ := Option.ite_none_right_eq_some.mp h
  obtain rfl := Option.some.inj heq
  simp [enumeration, Record.isCompletion, toString_text, List.isPrefixOf]

private theorem level_completion (count : Nat) : (family.completion t count).level = .info := by
  cases family <;> rfl

private theorem isCompletion_completion (count : Nat) :
    (family.completion t count).isCompletion = true := by
  cases family <;> simp [completion, Record.isCompletion, toString_text]

end Family

/-! ## What the records of a run say -/

private theorem Error.of_record? {e : Error} {r : Record} (h : e.record? = some r) :
    r.level = .error ∧ r.isCompletion = false := by
  cases e with
  | unsupportedParameter | invalidArity =>
    obtain rfl := Option.some.inj h
    simp [Record.isCompletion, toString_text, List.isPrefixOf]
  | unknownTarget | unknownFamily | template | tooManyDigits => cases h

private theorem filter_enumeration? {family : Family} {n : Int} {p : Record → Bool}
    (hp : ∀ r, r.level = .debug → r.isCompletion = false → p r = false) :
    (family.enumeration? n).toList.filter p = [] := by
  rw [List.filter_eq_nil_iff]
  intro r hr
  obtain ⟨hlevel, hcompletion⟩ := Family.of_enumeration? (Option.mem_toList.mp hr)
  exact Bool.eq_false_iff.mp (hp r hlevel hcompletion)

/-- A record at the end of a journal is that of a failure or that of a success. -/
private theorem of_ending? {family : Family} {t : Target} {x : Except Error Declaration}
    {r : Record} (h : family.ending? t x = some r) :
    (r.level = .error ∧ r.isCompletion = false) ∨ (r.level = .info ∧ r.isCompletion = true) := by
  cases x with
  | error e => exact .inl (Error.of_record? h)
  | ok d =>
    obtain rfl := Option.some.inj h
    exact .inr ⟨Family.level_completion _, Family.isCompletion_completion _⟩

section

variable [Template.Formatter] {n : Int} {t : Target}

/-! ## The journal of a family -/

namespace Family

omit [Template.Formatter] in
/-- Fragments that are counted and put together leave one record, or none if their failure leaves
none. -/
private theorem records_count (family : Family) (x : Except Error (List Fragment))
    (f : List Fragment → Declaration) (hf : ∀ fragments, (f fragments).fragments = fragments) :
    (do
      let fragments ← Logged.attempt x
      Logged.record (family.completion t fragments.length)
      return f fragments).records = (family.ending? t (x.map f)).toList := by
  cases x with
  | error e =>
    rw [Logged.records_bind_of_error (Logged.outcome_attempt _)]
    rfl
  | ok fragments =>
    rw [Logged.records_bind_of_ok (Logged.outcome_attempt _), Except.map, ending?, hf]
    rfl

omit [Template.Formatter] in
/-- The arities below a bound leave a record of their own only where there are none. -/
private theorem records_arities (family : Family) (f : Int → Except Error Fragment)
    (g : List Fragment → Declaration) (hg : ∀ fragments, (g fragments).fragments = fragments) :
    (do
      let arities ← Logged.attempt (aritiesBelow n)
      let fragments ← Logged.attempt (arities.traverse f)
      Logged.record (family.completion t fragments.length)
      return g fragments).records =
        (family.ending? t ((aritiesBelow n >>= (·.traverse f)).map g)).toList := by
  cases harities : aritiesBelow n with
  | error e =>
    rw [Logged.records_bind_of_error (Logged.outcome_attempt _)]
    rfl
  | ok arities =>
    rw [Logged.records_bind_of_ok (Logged.outcome_attempt _), Logged.records_attempt_ok,
      List.nil_append, records_count family _ g hg]
    rfl

private theorem records_partialApplication (hdigits : Text.IsPrintable n) :
    (PartialApplication.declaration n t).records =
      (partialApplication.enumeration? n).toList ++
        (partialApplication.ending? t (PartialApplication.declaration n t).outcome).toList := by
  have houtcome := partialApplication.outcome_declaration hdigits t
  rw [declaration, fragments] at houtcome
  rw [houtcome, PartialApplication.declaration, enumeration?]
  by_cases hn : 0 ≤ n
  · rw [SplitPoint.below_eq_ok hn, if_pos ⟨rfl, hn⟩,
      Logged.records_bind_of_ok (Logged.outcome_attempt _), Logged.records_attempt_ok,
      List.nil_append, Error.digits_eq_ok hdigits,
      Logged.records_bind_of_ok (Logged.outcome_attempt _), Logged.records_attempt_ok,
      List.nil_append, Logged.records_bind_of_ok (a := ()) rfl, enumeration,
      ← SplitPoint.length_points hn]
    congr 1
    exact records_count partialApplication _ _ fun _ ↦ rfl
  · rw [SplitPoint.below_eq_error (Int.not_le.mp hn), if_neg fun h ↦ hn h.2,
      Logged.records_bind_of_error (Logged.outcome_attempt _)]
    rfl

theorem records_declaration (family : Family) (hdigits : Text.IsPrintable n) (t : Target) :
    (family.declaration n t).records = (family.enumeration? n).toList ++
      (family.ending? t (family.declaration n t).outcome).toList := by
  cases family with
  | partialApplication => exact records_partialApplication hdigits
  | complement =>
    rw [outcome_declaration _ hdigits]
    exact records_arities complement _ _ fun _ ↦ rfl
  | complementTest =>
    rw [outcome_declaration _ hdigits]
    exact records_arities complementTest _ _ fun _ ↦ rfl

end Family

/-- **The journal of a run** that is asked for by the name of a family. -/
theorem records_generate_name (family : Family) {config : Config}
    (hdigits : Text.IsPrintable config.maxArity) :
    (generate family.name config).records =
      family.announcement config :: ((family.enumeration? config.maxArity).toList ++
        (family.ending? config.target (generate family.name config).outcome).toList) := by
  have hname : Family.ofName? family.name = some family := Family.ofName?_eq_some_iff.mpr rfl
  have houtcome := outcome_generate_name family hdigits
  rw [← Family.outcome_declaration family hdigits] at houtcome
  rw [houtcome, ← Family.records_declaration family hdigits, generate, hname,
    Error.digits_eq_ok hdigits]
  exact Logged.records_bind_of_ok (a := toString config.maxArity) rfl _

theorem records_generate_unprintable (family : Family) {config : Config}
    (hdigits : ¬Text.IsPrintable config.maxArity) :
    (generate family.name config).records = [] := by
  have hname : Family.ofName? family.name = some family := Family.ofName?_eq_some_iff.mpr rfl
  rw [generate, hname, Error.digits_eq_error hdigits]
  rfl

/-! ## Reading a journal -/

/-- A journal from which one can tell how the run of a family ended. -/
structure Logged.Tells (run : Logged Error Declaration) (family : Family) (config : Config) :
    Prop where
  /-- The first record is what was about to be generated. -/
  begins : run.records.head? = some (family.announcement config)
  /-- Details are recorded for partial application, unless the bound on the arities is negative:
  the number of split points. -/
  enumerates : run.records.filter (·.level = .debug) =
    if family = .partialApplication ∧ 0 ≤ config.maxArity then
      [Family.enumeration config.maxArity]
    else []
  /-- The number of split points comes right after the first record. -/
  enumerates_second : ∀ r ∈ run.records, r.level = .debug → run.records[1]? = some r
  /-- It is the number of fragments, if there are any. -/
  counts : ∀ d, run.outcome = .ok d → family = .partialApplication →
    (d.fragments.length : Int) = config.maxArity * (config.maxArity - 1) / 2
  /-- A failure is recorded where a bound on the arities or an index was refused, and names it. -/
  fails : run.records.filter (·.level = .error) =
    match run.outcome with
    | .error (.invalidArity n) => [⟨.error, .enumeration, s!"Invalid maximum arity: {n}"⟩]
    | .error (.unsupportedParameter i) =>
      [⟨.error, .naming, s!"Cannot name parameter at index {i}"⟩]
    | _ => []
  /-- A failure is the last record. -/
  fails_last : ∀ r ∈ run.records, r.level = .error → run.records.getLast? = some r
  /-- A success is recorded, with the number of fragments. -/
  completes : run.records.filter (·.isCompletion) =
    match run.outcome with
    | .ok d => [family.completion config.target d.fragments.length]
    | .error _ => []
  /-- A success is the last record. -/
  completes_last : ∀ r ∈ run.records, r.isCompletion → run.records.getLast? = some r

/-- What is recorded besides the first record says what was gone through or how the run ended. -/
private theorem mem_records_iff {family : Family} {config : Config} {r : Record}
    (hdigits : Text.IsPrintable config.maxArity) :
    r ∈ (generate family.name config).records ↔ r = family.announcement config ∨
      family.enumeration? config.maxArity = some r ∨
        family.ending? config.target (generate family.name config).outcome = some r := by
  rw [records_generate_name family hdigits, List.mem_cons, List.mem_append, Option.mem_toList,
    Option.mem_toList]

private theorem getLast?_records {family : Family} {config : Config} {r : Record}
    (hdigits : Text.IsPrintable config.maxArity)
    (h : family.ending? config.target (generate family.name config).outcome = some r) :
    (generate family.name config).records.getLast? = some r := by
  rw [records_generate_name family hdigits, h, Option.toList_some, ← List.cons_append,
    List.getLast?_concat]

/-- What the first record does not have is found where the split points or the end of the run are
recorded. -/
private theorem filter_records {family : Family} {config : Config} {p : Record → Bool}
    (hdigits : Text.IsPrintable config.maxArity) (hp : p (family.announcement config) = false) :
    (generate family.name config).records.filter p =
      (family.enumeration? config.maxArity).toList.filter p ++
        (family.ending? config.target (generate family.name config).outcome).toList.filter p := by
  rw [records_generate_name family hdigits, List.filter_cons_of_neg (by simp [hp]),
    List.filter_append]

private theorem filter_debug_records (family : Family) {config : Config}
    (hdigits : Text.IsPrintable config.maxArity) :
    (generate family.name config).records.filter (·.level = .debug) =
      if family = .partialApplication ∧ 0 ≤ config.maxArity then
        [Family.enumeration config.maxArity]
      else [] := by
  have hending : ∀ r ∈ (family.ending? config.target
      (generate family.name config).outcome).toList, ¬decide (r.level = .debug) := by
    intro r hr
    rcases of_ending? (Option.mem_toList.mp hr) with ⟨hlevel, -⟩ | ⟨hlevel, -⟩ <;> simp [hlevel]
  have henumeration : ∀ r ∈ (family.enumeration? config.maxArity).toList,
      decide (r.level = .debug) := by
    intro r hr
    exact decide_eq_true (Family.of_enumeration? (Option.mem_toList.mp hr)).1
  rw [filter_records hdigits rfl, List.filter_eq_self.mpr henumeration,
    List.filter_eq_nil_iff.mpr hending, List.append_nil, Family.enumeration?]
  split <;> rfl

private theorem filter_error_records (family : Family) {config : Config}
    (hdigits : Text.IsPrintable config.maxArity) :
    (generate family.name config).records.filter (·.level = .error) =
      match (generate family.name config).outcome with
      | .error (.invalidArity n) => [⟨.error, .enumeration, s!"Invalid maximum arity: {n}"⟩]
      | .error (.unsupportedParameter i) =>
        [⟨.error, .naming, s!"Cannot name parameter at index {i}"⟩]
      | _ => [] := by
  rw [filter_records hdigits rfl, filter_enumeration? (fun r hlevel _ ↦ by simp [hlevel]),
    List.nil_append]
  rcases (generate family.name config).outcome with e | d
  · cases e <;> rfl
  · cases family <;> rfl

private theorem filter_completion_records (family : Family) {config : Config}
    (hdigits : Text.IsPrintable config.maxArity) :
    (generate family.name config).records.filter (·.isCompletion) =
      match (generate family.name config).outcome with
      | .ok d => [family.completion config.target d.fragments.length]
      | .error _ => [] := by
  rw [filter_records hdigits (Family.isCompletion_announcement config),
    filter_enumeration? (fun r _ hcompletion ↦ hcompletion), List.nil_append]
  rcases (generate family.name config).outcome with e | d
  · rw [Family.ending?, List.filter_eq_nil_iff]
    intro r hr
    simp [(Error.of_record? (Option.mem_toList.mp hr)).2]
  · exact List.filter_cons_of_pos (Family.isCompletion_completion _)

private theorem second_of_mem_records {family : Family} {config : Config} {r : Record}
    (hdigits : Text.IsPrintable config.maxArity)
    (hr : r ∈ (generate family.name config).records) (hlevel : r.level = .debug) :
    (generate family.name config).records[1]? = some r := by
  rcases (mem_records_iff hdigits).mp hr with rfl | henumeration | hending
  · cases hlevel
  · rw [records_generate_name family hdigits, henumeration]
    rfl
  · rcases of_ending? hending with ⟨hlevel', -⟩ | ⟨hlevel', -⟩ <;> simp [hlevel'] at hlevel

private theorem last_of_mem_records {family : Family} {config : Config} {r : Record}
    (hdigits : Text.IsPrintable config.maxArity)
    (hr : r ∈ (generate family.name config).records)
    (h : r.level = .error ∨ r.isCompletion = true) :
    (generate family.name config).records.getLast? = some r := by
  rcases (mem_records_iff hdigits).mp hr with rfl | henumeration | hending
  · rw [Family.isCompletion_announcement] at h
    rcases h with hlevel | hcompletion
    · cases hlevel
    · cases hcompletion
  · obtain ⟨hlevel, hcompletion⟩ := Family.of_enumeration? henumeration
    simp [hlevel, hcompletion] at h
  · exact getLast?_records hdigits hending

/-- **The journal of a run tells its outcome.** There is no journal for a name that belongs to no
family. For a family it is a journal from which one can tell how the run ended, unless the bound on
the arities cannot be written: then there is no journal and no declaration. -/
theorem records_generate (config : Config) :
    (∀ name, (∀ family : Family, name ≠ family.name) → (generate name config).records = []) ∧
    ∀ family : Family,
      if Text.IsPrintable config.maxArity then (generate family.name config).Tells family config
      else
        (generate family.name config).records = [] ∧
          (generate family.name config).outcome = .error .tooManyDigits := by
  refine ⟨fun name hname ↦ by rw [generate_of_unknown hname], fun family ↦ ?_⟩
  split
  · rename_i hdigits
    constructor
    case begins =>
      rw [records_generate_name family hdigits]
      rfl
    case enumerates => exact filter_debug_records family hdigits
    case enumerates_second => exact fun r hr hlevel ↦ second_of_mem_records hdigits hr hlevel
    case counts =>
      rintro d hd rfl
      exact Family.length_fragments (Family.fragments_of_generate _ hd)
    case fails => exact filter_error_records family hdigits
    case fails_last => exact fun r hr hlevel ↦ last_of_mem_records hdigits hr (.inl hlevel)
    case completes => exact filter_completion_records family hdigits
    case completes_last =>
      exact fun r hr hcompletion ↦ last_of_mem_records hdigits hr (.inr hcompletion)
  · rename_i hdigits
    exact ⟨records_generate_unprintable family hdigits, outcome_generate_unprintable family hdigits⟩

end

attribute [local instance] Template.Formatter.standard

/-- A name that belongs to no family, and a bound on the arities that is refused. -/
theorem records_generate_of_refused_bound :
    let config : Config := { maxArity := -1, outputRoot := ⟨.root, []⟩ }
    (generate "curry" config).records = [] ∧
      (generate "partial" config).outcome = .error (.invalidArity (-1)) ∧
      (generate "partial" config).records.filter (·.level = .error) =
        [⟨.error, .enumeration, "Invalid maximum arity: -1"⟩] := by
  intro config
  have hdigits : Text.IsPrintable config.maxArity := Text.isPrintable_of_natAbs_lt (by decide)
  have hrefused : (generate "partial" config).outcome = .error (.invalidArity (-1)) := by
    decide +kernel
  obtain ⟨hunknown, hfamily⟩ := records_generate config
  have htells := hfamily .partialApplication
  rw [if_pos hdigits] at htells
  have hfails := htells.fails
  rw [show Family.partialApplication.name = "partial" from rfl, hrefused] at hfails
  exact ⟨hunknown "curry" (by rintro (_ | _ | _) <;> decide), hrefused, hfails⟩

/-- A run of partial application without a first record. -/
theorem records_generate_of_too_great :
    let config : Config := { maxArity := Text.tooGreat, outputRoot := ⟨.root, []⟩ }
    (generate "partial" config).records = [] ∧
      (generate "partial" config).records.head? ≠
        some (Family.partialApplication.announcement config) := by
  intro config
  have hnone : (generate "partial" config).records = [] :=
    records_generate_unprintable .partialApplication Text.not_isPrintable_tooGreat
  exact ⟨hnone, by rw [hnone]; nofun⟩

end PerArity
