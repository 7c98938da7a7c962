import PerArity.CommandLine.Run
import PerArity.Proofs.Delivery
import PerArity.Proofs.Rendered

/-!
# What a command line leads to

A request leads to one of five things: it breaks off because an option has no value or because the
generation fails in a way that is not reported, it reports that nothing can be generated, it prints
a declaration, or it delivers one to a file. `respond_cases` says which. What is printed or
delivered is a text of characters, because the link of the banner is one. `rendering?` says, without
going through a response, which file a command line asks for and which text belongs in it.
-/

namespace PerArity.CommandLine

variable [Template.Formatter]

namespace Request

variable (r : Request)

/-- The outcome of what a request generates. -/
def generated : Except Error Declaration := (generate r.family.name r.config).outcome

/-- The report when nothing can be generated. -/
def generationFailed (e : Error) : Report :=
  failure (generate r.family.name r.config).records "Generation failed" e.message

/-- The delivery of the text of a declaration to an output file. -/
def delivery (given : String) (d : Declaration) (text : String) : Delivery where
  given := given
  destination := r.config.destination (Path.ofString given)
  content := text
  count := d.fragments.length

theorem exists_render {d : Declaration} (h : r.generated = .ok d) :
    ∃ text : String, d.render r.config r.form = .ok text :=
  exists_render_of_generate h (RawText.isEncodable_ofString _) r.form

/-- **A request breaks off, reports a failure, prints a declaration or delivers it to a file.** -/
theorem respond_cases :
    (r.settings.lacking ≠ [] ∧ ∃ option, r.respond = .breakOff (.lacking option)) ∨
    (∃ e, r.generated = .error e ∧ r.respond =
      if isReported e then .print (r.generationFailed e) else .breakOff (.ungenerated e)) ∨
    (∃ (d : Declaration) (text : String), r.generated = .ok d ∧
      d.render r.config r.form = .ok text ∧ r.settings.output = none ∧
        r.respond = .print { exit := 0, stdout := text }) ∨
    ∃ (d : Declaration) (text given : String), r.generated = .ok d ∧
      d.render r.config r.form = .ok text ∧ r.settings.output = some given ∧
        r.respond = .deliver (r.delivery given d text) := by
  rw [respond]
  split
  · rename_i option hbefore
    refine .inl ⟨?_, option, rfl⟩
    rintro hnone
    rw [lackingBefore?, hnone] at hbefore
    simp at hbefore
  · dsimp only
    split
    · rename_i e hgen
      exact .inr (.inl ⟨e, hgen, rfl⟩)
    · rename_i d hgen
      obtain ⟨text, htext⟩ := r.exists_render hgen
      rw [output]
      split
      · rename_i option hafter
        refine .inl ⟨?_, option, rfl⟩
        rintro hnone
        rw [lackingAfter?, hnone] at hafter
        cases hout : r.settings.output <;> simp [hout] at hafter
      · rw [htext]
        dsimp only
        rw [outputText]
        split
        · rename_i hout
          exact .inr (.inr (.inl ⟨d, text, hgen, htext, hout, rfl⟩))
        · rename_i given hout
          exact .inr (.inr (.inr ⟨d, text, given, hgen, htext, hout, rfl⟩))

/-- The file that a request asks for and the text for it, if there is one and if the declaration
can be generated. -/
def rendering? : Option (Path × String) :=
  match r.settings.output, r.generated with
  | some given, .ok d =>
    (d.encoded? r.config r.form).map (r.config.destination (Path.ofString given), ·)
  | _, _ => none

end Request

/-- The file that a command line asks for in a working directory and the text for it. -/
def rendering? (directory : Path) (arguments : List String) : Option (Path × String) :=
  match read directory arguments with
  | .error _ => none
  | .ok request => request.rendering?

/-- A command line that asks for a file either delivers it or breaks off, and no other delivers
anything. -/
theorem respond_rendering (directory : Path) (arguments : List String) :
    (∃ (d : Delivery) (text : String), d.content = text ∧
      respond directory arguments = .deliver d ∧
        rendering? directory arguments = some (d.destination, text)) ∨
    (∃ breakdown, respond directory arguments = .breakOff breakdown) ∨
    ∃ report, respond directory arguments = .print report ∧
      rendering? directory arguments = none := by
  rw [respond, rendering?]
  cases read directory arguments with
  | error halt => exact .inr (.inr ⟨_, rfl, rfl⟩)
  | ok r =>
    dsimp only
    rw [Request.rendering?]
    obtain ⟨-, option, hrespond⟩ | ⟨e, hgen, hrespond⟩ | ⟨d, text, hgen, htext, hout, hrespond⟩ |
      ⟨d, text, given, hgen, htext, hout, hrespond⟩ := r.respond_cases
    · exact .inr (.inl ⟨_, hrespond⟩)
    · rw [hgen, hrespond]
      split
      · refine .inr (.inr ⟨_, rfl, ?_⟩)
        split <;> simp_all
      · exact .inr (.inl ⟨_, rfl⟩)
    · refine .inr (.inr ⟨_, hrespond, ?_⟩)
      rw [hout]
    · refine .inl ⟨_, text, rfl, hrespond, ?_⟩
      rw [hout, hgen]
      dsimp only
      rw [Declaration.encoded?_eq_some_iff.mpr htext]
      rfl

end PerArity.CommandLine
