import PerArity.Proofs.Footprint
import PerArity.Proofs.Requests

/-!
# The same command line with an output file

One more argument turns a command line that prints a declaration into one that writes it to a file.
The argument changes nothing but the output file of the settings (`read_append_output`), so what is
generated is the same, and so is the report when nothing can be generated. What is printed by the
first run is what the second one delivers, unless there is no room on the stack to make the
directory of the file.
-/

namespace PerArity.CommandLine

open Workspace

variable {w : Workspace} {arguments : List String} {r : Request} {given : String}

/-! ## Reading -/

/-- A request for the same declaration in an output file. -/
def Request.toFile (r : Request) (given : String) : Request :=
  { r with settings := { r.settings with
      output := some given, lacking := r.settings.lacking.filter (· ≠ .output) } }

theorem judge_output (given : String) :
    Argument.judge Opt.ofFamily ("--output=" ++ given) =
      .ok (.option "--output" (.valued .output) (some given)) := by
  have hflag : Opt.ofFlag? Opt.ofFamily "--output" = some (.valued .output) := rfl
  exact Argument.judge_attached hflag given

/-- **One more argument for the output file leaves everything else as it was read.** -/
theorem read_append_output {directory : Path} (h : read directory arguments = .ok r)
    (hgiven : given ≠ separator) :
    read directory (arguments ++ ["--output=" ++ given]) = .ok (r.toFile given) := by
  obtain ⟨name, texts, hcommand, hname, hsettings⟩ := read_eq_ok_iff.mp h
  obtain ⟨judged, hjudged, hfind⟩ := readCommand_eq_ok_iff.mp hcommand
  obtain ⟨taken, htaken, htake⟩ := readSettings_eq_ok_iff.mp hsettings
  refine read_eq_ok_iff.mpr ⟨name, texts ++ ["--output=" ++ given], ?_, hname, ?_⟩
  · -- the main command judges the argument in its own way, but only passes it on
    obtain ⟨reading, hreading⟩ := Argument.exists_judge_ofMain ("--output=" ++ given)
    exact readCommand_eq_ok_iff.mpr ⟨_,
      Argument.judgeAll_append hjudged (Argument.judgeAll_singleton hreading),
      findCommand_append hfind _⟩
  · refine readSettings_eq_ok_iff.mpr ⟨_,
      Argument.judgeAll_append htaken (Argument.judgeAll_singleton (judge_output given)), ?_⟩
    refine (takeAll_append htake rfl).trans ?_
    rw [takeAll, Settings.give, if_neg hgiven]
    rfl

/-! ## Running -/

/-- A delivery of a text of characters is carried out in one of three ways. The file is written where
its path leads, or it is refused and no file is changed, or the stack has no room for the
directories above it. -/
theorem carryOut_deliver (hw : w.WellFormed) (d : Delivery) {text : String}
    (htext : d.content = text) :
    let attempt := w.deliver d.destination text
    let result := (Response.deliver d).carryOut w
    (∃ l, attempt.outcome = .ok d.destination ∧ result = ⟨.ok d.written, attempt.workspace⟩ ∧
      attempt.workspace.slot d.destination = .ok (some l) ∧
      w.Follows (some (l, text)) attempt.workspace) ∨
    (∃ refusal p, attempt.outcome = .error (.refused refusal p) ∧
      result = ⟨.ok (d.refused (refusal.message p)), attempt.workspace⟩ ∧
      w.Follows none attempt.workspace) ∨
    (w.stack ≠ .unlimited ∧ attempt.outcome = .error .tooDeep ∧
      result = ⟨.error .tooDeep, attempt.workspace⟩ ∧
      w.AddsWithin (w.trail d.destination.parent) attempt.workspace) := by
  intro attempt result
  simp only [result, Response.carryOut, htext]
  obtain ⟨l, hok, hslot, hfollows⟩ | ⟨e, herror, hne, hfollows⟩ :=
    w.deliver_spec hw d.destination text
  · rw [RawText.ending_ofString] at hok
    rw [RawText.stored_ofString] at hfollows
    exact .inl ⟨l, hok, by rw [hok], hslot, hfollows⟩
  · cases e with
    | refused refusal p => exact .inr (.inl ⟨refusal, p, herror, by rw [herror], hfollows⟩)
    | tooDeep =>
      have hstack : w.stack ≠ .unlimited := fun hstack ↦ deliver_ne_tooDeep hw hstack _ _ herror
      have hadds := deliver_addsWithin_of_error hw herror (by simp)
      exact .inr (.inr ⟨hstack, herror, by rw [herror], hadds⟩)
    | unencodable place => exact absurd rfl (hne place)

section

variable [Template.Formatter]

theorem run_of_read (h : read w.path arguments = .ok r) :
    run w arguments = r.respond.carryOut w := by
  rw [run, respond, h]

/-- Without an output file a run prints the declaration or reports a failure, and with one it
delivers the same declaration or reports the same failure. -/
private theorem respond_toFile (h : r.settings.WellRead) (hlacking : r.settings.lacking = [])
    (hout : r.settings.output = none) (given : String) :
    (∃ e, r.respond = .print (r.generationFailed e) ∧
      (r.toFile given).respond = .print (r.generationFailed e)) ∨
    ∃ (d : Declaration) (text : String), r.respond = .print { exit := 0, stdout := text } ∧
      (r.toFile given).respond = .deliver (r.delivery given d text) := by
  have hwell : (r.toFile given).settings.WellRead := ⟨h.target, h.maxArity⟩
  have hlacking' : (r.toFile given).settings.lacking = [] := by
    rw [Request.toFile, hlacking]
    rfl
  -- the request for a file generates and renders what the other one does
  obtain ⟨e, hgen, hrespond⟩ | ⟨d, text, hgen, htext, hrespond⟩ :=
    r.respond_cases_of_wellRead h hlacking
  · obtain ⟨e', hgen', hrespond'⟩ | ⟨d', -, hgen', -, -⟩ :=
      (r.toFile given).respond_cases_of_wellRead hwell hlacking'
    · obtain rfl := Except.error.inj (hgen.symm.trans hgen')
      exact .inl ⟨e, hrespond, hrespond'⟩
    · cases hgen.symm.trans hgen'
  · obtain ⟨e', hgen', -⟩ | ⟨d', text', hgen', htext', hrespond'⟩ :=
      (r.toFile given).respond_cases_of_wellRead hwell hlacking'
    · cases hgen.symm.trans hgen'
    · obtain rfl := Except.ok.inj (hgen.symm.trans hgen')
      obtain rfl := RawText.ofString_inj (Except.ok.inj (htext.symm.trans htext'))
      rw [hout] at hrespond
      exact .inr ⟨d, text, hrespond, hrespond'⟩

/-- **A file gets what standard output would have got.** Take a command line without an output file
that is read without a missing value, and the same with one. The run without the file leaves the
workspace as it is. If it ends with a failure, the other run ends with the same report and also
leaves the workspace as it is. If it prints a text, then the other run prints nothing on standard
output. Either the file holds that text where the reported path leads, or the run reports a failure
and no file is changed, or it breaks off, because the stack has no room for the directories above
the file; then some of these may have been made, and nothing else. -/
theorem run_output_file (hw : w.WellFormed) (hread : read w.path arguments = .ok r)
    (hout : r.settings.output = none)
    (hseparator : ∀ text ∈ arguments, ¬CarriesSeparator text) (hgiven : given ≠ separator) :
    let printed := run w arguments
    let filed := run w (arguments ++ ["--output=" ++ given])
    let destination := r.config.destination (Path.ofString given)
    printed.workspace = w ∧
      ((∃ report, printed.outcome = .ok report ∧ report.exit = 1 ∧
          filed.outcome = .ok report ∧ filed.workspace = w) ∨
        ∃ text : String, printed.outcome = .ok { exit := 0, stdout := text } ∧
          ((∃ (count : Nat) (l : Location),
              filed.outcome = .ok { exit := 0, stderr :=
                s!"Generated {count} fragments. Written to: {destination.toString}\n" } ∧
              filed.workspace.location? destination = some l ∧
              filed.workspace.tree.text? l = some text) ∨
            (∃ message : String, filed.outcome = .ok { exit := 1, stderr := message } ∧
              ∀ l, filed.workspace.tree.text? l = w.tree.text? l) ∨
            (w.stack ≠ .unlimited ∧ filed.outcome = .error .tooDeep ∧
              w.AddsWithin (w.trail destination.parent) filed.workspace))) := by
  intro printed filed destination
  have hwell := read_wellRead hread
  have hlacking := read_lacking hseparator hread
  have hprinted : printed = r.respond.carryOut w := run_of_read hread
  have hfiled : filed = (r.toFile given).respond.carryOut w :=
    run_of_read (read_append_output hread hgiven)
  obtain ⟨e, hrespond, hrespond'⟩ | ⟨d, text, hrespond, hrespond'⟩ :=
    respond_toFile hwell hlacking hout given
  · rw [hprinted, hfiled, hrespond, hrespond']
    exact ⟨rfl, .inl ⟨_, rfl, rfl, rfl, rfl⟩⟩
  · rw [hprinted, hfiled, hrespond, hrespond']
    refine ⟨rfl, .inr ⟨text, rfl, ?_⟩⟩
    obtain ⟨l, -, hresult, hslot, hfollows⟩ | ⟨refusal, p, -, hresult, hfollows⟩ |
      ⟨hstack, -, hresult, hadds⟩ := carryOut_deliver hw (r.delivery given d text) rfl
    · rw [hresult]
      dsimp only
      exact .inl ⟨d.fragments.length, l, rfl, location?_of_slot hslot, hfollows.text?_written⟩
    · rw [hresult]
      dsimp only
      exact .inr (.inl ⟨_, rfl, hfollows.text?⟩)
    · rw [hresult]
      dsimp only
      exact .inr (.inr ⟨hstack, rfl, hadds⟩)

end

/-! ## A file at home -/

theorem eq_ok_of_toOption {ε α : Type} {x : Except ε α} {a : α}
    (h : x.toOption = some a) : x = .ok a := by
  cases x with
  | error e => cases h
  | ok b => rw [Option.some.inj h]

theorem exists_eq_ok_of_map_toOption {ε α β : Type} {x : Except ε α} {f : α → β} {b : β}
    (h : x.toOption.map f = some b) : ∃ a, x = .ok a ∧ f a = b := by
  obtain ⟨a, ha, hf⟩ := Option.map_eq_some_iff.mp h
  exact ⟨a, eq_ok_of_toOption ha, hf⟩

attribute [local instance] Template.Formatter.standard

/-- A run that prints an empty declaration, and the same run with a file below a directory that is
not there. -/
theorem run_output_file_at_home :
    let home : Workspace := { directory := ["home"], tree := .directory "home" .empty .empty }
    let arguments := ["partial", "-n0", "--no-banner"]
    home.WellFormed ∧ (∀ text ∈ arguments, ¬CarriesSeparator text) ∧ "out/f" ≠ separator ∧
      ∃ r, read home.path arguments = .ok r ∧ r.settings.output = none ∧
        (run home arguments).workspace = home ∧
        ∃ l, (run home (arguments ++ ["--output=" ++ "out/f"])).workspace.location?
            (r.config.destination (Path.ofString "out/f")) = some l ∧
          (run home (arguments ++ ["--output=" ++ "out/f"])).workspace.tree.text? l =
            some "\n" := by
  intro home arguments
  have hhome : home.WellFormed := by decide
  have hseparator : ∀ text ∈ arguments, ¬CarriesSeparator text := by decide +kernel
  have hgiven : "out/f" ≠ separator := by decide
  have hread : (read home.path arguments).toOption.map (·.settings.output) = some none := by
    decide +kernel
  have hprinted : (run home arguments).outcome.toOption = some { exit := 0, stdout := "\n" } := by
    decide +kernel
  have hwritten : (run home (arguments ++ ["--output=" ++ "out/f"])).outcome.toOption.map
      (·.exit) = some 0 := by decide +kernel
  obtain ⟨r, hr, hout⟩ := exists_eq_ok_of_map_toOption hread
  refine ⟨hhome, hseparator, hgiven, r, hr, hout, ?_⟩
  obtain ⟨hsame, ⟨report, hok, hexit, -⟩ | ⟨text, hok, hfiled⟩⟩ :=
    run_output_file hhome hr hout hseparator hgiven
  · -- the run prints a declaration, so it does not end with a failure
    obtain rfl := Except.ok.inj (hok.symm.trans (eq_ok_of_toOption hprinted))
    cases hexit
  · obtain rfl : text = "\n" := RawText.ofString_inj
      (congrArg Report.stdout (Except.ok.inj (hok.symm.trans (eq_ok_of_toOption hprinted))))
    obtain ⟨count, l, -, hlocation, hfile⟩ | ⟨message, hrefused, -⟩ | ⟨hstack, -⟩ := hfiled
    · exact ⟨hsame, l, hlocation, hfile⟩
    · rw [hrefused] at hwritten
      cases hwritten
    · exact absurd rfl hstack

end PerArity.CommandLine
