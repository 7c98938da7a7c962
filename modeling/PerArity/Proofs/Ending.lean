import PerArity.Proofs.OutputFile

/-!
# How a command line ends

A run ends in one of seven ways: with a help, with nothing to do, with a misuse, with a generation
that failed, with a declaration on standard output, with one in a file, or with a file that was
refused. `Ending` lists them, each with what was read, what was printed and what became of the
workspace; there is an eighth way, in which nothing is printed because the stack has no room for the
directories above the file. Every run is on the list (`run_ending`), and what is said about exit
codes and streams is read off it case by case.
-/

namespace PerArity.CommandLine

open Workspace

variable {w : Workspace} {arguments : List String} {r : Request}

/-! ## Nothing to do -/

private theorem findCommand_ne_noCommand (given : List Argument) :
    findCommand given ≠ .error .noCommand := by
  fun_induction findCommand given with
  | case3 text rest ih =>
    rw [Ne, map_eq_error_iff]
    exact ih
  | case1 | case2 | case4 | case5 => simp

private theorem takeAll_ne_noCommand (s : Settings) (given : List Argument) :
    takeAll s given ≠ .error .noCommand := by
  fun_induction takeAll s given with
  | case2 s text rest ih | case3 s text rest ih =>
    rw [Ne, map_eq_error_iff]
    exact ih
  | case5 _ _ _ _ _ _ _ _ ih | case7 _ _ _ _ _ _ _ _ ih => exact ih
  | case10 => assumption
  | case1 | case4 | case6 | case8 | case9 | case11 | case12 => simp

private theorem eq_nil_of_readCommand (h : readCommand arguments = .ok ⟨none, []⟩) :
    arguments = [] := by
  obtain ⟨judged, hjudged, hfind⟩ := readCommand_eq_ok_iff.mp h
  cases arguments with
  | nil => rfl
  | cons text texts =>
    -- the first argument is the command, or is left over, or ends the reading
    obtain ⟨reading, rest, -, -, rfl⟩ := Argument.judgeAll_cons_eq_ok_iff.mp hjudged
    rcases reading with - | - | ⟨flag, o, attached⟩
    · cases hfind
    · rw [findCommand, map_eq_ok_iff] at hfind
      obtain ⟨c, -, hc⟩ := hfind
      cases congrArg Command.leftOver hc
    · rw [findCommand] at hfind
      split at hfind <;> cases hfind

theorem read_eq_noCommand_iff {directory : Path} {scope : Scope} :
    read directory arguments = .error ⟨scope, .noCommand⟩ ↔ scope = .main ∧ arguments = [] := by
  constructor
  · intro h
    rw [read] at h
    split at h
    · rename_i stop hcommand
      obtain ⟨rfl, rfl⟩ := Halt.mk.inj (Except.error.inj h)
      rw [readCommand] at hcommand
      split at hcommand
      · cases hcommand
      · exact absurd hcommand (findCommand_ne_noCommand _)
    · rename_i hcommand
      obtain ⟨rfl, -⟩ := Halt.mk.inj (Except.error.inj h)
      exact ⟨rfl, eq_nil_of_readCommand hcommand⟩
    · cases h
    · split at h
      · cases h
      · split at h
        · rename_i stop hsettings
          obtain ⟨rfl, rfl⟩ := Halt.mk.inj (Except.error.inj h)
          rw [readSettings] at hsettings
          split at hsettings
          · cases hsettings
          · exact absurd hsettings (takeAll_ne_noCommand _ _)
        · split at h <;> cases h
  · rintro ⟨rfl, rfl⟩
    rfl

/-! ## The list of endings -/

section

variable [Template.Formatter]

/-- The attempt of a request to write its declaration to its output file. -/
def Request.attempt (r : Request) (w : Workspace) (given : String) (d : Declaration) :
    Attempt OutputError Path :=
  d.write w r.config (Path.ofString given) r.form

/-- The ways in which a run ends, each with what was printed and the workspace afterwards. -/
inductive Ending (w : Workspace) (arguments : List String) : Result → Prop where
  /-- Help was asked for. -/
  | help (scope : Scope) (hread : read w.path arguments = .error ⟨scope, .help⟩) :
    Ending w arguments ⟨.ok { exit := 0, stdout := scope.help }, w⟩
  /-- There was nothing to do. -/
  | noCommand (scope : Scope) (hread : read w.path arguments = .error ⟨scope, .noCommand⟩) :
    Ending w arguments ⟨.ok { exit := 1, stderr := scope.help }, w⟩
  /-- The arguments made no sense. -/
  | misuse (scope : Scope) (m : Misuse)
    (hread : read w.path arguments = .error ⟨scope, .misuse m⟩) :
    Ending w arguments ⟨.ok { exit := 2, stderr := misuseReport scope m }, w⟩
  /-- Nothing could be generated. -/
  | failed (r : Request) (e : Error) (hread : read w.path arguments = .ok r)
    (hgenerated : r.generated = .error e) :
    Ending w arguments ⟨.ok (r.generationFailed e), w⟩
  /-- The declaration was printed. -/
  | printed (r : Request) (d : Declaration) (text : String) (hread : read w.path arguments = .ok r)
    (hgenerated : r.generated = .ok d) (htext : d.render r.config r.form = .ok text)
    (houtput : r.settings.output = none) :
    Ending w arguments ⟨.ok { exit := 0, stdout := text }, w⟩
  /-- The declaration was written to its file. -/
  | written (r : Request) (d : Declaration) (text given : String) (l : Location)
    (hread : read w.path arguments = .ok r) (hgenerated : r.generated = .ok d)
    (htext : d.render r.config r.form = .ok text) (houtput : r.settings.output = some given)
    (hattempt : (r.attempt w given d).outcome = .ok (r.delivery given d text).destination)
    (hlocation :
      (r.attempt w given d).workspace.location? (r.delivery given d text).destination = some l)
    (hfollows : w.Follows (some (l, text)) (r.attempt w given d).workspace) :
    Ending w arguments ⟨.ok (r.delivery given d text).written, (r.attempt w given d).workspace⟩
  /-- The file was refused. -/
  | refused (r : Request) (d : Declaration) (text given : String) (refusal : Refusal) (p : Path)
    (hread : read w.path arguments = .ok r) (hgenerated : r.generated = .ok d)
    (houtput : r.settings.output = some given)
    (hattempt : (r.attempt w given d).outcome = .error (.unwritten (.refused refusal p)))
    (hfollows : w.Follows none (r.attempt w given d).workspace) :
    Ending w arguments ⟨.ok ((r.delivery given d text).refused (refusal.message p)),
      (r.attempt w given d).workspace⟩
  /-- The stack had no room for the directories above the file. -/
  | tooDeep (r : Request) (d : Declaration) (given : String) (hstack : w.stack ≠ .unlimited)
    (hread : read w.path arguments = .ok r) (hgenerated : r.generated = .ok d)
    (houtput : r.settings.output = some given)
    (hattempt : (r.attempt w given d).outcome = .error (.unwritten .tooDeep))
    (hadds : w.AddsWithin (w.trail (r.config.destination (Path.ofString given)).parent)
      (r.attempt w given d).workspace) :
    Ending w arguments ⟨.error .tooDeep, (r.attempt w given d).workspace⟩

private theorem ending_of_delivery (hw : w.WellFormed) {d : Declaration} {text given : String}
    (hread : read w.path arguments = .ok r) (hgenerated : r.generated = .ok d)
    (htext : d.render r.config r.form = .ok text) (houtput : r.settings.output = some given) :
    Ending w arguments ((Response.deliver (r.delivery given d text)).carryOut w) := by
  have hattempt : r.attempt w given d =
      ⟨(w.deliver (r.delivery given d text).destination text).workspace,
        (w.deliver (r.delivery given d text).destination text).outcome.mapError .unwritten⟩ :=
    Declaration.write_of_render htext w (Path.ofString given)
  have hworkspace : (r.attempt w given d).workspace =
      (w.deliver (r.delivery given d text).destination text).workspace := by rw [hattempt]
  have houtcome : (r.attempt w given d).outcome =
      (w.deliver (r.delivery given d text).destination text).outcome.mapError .unwritten := by
    rw [hattempt]
  obtain ⟨l, hok, hresult, hslot, hfollows⟩ | ⟨refusal, p, herror, hresult, hfollows⟩ |
    ⟨hstack, herror, hresult, hadds⟩ := carryOut_deliver hw (r.delivery given d text) rfl
  · rw [hok] at houtcome
    rw [← hworkspace] at hresult hslot hfollows
    rw [hresult]
    exact .written r d text given l hread hgenerated htext houtput houtcome
      (location?_of_slot hslot) hfollows
  · rw [herror] at houtcome
    rw [← hworkspace] at hresult hfollows
    rw [hresult]
    exact .refused r d text given refusal p hread hgenerated houtput houtcome hfollows
  · rw [herror] at houtcome
    rw [← hworkspace] at hresult hadds
    rw [hresult]
    exact .tooDeep r d given hstack hread hgenerated houtput houtcome hadds

/-- **Every run is on the list**, as long as no argument carries the separator. -/
theorem run_ending (hw : w.WellFormed) (hseparator : ∀ text ∈ arguments, ¬CarriesSeparator text) :
    Ending w arguments (run w arguments) := by
  cases hread : read w.path arguments with
  | error halt =>
    have hrun : run w arguments = ⟨.ok (haltReport halt), w⟩ := by
      rw [run, respond, hread]
      rfl
    rw [hrun]
    obtain ⟨scope, - | - | m⟩ := halt
    · exact .help scope hread
    · exact .noCommand scope hread
    · exact .misuse scope m hread
  | ok r =>
    rw [run_of_read hread]
    obtain ⟨e, hgenerated, hrespond⟩ | ⟨d, text, hgenerated, htext, hrespond⟩ :=
      r.respond_cases_of_wellRead (read_wellRead hread) (read_lacking hseparator hread)
    · rw [hrespond]
      exact .failed r e hread hgenerated
    · rw [hrespond]
      cases houtput : r.settings.output with
      | none => exact .printed r d text hread hgenerated htext houtput
      | some given => exact ending_of_delivery hw hread hgenerated htext houtput

end

section

variable [Template.Formatter]

/-! ## What there is to see of a success -/

/-- What a run that succeeds is for. -/
inductive Success where
  /-- To show a help. -/
  | help
  /-- To print a declaration. -/
  | print
  /-- To write a declaration to a file. -/
  | write
  deriving DecidableEq

namespace Success

/-- What there is to see of a run that succeeds. A help or a declaration stands on standard output
alone and leaves the workspace as it was. A file stands where its path leads, it is the only one
that has changed, and standard error says so in one line. -/
def Seen (w : Workspace) (arguments : List String) (result : Result) : Success → Prop
  | help => ∃ scope, read w.path arguments = .error ⟨scope, .help⟩ ∧
      result = ⟨.ok { exit := 0, stdout := scope.help, stderr := "" }, w⟩
  | print => ∃ r d, ∃ text : String, read w.path arguments = .ok r ∧ r.settings.output = none ∧
      (generate r.family.name r.config).outcome = .ok d ∧ d.render r.config r.form = .ok text ∧
      result = ⟨.ok { exit := 0, stdout := text, stderr := "" }, w⟩
  | write => ∃ r d given l, ∃ text : String, read w.path arguments = .ok r ∧
      r.settings.output = some given ∧
      (generate r.family.name r.config).outcome = .ok d ∧ d.render r.config r.form = .ok text ∧
      let p := r.config.destination (Path.ofString given)
      result.outcome = .ok { exit := 0, stdout := "", stderr :=
        s!"Generated {d.fragments.length} fragments. Written to: {p.toString}\n" } ∧
      result.workspace.location? p = some l ∧
      w.Follows (some (l, text)) result.workspace

/-- What a run is for if it succeeds, by what was read. -/
def ofReading? : Except Halt Request → Option Success
  | .error ⟨_, .help⟩ => some help
  | .error _ => none
  | .ok r => if r.settings.output = none then some print else some write

theorem ofReading?_of_seen {s : Success} {result : Result} (h : s.Seen w arguments result) :
    ofReading? (read w.path arguments) = some s := by
  cases s with
  | help =>
    obtain ⟨scope, hread, -⟩ := h
    rw [hread]
    rfl
  | print =>
    obtain ⟨r, d, text, hread, houtput, -⟩ := h
    rw [hread, ofReading?, if_pos houtput]
  | write =>
    obtain ⟨r, d, given, l, text, hread, houtput, -⟩ := h
    rw [hread, ofReading?, if_neg (by simp [houtput])]

theorem seen_unique {s s' : Success} {result : Result} (h : s.Seen w arguments result)
    (h' : s'.Seen w arguments result) : s = s' :=
  Option.some.inj ((ofReading?_of_seen h).symm.trans (ofReading?_of_seen h'))

end Success

/-! ## Exit codes -/

/-- A run that broke off, because the stack had no room for the directories above its file. Some of
these may have been made, and nothing else was done. -/
def BrokenOff (w : Workspace) (arguments : List String) (result : Result) : Prop :=
  w.stack ≠ .unlimited ∧ result.outcome = .error .tooDeep ∧
    ∃ r d given, read w.path arguments = .ok r ∧ r.generated = .ok d ∧
      r.settings.output = some given ∧
        w.AddsWithin (w.trail (r.config.destination (Path.ofString given)).parent) result.workspace

namespace Ending

variable {result : Result} {report : Report}

theorem exit_le (h : Ending w arguments result) (hok : result.outcome = .ok report) :
    report.exit ≤ 2 := by
  cases h with
  | tooDeep => cases hok
  | help | noCommand | misuse | failed | printed | written | refused =>
    obtain rfl := Except.ok.inj hok
    exact Nat.le_of_ble_eq_true rfl

theorem seen (h : Ending w arguments result) (hok : result.outcome = .ok report)
    (hexit : report.exit = 0) : ∃ s : Success, s.Seen w arguments result := by
  cases h with
  | tooDeep => cases hok
  | help scope hread => exact ⟨.help, scope, hread, rfl⟩
  | printed r d text hread hgenerated htext houtput =>
    exact ⟨.print, r, d, text, hread, houtput, hgenerated, htext, rfl⟩
  | written r d text given l hread hgenerated htext houtput hattempt hlocation hfollows =>
    exact ⟨.write, r, d, given, l, text, hread, houtput, hgenerated, htext, rfl, hlocation,
      hfollows⟩
  | noCommand | misuse | failed | refused =>
    obtain rfl := Except.ok.inj hok
    cases hexit

theorem of_exit_ne_zero (h : Ending w arguments result) (hok : result.outcome = .ok report)
    (hexit : report.exit ≠ 0) :
    report.stdout = "" ∧ ∀ l, result.workspace.tree.text? l = w.tree.text? l := by
  cases h with
  | tooDeep => cases hok
  | noCommand | misuse | failed =>
    obtain rfl := Except.ok.inj hok
    exact ⟨rfl, fun _ ↦ rfl⟩
  | refused r d text given refusal p hread hgenerated houtput hattempt hfollows =>
    obtain rfl := Except.ok.inj hok
    exact ⟨rfl, hfollows.text?⟩
  | help | printed | written =>
    obtain rfl := Except.ok.inj hok
    exact absurd rfl hexit

theorem exit_eq_one_iff (h : Ending w arguments result) (hok : result.outcome = .ok report) :
    report.exit = 1 ↔ arguments = [] ∨ ∃ r, read w.path arguments = .ok r ∧
      ((∃ e, r.generated = .error e) ∨ ∃ given d refusal p, r.settings.output = some given ∧
        r.generated = .ok d ∧
          (r.attempt w given d).outcome = .error (.unwritten (.refused refusal p))) := by
  have hnil : arguments = [] ↔ read w.path arguments = .error ⟨.main, .noCommand⟩ := by
    rw [read_eq_noCommand_iff, eq_self, true_and]
  rw [hnil]
  cases h with
  | tooDeep => cases hok
  | help scope hread | misuse scope m hread =>
    obtain rfl := Except.ok.inj hok
    simp [hread]
  | noCommand scope hread =>
    obtain rfl := Except.ok.inj hok
    obtain ⟨rfl, -⟩ := read_eq_noCommand_iff.mp hread
    simp [hread]
  | failed r e hread hgenerated =>
    obtain rfl := Except.ok.inj hok
    simp [hread, hgenerated, Request.generationFailed, failure]
  | printed r d text hread hgenerated htext houtput =>
    obtain rfl := Except.ok.inj hok
    simp [hread, hgenerated, houtput]
  | written r d text given l hread hgenerated htext houtput hattempt =>
    obtain rfl := Except.ok.inj hok
    simp [hread, hgenerated, houtput, hattempt, Delivery.written]
  | refused r d text given refusal p hread hgenerated houtput hattempt =>
    obtain rfl := Except.ok.inj hok
    simp [hread, hgenerated, houtput, hattempt, Delivery.refused, failure]

theorem exit_eq_two_iff (h : Ending w arguments result) (hok : result.outcome = .ok report) :
    report.exit = 2 ↔ ∃ scope m, read w.path arguments = .error ⟨scope, .misuse m⟩ := by
  cases h with
  | tooDeep => cases hok
  | misuse scope m hread =>
    obtain rfl := Except.ok.inj hok
    simp [hread]
  | help scope hread | noCommand scope hread | failed _ _ hread | printed _ _ _ hread
  | written _ _ _ _ _ hread | refused _ _ _ _ _ _ hread =>
    obtain rfl := Except.ok.inj hok
    simp [hread, Request.generationFailed, Delivery.written, Delivery.refused, failure]

theorem exists_report (h : Ending w arguments result) :
    (∃ report, result.outcome = .ok report) ∨ BrokenOff w arguments result := by
  cases h with
  | tooDeep r d given hstack hread hgenerated houtput hattempt hadds =>
    exact .inr ⟨hstack, rfl, r, d, given, hread, hgenerated, houtput, hadds⟩
  | help | noCommand | misuse | failed | printed | written | refused => exact .inl ⟨_, rfl⟩

end Ending

/-- **How a run ends.** Take a line none of whose arguments carries the separator. What it asks for
names a registered target, and a generation that fails does so because of the bound on the arities
alone. If the stack has no room for the directories above its output file, the run breaks off, and
nothing but some of these has been made. Otherwise it reports an exit code of zero, one or two. With
zero, exactly one of three things is to be seen: a help, a declaration on standard output, or a
declaration in a file. With any other exit code nothing stands on standard output and every file is
as it was. It is one exactly when there are no arguments, when the generation fails and when the
file is refused, and two exactly when the arguments make no sense. -/
theorem run_exit (hw : w.WellFormed) (hseparator : ∀ text ∈ arguments, ¬CarriesSeparator text) :
    let result := run w arguments
    (∀ r, read w.path arguments = .ok r →
      Target.ofName r.settings.target.name = .ok r.settings.target ∧
        ∀ e, r.generated = .error e →
          e = .invalidArity r.settings.maxArity ∨ e = .unsupportedParameter 26) ∧
    (BrokenOff w arguments result ∨
      ∃ report, result.outcome = .ok report ∧
        (report.exit = 0 ∨ report.exit = 1 ∨ report.exit = 2) ∧
        (report.exit = 0 → ∃! s : Success, s.Seen w arguments result) ∧
        (report.exit ≠ 0 →
          report.stdout = "" ∧ ∀ l, result.workspace.tree.text? l = w.tree.text? l) ∧
        (report.exit = 1 ↔ arguments = [] ∨ ∃ r, read w.path arguments = .ok r ∧
          ((∃ e, r.generated = .error e) ∨ ∃ given d refusal p, r.settings.output = some given ∧
            r.generated = .ok d ∧
              (r.attempt w given d).outcome = .error (.unwritten (.refused refusal p)))) ∧
        (report.exit = 2 ↔ ∃ scope m, read w.path arguments = .error ⟨scope, .misuse m⟩)) := by
  intro result
  have hending := run_ending hw hseparator
  constructor
  · intro r hread
    have hwell := read_wellRead hread
    refine ⟨Target.ofName_eq_ok_iff.mpr ⟨hwell.target, rfl⟩, ?_⟩
    intro e hgenerated
    obtain ⟨-, hcase⟩ | ⟨-, hcase⟩ | ⟨-, -, d, hcase⟩ := r.generated_cases hwell
    · exact .inl (Except.error.inj (hgenerated.symm.trans hcase))
    · exact .inr (Except.error.inj (hgenerated.symm.trans hcase))
    · cases hgenerated.symm.trans hcase
  · obtain ⟨report, hok⟩ | hbroken := hending.exists_report
    · have hexit := hending.exit_le hok
      refine .inr ⟨report, hok, by omega, ?_, hending.of_exit_ne_zero hok,
        hending.exit_eq_one_iff hok, hending.exit_eq_two_iff hok⟩
      intro hzero
      obtain ⟨s, hs⟩ := hending.seen hok hzero
      exact ⟨s, hs, fun s' hs' ↦ Success.seen_unique hs' hs⟩
    · exact .inl hbroken

end

attribute [local instance] Template.Formatter.standard

/-- A run whose file would stand below another file. -/
theorem run_exit_below_a_file :
    let home : Workspace :=
      { directory := ["home"], tree := .directory "home" (.file "a" "old" .empty) .empty }
    let arguments := ["partial", "-n", "2", "--output=a/b"]
    home.WellFormed ∧ (∀ text ∈ arguments, ¬CarriesSeparator text) ∧
      ∃ report, (run home arguments).outcome = .ok report ∧ report.exit = 1 ∧
        report.stdout = "" ∧ (run home arguments).workspace.tree.text? ["home", "a"] = some "old" ∧
        ∃ r given d refusal p, read home.path arguments = .ok r ∧
          r.settings.output = some given ∧ r.generated = .ok d ∧
          (r.attempt home given d).outcome = .error (.unwritten (.refused refusal p)) := by
  intro home arguments
  have hhome : home.WellFormed := by decide
  have hseparator : ∀ text ∈ arguments, ¬CarriesSeparator text := by decide +kernel
  have hcode : (run home arguments).outcome.toOption.map (·.exit) = some 1 := by decide +kernel
  have hsmall : (read home.path arguments).toOption.map (·.settings.maxArity) = some 2 := by
    decide +kernel
  obtain ⟨report, hok, hexit⟩ := exists_eq_ok_of_map_toOption hcode
  obtain ⟨r, hread, hmaxArity⟩ := exists_eq_ok_of_map_toOption hsmall
  obtain ⟨-, ⟨hstack, -⟩ | ⟨report', hok', -, -, hfailure, hone, -⟩⟩ := run_exit hhome hseparator
  · exact absurd rfl hstack
  · obtain rfl := Except.ok.inj (hok.symm.trans hok')
    obtain ⟨hstdout, hfiles⟩ := hfailure (by rw [hexit]; decide)
    refine ⟨hhome, hseparator, report, hok, hexit, hstdout, (hfiles _).trans rfl, ?_⟩
    obtain hnil | ⟨r', hread', ⟨e, hgenerated⟩ | ⟨given, d, refusal, p, hrefused⟩⟩ := hone.mp hexit
    · exact absurd hnil (List.cons_ne_nil _ _)
    · -- two arities are few enough
      obtain rfl := Except.ok.inj (hread.symm.trans hread')
      obtain ⟨d, hd⟩ := r.exists_generated (read_wellRead hread) (by omega) (by omega)
      cases hgenerated.symm.trans hd
    · exact ⟨r', given, d, refusal, p, hread', hrefused⟩

end PerArity.CommandLine
