import PerArity.Proofs.Delivery
import PerArity.Formatting
import PerArity.Proofs.Response

/-!
# Sessions

A session is a list of steps in one workspace: declarations that are written and command lines that
are run, each of which may succeed or fail. A step follows the workspace it starts from
(`Step.apply_follows`), with the write that `Step.written?` tells without looking at any tree. What
holds of a session is put together from that by induction on the steps.

The text of a file after a session is the text of the last write that resolved to its location
(`lastText?`), and without such a write the text before the session. A write whose text has no
encoding fails, but not before it has emptied its file, so it counts as a write of nothing.
-/

namespace PerArity

section

variable [Template.Formatter]

/-! ## Steps -/

/-- A step of a session. -/
inductive Step where
  /-- A declaration is written to a file. -/
  | write (d : Declaration) (config : Config) (output : Path) (form : Form)
  /-- A command line is run. -/
  | run (arguments : List String)

namespace Step

/-- The workspace after a step. -/
def apply (w : Workspace) : Step → Workspace
  | write d config output form => (d.write w config output form).workspace
  | run arguments => (CommandLine.run w arguments).workspace

/-- The path that a step writes to and what it writes there, if it comes to that: the rendered
declaration where a write succeeds or a command line with an output file ends with exit code zero,
and nothing where the rendered declaration has no encoding. -/
def written? (w : Workspace) : Step → Option (Path × String)
  | write d config output form =>
    match (d.write w config output form).outcome with
    | .ok p => (d.encoded? config form).map (p, ·)
    | .error (.unwritten (.unencodable _)) => some (config.destination output, "")
    | .error _ => none
  | run arguments =>
    match (CommandLine.run w arguments).outcome with
    | .ok report => if report.exit = 0 then CommandLine.rendering? w.path arguments else none
    | .error _ => none

/-- The text that a step writes to a location, which is where its path leads afterwards. -/
def textAt? (w : Workspace) (l : Location) (s : Step) : Option String :=
  match s.written? w with
  | some (p, text) => if (s.apply w).location? p = some l then some text else none
  | none => none

end Step

namespace Workspace

/-- The workspace after some steps. -/
def after (w : Workspace) : List Step → Workspace
  | [] => w
  | s :: steps => (s.apply w).after steps

/-- The text of the last of some steps that writes to a location. -/
def lastText? (w : Workspace) (l : Location) : List Step → Option String
  | [] => none
  | s :: steps => ((s.apply w).lastText? l steps).or (s.textAt? w l)

theorem after_append (w : Workspace) (earlier later : List Step) :
    w.after (earlier ++ later) = (w.after earlier).after later := by
  induction earlier generalizing w with
  | nil => rfl
  | cons s earlier ih => exact ih _

end Workspace

/-! ## What a step does -/

private theorem write_follows {w : Workspace} (hw : w.WellFormed) (d : Declaration)
    (config : Config) (output : Path) (form : Form) :
    let s := Step.write d config output form
    (∃ p text l, s.written? w = some (p, text) ∧ (s.apply w).slot p = .ok (some l) ∧
      w.Follows (some (l, text)) (s.apply w)) ∨
    s.written? w = none ∧ w.Follows none (s.apply w) := by
  intro s
  simp only [s, Step.written?, Step.apply]
  obtain ⟨content, l, hrender, hending, hslot, hfollows⟩ | ⟨e, herror, hne, hfollows⟩ :=
    d.write_spec hw config output form
  · refine .inl ⟨config.destination output, content.stored, l, ?_, hslot, hfollows⟩
    rw [hending, RawText.ending]
    rcases hencode : content.encode with place | text
    · rw [RawText.stored_of_error hencode]
      rfl
    · obtain rfl := RawText.encode_eq_ok_iff.mp hencode
      rw [Declaration.encoded?_eq_some_iff.mpr hrender, RawText.stored_ofString]
      rfl
  · rw [herror]
    refine .inr ⟨?_, hfollows⟩
    rcases e with failure | refused | - | place
    · rfl
    · rfl
    · rfl
    · exact absurd rfl (hne place)

open CommandLine in
private theorem run_follows {w : Workspace} (hw : w.WellFormed) (arguments : List String) :
    (∃ p text l, (Step.run arguments).written? w = some (p, text) ∧
      (run w arguments).workspace.slot p = .ok (some l) ∧
        w.Follows (some (l, text)) (run w arguments).workspace) ∨
    (Step.run arguments).written? w = none ∧ w.Follows none (run w arguments).workspace := by
  rw [Step.written?, run]
  obtain ⟨d, text, htext, hrespond, hrender⟩ | ⟨breakdown, hrespond⟩ |
    ⟨report, hrespond, hrender⟩ := respond_rendering w.path arguments
  · rw [hrespond, hrender, Response.carryOut, htext]
    obtain ⟨l, hending, hslot, hfollows⟩ | ⟨e, herror, hne, hfollows⟩ :=
      w.deliver_spec hw d.destination text
    · rw [RawText.ending_ofString] at hending
      rw [RawText.stored_ofString] at hfollows
      rw [hending]
      exact .inl ⟨d.destination, text, l, rfl, hslot, hfollows⟩
    · rw [herror]
      rcases e with refused | - | place
      · exact .inr ⟨rfl, hfollows⟩
      · exact .inr ⟨rfl, hfollows⟩
      · exact absurd rfl (hne place)
  · rw [hrespond]
    exact .inr ⟨rfl, .refl hw⟩
  · rw [hrespond, hrender]
    exact .inr ⟨ite_self none, .refl hw⟩

/-- **A step writes its text to the location that its path has afterwards, or it changes no
file.** -/
theorem Step.apply_follows {w : Workspace} (hw : w.WellFormed) (s : Step) :
    (∃ p text l, s.written? w = some (p, text) ∧ (s.apply w).slot p = .ok (some l) ∧
      w.Follows (some (l, text)) (s.apply w)) ∨
    s.written? w = none ∧ w.Follows none (s.apply w) := by
  cases s with
  | write d config output form => exact write_follows hw d config output form
  | run arguments => exact run_follows hw arguments

private theorem Step.exists_follows {w : Workspace} (hw : w.WellFormed) (s : Step) :
    ∃ written, w.Follows written (s.apply w) := by
  obtain ⟨p, text, l, -, -, hfollows⟩ | ⟨-, hfollows⟩ := s.apply_follows hw
  · exact ⟨some (l, text), hfollows⟩
  · exact ⟨none, hfollows⟩

private theorem Step.apply_text? {w : Workspace} (hw : w.WellFormed) (s : Step) (l : Location) :
    (s.apply w).tree.text? l = (s.textAt? w l).or (w.tree.text? l) := by
  rw [textAt?]
  obtain ⟨p, text, l', hwritten, hslot, hfollows⟩ | ⟨hnone, hfollows⟩ := s.apply_follows hw
  · rw [hfollows.text? l, hwritten]
    dsimp only
    rw [Workspace.location?_of_slot hslot, Option.filter_some]
    by_cases hl : l' = l
    · rw [if_pos (decide_eq_true hl), if_pos (congrArg some hl)]
      rfl
    · rw [if_neg (by simpa using hl), if_neg (by simpa using hl)]
      rfl
  · rw [hfollows.text? l, hnone]
    rfl

/-! ## What a session does -/

namespace Workspace

variable {w : Workspace}

private theorem after_wellFormed (hw : w.WellFormed) (steps : List Step) :
    (w.after steps).WellFormed := by
  induction steps generalizing w with
  | nil => exact hw
  | cons s steps ih =>
    obtain ⟨written, hfollows⟩ := s.exists_follows hw
    exact ih hfollows.wellFormed

private theorem after_directory (hw : w.WellFormed) (steps : List Step) {l : Location}
    (hl : w.tree.get? l = some .directory) :
    (w.after steps).tree.get? l = some .directory := by
  induction steps generalizing w with
  | nil => exact hl
  | cons s steps ih =>
    obtain ⟨written, hfollows⟩ := s.exists_follows hw
    exact ih hfollows.wellFormed (hfollows.directory l hl)

/-- A file holds the text of the last write that resolved to it, or the text that it had. -/
private theorem after_text? (hw : w.WellFormed) (steps : List Step) (l : Location) :
    (w.after steps).tree.text? l = (w.lastText? l steps).or (w.tree.text? l) := by
  induction steps generalizing w with
  | nil => rfl
  | cons s steps ih =>
    obtain ⟨written, hfollows⟩ := s.exists_follows hw
    rw [after, lastText?, ih hfollows.wellFormed, s.apply_text? hw, Option.or_assoc]

/-- **What holds of every session.** Take any steps in a well-formed workspace, and look at it in
the middle and at the end. At the end the workspace is well-formed, what stands in its tree stands
in a directory, and no location has two entries. The directories and the files that there were in
the middle are still there, each of its own sort. Every file has the text that was last written to
its location, or else the text that it had at the beginning, and there are no other files. And
whatever a next step would report as written stands where its path leads. -/
theorem after_spec (hw : w.WellFormed) (earlier later : List Step) :
    let middle := w.after earlier
    let final := w.after (earlier ++ later)
    final.WellFormed ∧
      (∀ l e, (l, e) ∈ final.tree.entries →
        final.tree.get? l.dropLast = some .directory ∧
          ∀ e', (l, e') ∈ final.tree.entries → e' = e) ∧
      (∀ l, middle.tree.get? l = some .directory → final.tree.get? l = some .directory) ∧
      (∀ l, middle.tree.text? l ≠ none → final.tree.text? l ≠ none) ∧
      (∀ l, final.tree.text? l = (w.lastText? l (earlier ++ later)).or (w.tree.text? l)) ∧
      ∀ (s : Step) p text, s.written? final = some (p, text) →
        ∃ l, (s.apply final).location? p = some l ∧ (s.apply final).tree.text? l = some text := by
  intro middle final
  have hmiddle := after_wellFormed hw earlier
  have hfinal := after_wellFormed hw (earlier ++ later)
  have hsplit : final = middle.after later := after_append w earlier later
  refine ⟨hfinal, ?_, ?_, ?_, after_text? hw _, ?_⟩
  · intro l e hmem
    obtain ⟨-, hget⟩ := (FileTree.mem_entries_iff hfinal.tree).mp hmem
    constructor
    · exact FileTree.get?_dropLast (by rw [hget]; exact Option.some_ne_none e)
    · -- both entries are what a look-up of the location finds
      intro e' hmem'
      obtain ⟨-, hget'⟩ := (FileTree.mem_entries_iff hfinal.tree).mp hmem'
      exact Option.some.inj (hget'.symm.trans hget)
  · intro l hl
    rw [hsplit]
    exact after_directory hmiddle later hl
  · intro l hl
    rw [hsplit, after_text? hmiddle, Ne, Option.or_eq_none_iff]
    rintro ⟨-, hnone⟩
    exact hl hnone
  · intro s p text hwritten
    obtain ⟨p', text', l, hwritten', hslot, hfollows⟩ | ⟨hnone, -⟩ := s.apply_follows hfinal
    · obtain ⟨rfl, rfl⟩ := Prod.mk.inj (Option.some.inj (hwritten.symm.trans hwritten'))
      exact ⟨l, location?_of_slot hslot, hfollows.text?_written⟩
    · rw [hnone] at hwritten
      cases hwritten

end Workspace

end

attribute [local instance] Template.Formatter.standard

namespace Workspace

/-- A run that makes a directory for its file, and one that goes through that directory to write to
a file that was there before. -/
theorem after_spec_two_runs :
    let home : Workspace :=
      { directory := ["home"], tree := .directory "home" (.file "a" "old" .empty) .empty }
    let first := Step.run ["partial", "-n", "0", "--no-banner", "--output=out/b"]
    let second := Step.run ["complement", "-n0", "--no-banner", "-o", "/home/out/../a"]
    home.WellFormed ∧ (home.after [first, second]).WellFormed ∧
      (home.after [first, second]).tree.get? ["home", "out"] = some .directory ∧
      (home.after [first, second]).tree.text? ["home", "out", "b"] = some "\n" ∧
      (home.after [first, second]).tree.text? ["home", "a"] = some "\n" := by
  intro home first second
  have hhome : home.WellFormed := by decide
  obtain ⟨hfinal, -, hdirectory, -, htext, -⟩ := after_spec hhome [first] [second]
  exact ⟨hhome, hfinal, hdirectory _ (by decide +kernel), (htext _).trans (by decide +kernel),
    (htext _).trans (by decide +kernel)⟩

/-- A write that fails because of half a character in the link. The file keeps neither the text that
it had nor a text that was written to it before. -/
theorem after_of_surrogate :
    let home : Workspace :=
      { directory := ["home"], tree := .directory "home" (.file "a" "old" .empty) .empty }
    let config : Config :=
      { maxArity := 0, sourceUrl := [.surrogate 0x4FF], outputRoot := home.path }
    let d : Declaration :=
      { kind := "partial", target := "flow", maxArity := 0, separator := "" }
    let output := Path.ofString "a"
    (∀ p, (d.write home config output .bannered).outcome ≠ .ok p) ∧
      home.tree.text? ["home", "a"] = some "old" ∧
      (home.after [.write d config output .bannered]).tree.text? ["home", "a"] = some "" := by
  intro home config d output
  have hfails : (d.write home config output .bannered).outcome.toOption = none := by
    decide +kernel
  refine ⟨fun p hp ↦ ?_, by decide +kernel, by decide +kernel⟩
  rw [hp] at hfails
  cases hfails

end Workspace

end PerArity
