import PerArity.Proofs.Arguments
import PerArity.Proofs.Numerals
import PerArity.Proofs.RegisteredTargets
import PerArity.Proofs.Response

/-!
# What was read

Settings that come from a command line are not just any settings: their target is a registered one,
and their bound on the arities has been read from a numeral, so it can be written again. Every value
that is given keeps this, and so the settings of a request have it (`read_wellRead`).

This decides how a generation can fail. The templates of a registered target have no faults and the
family has been found by its name, so only the bound on the arities can be wrong, and the failure is
one that is reported (`Request.generated_cases`).
-/

namespace PerArity.CommandLine

variable {arguments : List String} {r : Request} {directory : Path}

/-! ## Settings -/

/-- Settings as they are read. -/
structure Settings.WellRead (s : Settings) : Prop where
  /-- The target is registered. -/
  target : s.target ∈ Target.registered
  /-- The bound on the arities can be written. -/
  maxArity : Text.IsPrintable s.maxArity

namespace Settings

theorem wellRead_default (directory : Path) (family : Family) :
    (default directory family).WellRead where
  target := List.mem_cons_self
  maxArity := by
    have hsmall : family.defaultMaxArity.natAbs < 1000 := by cases family <;> decide
    exact Text.isPrintable_of_natAbs_lt hsmall

private theorem WellRead.set {s s' : Settings} {v : Valued} {text : String} (hs : s.WellRead)
    (h : s.set v text = .ok s') : s'.WellRead := by
  cases v with
  | maxArity =>
    rw [Settings.set] at h
    split at h
    · rename_i n hn
      obtain rfl := Except.ok.inj h
      exact ⟨hs.target, Text.isPrintable_of_readInt? hn⟩
    · cases h
  | target =>
    rw [Settings.set] at h
    split at h
    · rename_i target htarget
      obtain rfl := Except.ok.inj h
      exact ⟨(Target.ofName_eq_ok_iff.mp htarget).1, hs.maxArity⟩
    · cases h
  | output | outputRoot | sourceUrl =>
    obtain rfl := Except.ok.inj h
    exact ⟨hs.target, hs.maxArity⟩

theorem WellRead.give {s s' : Settings} {v : Valued} {text : String} (hs : s.WellRead)
    (h : s.give v text = .ok s') : s'.WellRead := by
  rw [Settings.give] at h
  split at h
  · obtain rfl := Except.ok.inj h
    cases v <;> exact ⟨hs.target, hs.maxArity⟩
  · obtain ⟨s₁, hset, rfl⟩ := map_eq_ok_iff.mp h
    have hs₁ := hs.set hset
    exact ⟨hs₁.target, hs₁.maxArity⟩

theorem WellRead.turnOn {s : Settings} (hs : s.WellRead) (t : Toggle) : (s.turnOn t).WellRead := by
  cases t <;> exact ⟨hs.target, hs.maxArity⟩

end Settings

theorem read_wellRead (h : read directory arguments = .ok r) : r.settings.WellRead := by
  obtain ⟨name, texts, -, -, hsettings⟩ := read_eq_ok_iff.mp h
  obtain ⟨taken, -, htake⟩ := readSettings_eq_ok_iff.mp hsettings
  exact takeAll_keeps (Q := fun _ ↦ True) (fun s s' v text hs _ hgive ↦ hs.give hgive)
    (fun s t hs ↦ hs.turnOn t) (Settings.wellRead_default directory r.family)
    (fun a _ ↦ ⟨trivial, fun _ _ _ _ ↦ trivial⟩) htake

/-! ## Generating -/

namespace Request

variable [Template.Formatter]

/-- **A request that was read is answered by its declaration**, or the bound on its arities is
negative or too large. -/
theorem generated_cases (h : r.settings.WellRead) :
    (r.settings.maxArity < 0 ∧ r.generated = .error (.invalidArity r.settings.maxArity)) ∨
    (28 ≤ r.settings.maxArity ∧ r.generated = .error (.unsupportedParameter 26)) ∨
    (0 ≤ r.settings.maxArity ∧ r.settings.maxArity < 28 ∧ ∃ d, r.generated = .ok d) := by
  have hsound : r.config.target.Sound := Target.sound_of_mem_registered h.target
  obtain ⟨hno, -⟩ | hcases := generate_cases_of_sound hsound r.family
  · exact absurd h.maxArity hno
  · exact hcases

theorem exists_generated (h : r.settings.WellRead) (hnonneg : 0 ≤ r.settings.maxArity)
    (hfew : r.settings.maxArity < 28) : ∃ d, r.generated = .ok d := by
  obtain ⟨hneg, -⟩ | ⟨hmany, -⟩ | ⟨-, -, hd⟩ := r.generated_cases h
  · omega
  · omega
  · exact hd

theorem isReported_of_generated (h : r.settings.WellRead) {e : Error}
    (he : r.generated = .error e) : isReported e = true := by
  obtain ⟨-, hcase⟩ | ⟨-, hcase⟩ | ⟨-, -, d, hcase⟩ := r.generated_cases h
  · obtain rfl := Except.error.inj (he.symm.trans hcase)
    rfl
  · obtain rfl := Except.error.inj (he.symm.trans hcase)
    rfl
  · cases he.symm.trans hcase

/-- **A request without a lacking value reports a failure, prints a declaration or delivers it.** -/
theorem respond_cases_of_wellRead (h : r.settings.WellRead) (hlacking : r.settings.lacking = []) :
    (∃ e, r.generated = .error e ∧ r.respond = .print (r.generationFailed e)) ∨
    ∃ (d : Declaration) (text : String), r.generated = .ok d ∧
      d.render r.config r.form = .ok text ∧
        r.respond =
          match r.settings.output with
          | none => .print { exit := 0, stdout := text }
          | some given => .deliver (r.delivery given d text) := by
  obtain ⟨hne, -⟩ | ⟨e, hgenerated, hrespond⟩ | ⟨d, text, hgenerated, htext, hout, hrespond⟩ |
    ⟨d, text, given, hgenerated, htext, hout, hrespond⟩ := r.respond_cases
  · exact absurd hlacking hne
  · rw [if_pos (isReported_of_generated h hgenerated)] at hrespond
    exact .inl ⟨e, hgenerated, hrespond⟩
  · exact .inr ⟨d, text, hgenerated, htext, by rw [hrespond, hout]⟩
  · exact .inr ⟨d, text, hgenerated, htext, by rw [hrespond, hout]⟩

end Request

end PerArity.CommandLine
