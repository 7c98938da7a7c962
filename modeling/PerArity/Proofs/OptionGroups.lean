import PerArity.Proofs.Arguments
import PerArity.Proofs.Numerals
import PerArity.Proofs.RegisteredTargets
import Mathlib.Data.List.Induction

/-!
# Command lines that are laid out option by option

A `Group` is one option as it stands on a command line: a toggle, a flag with its value attached, or
a flag with its value in the next argument. Its value is one that the option can have, an integer in
decimal for the bound on the arities and a registered target for the target. An attached value may
be any text but the separator; a value that stands apart must not look like a flag, but may well be
a negative number where a number is asked for.

A command with any groups after it is read, and every setting is what the last group for its option
says (`read_layOut`). So the order of the groups matters only among those for one option.

The bridge between the two is a group as a change of the settings (`Settings.apply`): the arguments
of a group are taken as that change (`Group.exists_taken`), and all changes together leave the last
values behind (`Settings.foldl_apply`).
-/

namespace PerArity.CommandLine

/-! ## Values and groups -/

namespace Valued

/-- The values that an option can have. -/
def Value : Valued → Type
  | maxArity => Decimal
  | target => {t : Target // t ∈ Target.registered}
  | output | outputRoot | sourceUrl => String

/-- How a value is written. -/
def text : (v : Valued) → v.Value → String
  | maxArity, d => Decimal.text d
  | target, t => t.val.name
  | output, s | outputRoot, s | sourceUrl, s => s

end Valued

/-- One option as it stands on a command line. -/
inductive Group where
  /-- An option without a value. -/
  | toggle (t : Toggle) (flag : String) (hflag : flag ∈ (Opt.toggle t).flags)
  /-- An option with its value attached to the flag. -/
  | attached (v : Valued) (flag : String) (hflag : flag ∈ (Opt.valued v).flags) (value : v.Value)
    (hvalue : v.text value ≠ separator)
  /-- An option with its value in the next argument. -/
  | apart (v : Valued) (flag : String) (hflag : flag ∈ (Opt.valued v).flags) (value : v.Value)
    (hvalue : v = .maxArity ∨ (v.text value).toList.head? ≠ some '-')

namespace Group

/-- The arguments of a group. -/
def texts : Group → List String
  | toggle _ flag _ => [flag]
  | attached v flag _ value _ => [flag ++ "=" ++ v.text value]
  | apart v flag _ value _ => [flag, v.text value]

/-- The option of a group. -/
def option : Group → Opt
  | toggle t _ _ => .toggle t
  | attached v _ _ _ _ | apart v _ _ _ _ => .valued v

/-- The value that a group gives to an option, if it is a group for that option. -/
def value? (v : Valued) : Group → Option v.Value
  | toggle _ _ _ => none
  | attached w _ _ value _ | apart w _ _ value _ => if h : w = v then some (h ▸ value) else none

end Group

/-- The arguments of groups, one group after the other. -/
def layOut (groups : List Group) : List String := groups.flatMap Group.texts

/-- The last value that groups give to an option. -/
def last? (v : Valued) (groups : List Group) : Option v.Value :=
  (groups.filterMap (Group.value? v)).getLast?

namespace Settings

/-- The settings that groups make, where the last group for an option wins and what no group names
is as it is for the family. -/
def ofGroups (directory : Path) (family : Family) (groups : List Group) : Settings where
  maxArity := (last? .maxArity groups).elim family.defaultMaxArity Decimal.value
  target := (last? .target groups).elim Target.flow Subtype.val
  output := last? .output groups
  outputRoot := (last? .outputRoot groups).elim directory Path.ofString
  sourceUrl := (last? .sourceUrl groups).getD defaultSourceUrl
  json := .toggle .json ∈ groups.map Group.option
  noBanner := .toggle .noBanner ∈ groups.map Group.option

/-- The settings with an option set to a value that it can have. -/
def put (s : Settings) : (v : Valued) → v.Value → Settings
  | .maxArity, d => { s with maxArity := Decimal.value d }
  | .target, t => { s with target := t.val }
  | .output, text => { s with output := some text }
  | .outputRoot, text => { s with outputRoot := Path.ofString text }
  | .sourceUrl, text => { s with sourceUrl := text }

/-- The settings after a group. -/
def apply (s : Settings) : Group → Settings
  | .toggle t _ _ => s.turnOn t
  | .attached v _ _ value _ | .apart v _ _ value _ => s.put v value

end Settings

/-! ## Judging the arguments of a group -/

namespace Opt

theorem ofFlag?_ofFamily {o : Opt} {flag : String} (h : flag ∈ o.flags) :
    ofFlag? ofFamily flag = some o := by
  have hall : ∀ flag ∈ o.flags, ofFlag? ofFamily flag = some o := by
    rcases o with - | (- | - | - | - | -) | (- | -) <;> decide +kernel
  exact hall flag h

theorem second_ne_digitChar {o : Opt} {flag : String} (h : flag ∈ o.flags) (i : Fin 10) :
    flag.toList.tail.head? ≠ some (Nat.digitChar i) := by
  have hall : ∀ flag ∈ o.flags, ∀ i : Fin 10, flag.toList.tail.head? ≠ some (Nat.digitChar i) := by
    rcases o with - | (- | - | - | - | -) | (- | -) <;> decide +kernel
  exact hall flag h i

end Opt

namespace Argument

theorem judge_flag {o : Opt} {flag : String} (h : flag ∈ o.flags) :
    judge Opt.ofFamily flag = .ok (.option flag o none) := by
  rw [judge, Opt.ofFlag?_ofFamily h]

theorem judge_of_head?_ne {options : List Opt} {text : String}
    (h : text.toList.head? ≠ some '-') : judge options text = .ok .operand := by
  have hnone : Opt.ofFlag? options text = none := by
    rw [Option.eq_none_iff_forall_ne_some]
    intro o ho
    obtain ⟨-, c, rest, hshape⟩ := Opt.flag_shape (Opt.mem_flags_of_ofFlag? ho)
    exact h (by rw [hshape]; rfl)
  rw [judge, hnone]
  dsimp only
  split
  · rename_i htext
    exact absurd (by rw [htext]; rfl) h
  · rfl

theorem withValue?_of_notMem {options : List Opt} {s : List Char} (h : '=' ∉ s) :
    withValue? options s = none := by
  have hdrop : s.dropWhile (· ≠ '=') = [] := by
    rw [List.dropWhile_eq_nil_iff]
    intro c hc
    refine decide_eq_true ?_
    rintro rfl
    exact h hc
  rw [withValue?, splitAtEquals, hdrop]

theorem candidates_of_digit (options : List Opt) (i : Fin 10) (rest : List Char) :
    candidates options ('-' :: Nat.digitChar i :: rest) = [] := by
  rw [candidates]
  · rw [List.filterMap_eq_nil_iff]
    rintro ⟨flag, o⟩ hmem
    refine if_neg fun heq ↦ ?_
    refine Opt.second_ne_digitChar (Opt.mem_flags_of_mem_flagTable hmem) i ?_
    rw [heq]
    rfl
  · exact (Text.digitChar_ne i).1

/-- **A decimal is an operand**, also where it begins with a minus sign, because no flag looks like
a negative number. -/
theorem judge_decimal {options : List Opt} (d : Decimal) :
    judge options d.text = .ok .operand := by
  by_cases hdash : d.text.toList.head? = some '-'
  · obtain ⟨rest, hchars⟩ := List.head?_eq_some_iff.mp hdash
    rw [Decimal.toList_text] at hchars
    obtain rfl := Decimal.chars_of_dash hchars
    obtain ⟨c, rest, hdigits⟩ := List.exists_cons_of_ne_nil d.digitChars_ne_nil
    obtain ⟨i, rfl⟩ := Decimal.exists_of_mem_digitChars (hdigits ▸ List.mem_cons_self)
    have htext : d.text.toList = '-' :: Nat.digitChar i :: rest := by
      rw [Decimal.toList_text, hchars, hdigits]
    have hflag : Opt.ofFlag? options d.text = none := by
      rw [Option.eq_none_iff_forall_ne_some]
      intro o ho
      refine Opt.second_ne_digitChar (Opt.mem_flags_of_ofFlag? ho) i ?_
      rw [htext]
      rfl
    have hnegative : Text.isNegativeNumber d.text.toList = true := by
      rw [Decimal.toList_text, hchars]
      exact d.isNegativeNumber_digitChars
    rw [judge, hflag, htext]
    dsimp only
    have hcandidates : candidates options d.text.toList = [] := by
      rw [htext]
      exact candidates_of_digit options i rest
    rw [judgeInexact, withValue?_of_notMem d.equals_notMem, hcandidates]
    exact if_pos (Or.inl hnegative)
  · exact judge_of_head?_ne hdash

end Argument

/-- A decimal is no separator, whose second dash is no digit. -/
theorem decimal_ne_separator (d : Decimal) : d.text ≠ separator := by
  intro hseparator
  have hchars : d.chars = ['-', '-'] := by
    rw [← d.toList_text, hseparator]
    rfl
  have hmem : '-' ∈ d.digitChars := Decimal.chars_of_dash hchars ▸ List.mem_singleton_self '-'
  obtain ⟨i, heq⟩ := Decimal.exists_of_mem_digitChars hmem
  exact (Text.digitChar_ne i).1 heq

namespace Valued

theorem text_ne_separator {v : Valued} {value : v.Value}
    (h : v = .maxArity ∨ (v.text value).toList.head? ≠ some '-') : v.text value ≠ separator := by
  intro hseparator
  rcases h with rfl | h
  · exact decimal_ne_separator value hseparator
  · exact h (hseparator ▸ rfl)

theorem judge_text {v : Valued} {value : v.Value}
    (h : v = .maxArity ∨ (v.text value).toList.head? ≠ some '-') :
    Argument.judge Opt.ofFamily (v.text value) = .ok .operand := by
  rcases h with rfl | h
  · exact Argument.judge_decimal value
  · exact Argument.judge_of_head?_ne h

end Valued

/-! ## Taking the arguments of a group -/

namespace Settings

theorem put_lacking (s : Settings) (v : Valued) (value : v.Value) :
    (s.put v value).lacking = s.lacking := by
  cases v <;> rfl

theorem set_text (s : Settings) (v : Valued) (value : v.Value) :
    s.set v (v.text value) = .ok (s.put v value) := by
  cases v with
  | maxArity =>
    have hread : Text.readInt? (Valued.maxArity.text value) = some (Decimal.value value) :=
      Decimal.readInt?_text value
    rw [set, hread]
    rfl
  | target =>
    have hname : Target.ofName (Valued.target.text value) = .ok value.val :=
      Target.ofName_eq_ok_iff.mpr ⟨value.property, rfl⟩
    rw [set, hname]
    rfl
  | output | outputRoot | sourceUrl => rfl

theorem give_text {s : Settings} {v : Valued} {value : v.Value} (hs : s.lacking = [])
    (hvalue : v.text value ≠ separator) : s.give v (v.text value) = .ok (s.put v value) := by
  rw [give, if_neg hvalue, set_text]
  have hlacking : (s.put v value).lacking = [] := (put_lacking s v value).trans hs
  have hfilter : (s.put v value).lacking.filter (· ≠ v) = (s.put v value).lacking := by
    rw [hlacking, List.filter_nil]
  simp only [Except.map, hfilter]

theorem apply_lacking (s : Settings) (g : Group) : (s.apply g).lacking = s.lacking := by
  rcases g with ⟨t, -, -⟩ | ⟨v, -, -, value, -⟩ | ⟨v, -, -, value, -⟩
  · cases t <;> rfl
  · exact put_lacking s v value
  · exact put_lacking s v value

end Settings

/-- **The arguments of a group are taken as the change that the group makes.** -/
theorem Group.exists_taken (g : Group) :
    ∃ arguments, Argument.judgeAll Opt.ofFamily g.texts = .ok arguments ∧
      Argument.startsWithOperand arguments = false ∧
        ∀ s : Settings, s.lacking = [] → takeAll s arguments = .ok (s.apply g, []) := by
  rcases g with ⟨t, flag, hflag⟩ | ⟨v, flag, hflag, value, hvalue⟩ |
    ⟨v, flag, hflag, value, hvalue⟩
  · refine ⟨_, Argument.judgeAll_singleton (Argument.judge_flag hflag), rfl, ?_⟩
    intro s hs
    rw [takeAll]
    rfl
  · refine ⟨_, Argument.judgeAll_singleton
      (Argument.judge_attached (Opt.ofFlag?_ofFamily hflag) _), rfl, ?_⟩
    intro s hs
    rw [takeAll, Settings.give_text hs hvalue]
    rfl
  · have hjudged := Argument.judgeAll_append
      (Argument.judgeAll_singleton (Argument.judge_flag hflag))
      (Argument.judgeAll_singleton (Valued.judge_text hvalue))
    refine ⟨_, hjudged, rfl, ?_⟩
    intro s hs
    rw [List.singleton_append, takeAll, Settings.give_text hs (Valued.text_ne_separator hvalue)]
    rfl

theorem exists_taken (groups : List Group) :
    ∃ arguments, Argument.judgeAll Opt.ofFamily (layOut groups) = .ok arguments ∧
      Argument.startsWithOperand arguments = false ∧
        ∀ s : Settings, s.lacking = [] →
          takeAll s arguments = .ok (groups.foldl Settings.apply s, []) := by
  induction groups with
  | nil => exact ⟨[], rfl, rfl, fun s _ ↦ by rw [takeAll]; rfl⟩
  | cons g groups ih =>
    obtain ⟨first, hfirst, hstart, htake⟩ := g.exists_taken
    obtain ⟨rest, hrest, hstart', htake'⟩ := ih
    refine ⟨first ++ rest, Argument.judgeAll_append hfirst hrest, ?_, ?_⟩
    · rw [Argument.startsWithOperand_append hstart']
      exact hstart
    · intro s hs
      rw [takeAll_append (htake s hs) hstart', htake' _ ((s.apply_lacking g).trans hs)]
      rfl

/-! ## The last value wins -/

theorem last?_append (v : Valued) (groups : List Group) (g : Group) :
    last? v (groups ++ [g]) = (g.value? v).or (last? v groups) := by
  rw [last?, List.filterMap_append, List.getLast?_append]
  simp only [List.filterMap_cons, List.filterMap_nil]
  cases g.value? v <;> rfl

theorem Settings.ofGroups_append (directory : Path) (family : Family) (groups : List Group)
    (g : Group) :
    ofGroups directory family (groups ++ [g]) = (ofGroups directory family groups).apply g := by
  simp only [ofGroups, last?_append, List.map_append, List.mem_append]
  rcases g with ⟨t, -, -⟩ | ⟨v, -, -, value, -⟩ | ⟨v, -, -, value, -⟩
  · cases t <;> simp [apply, turnOn, Group.value?, Group.option]
  · cases v <;> simp [apply, put, Group.value?, Group.option] <;> rfl
  · cases v <;> simp [apply, put, Group.value?, Group.option] <;> rfl

/-- All groups together lead from the settings of the family to those of the last values. -/
theorem Settings.foldl_apply (directory : Path) (family : Family) (groups : List Group) :
    groups.foldl apply (.default directory family) = ofGroups directory family groups := by
  induction groups using List.reverseRec with
  | nil => rfl
  | append_singleton groups g ih =>
    rw [List.foldl_append, ih, ofGroups_append]
    rfl

/-! ## Order -/

theorem Group.value?_eq_none {v : Valued} {g : Group} (h : g.option ≠ .valued v) :
    g.value? v = none := by
  cases g with
  | toggle => rfl
  | attached | apart => exact dif_neg fun heq ↦ h (congrArg Opt.valued heq)

theorem last?_filter (v : Valued) (groups : List Group) :
    last? v (groups.filter (·.option = .valued v)) = last? v groups := by
  rw [last?, List.filterMap_filter, last?]
  congr 2
  funext g
  by_cases h : g.option = .valued v
  · rw [if_pos (decide_eq_true h)]
  · rw [if_neg (ne_true_of_eq_false (decide_eq_false h)), Group.value?_eq_none h]

theorem mem_map_option_iff {o : Opt} {groups : List Group} :
    o ∈ groups.map Group.option ↔ groups.filter (·.option = o) ≠ [] := by
  rw [ne_eq, List.filter_eq_nil_iff, List.mem_map]
  simp

/-- Groups make the same settings in any order that keeps the groups for each option in theirs. -/
theorem Settings.ofGroups_congr (directory : Path) (family : Family) {groups groups' : List Group}
    (h : ∀ o, groups'.filter (·.option = o) = groups.filter (·.option = o)) :
    ofGroups directory family groups' = ofGroups directory family groups := by
  have hlast : ∀ v, last? v groups' = last? v groups := by
    intro v
    rw [← last?_filter, h, last?_filter]
  have hgiven : ∀ o, o ∈ groups'.map Group.option ↔ o ∈ groups.map Group.option := by
    intro o
    rw [mem_map_option_iff, h, mem_map_option_iff]
  simp only [ofGroups, hlast, hgiven]

/-! ## The whole line -/

theorem judge_name (options : List Opt) (family : Family) :
    Argument.judge options family.name = .ok .operand := by
  refine Argument.judge_of_head?_ne ?_
  cases family <;> decide

/-- The main command passes on all arguments after the name of a family. -/
theorem readCommand_name (family : Family) (texts : List String) :
    readCommand (family.name :: texts) = .ok ⟨some (family.name, texts), []⟩ := by
  have hjudged : ∃ rest, Argument.judgeAll Opt.ofMain texts = .ok rest := by
    induction texts with
    | nil => exact ⟨[], rfl⟩
    | cons text texts ih =>
      obtain ⟨rest, hrest⟩ := ih
      obtain ⟨r, hr⟩ := Argument.exists_judge_ofMain text
      exact ⟨_, Argument.judgeAll_cons_eq_ok_iff.mpr ⟨r, rest, hr, hrest, rfl⟩⟩
  obtain ⟨rest, hrest⟩ := hjudged
  refine readCommand_eq_ok_iff.mpr ⟨⟨family.name, .operand⟩ :: rest, ?_, ?_⟩
  · exact Argument.judgeAll_cons_eq_ok_iff.mpr ⟨_, rest, judge_name _ family, hrest, rfl⟩
  · rw [findCommand, Argument.map_text_of_judgeAll hrest]

/-- **A command with options laid out after it is read as the last value of each option**, and so
the order matters only among the groups for one option. -/
theorem read_layOut (directory : Path) (family : Family) (groups : List Group) :
    read directory (family.name :: layOut groups) =
        .ok ⟨family, .ofGroups directory family groups⟩ ∧
      ∀ groups' : List Group,
        (∀ o, groups'.filter (·.option = o) = groups.filter (·.option = o)) →
          read directory (family.name :: layOut groups') =
            read directory (family.name :: layOut groups) := by
  have hread : ∀ groups : List Group, read directory (family.name :: layOut groups) =
      .ok ⟨family, .ofGroups directory family groups⟩ := by
    intro groups
    obtain ⟨arguments, hjudged, -, htake⟩ := exists_taken groups
    have hsettings : readSettings directory family (layOut groups) =
        .ok (.ofGroups directory family groups, []) := by
      refine readSettings_eq_ok_iff.mpr ⟨arguments, hjudged, ?_⟩
      rw [htake _ rfl, Settings.foldl_apply]
    have hname : Family.ofName? family.name = some family := by
      cases family <;> rfl
    exact read_eq_ok_iff.mpr ⟨_, _, readCommand_name family _, hname, hsettings⟩
  refine ⟨hread groups, ?_⟩
  intro groups' h
  rw [hread groups', hread groups, Settings.ofGroups_congr directory family h]

/-- A negative bound and a later one, with a toggle and a file whose name looks like an option on
either side of them. -/
theorem read_layOut_two_bounds :
    let low : Group := .apart .maxArity "-n" (by decide)
      (⟨true, [0, 7], by decide, by decide⟩ : Decimal) (.inl rfl)
    let high : Group := .attached .maxArity "--max-arity" (by decide)
      (⟨false, [1, 2], by decide, by decide⟩ : Decimal) (by decide)
    let json : Group := .toggle .json "--json" (by decide)
    let file : Group := .attached .output "-o" (by decide) "--output-root=a b" (by decide)
    let home := Path.ofString "/home"
    layOut [file, low, json, high] =
        ["-o=--output-root=a b", "-n", "-07", "--json", "--max-arity=12"] ∧
      (∀ o, [json, low, high, file].filter (·.option = o) =
        [file, low, json, high].filter (·.option = o)) ∧
      read home ("partial" :: layOut [json, low, high, file]) =
        .ok ⟨.partialApplication, { maxArity := 12, outputRoot := home, json := true
                                    output := some "--output-root=a b"
                                    sourceUrl := defaultSourceUrl }⟩ := by
  intro low high json file home
  have horder : ∀ o, [json, low, high, file].filter (·.option = o) =
      [file, low, json, high].filter (·.option = o) := by
    rintro (- | (- | - | - | - | -) | (- | -)) <;> rfl
  obtain ⟨hread, hreorder⟩ := read_layOut home .partialApplication [file, low, json, high]
  refine ⟨by decide, horder, ?_⟩
  exact (hreorder _ horder).trans hread

end PerArity.CommandLine
