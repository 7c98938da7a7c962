import PerArity.CommandLine.Request
import PerArity.Proofs.Traversal

/-!
# Reading arguments piece by piece

Arguments are judged one by one, so the judgement of a line is that of its parts, and they are taken
from left to right, so the settings after some arguments are where the next ones start from
(`takeAll_append`). The one place where an argument looks ahead is a flag that still waits for its
value, and that matters only when the next argument is an operand.

A flag with a value attached by an equals sign is the same option for every value
(`judge_attached`). At the main command nothing is ambiguous, because no text is the beginning of
both of its flags.
-/

namespace PerArity.CommandLine

/-! ## Flags -/

namespace Opt

theorem mem_flags_of_mem_flagTable {options : List Opt} {flag : String} {o : Opt}
    (h : (flag, o) ∈ flagTable options) : flag ∈ o.flags := by
  obtain ⟨o', -, hflag⟩ := List.mem_flatMap.mp h
  obtain ⟨flag', hflag', heq⟩ := List.mem_map.mp hflag
  obtain ⟨rfl, rfl⟩ := Prod.mk.inj heq
  exact hflag'

theorem mem_flags_of_ofFlag? {options : List Opt} {flag : String} {o : Opt}
    (h : ofFlag? options flag = some o) : flag ∈ o.flags := by
  obtain ⟨before, after, htable, -⟩ := List.lookup_eq_some_iff.mp h
  have hmem : (flag, o) ∈ flagTable options := by
    rw [htable]
    exact List.mem_append_right before List.mem_cons_self
  exact mem_flags_of_mem_flagTable hmem

theorem flag_shape {o : Opt} {flag : String} (h : flag ∈ o.flags) :
    '=' ∉ flag.toList ∧ ∃ c rest, flag.toList = '-' :: c :: rest := by
  have hall : ∀ flag ∈ o.flags, '=' ∉ flag.toList ∧
      flag.toList = '-' :: flag.toList.tail.headD '-' :: flag.toList.tail.tail := by
    rcases o with - | (- | - | - | - | -) | (- | -) <;> decide +kernel
  obtain ⟨hequals, hshape⟩ := hall flag h
  exact ⟨hequals, _, _, hshape⟩

end Opt

/-! ## Judging -/

namespace Argument

theorem splitAtEquals_append {stem : List Char} (h : '=' ∉ stem) (value : List Char) :
    splitAtEquals (stem ++ '=' :: value) = (stem, some value) := by
  have hstem : ∀ c ∈ stem, decide (c ≠ '=') = true := by
    intro c hc
    refine decide_eq_true ?_
    rintro rfl
    exact h hc
  rw [splitAtEquals, List.dropWhile_append_of_pos hstem, List.takeWhile_append_of_pos hstem]
  simp

/-- **A flag with a value attached to it is judged as its option with that value**, whatever the
value is. -/
theorem judge_attached {options : List Opt} {flag : String} {o : Opt}
    (h : Opt.ofFlag? options flag = some o) (value : String) :
    judge options (flag ++ "=" ++ value) = .ok (.option flag o (some value)) := by
  obtain ⟨hequals, c, rest, hshape⟩ := Opt.flag_shape (Opt.mem_flags_of_ofFlag? h)
  have htext : (flag ++ "=" ++ value).toList = flag.toList ++ '=' :: value.toList := by
    simp
  -- a text with an equals sign is no flag by itself
  have hnone : Opt.ofFlag? options (flag ++ "=" ++ value) = none := by
    rw [Option.eq_none_iff_forall_ne_some]
    intro o' ho'
    refine (Opt.flag_shape (Opt.mem_flags_of_ofFlag? ho')).1 ?_
    rw [htext]
    exact List.mem_append_right _ List.mem_cons_self
  have hvalue : withValue? options (flag.toList ++ '=' :: value.toList) =
      some (.option flag o (some value)) := by
    rw [withValue?, splitAtEquals_append hequals]
    simp [h]
  rw [judge, hnone, htext, hshape]
  dsimp only [List.cons_append]
  rw [judgeInexact, htext, hvalue]
  rfl

theorem splitAtEquals_fst (s : List Char) : (splitAtEquals s).1 = s.takeWhile (· ≠ '=') := by
  have happend : s.takeWhile (· ≠ '=') ++ s.dropWhile (· ≠ '=') = s :=
    List.takeWhile_append_dropWhile
  rw [splitAtEquals]
  split
  · rename_i hnil
    rw [hnil, List.append_nil] at happend
    exact happend.symm
  · rfl

private theorem length_candidates_ofMain (s : List Char) :
    (candidates Opt.ofMain s).length ≤ 1 := by
  have htable : Opt.flagTable Opt.ofMain = [("-h", .help), ("--help", .help)] := rfl
  unfold candidates
  split
  · rename_i rest
    -- the stem begins with two dashes, and so it is no beginning of the short flag
    have hstem : ¬(splitAtEquals ('-' :: '-' :: rest)).1 <+: "-h".toList := by
      rw [splitAtEquals_fst]
      simp
    rcases hsplit : splitAtEquals ('-' :: '-' :: rest) with ⟨stem, attached⟩
    rw [hsplit] at hstem
    rw [htable]
    dsimp only
    rw [List.filterMap_cons, if_neg hstem]
    exact List.length_filterMap_le _ _
  · rename_i c attached _
    rw [htable, List.filterMap_cons]
    dsimp only
    split <;> simp
  · exact Nat.zero_le 1

/-- No argument is ambiguous at the main command. -/
theorem exists_judge_ofMain (text : String) : ∃ r, judge Opt.ofMain text = .ok r := by
  rw [judge]
  split
  · exact ⟨_, rfl⟩
  · split
    · rw [judgeInexact]
      split
      · exact ⟨_, rfl⟩
      · have hlength := length_candidates_ofMain text.toList
        split
        · exact ⟨_, rfl⟩
        · split <;> exact ⟨_, rfl⟩
        · rename_i hone hnil
          match hc : candidates Opt.ofMain text.toList with
          | [] => exact absurd hc hnil
          | [reading] => exact absurd hc (hone reading)
          | _ :: _ :: _ => simp [hc] at hlength
    · exact ⟨_, rfl⟩

theorem judgeAll_append {options : List Opt} {texts texts' : List String}
    {arguments arguments' : List Argument} (h : judgeAll options texts = .ok arguments)
    (h' : judgeAll options texts' = .ok arguments') :
    judgeAll options (texts ++ texts') = .ok (arguments ++ arguments') := by
  rw [judgeAll] at h h' ⊢
  rw [List.mapM_append, h, h']
  rfl

theorem judgeAll_singleton {options : List Opt} {text : String} {r : Reading}
    (h : judge options text = .ok r) : judgeAll options [text] = .ok [⟨text, r⟩] := by
  rw [judgeAll, List.mapM_cons, h]
  rfl

theorem judgeAll_cons_eq_ok_iff {options : List Opt} {text : String} {texts : List String}
    {arguments : List Argument} :
    judgeAll options (text :: texts) = .ok arguments ↔
      ∃ r rest, judge options text = .ok r ∧ judgeAll options texts = .ok rest ∧
        arguments = ⟨text, r⟩ :: rest := by
  have hcons : judgeAll options (text :: texts) = judge options text >>= fun r ↦
      judgeAll options texts >>= fun rest ↦ .ok (⟨text, r⟩ :: rest) := by
    rw [judgeAll, List.mapM_cons]
    cases judge options text <;> rfl
  rw [hcons, bind_eq_ok_iff]
  constructor
  · rintro ⟨r, hr, h⟩
    obtain ⟨rest, hrest, heq⟩ := bind_eq_ok_iff.mp h
    exact ⟨r, rest, hr, hrest, (Except.ok.inj heq).symm⟩
  · rintro ⟨r, rest, hr, hrest, rfl⟩
    exact ⟨r, hr, bind_eq_ok_iff.mpr ⟨rest, hrest, rfl⟩⟩

theorem map_text_of_judgeAll {options : List Opt} {texts : List String} {arguments : List Argument}
    (h : judgeAll options texts = .ok arguments) : arguments.map (·.text) = texts := by
  induction texts generalizing arguments with
  | nil =>
    obtain rfl := Except.ok.inj h
    rfl
  | cons text texts ih =>
    obtain ⟨r, rest, -, hrest, rfl⟩ := judgeAll_cons_eq_ok_iff.mp h
    rw [List.map_cons, ih hrest]

theorem of_mem_judgeAll {options : List Opt} {texts : List String} {arguments : List Argument}
    (h : judgeAll options texts = .ok arguments) {a : Argument} (ha : a ∈ arguments) :
    a.text ∈ texts ∧ judge options a.text = .ok a.reading := by
  induction texts generalizing arguments with
  | nil =>
    obtain rfl := Except.ok.inj h
    cases ha
  | cons text texts ih =>
    obtain ⟨r, rest, hr, hrest, rfl⟩ := judgeAll_cons_eq_ok_iff.mp h
    rcases List.mem_cons.mp ha with rfl | ha
    · exact ⟨List.mem_cons_self, hr⟩
    · exact (ih hrest ha).imp (List.mem_cons_of_mem text) id

theorem startsWithOperand_append {tail : List Argument} (htail : startsWithOperand tail = false)
    (arguments : List Argument) :
    startsWithOperand (arguments ++ tail) = startsWithOperand arguments := by
  rcases arguments with - | ⟨⟨text, - | - | -⟩, rest⟩
  · exact htail
  all_goals rfl

end Argument

/-! ## Taking -/

/-- The command is the same with more arguments at the end, which are then its last ones. -/
theorem findCommand_append {arguments : List Argument} {name : String} {texts before : List String}
    (h : findCommand arguments = .ok ⟨some (name, texts), before⟩) (tail : List Argument) :
    findCommand (arguments ++ tail) = .ok ⟨some (name, texts ++ tail.map (·.text)), before⟩ := by
  induction arguments generalizing before with
  | nil => cases h
  | cons a arguments ih =>
    obtain ⟨text, - | - | ⟨flag, o, attached⟩⟩ := a
    · simp only [findCommand, Except.ok.injEq, Command.mk.injEq, Option.some.injEq,
        Prod.mk.injEq] at h
      obtain ⟨⟨rfl, rfl⟩, rfl⟩ := h
      simp [findCommand]
    · rw [findCommand, map_eq_ok_iff] at h
      obtain ⟨⟨call, before'⟩, hrest, heq⟩ := h
      obtain ⟨rfl, rfl⟩ := Command.mk.inj heq
      rw [List.cons_append, findCommand, ih hrest]
      rfl
    · rw [findCommand] at h
      split at h <;> cases h

theorem mem_of_findCommand {arguments : List Argument} {name : String} {texts before : List String}
    (h : findCommand arguments = .ok ⟨some (name, texts), before⟩) {text : String}
    (ht : text ∈ texts) : ∃ a ∈ arguments, a.text = text := by
  induction arguments generalizing before with
  | nil => cases h
  | cons a arguments ih =>
    obtain ⟨first, - | - | ⟨flag, o, attached⟩⟩ := a
    · simp only [findCommand, Except.ok.injEq, Command.mk.injEq, Option.some.injEq,
        Prod.mk.injEq] at h
      obtain ⟨⟨rfl, rfl⟩, rfl⟩ := h
      obtain ⟨a, ha, heq⟩ := List.mem_map.mp ht
      exact ⟨a, List.mem_cons_of_mem _ ha, heq⟩
    · rw [findCommand, map_eq_ok_iff] at h
      obtain ⟨⟨call, before'⟩, hrest, heq⟩ := h
      obtain ⟨rfl, rfl⟩ := Command.mk.inj heq
      obtain ⟨a, ha, htext⟩ := ih hrest
      exact ⟨a, List.mem_cons_of_mem _ ha, htext⟩
    · rw [findCommand] at h
      split at h <;> cases h

/-- **Arguments are taken from left to right**: what comes after some arguments is taken with the
settings that these lead to, if it does not begin with an operand, which might be the value of the
last of them. -/
theorem takeAll_append {s s' : Settings} {arguments tail : List Argument} {left : List String}
    (h : takeAll s arguments = .ok (s', left))
    (htail : Argument.startsWithOperand tail = false) :
    takeAll s (arguments ++ tail) = (takeAll s' tail).map fun r ↦ (r.1, left ++ r.2) := by
  fun_induction takeAll s arguments generalizing left with
  | case1 s =>
    obtain ⟨rfl, rfl⟩ := Prod.mk.inj (Except.ok.inj h)
    rw [List.nil_append]
    cases takeAll s tail <;> rfl
  | case2 s text rest ih | case3 s text rest ih =>
    -- an argument that is left over
    obtain ⟨⟨s₁, left₁⟩, hrest, heq⟩ := map_eq_ok_iff.mp h
    obtain ⟨rfl, rfl⟩ := Prod.mk.inj heq
    rw [List.cons_append, takeAll, ih hrest]
    cases takeAll s₁ tail <;> rfl
  | case5 s _ flag v value rest s₁ hgive ih =>
    -- a flag with its value attached
    rw [List.cons_append, takeAll, hgive]
    exact ih h
  | case7 s _ flag v value rest s₁ hgive ih =>
    -- a flag with its value in the next argument
    rw [List.cons_append, List.cons_append, takeAll, hgive]
    exact ih h
  | case10 s _ flag t attached rest operandFollows hattached =>
    -- a flag without a value, which looks at the next argument all the same
    rename_i ih
    rw [List.cons_append, takeAll, Argument.startsWithOperand_append htail, hattached]
    exact ih h
  | case4 | case6 | case8 | case9 | case11 | case12 => cases h

/-! ## Values that are missing -/

/-- The value attached to a flag, if an argument was judged to be a flag with one. -/
def Argument.attached? : Except Misuse Reading → Option String
  | .ok (.option _ _ attached) => attached
  | _ => none

/-- A text that is the separator or has it attached to a flag as a value. -/
def CarriesSeparator (text : String) : Prop :=
  text = separator ∨ Argument.attached? (Argument.judge Opt.ofFamily text) = some separator

instance (text : String) : Decidable (CarriesSeparator text) := inferInstanceAs (Decidable (_ ∨ _))

theorem Settings.set_lacking {s s' : Settings} {v : Valued} {text : String}
    (h : s.set v text = .ok s') : s'.lacking = s.lacking := by
  cases v with
  | maxArity =>
    rw [set] at h
    split at h
    · rw [← Except.ok.inj h]
    · cases h
  | target =>
    rw [set] at h
    split at h
    · rw [← Except.ok.inj h]
    · cases h
  | output | outputRoot | sourceUrl =>
    rw [set] at h
    rw [← Except.ok.inj h]

theorem Settings.give_lacking {s s' : Settings} {v : Valued} {text : String}
    (htext : text ≠ separator) (hs : s.lacking = []) (h : s.give v text = .ok s') :
    s'.lacking = [] := by
  rw [give, if_neg htext, map_eq_ok_iff] at h
  obtain ⟨s₁, hset, rfl⟩ := h
  dsimp only
  rw [set_lacking hset, hs, List.filter_nil]

/-- **What every value and every toggle keeps holds at the end**, if it holds at the beginning and
the values are of a kind. -/
theorem takeAll_keeps {P : Settings → Prop} {Q : String → Prop}
    (hgive : ∀ s s' v text, P s → Q text → s.give v text = .ok s' → P s')
    (hturnOn : ∀ s t, P s → P (s.turnOn t)) {s s' : Settings} {arguments : List Argument}
    {left : List String} (hs : P s)
    (hvalues : ∀ a ∈ arguments, Q a.text ∧
      ∀ flag o value, a.reading = .option flag o (some value) → Q value)
    (h : takeAll s arguments = .ok (s', left)) : P s' := by
  fun_induction takeAll s arguments generalizing left with
  | case1 s =>
    obtain ⟨rfl, -⟩ := Prod.mk.inj (Except.ok.inj h)
    exact hs
  | case2 s text rest ih | case3 s text rest ih =>
    -- an argument that is left over
    obtain ⟨⟨s₁, left₁⟩, hrest, heq⟩ := map_eq_ok_iff.mp h
    obtain ⟨rfl, -⟩ := Prod.mk.inj heq
    exact ih hs (fun a ha ↦ hvalues a (List.mem_cons_of_mem _ ha)) hrest
  | case5 s _ flag v value rest s₁ hs₁ ih =>
    -- a flag with its value attached
    have hvalue : Q value := (hvalues _ List.mem_cons_self).2 _ _ _ rfl
    exact ih (hgive s s₁ v value hs hvalue hs₁)
      (fun a ha ↦ hvalues a (List.mem_cons_of_mem _ ha)) h
  | case7 s _ flag v value rest s₁ hs₁ ih =>
    -- a flag with its value in the next argument
    have hvalue : Q value :=
      (hvalues ⟨value, .operand⟩ (List.mem_cons_of_mem _ List.mem_cons_self)).1
    exact ih (hgive s s₁ v value hs hvalue hs₁)
      (fun a ha ↦ hvalues a (List.mem_cons_of_mem _ (List.mem_cons_of_mem _ ha))) h
  | case10 s _ flag t attached rest operandFollows hattached =>
    rename_i ih
    exact ih (hturnOn s t hs) (fun a ha ↦ hvalues a (List.mem_cons_of_mem _ ha)) h
  | case4 | case6 | case8 | case9 | case11 | case12 => cases h

theorem takeAll_lacking {s s' : Settings} {arguments : List Argument} {left : List String}
    (hs : s.lacking = [])
    (hseparator : ∀ a ∈ arguments, a.text ≠ separator ∧
      ∀ flag o, a.reading ≠ .option flag o (some separator))
    (h : takeAll s arguments = .ok (s', left)) : s'.lacking = [] := by
  refine takeAll_keeps (P := fun s ↦ s.lacking = []) (Q := (· ≠ separator)) ?_ ?_ hs ?_ h
  · intro s s' v text hs htext hgive
    exact Settings.give_lacking htext hs hgive
  · intro s t hs
    cases t <;> exact hs
  · intro a ha
    refine ⟨(hseparator a ha).1, ?_⟩
    rintro flag o value hreading rfl
    exact (hseparator a ha).2 flag o hreading

/-! ## The whole line -/

theorem readCommand_eq_ok_iff {texts : List String} {c : Command} :
    readCommand texts = .ok c ↔
      ∃ arguments, Argument.judgeAll Opt.ofMain texts = .ok arguments ∧
        findCommand arguments = .ok c := by
  rw [readCommand]
  cases Argument.judgeAll Opt.ofMain texts <;> simp

theorem readSettings_eq_ok_iff {directory : Path} {family : Family} {texts : List String}
    {r : Settings × List String} :
    readSettings directory family texts = .ok r ↔
      ∃ arguments, Argument.judgeAll Opt.ofFamily texts = .ok arguments ∧
        takeAll (.default directory family) arguments = .ok r := by
  rw [readSettings]
  cases Argument.judgeAll Opt.ofFamily texts <;> simp

/-- A line is a request when it has a command, the command is a family and nothing is left over. -/
theorem read_eq_ok_iff {directory : Path} {texts : List String} {r : Request} :
    read directory texts = .ok r ↔
      ∃ name arguments, readCommand texts = .ok ⟨some (name, arguments), []⟩ ∧
        Family.ofName? name = some r.family ∧
          readSettings directory r.family arguments = .ok (r.settings, []) := by
  obtain ⟨family, settings⟩ := r
  rw [read]
  split
  · rename_i hcommand
    simp [hcommand]
  · rename_i hcommand
    simp [hcommand]
  · rename_i hcommand
    simp [hcommand]
  · rename_i name arguments before hcommand
    rw [hcommand]
    simp only [Except.ok.injEq, Command.mk.injEq, Option.some.injEq, Prod.mk.injEq]
    cases hfamily : Family.ofName? name with
    | none =>
      simp only [reduceCtorEq, false_iff]
      rintro ⟨_, _, ⟨⟨rfl, rfl⟩, -⟩, hname, -⟩
      rw [hfamily] at hname
      cases hname
    | some family' =>
      dsimp only
      constructor
      · intro h
        split at h
        · cases h
        · rename_i settings' after hsettings
          split at h
          · rename_i hnothing
            obtain ⟨rfl, rfl⟩ := List.append_eq_nil_iff.mp hnothing
            obtain ⟨rfl, rfl⟩ := Request.mk.inj (Except.ok.inj h)
            exact ⟨name, arguments, ⟨⟨rfl, rfl⟩, rfl⟩, hfamily, hsettings⟩
          · cases h
      · rintro ⟨_, _, ⟨⟨rfl, rfl⟩, rfl⟩, hname, hsettings⟩
        obtain rfl := Option.some.inj (hfamily.symm.trans hname)
        rw [hsettings]
        rfl

/-- Where no text carries the separator, no option lacks its value. -/
theorem read_lacking {directory : Path} {texts : List String} {r : Request}
    (hseparator : ∀ text ∈ texts, ¬CarriesSeparator text) (h : read directory texts = .ok r) :
    r.settings.lacking = [] := by
  obtain ⟨name, arguments, hcommand, -, hsettings⟩ := read_eq_ok_iff.mp h
  obtain ⟨judged, hjudged, hfind⟩ := readCommand_eq_ok_iff.mp hcommand
  obtain ⟨taken, htaken, htake⟩ := readSettings_eq_ok_iff.mp hsettings
  refine takeAll_lacking rfl ?_ htake
  intro a ha
  -- the argument is judged once for the main command and once for the family
  obtain ⟨hmem, hjudge⟩ := Argument.of_mem_judgeAll htaken ha
  obtain ⟨b, hb, hba⟩ := mem_of_findCommand hfind hmem
  have hfree := hseparator a.text (hba ▸ (Argument.of_mem_judgeAll hjudged hb).1)
  constructor
  · intro heq
    exact hfree (.inl heq)
  · intro flag o hreading
    refine hfree (.inr ?_)
    rw [hjudge, hreading]
    rfl

end PerArity.CommandLine
