import PerArity.Formatting
import PerArity.Proofs.Outcome

/-!
# Words of a target are opaque

Four texts of a target are words that generated code contains as they are: the type parameters for
a result and for a predicate, and two comments. A word is never read, whatever it looks like. To say
so without looking at any run, let a word be a single character that occurs nowhere else; then
putting a text in the place of that character afterwards is the same as having had the text for a
word.

`Text.substitute` puts a text in the place of a character, and everything that the run of a plain
target is made of goes along with it: joining, filling a template that has not got the character
(`Template.fill_substitute`), and so every fragment and the whole run
(`outcome_generate_substitute`). A placeholder that does more than to show a word is another matter:
it may look at the length of it (`generate_of_padded_word`).
-/

namespace PerArity

/-! ## Texts -/

namespace Text

/-- A text with another one in the place of every occurrence of a character. -/
def substitute (c : Char) (s text : String) : String :=
  String.ofList (text.toList.flatMap fun d ↦ if d = c then s.toList else [d])

variable {c : Char} {s : String}

theorem toList_substitute (text : String) :
    (substitute c s text).toList = text.toList.flatMap fun d ↦ if d = c then s.toList else [d] :=
  String.toList_ofList

theorem substitute_append (a b : String) :
    substitute c s (a ++ b) = substitute c s a ++ substitute c s b := by
  rw [← String.toList_inj, String.toList_append]
  simp only [toList_substitute, String.toList_append, List.flatMap_append]

theorem substitute_of_notMem {text : String} (h : c ∉ text.toList) :
    substitute c s text = text := by
  rw [← String.toList_inj, toList_substitute]
  have hsame : ∀ d ∈ text.toList, (if d = c then s.toList else [d]) = [d] := by
    intro d hd
    rw [if_neg]
    rintro rfl
    exact h hd
  rw [List.flatMap_congr hsame, List.flatMap_singleton']

theorem substitute_singleton : substitute c s (String.singleton c) = s := by
  rw [← String.toList_inj, toList_substitute, String.toList_singleton, List.flatMap_singleton,
    if_pos rfl]

theorem substitute_join (texts : List String) :
    substitute c s (String.join texts) = String.join (texts.map (substitute c s)) := by
  induction texts with
  | nil => rfl
  | cons text texts ih =>
    rw [String.join_cons, substitute_append, ih, List.map_cons, String.join_cons]

theorem substitute_intercalate {separator : String} (h : c ∉ separator.toList)
    (texts : List String) :
    substitute c s (separator.intercalate texts) =
      separator.intercalate (texts.map (substitute c s)) := by
  induction texts with
  | nil => rfl
  | cons text texts ih =>
    by_cases hnil : texts = []
    · rw [hnil, List.map_singleton, String.intercalate_singleton, String.intercalate_singleton]
    · rw [List.map_cons, String.intercalate_cons_of_ne_nil hnil,
        String.intercalate_cons_of_ne_nil (by simpa using hnil), substitute_append,
        substitute_append, ih, substitute_of_notMem h]

end Text

namespace RawText

/-- A text with another one in the place of every occurrence of a character. -/
def substitute (c : Char) (s : String) (text : RawText) : RawText :=
  text.flatMap fun d ↦ if d = .char c then ofString s else [d]

variable {c : Char} {s : String}

theorem substitute_ofString (text : String) :
    substitute c s text = ofString (Text.substitute c s text) := by
  rw [substitute, ofString.eq_1 text, ofString.eq_1 (Text.substitute c s text),
    Text.toList_substitute, List.flatMap_map, List.map_flatMap]
  refine List.flatMap_congr fun d _ ↦ ?_
  simp only [CodePoint.char.injEq]
  split <;> rfl

theorem substitute_intercalate {separator : RawText} (h : substitute c s separator = separator)
    (texts : List RawText) :
    substitute c s (separator.intercalate texts) =
      separator.intercalate (texts.map (substitute c s)) := by
  induction texts with
  | nil => rfl
  | cons text texts ih =>
    cases texts with
    | nil => rw [List.map_singleton, List.intercalate_singleton, List.intercalate_singleton]
    | cons text' texts =>
      rw [List.intercalate_cons_cons, substitute, List.flatMap_append, List.flatMap_append]
      change substitute c s text ++ substitute c s separator ++
        substitute c s (separator.intercalate (text' :: texts)) = _
      rw [h, ih, List.map_cons, List.map_cons, List.map_cons, List.intercalate_cons_cons]

end RawText

/-! ## Templates -/

namespace Template

variable {F : Type} [Field F] [Formatter] {c : Char} {s : String}

/-- **A plain template goes along with a substitution for a character that it has not got.** -/
theorem fill_substitute {t : Template F} (hplain : t.IsPlain) (h : c ∉ t.source.toList)
    {value value' : F → Value} {shown : F → String} (hvalue : ∀ f, (value f).shown = .ok (shown f))
    (hvalue' : ∀ f, (value' f).shown = .ok (Text.substitute c s (shown f))) :
    t.fill value' = (t.fill value).map (Text.substitute c s) := by
  rw [fill_eq hplain hvalue, fill_eq hplain hvalue']
  cases hps : t.parts with
  | error fault => rfl
  | ok ps =>
    have hpart : ∀ p ∈ ps, p.text (fun f ↦ Text.substitute c s (shown f)) =
        Text.substitute c s (p.text shown) := by
      intro p hp
      cases p with
      | literal d =>
        refine (Text.substitute_of_notMem ?_).symm
        rw [Part.text, String.toList_singleton, List.mem_singleton]
        rintro rfl
        exact h (mem_source_of_mem_parts hps hp)
      | field f => rfl
    simp only [Except.map, Text.substitute_join, List.map_map]
    rw [List.map_congr_left hpart]
    rfl

/-- The same for a template that is filled on the way to something else. -/
theorem mapError_fill_substitute {t : Template F} (hplain : t.IsPlain) (h : c ∉ t.source.toList)
    {value value' : F → Value} {shown shown' : F → String}
    (hvalue : ∀ f, (value f).shown = .ok (shown f))
    (hvalue' : ∀ f, (value' f).shown = .ok (shown' f))
    (hshown : ∀ f, shown' f = Text.substitute c s (shown f)) :
    (t.fill value').mapError Error.template =
      ((t.fill value).mapError Error.template).map (Text.substitute c s) := by
  rw [fill_substitute hplain h hvalue fun f ↦ hshown f ▸ hvalue' f]
  cases t.fill value <;> rfl

end Template

/-! ## ASCII -/

namespace Text

/-- A text of ASCII characters. -/
def IsAscii (text : String) : Prop := ∀ c ∈ text.toList, c.toNat < 128

instance (text : String) : Decidable (IsAscii text) :=
  List.decidableBAll (fun c : Char ↦ c.toNat < 128) text.toList

theorem IsAscii.append {a b : String} (ha : IsAscii a) (hb : IsAscii b) : IsAscii (a ++ b) := by
  rw [IsAscii, String.toList_append, List.forall_mem_append]
  exact ⟨ha, hb⟩

theorem isAscii_intercalate {separator : String} {items : List String}
    (hseparator : IsAscii separator) (h : ∀ item ∈ items, IsAscii item) :
    IsAscii (separator.intercalate items) := by
  induction items with
  | nil =>
    rw [String.intercalate_nil]
    decide
  | cons item items ih =>
    rw [List.forall_mem_cons] at h
    by_cases hnil : items = []
    · rw [hnil, String.intercalate_singleton]
      exact h.1
    · rw [String.intercalate_cons_of_ne_nil hnil]
      exact (h.1.append hseparator).append (ih h.2)

theorem isAscii_int (n : Int) : IsAscii (toString n) := by
  intro c hc
  rcases isDigit_or_eq_dash_of_mem_int hc with hdigit | rfl
  · simp only [Char.isDigit, Bool.and_eq_true, decide_eq_true_eq, UInt32.le_iff_toNat_le] at hdigit
    exact Nat.lt_of_le_of_lt hdigit.2 (by decide)
  · decide

theorem IsAscii.notMem {text : String} (h : IsAscii text) {c : Char} (hc : 128 ≤ c.toNat) :
    c ∉ text.toList :=
  fun hmem ↦ Nat.not_le.mpr (h c hmem) hc

end Text

theorem Parameter.isAscii_of_mem_letters {start stop : Int} (h : 0 ≤ start)
    (h' : stop ≤ Parameter.capacity) {name : String} (hname : name ∈ letters start stop) :
    Text.IsAscii name ∧ Text.IsAscii (Text.lower name) := by
  have hall : ∀ k : Fin capacity, (letter k).toNat < 128 ∧
      (Text.lowerChar (letter k)).toNat < 128 := by decide +kernel
  obtain ⟨k, rfl⟩ := exists_letter_of_mem_letters h h' hname
  rw [lower_letter, Text.IsAscii, Text.IsAscii, String.toList_singleton, String.toList_singleton,
    List.forall_mem_singleton, List.forall_mem_singleton]
  exact hall k

/-! ## Targets -/

namespace Target

/-- A target with a text in the place of a character in each of its words. -/
def substitute (c : Char) (s : String) (t : Target) : Target :=
  { t with
    returnTypeParam := Text.substitute c s t.returnTypeParam
    predicateTypeParam := Text.substitute c s t.predicateTypeParam
    expectError := Text.substitute c s t.expectError
    noNegativeCase := Text.substitute c s t.noNegativeCase }

/-- A target that has a character in none of its templates and separators. -/
structure Lacks (t : Target) (c : Char) : Prop where
  /-- A bounded type parameter. -/
  boundTemplate : c ∉ t.boundTemplate.source.toList
  /-- A parameter inside a function type. -/
  callableParamTemplate : c ∉ t.callableParamTemplate.source.toList
  /-- A signature of partial application. -/
  partialMemberTemplate : c ∉ t.partialMemberTemplate.source.toList
  /-- A complement declaration. -/
  complementDeclarationTemplate : c ∉ t.complementDeclarationTemplate.source.toList
  /-- A test case. -/
  complementTestTemplate : c ∉ t.complementTestTemplate.source.toList
  /-- What stands between the members of an intersection. -/
  intersectionSeparator : c ∉ t.intersectionSeparator.toList
  /-- What stands between declarations. -/
  declarationSeparator : c ∉ t.declarationSeparator.toList
  /-- What stands between test cases. -/
  testSeparator : c ∉ t.testSeparator.toList

variable [Template.Formatter] {t : Target} {c : Char} {s : String}

theorem bound_substitute (hplain : t.boundTemplate.IsPlain)
    (h : c ∉ t.boundTemplate.source.toList) (name bound : String) :
    t.bound (Text.substitute c s name) (Text.substitute c s bound) =
      (t.bound name bound).map (Text.substitute c s) := by
  rw [bound_eq_fill, bound_eq_fill]
  refine Template.mapError_fill_substitute hplain h (Template.shown_text _) (Template.shown_text _)
    ?_
  intro f
  cases f <;> rfl

omit [Template.Formatter] in
theorem commaSeparated_substitute (hc : 128 ≤ c.toNat) (items : List String) :
    Text.substitute c s (Parameter.commaSeparated items) =
      Parameter.commaSeparated (items.map (Text.substitute c s)) :=
  Text.substitute_intercalate (Text.IsAscii.notMem (by decide) hc) items

private theorem callableParam_substitute (hc : 128 ≤ c.toNat)
    (hplain : t.callableParamTemplate.IsPlain) (h : c ∉ t.callableParamTemplate.source.toList)
    {name : String} (hname : Text.IsAscii name ∧ Text.IsAscii (Text.lower name)) :
    t.callableParam name = (t.callableParam name).map (Text.substitute c s) := by
  rw [callableParam_eq_fill]
  refine Template.mapError_fill_substitute hplain h (Template.shown_text _) (Template.shown_text _)
    ?_
  intro f
  cases f with
  | value => exact (Text.substitute_of_notMem (hname.2.notMem hc)).symm
  | type => exact (Text.substitute_of_notMem (hname.1.notMem hc)).symm

theorem substitute_of_callableParams (hc : 128 ≤ c.toNat)
    (hplain : t.callableParamTemplate.IsPlain) (h : c ∉ t.callableParamTemplate.source.toList)
    {names : List String}
    (hnames : ∀ name ∈ names, Text.IsAscii name ∧ Text.IsAscii (Text.lower name))
    {parameters : String} (hparameters : t.callableParams names = .ok parameters) :
    Text.substitute c s parameters = parameters := by
  obtain ⟨items, hitems, rfl⟩ := map_eq_ok_iff.mp hparameters
  have hsame : ∀ item ∈ items, Text.substitute c s item = item := by
    intro item hmem
    obtain ⟨name, hname, hitem⟩ := exists_of_mem_mapM hitems hmem
    have hsubstitute := callableParam_substitute (s := s) hc hplain h (hnames name hname)
    rw [hitem] at hsubstitute
    exact (Except.ok.inj hsubstitute).symm
  rw [commaSeparated_substitute hc, List.map_congr_left hsame, List.map_id']

omit [Template.Formatter] in
theorem isAscii_literalList {items : List String} (h : ∀ item ∈ items, Text.IsAscii item) :
    Text.IsAscii (t.literalList items) := by
  have hitems : Text.IsAscii (Parameter.commaSeparated items) :=
    Text.isAscii_intercalate (by decide) h
  rw [literalList]
  split
  · exact hitems.append (by decide)
  · exact hitems

end Target

/-! ## Fragments -/

/-- A fragment with a text in the place of a character. -/
def Fragment.substitute (c : Char) (s : String) (f : Fragment) : Fragment :=
  { f with text := f.text.substitute c s }

section

variable [Template.Formatter] {t : Target} {c : Char} {s : String}

omit [Template.Formatter] in
/-- The letters of a range go along with every substitution for a character beyond ASCII. -/
private theorem letters_substitute (hc : 128 ≤ c.toNat) {start stop : Int} (h : 0 ≤ start)
    (h' : stop ≤ Parameter.capacity) :
    (Parameter.letters start stop).map (Text.substitute c s) = Parameter.letters start stop := by
  have hsame : ∀ name ∈ Parameter.letters start stop, Text.substitute c s name = name := by
    intro name hname
    exact Text.substitute_of_notMem ((Parameter.isAscii_of_mem_letters h h' hname).1.notMem hc)
  rw [List.map_congr_left hsame, List.map_id']

omit [Template.Formatter] in
/-- What goes along with a substitution as a text does so as a fragment. -/
private theorem fragment_of_text (x : Except Error String) (f : String → Fragment)
    (hf : ∀ text, (f text).substitute c s = f (Text.substitute c s text)) :
    (x.map (Text.substitute c s) >>= fun text ↦ .ok (f text)) =
      (x >>= fun text ↦ .ok (f text)).map (Fragment.substitute c s) := by
  cases x with
  | error e => rfl
  | ok text => exact congrArg Except.ok (hf text).symm

namespace PartialApplication

variable {p : SplitPoint}

omit [Template.Formatter] in
private theorem values_substitute (hc : 128 ≤ c.toNat) {all given : List String}
    {remaining : String} (hall : all.map (Text.substitute c s) = all)
    (hgiven : given.map (Text.substitute c s) = given)
    (hremaining : Text.substitute c s remaining = remaining) (f : MemberField) :
    values (t.substitute c s) all given remaining f =
      Text.substitute c s (values t all given remaining f) := by
  cases f with
  | typeParams =>
    rw [values, values, Target.commaSeparated_substitute hc, List.map_append, hall]
    rfl
  | allParams => rw [values, values, Target.commaSeparated_substitute hc, hall]
  | boundParams => rw [values, values, Target.commaSeparated_substitute hc, hgiven]
  | remainingParams => exact hremaining.symm
  | ret => rfl

theorem fragment_substitute (hc : 128 ≤ c.toNat) (hplain : t.IsPlain) (ht : t.Lacks c)
    (h : 0 ≤ p.bound) (h' : p.bound ≤ p.arity) :
    fragment (t.substitute c s) p = (fragment t p).map (Fragment.substitute c s) := by
  by_cases hcap : p.arity ≤ Parameter.capacity
  · have hmember : member p (t.substitute c s) =
        (member p t).map (Text.substitute c s) := by
      rw [member_eq h h' hcap, member_eq h h' hcap]
      change (t.callableParams _ >>= _) = _
      cases hremaining : t.callableParams (Parameter.letters p.bound p.arity) with
      | error e => rfl
      | ok remaining =>
        have hletters : ∀ name ∈ Parameter.letters p.bound p.arity, _ :=
          fun name ↦ Parameter.isAscii_of_mem_letters h hcap
        have hsame : Text.substitute c s remaining = remaining :=
          Target.substitute_of_callableParams hc hplain.callableParamTemplate
            ht.callableParamTemplate hletters hremaining
        exact Template.mapError_fill_substitute hplain.partialMemberTemplate
          ht.partialMemberTemplate (Template.shown_text _) (Template.shown_text _)
          (values_substitute hc (letters_substitute hc (Int.le_refl 0) hcap)
            (letters_substitute hc (Int.le_refl 0) (Int.le_trans h' hcap)) hsame)
    rw [fragment, fragment, hmember]
    exact fragment_of_text (member p t) _ fun text ↦
      congrArg (Fragment.mk _ · _) (RawText.substitute_ofString text)
  · rw [fragment_of_unsupported (Int.not_le.mp hcap), fragment_of_unsupported (Int.not_le.mp hcap)]
    rfl

end PartialApplication

namespace Complement

variable {a : Int}

omit [Template.Formatter] in
private theorem predicate_substitute (hc : 128 ≤ c.toNat) {parameters : String}
    (h : Text.substitute c s parameters = parameters) :
    Text.substitute c s s!"({parameters}) => boolean" = s!"({parameters}) => boolean" := by
  have hopen : c ∉ "(".toList := Text.IsAscii.notMem (by decide) hc
  have hclose : c ∉ ") => boolean".toList := Text.IsAscii.notMem (by decide) hc
  change Text.substitute c s ("(" ++ parameters ++ ") => boolean") = _
  rw [Text.substitute_append, Text.substitute_append, h, Text.substitute_of_notMem hopen,
    Text.substitute_of_notMem hclose]
  rfl

omit [Template.Formatter] in
private theorem values_substitute (hc : 128 ≤ c.toNat) {names : List String}
    (hnames : names.map (Text.substitute c s) = names) (fn : String) (f : ComplementField) :
    values (t.substitute c s) names (Text.substitute c s fn) f =
      Text.substitute c s (values t names fn f) := by
  cases f with
  | typeParams =>
    rw [values, values, Target.commaSeparated_substitute hc, List.map_append, hnames]
    rfl
  | fn => rfl

theorem fragment_substitute (hc : 128 ≤ c.toNat) (hplain : t.IsPlain) (ht : t.Lacks c) :
    fragment (t.substitute c s) a = (fragment t a).map (Fragment.substitute c s) := by
  by_cases hcap : a ≤ Parameter.capacity
  · have hdeclare : declare a (t.substitute c s) =
        (declare a t).map (Text.substitute c s) := by
      rw [declare_eq hcap, declare_eq hcap]
      change (t.callableParams _ >>= fun _ ↦ t.bound _ _ >>= _) = _
      cases hparameters : t.callableParams (Parameter.letters 0 a) with
      | error e => rfl
      | ok parameters =>
        have hletters : ∀ name ∈ Parameter.letters 0 a, _ :=
          fun name ↦ Parameter.isAscii_of_mem_letters (Int.le_refl 0) hcap
        have hsame : Text.substitute c s parameters = parameters :=
          Target.substitute_of_callableParams hc hplain.callableParamTemplate
            ht.callableParamTemplate hletters hparameters
        have hbound := Target.bound_substitute (s := s) hplain.boundTemplate ht.boundTemplate
          t.predicateTypeParam s!"({parameters}) => boolean"
        rw [predicate_substitute hc hsame] at hbound
        change (t.bound (Text.substitute c s _) _ >>= _) =
          Except.map _ (t.bound t.predicateTypeParam s!"({parameters}) => boolean" >>= _)
        rw [hbound]
        cases t.bound t.predicateTypeParam s!"({parameters}) => boolean" with
        | error e => rfl
        | ok fn =>
          exact Template.mapError_fill_substitute hplain.complementDeclarationTemplate
            ht.complementDeclarationTemplate (Template.shown_text _) (Template.shown_text _)
            (values_substitute hc (letters_substitute hc (Int.le_refl 0) hcap) fn)
    rw [fragment, fragment, hdeclare]
    exact fragment_of_text (declare a t) _ fun text ↦
      congrArg (Fragment.mk _ · _) (RawText.substitute_ofString text)
  · rw [fragment_of_unsupported (Int.not_le.mp hcap), fragment_of_unsupported (Int.not_le.mp hcap)]
    rfl

end Complement

namespace ComplementTest

variable {a : Int}

omit [Template.Formatter] in
private theorem exists_negativeCase_eq (a : Int) : ∃ call, Text.IsAscii call ∧ ∀ t : Target,
    negativeCase a t =
      if a = 0 then "  " ++ t.noNegativeCase else "  " ++ t.expectError ++ call := by
  let numbers := (IndexRange.mk 0 a).toList.map fun i ↦ toString i
  have hnumbers : Text.IsAscii (Parameter.commaSeparated numbers) := by
    refine Text.isAscii_intercalate (by decide) ?_
    rw [List.forall_mem_map]
    exact fun i _ ↦ Text.isAscii_int i
  have hbefore : Text.IsAscii ("\n  fn(" ++ Parameter.commaSeparated numbers) :=
    Text.IsAscii.append (by decide) hnumbers
  refine ⟨_, hbefore.append (b := ")") (by decide), fun t ↦ ?_⟩
  simp only [← String.append_assoc]
  rfl

omit [Template.Formatter] in
private theorem negativeCase_substitute (hc : 128 ≤ c.toNat) :
    negativeCase a (t.substitute c s) = Text.substitute c s (negativeCase a t) := by
  obtain ⟨call, hcall, hnegative⟩ := exists_negativeCase_eq a
  have hblanks : c ∉ "  ".toList := Text.IsAscii.notMem (by decide) hc
  rw [hnegative, hnegative]
  split
  · rw [Text.substitute_append, Text.substitute_of_notMem hblanks]
    rfl
  · rw [Text.substitute_append, Text.substitute_append, Text.substitute_of_notMem hblanks,
      Text.substitute_of_notMem (hcall.notMem hc)]
    rfl

omit [Template.Formatter] in
private theorem values_substitute (hc : 128 ≤ c.toNat) {names : List String}
    (hnames : ∀ name ∈ names, Text.IsAscii name) (f : TestField) :
    values (t.substitute c s) a names f = Text.substitute c s (values t a names f) := by
  have hfixed : ∀ text : String, Text.IsAscii text → text = Text.substitute c s text :=
    fun text h ↦ (Text.substitute_of_notMem (h.notMem hc)).symm
  cases f with
  | index => exact hfixed _ (Text.isAscii_int a)
  | predicateParams =>
    refine hfixed (t.literalList _) (Target.isAscii_literalList ?_)
    rw [List.forall_mem_map]
    intro v hv
    have hbefore : Text.IsAscii (v ++ ": '") := (hnames v hv).append (by decide)
    exact (hbefore.append (hnames v hv)).append (by decide)
  | callArgs =>
    refine hfixed (t.literalList _) (Target.isAscii_literalList ?_)
    rw [List.forall_mem_map]
    intro v hv
    have hbefore : Text.IsAscii ("'" ++ v) := Text.IsAscii.append (by decide) (hnames v hv)
    exact hbefore.append (by decide)
  | negativeCase => exact negativeCase_substitute hc

theorem fragment_substitute (hc : 128 ≤ c.toNat) (hplain : t.IsPlain) (ht : t.Lacks c)
    (h : 0 ≤ a) :
    fragment (t.substitute c s) a = (fragment t a).map (Fragment.substitute c s) := by
  by_cases hcap : a ≤ Parameter.capacity
  · have hnames : ∀ name ∈ (Parameter.letters 0 a).map Text.lower, Text.IsAscii name := by
      rw [List.forall_mem_map]
      exact fun name hname ↦ (Parameter.isAscii_of_mem_letters (Int.le_refl 0) hcap hname).2
    have hcase : testCase a a (t.substitute c s) =
        (testCase a a t).map (Text.substitute c s) := by
      rw [testCase_eq hcap, testCase_eq hcap]
      exact Template.mapError_fill_substitute hplain.complementTestTemplate
        ht.complementTestTemplate (shown_valueOf h hcap t _)
        (shown_valueOf h hcap (t.substitute c s) _) (values_substitute hc hnames)
    rw [fragment, fragment, hcase]
    exact fragment_of_text (testCase a a t) _ fun text ↦
      congrArg (Fragment.mk _ · _) (RawText.substitute_ofString text)
  · rw [fragment_of_unsupported (Int.not_le.mp hcap), fragment_of_unsupported (Int.not_le.mp hcap)]
    rfl

end ComplementTest

/-! ## Runs -/

omit [Template.Formatter] in
private theorem traverse_map_results {f f' : Int → Except Error Fragment}
    {g : Fragment → Fragment} (h : ∀ a, 0 ≤ a → f' a = (f a).map g) (n : Int) :
    (aritiesBelow n >>= (·.traverse f')) =
      (aritiesBelow n >>= (·.traverse f)).map (List.map g) := by
  rw [aritiesBelow]
  split
  · rfl
  · change (IndexRange.mk 0 n).traverse f' = ((IndexRange.mk 0 n).traverse f).map (List.map g)
    rw [IndexRange.traverse_eq_mapM, IndexRange.traverse_eq_mapM]
    exact mapM_map_results fun a ha ↦ h a (IndexRange.mem_toList.mp ha).1

/-- **The fragments of a family go along with a substitution**, and so does their failure, which has
no word in it. -/
theorem Family.fragments_substitute (hc : 128 ≤ c.toNat) (hplain : t.IsPlain) (ht : t.Lacks c)
    (family : Family) (n : Int) :
    family.fragments n (t.substitute c s) =
      (family.fragments n t).map (List.map (Fragment.substitute c s)) := by
  cases family with
  | partialApplication =>
    rw [fragments, fragments]
    by_cases hn : 0 ≤ n
    · rw [SplitPoint.below_eq_ok hn]
      refine mapM_map_results fun p hp ↦ ?_
      obtain ⟨hpos, hle, -⟩ := SplitPoint.mem_points.mp hp
      exact PartialApplication.fragment_substitute hc hplain ht (Int.le_of_lt hpos) hle
    · rw [SplitPoint.below_eq_error (Int.not_le.mp hn)]
      rfl
  | complement =>
    exact traverse_map_results (fun a _ ↦ Complement.fragment_substitute hc hplain ht) n
  | complementTest =>
    exact traverse_map_results (fun a ↦ ComplementTest.fragment_substitute hc hplain ht) n

/-- A declaration with a text in the place of a character in each of its fragments. -/
def Declaration.substitute (c : Char) (s : String) (d : Declaration) : Declaration :=
  { d with fragments := d.fragments.map (Fragment.substitute c s) }

omit [Template.Formatter] in
theorem Declaration.text_substitute {d : Declaration} {separator : String}
    (hd : d.separator = separator) (h : c ∉ separator.toList) :
    (d.substitute c s).text = d.text.substitute c s := by
  have hseparator : d.separator.substitute c s = d.separator := by
    rw [hd, RawText.substitute_ofString, Text.substitute_of_notMem h]
  rw [text, text, RawText.substitute_intercalate hseparator, substitute, List.map_map, List.map_map]
  rfl

/-- **The run of a plain target goes along with a substitution** in its words. -/
theorem outcome_generate_substitute (hc : 128 ≤ c.toNat) {config : Config}
    (hplain : config.target.IsPlain) (ht : config.target.Lacks c) (name : String) :
    (generate name { config with target := config.target.substitute c s }).outcome =
      (generate name config).outcome.map (Declaration.substitute c s) := by
  cases hname : Family.ofName? name with
  | none =>
    rw [generate, generate, hname]
    rfl
  | some family =>
    obtain rfl := Family.ofName?_eq_some_iff.mp hname
    let config' : Config := { config with target := config.target.substitute c s }
    change (generate family.name config').outcome = _
    by_cases hdigits : Text.IsPrintable config.maxArity
    · have hdigits' : Text.IsPrintable config'.maxArity := hdigits
      rw [outcome_generate_name family hdigits, outcome_generate_name family hdigits',
        Family.fragments_substitute hc hplain ht]
      cases family.fragments config.maxArity config.target with
      | error e => rfl
      | ok fragments => cases family <;> rfl
    · have hdigits' : ¬Text.IsPrintable config'.maxArity := hdigits
      rw [outcome_generate_unprintable family hdigits, outcome_generate_unprintable family hdigits']
      rfl

end

/-! ## Words -/

namespace Target

/-- A text of a target that generated code contains as it is. -/
inductive Word where
  /-- The type parameter for a result. -/
  | returnTypeParam
  /-- The type parameter for a predicate. -/
  | predicateTypeParam
  /-- The comment that announces a type error. -/
  | expectError
  /-- The comment in place of a call that must be rejected. -/
  | noNegativeCase

/-- A target with another text for one of its words. -/
def withWord (t : Target) (word : Word) (s : String) : Target :=
  match word with
  | .returnTypeParam => { t with returnTypeParam := s }
  | .predicateTypeParam => { t with predicateTypeParam := s }
  | .expectError => { t with expectError := s }
  | .noNegativeCase => { t with noNegativeCase := s }

/-- All texts of a target. -/
def texts (t : Target) : List String :=
  [t.name, t.displayName, t.boundTemplate.source, t.callableParamTemplate.source, t.commentPrefix,
    t.intersectionSeparator, t.declarationSeparator, t.testSeparator, t.returnTypeParam,
    t.predicateTypeParam, t.expectError, t.noNegativeCase, t.partialMemberTemplate.source,
    t.complementDeclarationTemplate.source, t.complementTestTemplate.source]

variable {t : Target} {c : Char}

/-- The words do not matter to the templates. -/
theorem IsPlain.withWord (h : t.IsPlain) (word : Word) (s : String) : (t.withWord word s).IsPlain :=
  match word with
  | .returnTypeParam => { h with }
  | .predicateTypeParam => { h with }
  | .expectError => { h with }
  | .noNegativeCase => { h with }

theorem lacks_withWord {word : Word}
    (h : ∀ text ∈ (t.withWord word "").texts, c ∉ text.toList) (s : String) :
    (t.withWord word s).Lacks c := by
  cases word <;> constructor <;> apply h <;> simp [texts, withWord]

/-- Where a character is a word and occurs nowhere else, the word is what is substituted for it. -/
theorem withWord_substitute {word : Word}
    (h : ∀ text ∈ (t.withWord word "").texts, c ∉ text.toList) (s : String) :
    (t.withWord word (String.singleton c)).substitute c s = t.withWord word s := by
  simp only [texts, List.forall_mem_cons] at h
  cases word <;>
    simp_all [withWord, substitute, Text.substitute_singleton, Text.substitute_of_notMem]

end Target

/-- **Words are opaque.** Let one word of a plain target be a character beyond ASCII that occurs in
no other text of the target. Then a run with any other text for the word ends in the same way: with
the same failure, or with the same declaration but for the text, which stands in every fragment, and
in the text of the declaration, wherever the character was. -/
theorem generate_withWord [Template.Formatter] (name : String) (config : Config)
    (hplain : config.target.IsPlain) (word : Target.Word) {c : Char} (hc : 128 ≤ c.toNat)
    (hfresh : ∀ text ∈ (config.target.withWord word "").texts, c ∉ text.toList) (s : String) :
    let marked :=
      generate name { config with target := config.target.withWord word (String.singleton c) }
    let written := generate name { config with target := config.target.withWord word s }
    written.outcome = marked.outcome.map (Declaration.substitute c s) ∧
      ∀ d, marked.outcome = .ok d → (d.substitute c s).text = d.text.substitute c s := by
  intro marked written
  have hlacks := Target.lacks_withWord hfresh (String.singleton c)
  constructor
  · let config' : Config :=
      { config with target := config.target.withWord word (String.singleton c) }
    have htarget : config'.target.Lacks c := hlacks
    have hplain' : config'.target.IsPlain := hplain.withWord word _
    have hrun := outcome_generate_substitute (s := s) hc hplain' htarget name
    rwa [Target.withWord_substitute hfresh] at hrun
  · intro d hd
    obtain ⟨family, fragments, -, -, -, rfl⟩ := generate_eq_ok_iff.mp hd
    refine Declaration.text_substitute rfl ?_
    cases family with
    | partialApplication => exact hlacks.intersectionSeparator
    | complement => exact hlacks.declarationSeparator
    | complementTest => exact hlacks.testSeparator

attribute [local instance] Template.Formatter.standard

/-- Short signatures whose result is called by something that looks like a field, a line break and
an escaped brace. -/
theorem generate_withWord_like_a_field :
    let own : Target :=
      { name := "own", displayName := "Own", commentPrefix := "#"
        boundTemplate := ⟨"\x7bname\x7d"⟩, callableParamTemplate := ⟨"\x7btype\x7d"⟩
        partialMemberTemplate := ⟨"<\x7btype_params\x7d>(\x7bremaining_params\x7d): \x7bret\x7d"⟩
        complementDeclarationTemplate := ⟨"\x7bfn\x7d"⟩
        complementTestTemplate := ⟨"\x7bcall_args\x7d"⟩
        intersectionSeparator := "&", expectError := "!", noNegativeCase := "?" }
    let config : Config := { maxArity := 4, target := own, outputRoot := ⟨.root, []⟩ }
    let word := "\x7bret\x7d\n\x7b\x7b"
    own.IsPlain ∧ 128 ≤ '§'.toNat ∧
      (∀ text ∈ (own.withWord .returnTypeParam "").texts, '§' ∉ text.toList) ∧
      ∃ d d', (generate "partial" { config with
          target := own.withWord .returnTypeParam (String.singleton '§') }).outcome = .ok d ∧
        (generate "partial" { config with
          target := own.withWord .returnTypeParam word }).outcome = .ok d' ∧
        d'.fragments = d.fragments.map (Fragment.substitute '§' word) ∧
        d'.text = d.text.substitute '§' word := by
  intro own config word
  have hfresh : ∀ text ∈ (own.withWord .returnTypeParam "").texts, '§' ∉ text.toList := by
    decide +kernel
  have hsound : own.Sound := by
    constructor <;> constructor <;> decide +kernel
  let marked : Config :=
    { config with target := own.withWord .returnTypeParam (String.singleton '§') }
  have hsound' : marked.target.Sound := { hsound with }
  obtain ⟨d, hd⟩ := exists_generate_of_sound hsound' (by decide) (by decide) .partialApplication
  have hmarked : (generate "partial" marked).outcome = .ok d := hd
  obtain ⟨hrun, htext⟩ :=
    generate_withWord "partial" config hsound.isPlain .returnTypeParam (by decide) hfresh word
  rw [hmarked] at hrun
  exact ⟨hsound.isPlain, by decide, hfresh, d, d.substitute '§' word, hmarked, hrun, rfl,
    htext d hmarked⟩

/-- Signatures that fill the result up with blanks, which a long word leaves no room for. -/
theorem generate_of_padded_word :
    let own : Target := { Target.flow with partialMemberTemplate := ⟨"\x7bret:>3\x7d"⟩ }
    let config : Config := { maxArity := 2, target := own, outputRoot := ⟨.root, []⟩ }
    (∀ text ∈ (own.withWord .returnTypeParam "").texts, 'é' ∉ text.toList) ∧
      ∃ d d', (generate "partial" { config with
          target := own.withWord .returnTypeParam (String.singleton 'é') }).outcome = .ok d ∧
        (generate "partial" { config with
          target := own.withWord .returnTypeParam "abcde" }).outcome = .ok d' ∧
        d.text = ("  é" : String) ∧ d'.text = ("abcde" : String) ∧
        d'.text ≠ d.text.substitute 'é' "abcde" := by
  intro own config
  let declared (word : String) (text : String) : Declaration :=
    Family.partialApplication.declarationOf 2 (own.withWord .returnTypeParam word)
      [⟨1, text, some 1⟩]
  have hmarked : (generate "partial" { config with
      target := own.withWord .returnTypeParam (String.singleton 'é') }).outcome =
        .ok (declared (String.singleton 'é') "  é") := by decide +kernel
  have hwritten : (generate "partial" { config with
      target := own.withWord .returnTypeParam "abcde" }).outcome =
        .ok (declared "abcde" "abcde") := by decide +kernel
  exact ⟨by decide +kernel, _, _, hmarked, hwritten, rfl, rfl, by decide +kernel⟩

end PerArity
