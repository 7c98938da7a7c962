import PerArity.Formatting
import PerArity.Proofs.Filling
import PerArity.Text.Numeral

/-!
# The grammar of plain templates

A plain template can be filled exactly when it is the text of a list of parts, where a brace that
stands for itself is doubled and a field stands between braces by its bare name. The list is what
reading gives, so a template is the text of one list at most (`parts_eq_ok_iff`).

Otherwise a text of parts goes up to a problem: a brace by itself, a field that is not closed, or
one whose name is not that of a field. Whatever stands behind the problem is not looked at, and the
fault is that of the problem (`parts_eq_error_iff`). Both rest on two facts. Reading takes a part
off the front of a text, or stops at a problem in its front; and every text but the empty one has
the one or the other in its front, or a placeholder that is more than a name (`front_cases`).

Numbers among the names need care. A name of digits is a position, which no template has. But the
digits in front of any name are counted first, and too great a number is a fault of its own, even
where something else follows the digits.
-/

namespace PerArity

namespace Template

open Text (isDecimal digitValue? ofDigits)

/-! ## Names -/

/-- The number that the digits in front of a name write. -/
def leadingNumber (name : List Char) : Nat :=
  ofDigits ((name.takeWhile isDecimal).filterMap digitValue?)

private theorem le_foldl_digits (ds : List Nat) (n : Nat) :
    n ≤ ds.foldl (fun m d ↦ 10 * m + d) n := by
  induction ds generalizing n with
  | nil => exact Nat.le_refl n
  | cons d ds ih => exact Nat.le_trans (by omega) (ih (10 * n + d))

/-- Reading digits after a number stops at another character, and fails as soon as the number
exceeds every position, which the number of all digits then does, too. -/
private theorem readPosition_eq (cs : List Char) {n : Nat} (hn : n ≤ maxPosition) :
    let number := ((cs.takeWhile isDecimal).filterMap digitValue?).foldl (fun m d ↦ 10 * m + d) n
    readPosition n cs =
      if maxPosition < number then .error .positionTooLarge
      else .ok (if cs.all isDecimal then some number else none) := by
  induction cs generalizing n with
  | nil => simp [readPosition, Nat.not_lt.mpr hn]
  | cons c rest ih =>
    cases hd : digitValue? c with
    | none =>
      have hc : ¬isDecimal c = true := by simp [isDecimal, hd]
      simp [readPosition, hd, hc, Nat.not_lt.mpr hn]
    | some d =>
      have hc : isDecimal c = true := by simp [isDecimal, hd]
      by_cases hle : 10 * n + d ≤ maxPosition
      · simp [readPosition, hd, hc, hle, ih hle]
      · have hbig := le_foldl_digits ((rest.takeWhile isDecimal).filterMap digitValue?) (10 * n + d)
        simp [readPosition, hd, hc, hle, Nat.lt_of_lt_of_le (Nat.lt_of_not_le hle) hbig]

private theorem readPosition_zero (name : List Char) :
    readPosition 0 name =
      if maxPosition < leadingNumber name then .error .positionTooLarge
      else .ok (if name.all isDecimal then some (leadingNumber name) else none) :=
  readPosition_eq name (Nat.zero_le maxPosition)

variable (F : Type) [Field F]

/-- What is wrong with a name that is not the name of a field. -/
inductive Misnamed (name : List Char) : Fault → Prop
  /-- A name of digits, or an empty one, is a position. -/
  | positional (hdigits : name.all isDecimal = true)
      (hle : leadingNumber name ≤ maxPosition) : Misnamed name (.positional (leadingNumber name))
  /-- The digits in front exceed every position. -/
  | tooLarge (hlt : maxPosition < leadingNumber name) : Misnamed name .positionTooLarge
  /-- Any other name has to be that of a field. -/
  | unknown (hother : ¬name.all isDecimal = true) (hle : leadingNumber name ≤ maxPosition)
      (hnamed : ∀ f : F, (String.ofList name, f) ∉ Field.named) :
      Misnamed name (.unknownField (String.ofList name))

variable {F} {name : List Char}

theorem fieldOfName_of_misnamed {fault : Fault} (h : Misnamed F name fault) :
    fieldOfName (F := F) name = .error fault := by
  cases h with
  | positional hdigits hle =>
    rw [fieldOfName, readPosition_zero, if_neg (Nat.not_lt.mpr hle), if_pos hdigits]
  | tooLarge hlt => rw [fieldOfName, readPosition_zero, if_pos hlt]
  | unknown hother hle hnamed =>
    have hlookup : (Field.named (F := F)).lookup (String.ofList name) = none := by
      refine List.lookup_eq_none_iff.mpr fun entry hentry ↦ bne_iff_ne.mpr ?_
      rintro hname
      exact hnamed entry.2 (hname ▸ hentry)
    have hread : readPosition 0 name = .ok none := by
      rw [readPosition_zero, if_neg (Nat.not_lt.mpr hle), if_neg hother]
    simp only [fieldOfName, hread, hlookup]

theorem named_or_misnamed (F : Type) [Field F] (name : List Char) :
    (∃ f : F, (String.ofList name, f) ∈ Field.named) ∨ ∃ fault, Misnamed F name fault := by
  by_cases hnamed : ∃ f : F, (String.ofList name, f) ∈ Field.named
  · exact .inl hnamed
  rw [not_exists] at hnamed
  right
  by_cases hlt : maxPosition < leadingNumber name
  · exact ⟨_, .tooLarge hlt⟩
  by_cases hdigits : name.all isDecimal = true
  · exact ⟨_, .positional hdigits (Nat.not_lt.mp hlt)⟩
  · exact ⟨_, .unknown hdigits (Nat.not_lt.mp hlt) hnamed⟩

/-! ## Parts and problems -/

/-- The characters that do not belong to a bare name. -/
def nameEnds : List Char := ['{', '}', '!', ':', '.', '[']

/-- A text that could be a bare name. -/
def IsBare (cs : List Char) : Prop := ∀ c ∈ cs, c ∉ nameEnds

instance (cs : List Char) : Decidable (IsBare cs) := List.decidableBAll (· ∉ nameEnds) cs

theorem isBare_nil : IsBare [] := fun _ h ↦ absurd h List.not_mem_nil

theorem isBare_cons {c : Char} {cs : List Char} : IsBare (c :: cs) ↔ c ∉ nameEnds ∧ IsBare cs :=
  List.forall_mem_cons

theorem IsBare.head?_append_ne {tail : List Char} (h : IsBare name) (hsome : name ≠ []) :
    (name ++ tail).head? ≠ some '{' := by
  obtain ⟨c, name, rfl⟩ := List.exists_cons_of_ne_nil hsome
  intro hhead
  obtain rfl := Option.some.inj hhead
  exact (isBare_cons.mp h).1 (by decide)

/-- Fields that have one name each, which can stand between braces. -/
class NamedField (F : Type) [Field F] where
  /-- The name of a field. -/
  nameOf : F → String
  /-- A field has no other name. -/
  mem_named_iff (s : String) (f : F) : (s, f) ∈ Field.named ↔ s = nameOf f
  /-- The name of a field is bare. -/
  isBare_nameOf (f : F) : IsBare (nameOf f).toList
  /-- The name of a field is read as that field. -/
  fieldOfName_nameOf (f : F) : fieldOfName (nameOf f).toList = .ok f

open NamedField

section Spelling

variable [NamedField F]

/-- The text of a part: a brace that stands for itself is doubled, and a field stands between braces
by its name. -/
def Part.spelling : Part F → List Char
  | literal '{' => ['{', '{']
  | literal '}' => ['}', '}']
  | literal c => [c]
  | field f => '{' :: ((nameOf f).toList ++ ['}'])

theorem Part.spelling_literal {c : Char} (hopen : c ≠ '{') (hclose : c ≠ '}') :
    (literal c : Part F).spelling = [c] := by
  rw [spelling] <;> assumption

theorem Part.spelling_field_append (f : F) (rest : List Char) :
    (field f).spelling ++ rest = '{' :: ((nameOf f).toList ++ '}' :: rest) := by
  rw [spelling, List.cons_append, List.append_assoc, List.singleton_append]

theorem Part.spelling_ne_nil (p : Part F) : p.spelling ≠ [] := by
  unfold spelling
  split <;> exact List.cons_ne_nil _ _

/-- The text of parts in a row. -/
def spelling (ps : List (Part F)) : List Char := ps.flatMap Part.spelling

theorem spelling_cons (p : Part F) (ps : List (Part F)) :
    spelling (p :: ps) = p.spelling ++ spelling ps :=
  List.flatMap_cons

end Spelling

/-- What can be wrong with a text in its front. -/
inductive Problem (F : Type) [Field F] : Fault → List Char → Prop
  /-- A closing brace by itself. -/
  | loneClose {rest : List Char} (hrest : rest.head? ≠ some '}') :
      Problem F .loneClose ('}' :: rest)
  /-- An opening brace at the end. -/
  | loneOpen : Problem F .loneOpen ['{']
  /-- A field without its closing brace. -/
  | unclosed {name : List Char} (hsome : name ≠ []) (hbare : IsBare name) :
      Problem F .unclosedField ('{' :: name)
  /-- A field in which another one begins. -/
  | nested {name rest : List Char} (hsome : name ≠ []) (hbare : IsBare name) :
      Problem F .openInName ('{' :: (name ++ '{' :: rest))
  /-- A field whose name is not that of a field. -/
  | misnamed {name rest : List Char} {fault : Fault} (hbare : IsBare name)
      (hname : Misnamed F name fault) : Problem F fault ('{' :: (name ++ '}' :: rest))

/-! ## One step of reading -/

/-- The piece that a part is read as. -/
def Part.piece : Part F → Piece F
  | literal c => .literal c
  | field f => .field f

private theorem read_literal {c : Char} (hopen : c ≠ '{') (hclose : c ≠ '}') (rest : List Char) :
    read (F := F) .outside (c :: rest) = .literal c :: read .outside rest := by
  rw [read] <;> intros <;> contradiction

private theorem read_open {rest : List Char} (hsome : rest ≠ []) (hsingle : rest.head? ≠ some '{') :
    read (F := F) .outside ('{' :: rest) = read (.name []) rest := by
  rw [read]
  · rintro rest' rfl
    exact hsingle rfl
  · exact hsome

private theorem read_name_cons {c : Char} (hbare : c ∉ nameEnds) (acc rest : List Char) :
    read (F := F) (.name acc) (c :: rest) = read (.name (c :: acc)) rest := by
  rw [read] <;> (rintro rfl; exact hbare (by decide))

private theorem read_name_append {acc tail : List Char} (h : IsBare name) :
    read (F := F) (.name acc) (name ++ tail) = read (.name (name.reverse ++ acc)) tail := by
  induction name generalizing acc with
  | nil => rfl
  | cons c name ih =>
    obtain ⟨hc, hname⟩ := isBare_cons.mp h
    rw [List.cons_append, read_name_cons hc, ih hname, List.reverse_cons, List.append_assoc,
      List.singleton_append]

/-- An opening brace that is not doubled begins a name, which goes on to its end. -/
private theorem read_name {tail : List Char} (h : IsBare name) (hsome : name ++ tail ≠ [])
    (hsingle : (name ++ tail).head? ≠ some '{') :
    read (F := F) .outside ('{' :: (name ++ tail)) = read (.name name.reverse) tail := by
  rw [read_open hsome hsingle, read_name_append h, List.append_nil]

/-- A bare name goes on to a character that ends it. -/
private theorem read_name_end {e : Char} {rest : List Char} (h : IsBare name) (he : e ≠ '{') :
    read (F := F) .outside ('{' :: (name ++ e :: rest)) =
      read (.name name.reverse) (e :: rest) := by
  refine read_name h (List.append_ne_nil_of_right_ne_nil _ (List.cons_ne_nil _ _)) ?_
  by_cases hsome : name = []
  · rw [hsome]
    exact fun heq ↦ he (Option.some.inj heq)
  · exact h.head?_append_ne hsome

private theorem read_field {rest : List Char} {f : F} (h : IsBare name)
    (hname : fieldOfName name = .ok f) :
    read (F := F) .outside ('{' :: (name ++ '}' :: rest)) = .field f :: read .outside rest := by
  rw [read_name_end h (by decide), read, List.reverse_reverse, hname]

private theorem read_misnamed {rest : List Char} {fault : Fault} (h : IsBare name)
    (hname : fieldOfName (F := F) name = .error fault) :
    read (F := F) .outside ('{' :: (name ++ '}' :: rest)) = [.broken fault] := by
  rw [read_name_end h (by decide), read, List.reverse_reverse, hname]

theorem read_of_problem {fault : Fault} {cs : List Char} (h : Problem F fault cs) :
    read (F := F) .outside cs = [.broken fault] := by
  cases h with
  | loneClose hrest =>
    rw [read]
    rintro rest rfl
    exact hrest rfl
  | loneOpen => rfl
  | @unclosed name hsome hbare =>
    have hend : read (F := F) .outside ('{' :: (name ++ [])) = read (.name name.reverse) [] :=
      read_name hbare (List.append_ne_nil_of_left_ne_nil hsome []) (hbare.head?_append_ne hsome)
    rw [List.append_nil] at hend
    rw [hend, read]
  | nested hsome hbare =>
    rw [read_name hbare (List.append_ne_nil_of_left_ne_nil hsome _) (hbare.head?_append_ne hsome),
      read]
  | misnamed hbare hname => exact read_misnamed hbare (fieldOfName_of_misnamed hname)

/-- Whether a reading stands in a placeholder that is more than a name. -/
private def Scan.isExtended : Scan → Bool
  | .outside => false
  | .name _ => false
  | _ => true

/-- A placeholder that is more than a name is read as such, however it goes on. -/
private theorem exists_extended (s : Scan) (cs : List Char) (hs : s.isExtended = true) :
    ∃ e rest, read (F := F) s cs = .extended e :: rest := by
  -- such a scan ends in an extended piece, or goes on to another one of its kind
  fun_induction read (F := F) s cs <;>
    first
    | exact ⟨_, _, rfl⟩
    | (rename_i ih; exact ih rfl)
    | cases hs

private theorem read_extended {e : Char} (h : IsBare name) (he : e ∈ nameEnds) (hopen : e ≠ '{')
    (hclose : e ≠ '}') (rest : List Char) :
    ∃ x ps, read (F := F) .outside ('{' :: (name ++ e :: rest)) = .extended x :: ps := by
  rw [read_name_end h hopen]
  simp only [nameEnds, List.mem_cons, List.not_mem_nil, or_false] at he
  rcases he with rfl | rfl | rfl | rfl | rfl | rfl
  · exact absurd rfl hopen
  · exact absurd rfl hclose
  all_goals
    rw [read]
    exact exists_extended _ _ rfl

private theorem exists_isBare_append (cs : List Char) :
    ∃ name tail, cs = name ++ tail ∧ IsBare name ∧
      (tail = [] ∨ ∃ e rest, tail = e :: rest ∧ e ∈ nameEnds) := by
  induction cs with
  | nil => exact ⟨[], [], rfl, isBare_nil, .inl rfl⟩
  | cons c cs ih =>
    by_cases hc : c ∈ nameEnds
    · exact ⟨[], c :: cs, rfl, isBare_nil, .inr ⟨c, cs, rfl, hc⟩⟩
    · obtain ⟨name, tail, rfl, hbare, htail⟩ := ih
      exact ⟨c :: name, tail, rfl, isBare_cons.mpr ⟨hc, hbare⟩, htail⟩

variable [NamedField F]

theorem read_part (p : Part F) (rest : List Char) :
    read .outside (p.spelling ++ rest) = p.piece :: read .outside rest := by
  cases p with
  | literal c =>
    by_cases hopen : c = '{'
    · rw [hopen, Part.spelling, List.cons_append, List.singleton_append, read, Part.piece]
    by_cases hclose : c = '}'
    · rw [hclose, Part.spelling, List.cons_append, List.singleton_append, read, Part.piece]
    · rw [Part.spelling_literal hopen hclose, List.singleton_append, read_literal hopen hclose,
        Part.piece]
  | field f =>
    rw [Part.spelling_field_append, read_field (isBare_nameOf f) (fieldOfName_nameOf f), Part.piece]

theorem front_cases {cs : List Char} (h : cs ≠ [])
    (hplain : (read (F := F) .outside cs).all Piece.isPlain = true) :
    (∃ (p : Part F) (rest : List Char), cs = p.spelling ++ rest) ∨ ∃ fault, Problem F fault cs := by
  obtain ⟨c, cs, rfl⟩ := List.exists_cons_of_ne_nil h
  by_cases hclose : c = '}'
  · subst hclose
    by_cases hrest : cs.head? = some '}'
    · obtain ⟨rest, rfl⟩ := List.head?_eq_some_iff.mp hrest
      exact .inl ⟨.literal '}', rest, rfl⟩
    · exact .inr ⟨_, .loneClose hrest⟩
  by_cases hopen : c = '{'
  · subst hopen
    obtain ⟨name, tail, rfl, hbare, rfl | ⟨e, rest, rfl, he⟩⟩ := exists_isBare_append cs
    · rw [List.append_nil]
      by_cases hsome : name = []
      · rw [hsome]
        exact .inr ⟨_, .loneOpen⟩
      · exact .inr ⟨_, .unclosed hsome hbare⟩
    by_cases heopen : e = '{'
    · subst heopen
      by_cases hsome : name = []
      · rw [hsome]
        exact .inl ⟨.literal '{', rest, rfl⟩
      · exact .inr ⟨_, .nested hsome hbare⟩
    by_cases heclose : e = '}'
    · subst heclose
      obtain ⟨f, hf⟩ | ⟨fault, hname⟩ := named_or_misnamed F name
      · have hnameOf : (nameOf f).toList = name := by
          rw [← (mem_named_iff (F := F) _ f).mp hf, String.toList_ofList]
        refine .inl ⟨.field f, rest, ?_⟩
        rw [Part.spelling_field_append, hnameOf]
      · exact .inr ⟨fault, .misnamed hbare hname⟩
    · -- any other end of the name makes the placeholder an extended one
      obtain ⟨extended, ps, hread⟩ := read_extended (F := F) hbare he heopen heclose rest
      rw [hread] at hplain
      cases hplain
  · refine .inl ⟨.literal c, cs, ?_⟩
    rw [Part.spelling_literal hopen hclose, List.singleton_append]

/-! ## A whole template -/

theorem read_spelling_append (ps : List (Part F)) (rest : List Char) :
    read .outside (spelling ps ++ rest) = ps.map Part.piece ++ read .outside rest := by
  induction ps with
  | nil => rfl
  | cons p ps ih =>
    rw [spelling_cons, List.append_assoc, read_part, ih, List.map_cons, List.cons_append]

/-- A text that is read as plain is that of parts, all of it or up to a problem. -/
theorem exists_spelling {cs : List Char}
    (hplain : (read (F := F) .outside cs).all Piece.isPlain = true) :
    ∃ ps : List (Part F), cs = spelling ps ∨
      ∃ rest fault, cs = spelling ps ++ rest ∧ Problem F fault rest := by
  by_cases hcs : cs = []
  · exact ⟨[], .inl hcs⟩
  obtain ⟨p, rest, rfl⟩ | ⟨fault, hproblem⟩ := front_cases hcs hplain
  · have hshorter : rest.length < (p.spelling ++ rest).length := by
      rw [List.length_append]
      exact Nat.lt_add_of_pos_left (List.length_pos_iff.mpr p.spelling_ne_nil)
    rw [read_part, List.all_cons, Bool.and_eq_true] at hplain
    obtain ⟨ps, hps⟩ := exists_spelling hplain.2
    refine ⟨p :: ps, ?_⟩
    rw [spelling_cons]
    obtain rfl | ⟨rest, fault, rfl, hproblem⟩ := hps
    · exact .inl rfl
    · exact .inr ⟨rest, fault, (List.append_assoc _ _ _).symm, hproblem⟩
  · exact ⟨[], .inr ⟨cs, fault, rfl, hproblem⟩⟩
termination_by cs.length

omit [Field F] [NamedField F] in
private theorem partsOf_append (ps : List (Part F)) (rest : List (Piece F)) :
    partsOf (ps.map Part.piece ++ rest) = (partsOf rest).map (ps ++ ·) := by
  induction ps with
  | nil => cases h : partsOf rest <;> rw [List.map_nil, List.nil_append, h] <;> rfl
  | cons p ps ih =>
    cases p <;>
    · rw [List.map_cons, List.cons_append, Part.piece, partsOf, ih]
      cases partsOf rest <;> rfl

private theorem partsOf_spelling (ps : List (Part F)) :
    partsOf (read .outside (spelling ps)) = .ok ps := by
  have h := partsOf_append ps (read (F := F) .outside [])
  rw [← read_spelling_append, List.append_nil, read, partsOf, Except.map, List.append_nil] at h
  exact h

private theorem partsOf_of_problem (ps : List (Part F)) {rest : List Char} {fault : Fault}
    (h : Problem F fault rest) :
    partsOf (read (F := F) .outside (spelling ps ++ rest)) = .error fault := by
  rw [read_spelling_append, read_of_problem h, partsOf_append]
  rfl

theorem spelling_injective : Function.Injective (spelling (F := F)) := by
  intro ps ps' h
  have hread := partsOf_spelling ps
  rw [h, partsOf_spelling] at hread
  exact (Except.ok.inj hread).symm

/-- The problem that reading from the left meets first: what stands in front of it is a text of
parts. -/
def LeftmostProblem (t : Template F) (fault : Fault) : Prop :=
  ∃ (ps : List (Part F)) (rest : List Char),
    t.source.toList = spelling ps ++ rest ∧ Problem F fault rest

variable {t : Template F} {fault : Fault}

theorem exists_spelling_or_problem (hplain : t.IsPlain) :
    (∃ ps : List (Part F), t.source.toList = spelling ps) ∨ ∃ fault, t.LeftmostProblem fault := by
  obtain ⟨ps, hps | ⟨rest, fault, hrest⟩⟩ := exists_spelling (F := F) hplain
  · exact .inl ⟨ps, hps⟩
  · exact .inr ⟨fault, ps, rest, hrest⟩

theorem parts_of_spelling {ps : List (Part F)} (h : t.source.toList = spelling ps) :
    t.parts = .ok ps := by
  rw [parts, pieces, h, partsOf_spelling]

theorem parts_of_problem (h : t.LeftmostProblem fault) : t.parts = .error fault := by
  obtain ⟨ps, rest, hsource, hproblem⟩ := h
  rw [parts, pieces, hsource, partsOf_of_problem ps hproblem]

/-- A plain template is read as the parts that it is the text of. -/
theorem parts_eq_ok_iff (hplain : t.IsPlain) {ps : List (Part F)} :
    t.parts = .ok ps ↔ t.source.toList = spelling ps := by
  refine ⟨fun h ↦ ?_, parts_of_spelling⟩
  obtain ⟨ps', hps'⟩ | ⟨fault, hproblem⟩ := exists_spelling_or_problem hplain
  · rw [parts_of_spelling hps'] at h
    rw [← Except.ok.inj h, hps']
  · rw [parts_of_problem hproblem] at h
    cases h

/-- Reading a plain template fails where a text of parts meets a problem. -/
theorem parts_eq_error_iff (hplain : t.IsPlain) :
    t.parts = .error fault ↔ t.LeftmostProblem fault := by
  refine ⟨fun h ↦ ?_, parts_of_problem⟩
  obtain ⟨ps, hps⟩ | ⟨fault', hproblem⟩ := exists_spelling_or_problem hplain
  · rw [parts_of_spelling hps] at h
    cases h
  · rw [parts_of_problem hproblem] at h
    rwa [← Except.error.inj h]

end Template

/-! ## The templates of a target -/

open Template (spelling)

instance : Template.NamedField BoundField where
  nameOf
    | .name => "name"
    | .bound => "bound"
  mem_named_iff s f := by cases f <;> simp [Template.Field.named]
  isBare_nameOf f := by cases f <;> decide
  fieldOfName_nameOf f := by cases f <;> rfl

instance : Template.NamedField CallableField where
  nameOf
    | .value => "value"
    | .type => "type"
  mem_named_iff s f := by cases f <;> simp [Template.Field.named]
  isBare_nameOf f := by cases f <;> decide
  fieldOfName_nameOf f := by cases f <;> rfl

namespace Target

section

variable [Template.Formatter] {t : Target} {names : List String}

/-- A bound is filled in by the parts of its template, whose values are set in as they are. -/
private theorem bound_eq_ok_iff (hplain : t.boundTemplate.IsPlain) {name bound s : String} :
    t.bound name bound = .ok s ↔
      ∃ ps, t.boundTemplate.source.toList = spelling ps ∧
        s = String.join (ps.map (·.text (BoundField.valueOf name bound))) := by
  rw [bound_eq hplain, mapError_eq_ok_iff, map_eq_ok_iff]
  constructor
  · rintro ⟨ps, hps, rfl⟩
    exact ⟨ps, (Template.parts_eq_ok_iff hplain).mp hps, rfl⟩
  · rintro ⟨ps, hps, rfl⟩
    exact ⟨ps, Template.parts_of_spelling hps, rfl⟩

/-- A bound fails with the leftmost problem of its template, whatever the values. -/
private theorem bound_eq_error_iff (hplain : t.boundTemplate.IsPlain) {name bound : String}
    {e : Error} :
    t.bound name bound = .error e ↔
      ∃ fault, e = .template fault ∧ t.boundTemplate.LeftmostProblem fault := by
  rw [bound_eq hplain]
  constructor
  · intro h
    cases hparts : t.boundTemplate.parts with
    | ok ps =>
      rw [hparts] at h
      cases h
    | error fault =>
      rw [hparts] at h
      obtain rfl := Except.error.inj h
      exact ⟨fault, rfl, (Template.parts_eq_error_iff hplain).mp hparts⟩
  · rintro ⟨fault, rfl, hproblem⟩
    rw [Template.parts_of_problem hproblem]
    rfl

/-- What one list of parts makes of names. -/
private theorem callableParams_of_spelling (hplain : t.callableParamTemplate.IsPlain)
    {ps : List (Template.Part CallableField)}
    (h : t.callableParamTemplate.source.toList = spelling ps) (names : List String) :
    t.callableParams names = .ok (Parameter.commaSeparated (names.map fun name ↦
      String.join (ps.map (·.text (CallableField.valueOf name))))) := by
  have hparam (name : String) : t.callableParam name =
      .ok (String.join (ps.map (·.text (CallableField.valueOf name)))) := by
    rw [callableParam_eq hplain, Template.parts_of_spelling h]
    rfl
  rw [callableParams, mapM_eq_ok_map fun name _ ↦ hparam name]
  rfl

private theorem callableParams_of_problem (hplain : t.callableParamTemplate.IsPlain)
    {fault : Template.Fault} (h : t.callableParamTemplate.LeftmostProblem fault)
    (hnames : names ≠ []) : t.callableParams names = .error (.template fault) :=
  callableParams_of_faulty hplain (Template.fault?_eq_some_iff.mpr (Template.parts_of_problem h))
    hnames

/-- The template is filled once for each name, and not looked at without names. -/
private theorem callableParams_eq_ok_iff (hplain : t.callableParamTemplate.IsPlain) {s : String} :
    t.callableParams names = .ok s ↔ names = [] ∧ s = "" ∨ names ≠ [] ∧
      ∃ ps, t.callableParamTemplate.source.toList = spelling ps ∧
        s = Parameter.commaSeparated (names.map fun name ↦
          String.join (ps.map (·.text (CallableField.valueOf name)))) := by
  by_cases hnames : names = []
  · rw [hnames, callableParams_nil, Except.ok.injEq, eq_comm (a := "")]
    simp
  simp only [hnames, false_and, ne_eq, not_false_eq_true, true_and, false_or]
  constructor
  · intro h
    obtain ⟨ps, hps⟩ | ⟨fault, hproblem⟩ := Template.exists_spelling_or_problem hplain
    · rw [callableParams_of_spelling hplain hps] at h
      exact ⟨ps, hps, (Except.ok.inj h).symm⟩
    · rw [callableParams_of_problem hplain hproblem hnames] at h
      cases h
  · rintro ⟨ps, hps, rfl⟩
    exact callableParams_of_spelling hplain hps names

private theorem callableParams_eq_error_iff (hplain : t.callableParamTemplate.IsPlain) {e : Error} :
    t.callableParams names = .error e ↔ names ≠ [] ∧
      ∃ fault, e = .template fault ∧ t.callableParamTemplate.LeftmostProblem fault := by
  constructor
  · intro h
    obtain ⟨ps, hps⟩ | ⟨fault, hproblem⟩ := Template.exists_spelling_or_problem hplain
    · rw [callableParams_of_spelling hplain hps] at h
      cases h
    · have hnames : names ≠ [] := by
        rintro rfl
        cases h
      rw [callableParams_of_problem hplain hproblem hnames] at h
      exact ⟨hnames, fault, (Except.error.inj h).symm, hproblem⟩
  · rintro ⟨hnames, fault, rfl, hproblem⟩
    exact callableParams_of_problem hplain hproblem hnames

/-- **Plain templates are accepted exactly by their grammar.** A bound is filled in when its
template is the text of parts: characters other than braces, doubled braces, and fields by their
names between braces. There is one such list of parts at most, and the result is the parts with
their values in place. Otherwise the template has that form up to a problem, and the error is that
of the problem, whatever stands behind it and whatever the values are. The same goes for each
parameter of a function type; without parameters the template does not matter. -/
theorem template_grammar (t : Target) :
    (Function.Injective (spelling (F := BoundField)) ∧
      Function.Injective (spelling (F := CallableField))) ∧
    (t.boundTemplate.IsPlain →
      (∀ name bound s, t.bound name bound = .ok s ↔
        ∃ ps, t.boundTemplate.source.toList = spelling ps ∧
          s = String.join (ps.map (·.text (BoundField.valueOf name bound)))) ∧
      ∀ name bound e, t.bound name bound = .error e ↔
        ∃ fault, e = .template fault ∧ t.boundTemplate.LeftmostProblem fault) ∧
    (t.callableParamTemplate.IsPlain →
      (∀ names s, t.callableParams names = .ok s ↔ names = [] ∧ s = "" ∨ names ≠ [] ∧
        ∃ ps, t.callableParamTemplate.source.toList = spelling ps ∧
          s = Parameter.commaSeparated (names.map fun name ↦
            String.join (ps.map (·.text (CallableField.valueOf name))))) ∧
      ∀ names e, t.callableParams names = .error e ↔ names ≠ [] ∧
        ∃ fault, e = .template fault ∧ t.callableParamTemplate.LeftmostProblem fault) := by
  refine ⟨⟨Template.spelling_injective, Template.spelling_injective⟩, fun hbound ↦ ?_,
    fun hcallable ↦ ?_⟩
  · exact ⟨fun _ _ _ ↦ bound_eq_ok_iff hbound, fun _ _ _ ↦ bound_eq_error_iff hbound⟩
  · exact ⟨fun _ _ ↦ callableParams_eq_ok_iff hcallable,
      fun _ _ ↦ callableParams_eq_error_iff hcallable⟩

end

attribute [local instance] Template.Formatter.standard

/-- Three braces on either side of a name, the first two of which are a pair, and a parameter whose
template ends in a brace by itself. -/
theorem template_grammar_of_braces :
    let t : Target := { flow with
      boundTemplate := ⟨"\x7b\x7b\x7bname\x7d\x7d\x7d"⟩
      callableParamTemplate := ⟨"\x7btype\x7d\x7d"⟩ }
    t.boundTemplate.IsPlain ∧ t.callableParamTemplate.IsPlain ∧
      t.bound "A" "B" = .ok "\x7bA\x7d" ∧
      t.callableParams ["A"] = .error (.template .loneClose) := by
  intro t
  have hbound : t.boundTemplate.IsPlain := by decide
  have hcallable : t.callableParamTemplate.IsPlain := by decide
  have hgrammar := template_grammar t
  obtain ⟨hok, -⟩ := hgrammar.2.1 hbound
  obtain ⟨-, herror⟩ := hgrammar.2.2 hcallable
  refine ⟨hbound, hcallable, (hok "A" "B" _).mpr ?_, (herror ["A"] _).mpr ?_⟩
  · exact ⟨[.literal '{', .field .name, .literal '}'], by decide, rfl⟩
  · exact ⟨List.cons_ne_nil _ _, .loneClose, rfl, [.field .type], ['}'], by decide,
      .loneClose nofun⟩

/-- A field of digits that is not reported as a position, since no position is as great. -/
theorem bound_of_great_number :
    let t : Target := { flow with boundTemplate := ⟨"\x7b9223372036854775808\x7d"⟩ }
    let digits := "9223372036854775808".toList
    t.boundTemplate.IsPlain ∧ t.boundTemplate.source.toList = '{' :: (digits ++ ['}']) ∧
      digits.all Text.isDecimal = true ∧
      t.bound "N" "B" = .error (.template .positionTooLarge) ∧
      ∀ n, t.bound "N" "B" ≠ .error (.template (.positional n)) := by
  intro t digits
  have hplain : t.boundTemplate.IsPlain := by decide
  have hgreat : Template.Misnamed BoundField digits .positionTooLarge := .tooLarge (by decide)
  have hproblem : t.boundTemplate.LeftmostProblem .positionTooLarge :=
    ⟨[], '{' :: (digits ++ ['}']), by decide, .misnamed (by decide) hgreat⟩
  have herror : t.bound "N" "B" = .error (.template .positionTooLarge) :=
    (bound_eq_error_iff hplain).mpr ⟨_, rfl, hproblem⟩
  refine ⟨hplain, by decide, by decide, herror, fun n hn ↦ ?_⟩
  rw [herror] at hn
  cases hn

end Target

end PerArity
