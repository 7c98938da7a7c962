import PerArity.Text.DecimalDigit
import PerArity.Text.Raw

/-!
# Nested delimiters

A text is balanced when its parentheses, brackets and braces are properly nested, whatever else
stands between them. `Nested` says so as a grammar. The grammar is decided by a walk along the text
that remembers which delimiters are still to be closed: a nested text leaves them as they were
(`Nested.passAll`), and a text that leaves nothing to be closed is nested (`nested_of_passAll`).

The walk is what makes insertion easy to follow. A nested text that is inserted somewhere does not
change what is to be closed there, so the text around it is walked along as if nothing had been
inserted.
-/

namespace PerArity.Text

/-! ## Delimiters -/

/-- The delimiter that closes what a character opens, if it opens anything. -/
def closing? : Char → Option Char
  | '(' => some ')'
  | '[' => some ']'
  | '{' => some '}'
  | _ => none

/-- Whether a character opens or closes anything. -/
def isDelimiter (c : Char) : Bool := ['(', ')', '[', ']', '{', '}'].contains c

/-- Properly nested delimiters: whatever is opened is closed after a nested text. -/
inductive Nested : List Char → Prop where
  /-- The text without characters. -/
  | nil : Nested []
  /-- A character that is no delimiter. -/
  | plain {c : Char} {s : List Char} (hc : isDelimiter c = false) (hs : Nested s) : Nested (c :: s)
  /-- A pair of delimiters around a nested text. -/
  | pair {o c : Char} {inner rest : List Char} (ho : closing? o = some c) (hinner : Nested inner)
    (hrest : Nested rest) : Nested (o :: inner ++ c :: rest)

namespace Nested

variable {a b : List Char}

theorem append (ha : Nested a) (hb : Nested b) : Nested (a ++ b) := by
  induction ha with
  | nil => exact hb
  | plain hc _ ih => exact .plain hc ih
  | pair ho hinner _ _ ih =>
    rw [List.append_assoc]
    exact .pair ho hinner ih

theorem of_plain (h : ∀ c ∈ a, isDelimiter c = false) : Nested a := by
  induction a with
  | nil => exact .nil
  | cons c a ih =>
    exact .plain (h c List.mem_cons_self) (ih fun d hd ↦ h d (List.mem_cons_of_mem c hd))

end Nested

/-! ## Walking along a text -/

/-- What is to be closed after a character, the innermost first, if it was to be closed before. -/
def pass (due : List Char) (c : Char) : Option (List Char) :=
  match closing? c with
  | some d => some (d :: due)
  | none =>
    if isDelimiter c then if due.head? = some c then some due.tail else none
    else some due

/-- What is to be closed after a text. -/
def passAll (due s : List Char) : Option (List Char) := s.foldlM pass due

theorem passAll_cons (due : List Char) (c : Char) (s : List Char) :
    passAll due (c :: s) = (pass due c).bind fun due ↦ passAll due s := by
  rw [passAll, List.foldlM_cons]
  rfl

theorem passAll_append (due a b : List Char) :
    passAll due (a ++ b) = (passAll due a).bind fun due ↦ passAll due b := by
  rw [passAll, List.foldlM_append]
  rfl

private theorem closing?_cases {o c : Char} (h : closing? o = some c) :
    (o = '(' ∧ c = ')') ∨ (o = '[' ∧ c = ']') ∨ (o = '{' ∧ c = '}') := by
  unfold closing? at h
  split at h <;> simp_all [eq_comm]

private theorem pass_of_plain {c : Char} (hc : isDelimiter c = false) (due : List Char) :
    pass due c = some due := by
  have hopens : closing? c = none := by
    rw [Option.eq_none_iff_forall_ne_some]
    intro d hd
    obtain ⟨rfl, -⟩ | ⟨rfl, -⟩ | ⟨rfl, -⟩ := closing?_cases hd <;> cases hc
  rw [pass, hopens, hc]
  rfl

private theorem pass_of_opening {o c : Char} (h : closing? o = some c) (due : List Char) :
    pass due o = some (c :: due) := by
  rw [pass, h]

private theorem pass_of_closing {o c : Char} (h : closing? o = some c) (due : List Char) :
    pass (c :: due) c = some due := by
  obtain ⟨-, rfl⟩ | ⟨-, rfl⟩ | ⟨-, rfl⟩ := closing?_cases h <;> rfl

/-- **A nested text leaves what is to be closed as it was.** -/
theorem Nested.passAll {s : List Char} (h : Nested s) (due : List Char) :
    passAll due s = some due := by
  induction h generalizing due with
  | nil => rfl
  | plain hc _ ih =>
    rw [passAll_cons, pass_of_plain hc, Option.bind_some, ih]
  | pair ho _ _ ihInner ihRest =>
    rw [List.cons_append, passAll_cons, pass_of_opening ho, Option.bind_some, passAll_append,
      ihInner, Option.bind_some, passAll_cons, pass_of_closing ho, Option.bind_some, ihRest]

/-- A text that closes what is due, with nested texts around every delimiter that does. -/
inductive Closes : List Char → List Char → Prop where
  /-- Nothing is due. -/
  | nested {s : List Char} (h : Nested s) : Closes [] s
  /-- The innermost delimiter is closed, and then the others. -/
  | close {d : Char} {due a b : List Char} (ha : Nested a) (hb : Closes due b) :
    Closes (d :: due) (a ++ d :: b)

private theorem Closes.append_left {due a b : List Char} (ha : Nested a) (hb : Closes due b) :
    Closes due (a ++ b) := by
  cases hb with
  | nested hb => exact .nested (ha.append hb)
  | close ha' hb =>
    rw [← List.append_assoc]
    exact .close (ha.append ha') hb

private theorem closes_of_passAll {due s : List Char} (h : passAll due s = some []) :
    Closes due s := by
  induction s generalizing due with
  | nil =>
    obtain rfl := Option.some.inj h
    exact .nested .nil
  | cons c s ih =>
    rw [passAll_cons, Option.bind_eq_some_iff] at h
    obtain ⟨due', hpass, h⟩ := h
    have hrest := ih h
    rw [pass] at hpass
    split at hpass
    · -- an opening delimiter and the text up to the one that closes it are a nested beginning
      rename_i d hopens
      obtain rfl := Option.some.inj hpass
      cases hrest with
      | close ha hb =>
        have hpair := Nested.pair hopens ha .nil
        have hsplit := Closes.append_left hpair hb
        rwa [List.append_assoc] at hsplit
    · split at hpass
      · split at hpass
        · rename_i hc
          obtain ⟨due, rfl⟩ := List.head?_eq_some_iff.mp hc
          obtain rfl := Option.some.inj hpass
          exact .close .nil hrest
        · cases hpass
      · rename_i hc
        obtain rfl := Option.some.inj hpass
        exact Closes.append_left (.plain (Bool.eq_false_iff.mpr hc) .nil) hrest

theorem nested_of_passAll {s : List Char} (h : passAll [] s = some []) : Nested s := by
  cases closes_of_passAll h with
  | nested hs => exact hs

theorem nested_iff {s : List Char} : Nested s ↔ passAll [] s = some [] :=
  ⟨fun h ↦ h.passAll [], nested_of_passAll⟩

instance (s : List Char) : Decidable (Nested s) := decidable_of_iff _ nested_iff.symm

/-! ## Balanced texts -/

/-- A text whose delimiters are properly nested. -/
def Balanced (s : String) : Prop := Nested s.toList

instance (s : String) : Decidable (Balanced s) := inferInstanceAs (Decidable (Nested s.toList))

theorem Balanced.append {a b : String} (ha : Balanced a) (hb : Balanced b) : Balanced (a ++ b) := by
  rw [Balanced, String.toList_append]
  exact Nested.append ha hb

theorem balanced_intercalate {separator : String} {items : List String}
    (hseparator : Balanced separator) (h : ∀ s ∈ items, Balanced s) :
    Balanced (separator.intercalate items) := by
  induction items with
  | nil =>
    rw [String.intercalate_nil]
    exact .nil
  | cons s items ih =>
    have hs := h s List.mem_cons_self
    have hitems := ih fun s' hs' ↦ h s' (List.mem_cons_of_mem s hs')
    by_cases hnil : items = []
    · rw [hnil, String.intercalate_singleton]
      exact hs
    · rw [String.intercalate_cons_of_ne_nil hnil]
      exact (hs.append hseparator).append hitems

/-- **A balanced text can be inserted anywhere.** -/
theorem Balanced.insert {a b s : String} (h : Balanced (a ++ b)) (hs : Balanced s) :
    Balanced (a ++ s ++ b) := by
  rw [Balanced, String.toList_append] at h ⊢
  have hpass := h.passAll []
  rw [passAll_append] at hpass
  refine nested_of_passAll ?_
  rw [String.toList_append, passAll_append, passAll_append, Option.bind_assoc, ← hpass]
  congr 1
  funext due
  rw [Nested.passAll hs, Option.bind_some]

private theorem isDelimiter_of_isDigit {c : Char} (hc : c.isDigit = true) :
    isDelimiter c = false := by
  have hnone : ∀ d ∈ ['(', ')', '[', ']', '{', '}'], d.isDigit = false := by
    simp [Char.isDigit]
  rw [Bool.eq_false_iff, isDelimiter, Ne, List.contains_iff_mem]
  intro hmem
  rw [hnone c hmem] at hc
  cases hc

theorem balanced_int (n : Int) : Balanced (toString n) := by
  refine Nested.of_plain ?_
  intro c hc
  rcases isDigit_or_eq_dash_of_mem_int hc with hdigit | rfl
  · exact isDelimiter_of_isDigit hdigit
  · rfl

end PerArity.Text

/-! ## Texts with surrogates -/

namespace PerArity.RawText

/-- The characters of a text, without the surrogates. -/
def characters (t : RawText) : List Char :=
  t.filterMap fun
    | .char c => some c
    | .surrogate _ => none

/-- A text whose delimiters are properly nested. -/
def Balanced (t : RawText) : Prop := Text.Nested t.characters

instance (t : RawText) : Decidable t.Balanced := inferInstanceAs (Decidable (Text.Nested _))

theorem characters_ofString (s : String) : characters s = s.toList := by
  rw [characters, ofString, List.filterMap_map]
  exact List.filterMap_some

theorem balanced_ofString {s : String} : Balanced s ↔ Text.Balanced s := by
  rw [Balanced, characters_ofString, Text.Balanced]

theorem Balanced.append {a b : RawText} (ha : a.Balanced) (hb : b.Balanced) :
    Balanced (a ++ b) := by
  rw [Balanced, characters, List.filterMap_append]
  exact Text.Nested.append ha hb

theorem balanced_intercalate {separator : RawText} {items : List RawText}
    (hseparator : separator.Balanced) (h : ∀ t ∈ items, t.Balanced) :
    Balanced (separator.intercalate items) := by
  induction items with
  | nil => exact .nil
  | cons t items ih =>
    have ht := h t List.mem_cons_self
    have hitems := ih fun t' ht' ↦ h t' (List.mem_cons_of_mem t ht')
    cases items with
    | nil =>
      rw [List.intercalate_singleton]
      exact ht
    | cons t' items =>
      rw [List.intercalate_cons_cons]
      exact (ht.append hseparator).append hitems

end PerArity.RawText
