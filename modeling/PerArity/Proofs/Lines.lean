import Mathlib.Data.List.Basic
import PerArity.Text.Blank

/-!
# Lines

The lines of a text are what line feeds separate, so a text always has one line more than it has
line feeds, and joining texts with line feeds joins their lists of lines. A text that is put inside
of a line, on the other hand, gives its first line the beginning of that line and its last line the
end (`lines_between`); the lines in the middle are left as they are, and nothing stands in front of
them.
-/

namespace PerArity.Text

/-- What separates lines. -/
abbrev lineFeed : CodePoint := .char '\n'

/-- The lines of a text, the last one after the last line feed. -/
def lines (s : RawText) : List RawText := s.splitOn lineFeed

theorem lines_append_lineFeed (a b : RawText) :
    lines (a ++ [lineFeed] ++ b) = lines a ++ lines b := by
  rw [lines, List.append_assoc]
  exact List.splitOn_append_cons_self a b

theorem lines_of_notMem {s : RawText} (h : lineFeed ∉ s) : lines s = [s] :=
  List.splitOn_eq_singleton h

theorem lineFeed_notMem_append_iff {a b : RawText} :
    lineFeed ∉ a ++ b ↔ lineFeed ∉ a ∧ lineFeed ∉ b := by
  rw [List.mem_append, not_or]

theorem lines_intercalate {texts : List RawText} (h : texts ≠ []) :
    lines (List.intercalate [lineFeed] texts) = texts.flatMap lines := by
  induction texts with
  | nil => exact absurd rfl h
  | cons s rest ih =>
    cases rest with
    | nil => rw [List.intercalate_singleton, List.flatMap_singleton]
    | cons s' rest =>
      rw [List.intercalate_cons_cons, lines_append_lineFeed, ih (List.cons_ne_nil _ _),
        List.flatMap_cons (x := s)]

theorem lines_intercalate_of_notMem {texts : List RawText} (h : texts ≠ [])
    (hone : ∀ s ∈ texts, lineFeed ∉ s) : lines (List.intercalate [lineFeed] texts) = texts := by
  rw [lines_intercalate h, List.flatMap_congr fun s hs ↦ lines_of_notMem (hone s hs)]
  exact List.flatMap_singleton' texts

/-- A text that is cut out between line feeds leaves the same lines wherever it stands. -/
theorem lines_around_perm {before before' after after' middle : RawText}
    (h : before ++ [lineFeed] ++ middle ++ [lineFeed] ++ after =
      before' ++ [lineFeed] ++ middle ++ [lineFeed] ++ after') :
    (lines before ++ lines after).Perm (lines before' ++ lines after') := by
  have hlines := congrArg lines h
  simp only [lines_append_lineFeed] at hlines
  simp only [List.append_assoc] at hlines
  have hcomm (b a : RawText) : (lines b ++ (lines middle ++ lines a)).Perm
      (lines middle ++ (lines b ++ lines a)) := by
    rw [← List.append_assoc, ← List.append_assoc]
    exact List.perm_append_comm.append_right _
  refine (List.perm_append_left_iff (lines middle)).mp ?_
  exact ((hcomm before after).symm.trans (.of_eq hlines)).trans (hcomm before' after')

/-! ## From lines to texts -/

/-- The text of lines that all end in a line feed. -/
def ofLines (ls : List RawText) : RawText := ls.flatMap (· ++ [lineFeed])

private theorem flatMap_append_eq_intercalate {α : Type} {x : α} {ls : List (List α)}
    (h : ls ≠ []) : ls.flatMap (· ++ [x]) = [x].intercalate ls ++ [x] := by
  induction ls with
  | nil => exact absurd rfl h
  | cons l rest ih =>
    cases rest with
    | nil => rw [List.flatMap_singleton, List.intercalate_singleton]
    | cons l' rest =>
      rw [List.flatMap_cons, ih (List.cons_ne_nil _ _), List.intercalate_cons_cons]
      simp only [List.append_assoc]

/-- Ending each line of a text in a line feed only ends the text in one. -/
theorem ofLines_lines (s : RawText) : ofLines (lines s) = s ++ [lineFeed] := by
  have hsome : lines s ≠ [] := List.splitOn_ne_nil lineFeed s
  have hjoin : [lineFeed].intercalate (lines s) = s := List.intercalate_splitOn lineFeed
  rw [ofLines, flatMap_append_eq_intercalate hsome, hjoin]

/-- Taking off the lines in front of a text and the one behind it leaves the text, ended by a line
feed. -/
theorem ofLines_between {s middle : RawText} {opening : List RawText} {closing : RawText}
    (h : lines s = opening ++ lines middle ++ [closing, []]) :
    ofLines ((lines s).dropLast.drop opening.length).dropLast =
      middle ++ [lineFeed] := by
  have hends : lines s = opening ++ (lines middle ++ [closing]) ++ [[]] := by
    rw [h]
    simp only [List.append_assoc, List.cons_append, List.nil_append]
  rw [hends, List.dropLast_concat, List.drop_left, List.dropLast_concat, ofLines_lines]

/-! ## Texts inside of a line -/

private theorem splitOn_append_left {α : Type} [DecidableEq α] {x : α} {as : List α} (h : x ∉ as)
    {l first : List α} {rest : List (List α)} (hl : l.splitOn x = first :: rest) :
    (as ++ l).splitOn x = (as ++ first) :: rest := by
  induction as with
  | nil => exact hl
  | cons a as ih =>
    obtain ⟨hne, has⟩ := List.ne_and_not_mem_of_not_mem_cons h
    have hskip : ¬(a == x) = true := by rwa [beq_iff_eq, eq_comm]
    rw [List.cons_append, List.splitOn_cons_eq_if_modifyHead, if_neg hskip, ih has]
    rfl

private theorem splitOn_append_right {α : Type} [DecidableEq α] {x : α} {bs : List α} (h : x ∉ bs)
    (l : List α) : ∃ init last, l.splitOn x = init ++ [last] ∧
      (l ++ bs).splitOn x = init ++ [last ++ bs] := by
  induction l with
  | nil => exact ⟨[], [], List.splitOn_nil x, List.splitOn_eq_singleton h⟩
  | cons a l ih =>
    obtain ⟨init, last, hl, hbs⟩ := ih
    rw [List.cons_append, List.splitOn_cons_eq_if_modifyHead, List.splitOn_cons_eq_if_modifyHead,
      hl, hbs]
    by_cases ha : (a == x) = true
    · rw [if_pos ha, if_pos ha]
      exact ⟨[] :: init, last, rfl, rfl⟩
    · rw [if_neg ha, if_neg ha]
      cases init with
      | nil => exact ⟨[], a :: last, rfl, rfl⟩
      | cons first init => exact ⟨(a :: first) :: init, last, rfl, rfl⟩

/-- A text inside of a line: if it has one line only, then so has the whole; otherwise the beginning
of the line goes to the first line of the text and the end to the last. -/
theorem lines_between {a c : RawText} (ha : lineFeed ∉ a) (hc : lineFeed ∉ c) (s : RawText) :
    (∃ line, lines s = [line] ∧ lines (a ++ s ++ c) = [a ++ line ++ c]) ∨
      ∃ first middle last, lines s = first :: middle ++ [last] ∧
        lines (a ++ s ++ c) = (a ++ first) :: middle ++ [last ++ c] := by
  obtain ⟨init, last, hs, hsc⟩ := splitOn_append_right hc s
  rw [List.append_assoc]
  cases init with
  | nil =>
    left
    exact ⟨last, hs, (splitOn_append_left ha hsc).trans (by rw [List.append_assoc])⟩
  | cons first middle =>
    right
    exact ⟨first, middle, last, hs, splitOn_append_left ha hsc⟩

/-! ## Trimmed lines -/

variable {α : Type} {p : α → Bool} {a : α}

/-- Trimming does not reach a character that is kept. -/
theorem prefix_dropTrailing {as l : List α} (ha : p a = false) (h : as ++ [a] <+: l) :
    as ++ [a] <+: dropTrailing p l := by
  obtain ⟨rest, rfl⟩ := h
  have hkept : (as ++ [a]).reverse.dropWhile p = (as ++ [a]).reverse := by
    rw [List.reverse_append, List.reverse_singleton, List.singleton_append,
      List.dropWhile_cons_of_neg (by rw [ha]; exact Bool.false_ne_true)]
  rw [dropTrailing, List.reverse_append, List.dropWhile_append]
  split
  · exact ⟨[], by rw [hkept, List.append_nil, List.reverse_reverse]⟩
  · rw [List.reverse_append, List.reverse_reverse]
    exact List.prefix_append _ _

theorem isBlankPoint_of_getLast?_trimRight {s : RawText} {p : CodePoint}
    (h : (trimRight s).getLast? = some p) : isBlankPoint p = false := by
  rw [trimRight, dropTrailing, List.getLast?_reverse] at h
  have hkept := List.head?_dropWhile_not isBlankPoint s.reverse
  rwa [h] at hkept

theorem lineFeed_notMem_trimRight {s : RawText} (h : lineFeed ∉ s) : lineFeed ∉ trimRight s :=
  fun hmem ↦ h ((isPrefix_dropTrailing isBlankPoint s).mem hmem)

theorem trimRight_of_last {s : RawText} {p : CodePoint} (hp : isBlankPoint p = false) :
    trimRight (s ++ [p]) = s ++ [p] := by
  have hkept : s ++ [p] <+: dropTrailing isBlankPoint (s ++ [p]) :=
    prefix_dropTrailing hp (List.prefix_refl _)
  exact (isPrefix_dropTrailing isBlankPoint _).eq_of_length_le hkept.length_le

end PerArity.Text
