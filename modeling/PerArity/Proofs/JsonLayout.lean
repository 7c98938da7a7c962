import PerArity.Proofs.JsonReading
import PerArity.Text.DecimalDigit

/-!
# The layout of printed values

A printed value consists of printable ASCII and of line breaks, and the line breaks belong to its
layout. The first is a property of every piece of the printer. The second is read off the reader:
its modes go along with the places of a text (`step_place`), and it refuses a line break anywhere in
a string, so a text that can be read at all has line breaks outside of its strings only.
-/

namespace PerArity.Json

/-! ## Line breaks -/

/-- The place of the characters that are read in a mode. -/
def Mode.place : Mode → Place
  | between => .outside
  | number _ _ => .outside
  | string _ => .inside
  | escape _ => .escaped
  | code _ _ _ => .inside

private theorem ne_quote_of_isDigit {c : Char} (h : c.isDigit = true) : c ≠ '\x22' := by
  rintro rfl
  cases h

private theorem start_place {c : Char} {found : List Token} {m : Mode}
    (h : Mode.start c = some (found, m)) : m.place = Place.outside.next c := by
  rw [Mode.start.eq_def] at h
  split at h
  · rename_i hdigit
    obtain ⟨-, rfl⟩ := Prod.mk.inj (Option.some.inj h)
    rw [Place.next, if_neg (ne_quote_of_isDigit hdigit)]
    rfl
  · split at h
    all_goals first
      | (obtain ⟨-, rfl⟩ := Prod.mk.inj (Option.some.inj h); rfl)
      | cases h

private theorem hexValue?_quote_backslash {c : Char} {n : Nat} (h : hexValue? c = some n) :
    c ≠ '\x22' ∧ c ≠ '\\' := by
  constructor
  · rintro rfl
    cases h
  · rintro rfl
    cases h

private theorem number_place {negative : Bool} {digits : List Char} {m : Mode} {c : Char}
    {found : List Token} (h : (Mode.number negative digits).step c = some (found, m)) :
    m.place = Place.outside.next c := by
  rw [Mode.step] at h
  split at h
  · rename_i hdigit
    obtain ⟨-, rfl⟩ := Prod.mk.inj (Option.some.inj h)
    rw [Mode.place, Place.next, if_neg (ne_quote_of_isDigit hdigit)]
  · split at h
    · rename_i hstart
      obtain ⟨-, rfl⟩ := Prod.mk.inj (Option.some.inj h)
      exact start_place hstart
    · cases h

private theorem string_place {units : List Nat} {m : Mode} {c : Char} {found : List Token}
    (h : (Mode.string units).step c = some (found, m)) : m.place = Place.inside.next c := by
  rw [Mode.step] at h
  rw [Place.next]
  split at h
  · rename_i hquote
    obtain ⟨-, rfl⟩ := Prod.mk.inj (Option.some.inj h)
    rw [if_pos hquote]
    rfl
  · rename_i hquote
    rw [if_neg hquote]
    split at h
    · rename_i hbackslash
      obtain ⟨-, rfl⟩ := Prod.mk.inj (Option.some.inj h)
      rw [if_pos hbackslash]
      rfl
    · rename_i hbackslash
      rw [if_neg hbackslash]
      split at h
      · cases h
      · obtain ⟨-, rfl⟩ := Prod.mk.inj (Option.some.inj h)
        rfl

private theorem escape_place {units : List Nat} {m : Mode} {c : Char} {found : List Token}
    (h : (Mode.escape units).step c = some (found, m)) : m.place = .inside := by
  rw [Mode.step] at h
  split at h
  · obtain ⟨-, rfl⟩ := Prod.mk.inj (Option.some.inj h)
    rfl
  · obtain ⟨n, -, heq⟩ := Option.map_eq_some_iff.mp h
    obtain ⟨-, rfl⟩ := Prod.mk.inj heq
    rfl

/-- The digits of a code are neither quotes nor backslashes, so the reader stays in the string. -/
private theorem code_place {units : List Nat} {value more : Nat} {m : Mode} {c : Char}
    {found : List Token} (h : (Mode.code units value more).step c = some (found, m)) :
    m.place = Place.inside.next c := by
  rw [Mode.step] at h
  obtain ⟨digit, hdigit, heq⟩ := Option.map_eq_some_iff.mp h
  obtain ⟨hquote, hbackslash⟩ := hexValue?_quote_backslash hdigit
  have hm : m.place = .inside := by
    cases more with
    | zero =>
      obtain ⟨-, rfl⟩ := Prod.mk.inj heq
      rfl
    | succ more =>
      obtain ⟨-, rfl⟩ := Prod.mk.inj heq
      rfl
  rw [hm, Place.next, if_neg hquote, if_neg hbackslash]

/-- A step of the reader goes along with the strings of the text. -/
theorem step_place {m m' : Mode} {c : Char} {found : List Token}
    (h : m.step c = some (found, m')) : m'.place = m.place.next c := by
  cases m with
  | between => exact start_place h
  | number negative digits => exact number_place h
  | string units => exact string_place h
  | escape units => exact escape_place h
  | code units value more => exact code_place h

private theorem place_of_step_newline {m m' : Mode} {found : List Token}
    (h : m.step '\n' = some (found, m')) : m.place = .outside := by
  cases m with
  | between | number => rfl
  | string | escape | code => cases h

/-- In a text that can be read, every line break stands outside of all strings. -/
theorem place_of_lexFrom {m : Mode} {before after : List Char}
    (h : (lexFrom m (before ++ '\n' :: after)).isSome) :
    before.foldl Place.next m.place = .outside := by
  -- the place of the mode is the place of the next character, and a step keeps this
  induction before generalizing m with
  | nil =>
    rw [List.nil_append, lexFrom] at h
    cases hstep : m.step '\n' with
    | none => rw [hstep] at h; cases h
    | some found => exact place_of_step_newline hstep
  | cons c before ih =>
    rw [List.cons_append, lexFrom] at h
    cases hstep : m.step c with
    | none => rw [hstep] at h; cases h
    | some found =>
      obtain ⟨found, m'⟩ := found
      rw [hstep, Option.bind_some, Option.isSome_map] at h
      rw [List.foldl_cons, ← step_place hstep]
      exact ih h

/-! ## Characters -/

/-- A text of printable ASCII and line breaks. -/
def Printed (cs : List Char) : Prop := ∀ c ∈ cs, c = '\n' ∨ isPlain c = true

private theorem printed_nil : Printed [] := fun c hc ↦ by cases hc

private theorem printed_append {cs cs' : List Char} :
    Printed (cs ++ cs') ↔ Printed cs ∧ Printed cs' := List.forall_mem_append

private theorem printed_cons {c : Char} {cs : List Char} (hc : isPlain c = true) :
    Printed (c :: cs) ↔ Printed cs := by
  rw [Printed, List.forall_mem_cons, and_iff_right (.inr hc)]
  rfl

private theorem printed_singleton {c : Char} (hc : isPlain c = true) : Printed [c] :=
  (printed_cons hc).mpr printed_nil

private theorem printed_flatMap {α : Type} {f : α → List Char} (h : ∀ a, Printed (f a))
    (as : List α) : Printed (as.flatMap f) := by
  intro c hc
  obtain ⟨a, -, hca⟩ := List.mem_flatMap.mp hc
  exact h a c hca

private theorem printed_hexDigits (width n : Nat) : Printed (Text.hexDigits width n) := by
  induction width generalizing n with
  | zero => exact printed_nil
  | succ width ih =>
    have hall : ∀ k < 16, isPlain (Nat.digitChar k) = true := by decide
    rw [Text.hexDigits, printed_append]
    exact ⟨ih _, printed_singleton (hall _ (Nat.mod_lt _ (by decide)))⟩

private theorem printed_unitEscape (n : Nat) : Printed (unitEscape n) := by
  rw [unitEscape, printed_cons (by decide), printed_cons (by decide)]
  exact printed_hexDigits 4 n

private theorem printed_escapeChar (c : Char) : Printed (escapeChar c) := by
  rw [escapeChar]
  iterate 7
    split
    · rw [printed_cons (by decide)]
      exact printed_singleton (by decide)
  split
  · rename_i hplain
    exact printed_singleton hplain
  · exact printed_flatMap printed_unitEscape _

private theorem printed_escapePoint : ∀ p : CodePoint, Printed (escapePoint p)
  | .char c => printed_escapeChar c
  | .surrogate n => printed_unitEscape (0xD800 + n)

private theorem printed_strChars (s : RawText) : Printed (strChars s) := by
  rw [strChars, List.cons_append, printed_cons (by decide), printed_append]
  exact ⟨printed_flatMap printed_escapePoint _, printed_singleton (by decide)⟩

private theorem printed_newline (width depth : Nat) : Printed (newline width depth) := by
  intro c hc
  rcases List.mem_cons.mp hc with rfl | hc
  · exact .inl rfl
  · rw [List.eq_of_mem_replicate hc]
    exact .inr (by decide)

private theorem isPlain_of_isDigit {c : Char} (hc : c.isDigit = true) : isPlain c = true := by
  simp only [Char.isDigit, Bool.and_eq_true, decide_eq_true_iff, ge_iff_le, UInt32.le_iff_toNat_le]
    at hc
  simp only [isPlain, Bool.and_eq_true, decide_eq_true_iff, Char.le_def, UInt32.le_iff_toNat_le]
  exact ⟨Nat.le_trans (by decide) hc.1, Nat.le_trans hc.2 (by decide)⟩

private theorem printed_int (n : Int) : Printed (toString n).toList := by
  intro c hc
  rcases Text.isDigit_or_eq_dash_of_mem_int hc with hdigit | rfl
  · exact .inr (isPlain_of_isDigit hdigit)
  · exact .inr (by decide)

mutual

/-- **A printed value is a text of printable ASCII and line breaks.** -/
theorem printed_chars (width depth : Nat) : ∀ v : Json, Printed (chars width depth v)
  | int n => by
    rw [chars]
    exact printed_int n
  | str s => by
    rw [chars]
    exact printed_strChars s
  | arr [] => by
    rw [chars, printed_cons (by decide)]
    exact printed_singleton (by decide)
  | arr (x :: xs) => by
    have hx := printed_chars width (depth + 1) x
    have hxs := printed_moreItems width (depth + 1) xs
    simp only [chars, List.cons_append, List.append_assoc]
    rw [printed_cons (by decide)]
    simp only [printed_append]
    exact ⟨printed_newline _ _, hx, hxs, printed_newline _ _, printed_singleton (by decide)⟩
  | obj [] => by
    rw [chars, printed_cons (by decide)]
    exact printed_singleton (by decide)
  | obj ((k, x) :: ms) => by
    have hx := printed_chars width (depth + 1) x
    have hms := printed_moreMembers width (depth + 1) ms
    simp only [chars, List.cons_append, List.append_assoc]
    rw [printed_cons (by decide), printed_append, printed_append]
    refine ⟨printed_newline _ _, printed_strChars k, ?_⟩
    rw [printed_cons (by decide), printed_cons (by decide)]
    simp only [List.nil_append, printed_append]
    exact ⟨hx, hms, printed_newline _ _, printed_singleton (by decide)⟩

private theorem printed_moreItems (width depth : Nat) :
    ∀ xs : List Json, Printed (moreItems width depth xs)
  | [] => by
    rw [moreItems]
    exact printed_nil
  | x :: xs => by
    have hx := printed_chars width depth x
    have hxs := printed_moreItems width depth xs
    simp only [moreItems, List.cons_append, List.append_assoc]
    rw [printed_cons (by decide), printed_append, printed_append]
    exact ⟨printed_newline _ _, hx, hxs⟩

private theorem printed_moreMembers (width depth : Nat) :
    ∀ ms : List (String × Json), Printed (moreMembers width depth ms)
  | [] => by
    rw [moreMembers]
    exact printed_nil
  | (k, x) :: ms => by
    have hx := printed_chars width depth x
    have hms := printed_moreMembers width depth ms
    simp only [moreMembers, List.cons_append, List.append_assoc]
    rw [printed_cons (by decide), printed_append, printed_append]
    refine ⟨printed_newline _ _, printed_strChars k, ?_⟩
    rw [printed_cons (by decide), printed_cons (by decide), List.nil_append, printed_append]
    exact ⟨hx, hms⟩

end

end PerArity.Json
