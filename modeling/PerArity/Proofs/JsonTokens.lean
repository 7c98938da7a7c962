import PerArity.Proofs.JsonReading

/-!
# The tokens of a printed value

The reader finds in a printed value exactly the tokens that the value is made of, whatever comes
after it as long as that is not one more digit. The texts in the value have to be joined. The layout
leaves no trace: blanks and line breaks stand between tokens only. Each piece of the printer has its
lemma, which takes the rest of the text along, and the lemma on values puts them together along the
structure of the value.
-/

namespace PerArity.Json

/-! ## Units -/

private theorem toNat_lt (c : Char) : c.toNat < 0x110000 := by
  rcases c.valid with h | h
  · exact Nat.lt_trans h (by decide)
  · exact h.2

private theorem toNat_not_surrogate (c : Char) : c.toNat < 0xD800 ∨ 0xE000 ≤ c.toNat := by
  rcases c.valid with h | h
  · exact .inl h
  · exact .inr h.1

private theorem isHigh_iff {n : Nat} : isHigh n = true ↔ 0xD800 ≤ n ∧ n < 0xDC00 := by
  simp [isHigh]

private theorem isLow_iff {n : Nat} : isLow n = true ↔ 0xDC00 ≤ n ∧ n < 0xE000 := by
  simp [isLow]

theorem lt_of_mem_units {c : Char} {n : Nat} (h : n ∈ units c) : n < 0x10000 := by
  have hc := toNat_lt c
  rw [units] at h
  split at h
  · rename_i hbmp
    rw [List.mem_singleton.mp h]
    exact hbmp
  · simp only [List.mem_cons, List.not_mem_nil, or_false] at h
    rcases h with h | h <;> omega

/-- The UTF-16 units of a code point. -/
def pointUnits : CodePoint → List Nat
  | .char c => units c
  | .surrogate n => [0xD800 + n]

/-- The units of a character are put together to that character. -/
private theorem ofUnits_units_append (c : Char) (rest : List Nat) :
    ofUnits (units c ++ rest) = .char c :: ofUnits rest := by
  have hc := toNat_lt c
  have hsurrogate := toNat_not_surrogate c
  rw [units]
  split
  · -- a character that is one unit is no half of a pair
    have hhigh : isHigh c.toNat = false := by
      rw [Bool.eq_false_iff, Ne, isHigh_iff]
      omega
    have hlow : isLow c.toNat = false := by
      rw [Bool.eq_false_iff, Ne, isLow_iff]
      omega
    have hunit : ofUnit c.toNat = .char c := by
      rw [ofUnit, hhigh, hlow, Char.ofNat_toNat]
      rfl
    rw [List.singleton_append]
    cases rest with
    | nil => rw [ofUnits, ofUnits, hunit]
    | cons n rest =>
      rw [ofUnits, hhigh, hunit]
      rfl
  · rename_i hastral
    have hhigh : isHigh (0xD800 + (c.toNat - 0x10000) / 0x400) = true := by
      rw [isHigh_iff]
      omega
    have hlow : isLow (0xDC00 + (c.toNat - 0x10000) % 0x400) = true := by
      rw [isLow_iff]
      omega
    have hpair : ofPair (0xD800 + (c.toNat - 0x10000) / 0x400)
        (0xDC00 + (c.toNat - 0x10000) % 0x400) = c := by
      rw [ofPair, show 0x10000 + (0xD800 + (c.toNat - 0x10000) / 0x400 - 0xD800) * 0x400 +
        (0xDC00 + (c.toNat - 0x10000) % 0x400 - 0xDC00) = c.toNat by omega, Char.ofNat_toNat]
    rw [List.cons_append, List.singleton_append, ofUnits, hhigh, hlow, hpair]
    rfl

private theorem ofUnit_surrogate (n : Fin 0x800) : ofUnit (0xD800 + n) = .surrogate n := by
  have hhalf : (isHigh (0xD800 + n) || isLow (0xD800 + n)) = true := by
    rw [Bool.or_eq_true, isHigh_iff, isLow_iff]
    omega
  rw [ofUnit, if_pos hhalf, Nat.add_sub_cancel_left, Fin.ofNat_val_eq_self]

private theorem isSecondHalf_of_isLow {s : RawText} {n : Nat} {rest : List Nat}
    (h : s.flatMap pointUnits = n :: rest) (hn : isLow n = true) :
    ∃ p ∈ s.head?, isSecondHalf p = true := by
  rw [isLow_iff] at hn
  cases s with
  | nil => cases h
  | cons p s =>
    refine ⟨p, rfl, ?_⟩
    rw [List.flatMap_cons] at h
    cases p with
    | char c =>
      have hc := toNat_not_surrogate c
      have hlt := toNat_lt c
      rw [pointUnits, units] at h
      split at h
      · have heq : c.toNat = n := (List.cons.inj h).1
        omega
      · have heq : 0xD800 + (c.toNat - 0x10000) / 0x400 = n := (List.cons.inj h).1
        omega
    | surrogate k =>
      have heq : 0xD800 + k.val = n := (List.cons.inj h).1
      rw [isSecondHalf, decide_eq_true_iff]
      omega

private theorem ofUnits_surrogate {n : Fin 0x800} {rest : List Nat}
    (h : ∀ low ∈ rest.head?, ¬(n.val < 0x400 ∧ isLow low = true)) :
    ofUnits ((0xD800 + n.val) :: rest) = .surrogate n :: ofUnits rest := by
  cases rest with
  | nil => rw [ofUnits, ofUnits, ofUnit_surrogate]
  | cons low rest =>
    have hpair : (isHigh (0xD800 + n.val) && isLow low) = false := by
      rw [Bool.eq_false_iff, Ne, Bool.and_eq_true, isHigh_iff]
      rintro ⟨hhigh, hlow⟩
      exact h low rfl ⟨by omega, hlow⟩
    rw [ofUnits, hpair, ofUnit_surrogate]
    rfl

/-- **The units of a joined text are put together to that text.** -/
theorem ofUnits_pointUnits {s : RawText} (h : IsJoinedText s) :
    ofUnits (s.flatMap pointUnits) = s := by
  induction s with
  | nil => rfl
  | cons p s ih =>
    obtain ⟨hnext, hs⟩ := List.isChain_cons.mp h
    rw [List.flatMap_cons]
    cases p with
    | char c => rw [pointUnits, ofUnits_units_append, ih hs]
    | surrogate n =>
      rw [pointUnits, List.singleton_append, ofUnits_surrogate, ih hs]
      rintro low hlow ⟨hn, hsecond⟩
      obtain ⟨rest, hrest⟩ := List.head?_eq_some_iff.mp hlow
      obtain ⟨q, hq, hhalf⟩ := isSecondHalf_of_isLow hrest hsecond
      exact hnext q hq ⟨decide_eq_true hn, hhalf⟩

/-! ## Escapes -/

private theorem hexValue?_digitChar {n : Nat} (h : n < 16) :
    hexValue? (Nat.digitChar n) = some n := by
  have hall : ∀ n < 16, hexValue? (Nat.digitChar n) = some n := by decide
  exact hall n h

private theorem lexFrom_cons {m m' : Mode} {c : Char} {found : List Token}
    (h : m.step c = some (found, m')) (cs : List Char) :
    lexFrom m (c :: cs) = (lexFrom m' cs).map (found ++ ·) := by
  rw [lexFrom, h]
  rfl

private theorem lexFrom_cons_silent {m m' : Mode} {c : Char} (h : m.step c = some ([], m'))
    (cs : List Char) : lexFrom m (c :: cs) = lexFrom m' cs := by
  rw [lexFrom_cons h]
  simp

private theorem lexFrom_unitEscape {n : Nat} (hn : n < 0x10000) (collected : List Nat)
    (rest : List Char) :
    lexFrom (.string collected) (unitEscape n ++ rest) =
      lexFrom (.string (n :: collected)) rest := by
  have hdigit : ∀ {k value more}, k < 16 →
      Mode.step (.code collected value (more + 1)) (Nat.digitChar k) =
        some ([], .code collected (16 * value + k) more) := by
    intro k value more hk
    rw [Mode.step, hexValue?_digitChar hk]
    rfl
  have hlast : ∀ {k value}, k < 16 → Mode.step (.code collected value 0) (Nat.digitChar k) =
      some ([], .string ((16 * value + k) :: collected)) := by
    intro k value hk
    rw [Mode.step, hexValue?_digitChar hk]
    rfl
  -- the value of the four digits, most significant first
  have hvalue : 16 * (16 * (16 * (16 * 0 + n / 16 / 16 / 16 % 16) + n / 16 / 16 % 16) +
      n / 16 % 16) + n % 16 = n := by omega
  rw [unitEscape]
  simp only [Text.hexDigits, List.nil_append, List.cons_append]
  rw [lexFrom_cons_silent (by rfl), lexFrom_cons_silent (by rfl),
    lexFrom_cons_silent (hdigit (by omega)), lexFrom_cons_silent (hdigit (by omega)),
    lexFrom_cons_silent (hdigit (by omega)), lexFrom_cons_silent (hlast (by omega)), hvalue]

private theorem shortEscapes {c : Char} {letter : Char} {n : Nat} (hu : letter ≠ 'u')
    (hletter : shortEscape? letter = some n) (hc : units c = [n]) (collected : List Nat)
    (rest : List Char) :
    lexFrom (.string collected) ('\\' :: letter :: rest) =
      lexFrom (.string ((units c).reverse ++ collected)) rest := by
  have hstep : Mode.step (.escape collected) letter = some ([], .string (n :: collected)) := by
    rw [Mode.step, if_neg hu, hletter]
    rfl
  rw [lexFrom_cons_silent (by rfl), lexFrom_cons_silent hstep, hc]
  rfl

private theorem lexFrom_unitEscapes (ns : List Nat) (hns : ∀ n ∈ ns, n < 0x10000)
    (collected : List Nat) (rest : List Char) :
    lexFrom (.string collected) (ns.flatMap unitEscape ++ rest) =
      lexFrom (.string (ns.reverse ++ collected)) rest := by
  induction ns generalizing collected with
  | nil => rfl
  | cons n ns ih =>
    rw [List.flatMap_cons, List.append_assoc, lexFrom_unitEscape (hns n List.mem_cons_self),
      ih (fun m hm ↦ hns m (List.mem_cons_of_mem n hm)), List.reverse_cons, List.append_assoc,
      List.singleton_append]

theorem lexFrom_escapeChar (c : Char) (collected : List Nat) (rest : List Char) :
    lexFrom (.string collected) (escapeChar c ++ rest) =
      lexFrom (.string ((units c).reverse ++ collected)) rest := by
  by_cases hshort : c = '\x22' ∨ c = '\\' ∨ c = '\n' ∨ c = '\r' ∨ c = '\t' ∨ c = '\x08' ∨
      c = '\x0c'
  · rcases hshort with rfl | rfl | rfl | rfl | rfl | rfl | rfl <;>
      exact shortEscapes (by decide) rfl rfl collected rest
  · simp only [not_or] at hshort
    obtain ⟨hquote, hbackslash, hn, hr, ht, hb, hf⟩ := hshort
    rw [escapeChar, if_neg hquote, if_neg hbackslash, if_neg hn, if_neg hr, if_neg ht, if_neg hb,
      if_neg hf]
    -- what has no short escape is either shown as it is or unit by unit
    split
    · rename_i hplain
      have hblank : ¬c < ' ' := by
        rw [isPlain, Bool.and_eq_true, decide_eq_true_iff] at hplain
        exact Char.not_lt.mpr hplain.1
      have hstep : Mode.step (.string collected) c =
          some ([], .string ((units c).reverse ++ collected)) := by
        rw [Mode.step, if_neg hquote, if_neg hbackslash, if_neg hblank]
      rw [List.singleton_append, lexFrom_cons_silent hstep]
    · exact lexFrom_unitEscapes _ (fun n hn ↦ lt_of_mem_units hn) collected rest

private theorem lexFrom_escapePoint (p : CodePoint) (collected : List Nat) (rest : List Char) :
    lexFrom (.string collected) (escapePoint p ++ rest) =
      lexFrom (.string ((pointUnits p).reverse ++ collected)) rest := by
  cases p with
  | char c => exact lexFrom_escapeChar c collected rest
  | surrogate n =>
    have hn : 0xD800 + n.val < 0x10000 := by omega
    exact lexFrom_unitEscape hn collected rest

private theorem lexFrom_escapePoints (s : RawText) (collected : List Nat) (rest : List Char) :
    lexFrom (.string collected) (s.flatMap escapePoint ++ rest) =
      lexFrom (.string ((s.flatMap pointUnits).reverse ++ collected)) rest := by
  induction s generalizing collected with
  | nil => rfl
  | cons p s ih =>
    rw [List.flatMap_cons, List.append_assoc, lexFrom_escapePoint, ih, List.flatMap_cons,
      List.reverse_append, List.append_assoc]

theorem lexFrom_strChars {s : RawText} (hs : IsJoinedText s) (rest : List Char) :
    lexFrom .between (strChars s ++ rest) = (lexFrom .between rest).map (.string s :: ·) := by
  have hclose : Mode.step (.string ((s.flatMap pointUnits).reverse ++ [])) '\x22' =
      some ([.string s], .between) := by
    rw [Mode.step, if_pos rfl, List.append_nil, List.reverse_reverse, ofUnits_pointUnits hs]
  rw [strChars, List.cons_append, List.cons_append, List.append_assoc,
    lexFrom_cons_silent (by rfl), lexFrom_escapePoints, List.singleton_append, lexFrom_cons hclose]
  rfl

/-! ## Layout -/

private theorem lexFrom_punctuation {c : Char} {token : Token}
    (h : Mode.start c = some ([token], .between)) (rest : List Char) :
    lexFrom .between (c :: rest) = (lexFrom .between rest).map (token :: ·) := by
  have hstep : Mode.step .between c = some ([token], .between) := h
  exact lexFrom_cons hstep rest

theorem lexFrom_newline (width depth : Nat) (rest : List Char) :
    lexFrom .between (newline width depth ++ rest) = lexFrom .between rest := by
  rw [newline, List.cons_append, lexFrom_cons_silent (by rfl)]
  induction width * depth with
  | zero => rfl
  | succ n ih =>
    rw [List.replicate_succ, List.cons_append, lexFrom_cons_silent (by rfl), ih]

/-! ## Integers -/

/-- What comes next is not one more digit. -/
def NoDigit (rest : List Char) : Prop := ∀ c ∈ rest.head?, c.isDigit = false

private theorem lexFrom_digits {ds : List Char} (hds : ∀ c ∈ ds, c.isDigit = true) (negative : Bool)
    (before rest : List Char) :
    lexFrom (.number negative before) (ds ++ rest) =
      lexFrom (.number negative (ds.reverse ++ before)) rest := by
  induction ds generalizing before with
  | nil => rfl
  | cons d ds ih =>
    have hstep : Mode.step (.number negative before) d =
        some ([], .number negative (d :: before)) := by
      rw [Mode.step, if_pos (hds d List.mem_cons_self)]
    rw [List.cons_append, lexFrom_cons_silent hstep,
      ih fun c hc ↦ hds c (List.mem_cons_of_mem d hc), List.reverse_cons, List.append_assoc,
      List.singleton_append]

/-- A number ends where its digits end. -/
private theorem lexFrom_number {negative : Bool} {digits : List Char} {token : Token}
    (htoken : numberToken? negative digits.reverse = some token) {rest : List Char}
    (hrest : NoDigit rest) :
    lexFrom (.number negative digits) rest = (lexFrom .between rest).map (token :: ·) := by
  cases rest with
  | nil =>
    rw [lexFrom, Mode.finish, htoken]
    rfl
  | cons c cs =>
    have hc : c.isDigit = false := hrest c rfl
    rw [lexFrom, lexFrom, Mode.step, Mode.step, hc, htoken]
    cases Mode.start c with
    | none => rfl
    | some found =>
      obtain ⟨found, m⟩ := found
      simp [Function.comp_def]

private theorem head?_toDigits {n : Nat} (h : (Nat.toDigits 10 n).head? = some '0') : n = 0 := by
  -- the first digit stays the same when the last one is taken off
  induction n using Nat.strongRecOn with
  | _ n ih =>
    by_cases hn : n < 10
    · rw [Nat.toDigits_of_lt_base hn] at h
      have hall : ∀ n < 10, Nat.digitChar n = '0' → n = 0 := by decide
      exact hall n hn (Option.some.inj h)
    · rw [Nat.toDigits_of_base_le (by decide) (Nat.not_lt.mp hn),
        List.head?_append] at h
      cases hhead : (Nat.toDigits 10 (n / 10)).head? with
      | none => exact absurd (List.head?_eq_none_iff.mp hhead) Nat.toDigits_ne_nil
      | some d =>
        rw [hhead] at h
        obtain rfl := Option.some.inj h
        have hzero := ih (n / 10) (by omega) hhead
        omega

private theorem numberToken?_toDigits (negative : Bool) (n : Nat) :
    numberToken? negative (Nat.toDigits 10 n) =
      some (.int (if negative then -(n : Int) else n)) := by
  have hdigits : ¬(Nat.toDigits 10 n = [] ∨
      ((Nat.toDigits 10 n).head? = some '0' ∧ Nat.toDigits 10 n ≠ ['0'])) := by
    rintro (hnil | ⟨hhead, hne⟩)
    · exact Nat.toDigits_ne_nil hnil
    · rw [head?_toDigits hhead] at hne
      exact hne (Nat.toDigits_zero 10)
  rw [numberToken?, if_neg hdigits, Nat.ofDigitChars_ten_toDigits]

private theorem isDigit_toDigits {n : Nat} : ∀ c ∈ Nat.toDigits 10 n, c.isDigit = true :=
  fun _ hc ↦ Nat.isDigit_of_mem_toDigits (by decide) (by decide) hc

private theorem start_of_isDigit {c : Char} (hc : c.isDigit = true) :
    Mode.step .between c = some ([], .number false [c]) := by
  rw [Mode.step, Mode.start.eq_def, if_pos hc]

private theorem lexFrom_nat (n : Nat) {rest : List Char} (hrest : NoDigit rest) :
    lexFrom .between (Nat.toDigits 10 n ++ rest) =
      (lexFrom .between rest).map (.int n :: ·) := by
  have htoken := numberToken?_toDigits false n
  have hdigits := isDigit_toDigits (n := n)
  revert htoken hdigits
  cases hds : Nat.toDigits 10 n with
  | nil => exact absurd hds Nat.toDigits_ne_nil
  | cons d ds =>
    intro htoken hdigits
    have hstart := start_of_isDigit (hdigits d List.mem_cons_self)
    rw [List.cons_append, lexFrom_cons_silent hstart,
      lexFrom_digits fun c hc ↦ hdigits c (List.mem_cons_of_mem d hc)]
    refine lexFrom_number ?_ hrest
    rw [List.reverse_append, List.reverse_reverse]
    exact htoken

theorem lexFrom_int (n : Int) {rest : List Char} (hrest : NoDigit rest) :
    lexFrom .between ((toString n).toList ++ rest) =
      (lexFrom .between rest).map (.int n :: ·) := by
  rw [Int.toString_eq_repr, Int.repr_eq_if]
  split
  · rename_i hn
    rw [Nat.toList_repr, lexFrom_nat _ hrest, Int.toNat_of_nonneg hn]
  · rename_i hn
    have htoken := numberToken?_toDigits true (-n).toNat
    rw [if_pos rfl, Int.toNat_of_nonneg (by omega), Int.neg_neg] at htoken
    have hminus : "-".toList = ['-'] := rfl
    rw [String.toList_append, Nat.toList_repr, hminus, List.append_assoc, List.singleton_append,
      lexFrom_cons_silent (by rfl), lexFrom_digits isDigit_toDigits]
    refine lexFrom_number ?_ hrest
    rw [List.append_nil, List.reverse_reverse]
    exact htoken

/-! ## Values -/

mutual

/-- The tokens of a value. -/
def tokens : Json → List Token
  | int n => [.int n]
  | str s => [.string s]
  | arr [] => [.beginList, .endList]
  | arr (x :: xs) => .beginList :: tokens x ++ moreItemTokens xs ++ [.endList]
  | obj [] => [.beginObject, .endObject]
  | obj ((k, x) :: ms) =>
    .beginObject :: .string k :: .colon :: tokens x ++ moreMemberTokens ms ++ [.endObject]

/-- The tokens of the items after the first one. -/
def moreItemTokens : List Json → List Token
  | [] => []
  | x :: xs => .comma :: tokens x ++ moreItemTokens xs

/-- The tokens of the members after the first one. -/
def moreMemberTokens : List (String × Json) → List Token
  | [] => []
  | (k, x) :: ms => .comma :: .string k :: .colon :: tokens x ++ moreMemberTokens ms

end

private theorem noDigit_cons {c : Char} (hc : c.isDigit = false) (rest : List Char) :
    NoDigit (c :: rest) := by
  intro d hd
  obtain rfl := Option.some.inj hd
  exact hc

theorem noDigit_newline (width depth : Nat) (rest : List Char) :
    NoDigit (newline width depth ++ rest) := noDigit_cons (by decide) _

private theorem noDigit_moreItems (width depth : Nat) (xs : List Json) {rest : List Char}
    (hrest : NoDigit rest) : NoDigit (moreItems width depth xs ++ rest) := by
  cases xs with
  | nil => rwa [moreItems]
  | cons x xs =>
    rw [moreItems]
    exact noDigit_cons (by decide) _

private theorem noDigit_moreMembers (width depth : Nat) (ms : List (String × Json))
    {rest : List Char} (hrest : NoDigit rest) :
    NoDigit (moreMembers width depth ms ++ rest) := by
  cases ms with
  | nil => rwa [moreMembers]
  | cons m ms =>
    rw [moreMembers]
    exact noDigit_cons (by decide) _

mutual

/-- **A printed value is read as its tokens**, at any width and depth and before anything but one
more digit. -/
theorem lexFrom_chars (width depth : Nat) {rest : List Char} (hrest : NoDigit rest) :
    ∀ v : Json, v.IsJoined → lexFrom .between (chars width depth v ++ rest) =
      (lexFrom .between rest).map (tokens v ++ ·)
  | int n, _ => by
    rw [chars, tokens, lexFrom_int n hrest]
    rfl
  | str s, hv => by
    rw [IsJoined, texts, List.forall_mem_singleton] at hv
    rw [chars, tokens, lexFrom_strChars hv]
    rfl
  | arr [], _ => by
    rw [chars, tokens, List.cons_append, List.singleton_append, lexFrom_punctuation (by rfl),
      lexFrom_punctuation (by rfl)]
    simp [Function.comp_def]
  | arr (x :: xs), hv => by
    rw [IsJoined, texts, textsOfItems, List.forall_mem_append] at hv
    obtain ⟨hx, hxs⟩ := hv
    have htail := noDigit_newline width depth (']' :: rest)
    have hmore := lexFrom_moreItems width (depth + 1) htail xs hxs
    have hfirst :=
      lexFrom_chars width (depth + 1) (noDigit_moreItems width (depth + 1) xs htail) x hx
    simp only [chars, tokens, List.cons_append, List.append_assoc, List.nil_append]
    rw [lexFrom_punctuation (by rfl), lexFrom_newline, hfirst, hmore, lexFrom_newline,
      lexFrom_punctuation (by rfl)]
    simp [Function.comp_def]
  | obj [], _ => by
    rw [chars, tokens, List.cons_append, List.singleton_append, lexFrom_punctuation (by rfl),
      lexFrom_punctuation (by rfl)]
    simp [Function.comp_def]
  | obj ((k, x) :: ms), hv => by
    rw [IsJoined, texts, textsOfMembers, List.forall_mem_append] at hv
    obtain ⟨hx, hms⟩ := hv
    have htail := noDigit_newline width depth ('}' :: rest)
    have hmore := lexFrom_moreMembers width (depth + 1) htail ms hms
    have hfirst :=
      lexFrom_chars width (depth + 1) (noDigit_moreMembers width (depth + 1) ms htail) x hx
    simp only [chars, tokens, List.cons_append, List.append_assoc, List.nil_append]
    rw [lexFrom_punctuation (by rfl), lexFrom_newline, lexFrom_strChars (isJoinedText_ofString k),
      lexFrom_punctuation (by rfl), lexFrom_cons_silent (by rfl), hfirst, hmore, lexFrom_newline,
      lexFrom_punctuation (by rfl)]
    simp [Function.comp_def]

private theorem lexFrom_moreItems (width depth : Nat) {rest : List Char} (hrest : NoDigit rest) :
    ∀ xs : List Json, (∀ s ∈ textsOfItems xs, IsJoinedText s) →
      lexFrom .between (moreItems width depth xs ++ rest) =
        (lexFrom .between rest).map (moreItemTokens xs ++ ·)
  | [], _ => by
    rw [moreItems, moreItemTokens]
    simp
  | x :: xs, h => by
    rw [textsOfItems, List.forall_mem_append] at h
    have hmore := lexFrom_moreItems width depth hrest xs h.2
    have hfirst := lexFrom_chars width depth (noDigit_moreItems width depth xs hrest) x h.1
    simp only [moreItems, moreItemTokens, List.cons_append, List.append_assoc]
    rw [lexFrom_punctuation (by rfl), lexFrom_newline, hfirst, hmore]
    simp [Function.comp_def]

private theorem lexFrom_moreMembers (width depth : Nat) {rest : List Char} (hrest : NoDigit rest) :
    ∀ ms : List (String × Json), (∀ s ∈ textsOfMembers ms, IsJoinedText s) →
      lexFrom .between (moreMembers width depth ms ++ rest) =
        (lexFrom .between rest).map (moreMemberTokens ms ++ ·)
  | [], _ => by
    rw [moreMembers, moreMemberTokens]
    simp
  | (k, x) :: ms, h => by
    rw [textsOfMembers, List.forall_mem_append] at h
    have hmore := lexFrom_moreMembers width depth hrest ms h.2
    have hfirst := lexFrom_chars width depth (noDigit_moreMembers width depth ms hrest) x h.1
    simp only [moreMembers, moreMemberTokens, List.cons_append, List.append_assoc, List.nil_append]
    rw [lexFrom_punctuation (by rfl), lexFrom_newline, lexFrom_strChars (isJoinedText_ofString k),
      lexFrom_punctuation (by rfl), lexFrom_cons_silent (by rfl), hfirst, hmore]
    simp [Function.comp_def]

end

example : lexFrom .between "[ -1 , \"\\/\\uD83D\\ude00\" ]".toList =
    some [.beginList, .int (-1), .comma, .string ("/😀" : String), .endList] := by decide +kernel

end PerArity.Json
