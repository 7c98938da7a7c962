/-!
# Texts that need not be well formed

A text that comes from outside is a list of code points, and among these there may be surrogates:
halves of a character beyond the sixteen-bit range, which stand for nothing by themselves. Such a
text can be put together, compared and shown with escapes like any other, but it has no encoding, so
a file cannot hold it. A text without surrogates is a `String`.
-/

namespace PerArity

/-- A code point. -/
inductive CodePoint where
  /-- A character. -/
  | char (c : Char)
  /-- A surrogate, counted from U+D800 on. -/
  | surrogate (n : Fin 0x800)
  deriving DecidableEq

/-- A text as a list of code points. -/
abbrev RawText := List CodePoint

/-- The code points of a text of characters. -/
def RawText.ofString (s : String) : RawText := s.toList.map .char

instance : Coe String RawText := ⟨RawText.ofString⟩

namespace RawText

/-- The place of surrogates that keep a text from being encoded. -/
structure Unencodable where
  /-- The first of the surrogates. -/
  surrogate : Fin 0x800
  /-- The position of the first one. -/
  first : Nat
  /-- The position of the last one that follows without a gap. -/
  last : Nat
  deriving DecidableEq

/-- Whether a code point is a surrogate. -/
def isSurrogate : CodePoint → Bool
  | .char _ => false
  | .surrogate _ => true

/-- The characters of a text from a position on, up to the first surrogate. -/
def charsFrom (position : Nat) : RawText → Except Unencodable (List Char)
  | [] => .ok []
  | .char c :: rest => (charsFrom (position + 1) rest).map (c :: ·)
  | .surrogate n :: rest =>
    .error ⟨n, position, position + (rest.takeWhile isSurrogate).length⟩

/-- The text without surrogates that a file can hold. -/
def encode (t : RawText) : Except Unencodable String := (charsFrom 0 t).map String.ofList

@[simp] theorem ofString_append (a b : String) : ofString (a ++ b) = ofString a ++ ofString b := by
  rw [ofString, String.toList_append, List.map_append]
  rfl

theorem ofString_inj {a b : String} (h : ofString a = ofString b) : a = b := by
  have hchars := List.map_inj_right (fun _ _ hc ↦ CodePoint.char.inj hc) |>.mp h
  exact String.toList_inj.mp hchars

theorem charsFrom_map_char (position : Nat) (cs : List Char) :
    charsFrom position (cs.map .char) = .ok cs := by
  induction cs generalizing position with
  | nil => rfl
  | cons c cs ih =>
    rw [List.map_cons, charsFrom, ih]
    rfl

theorem eq_map_char_of_charsFrom {position : Nat} {t : RawText} {cs : List Char}
    (h : charsFrom position t = .ok cs) : t = cs.map .char := by
  induction t generalizing position cs with
  | nil =>
    obtain rfl := Except.ok.inj h
    rfl
  | cons c t ih =>
    cases c with
    | char c =>
      rw [charsFrom] at h
      cases hrest : charsFrom (position + 1) t with
      | error place => rw [hrest] at h; cases h
      | ok rest =>
        rw [hrest] at h
        obtain rfl := Except.ok.inj h
        rw [ih hrest, List.map_cons]
    | surrogate n => cases h

@[simp] theorem encode_ofString (s : String) : encode (ofString s) = .ok s := by
  rw [encode, ofString, charsFrom_map_char]
  exact congrArg Except.ok String.ofList_toList

/-- Only a text of characters has an encoding. -/
theorem encode_eq_ok_iff {t : RawText} {s : String} : t.encode = .ok s ↔ t = s := by
  constructor
  · intro h
    rw [encode] at h
    cases hchars : charsFrom 0 t with
    | error place => rw [hchars] at h; cases h
    | ok cs =>
      rw [hchars] at h
      obtain rfl := Except.ok.inj h
      rw [eq_map_char_of_charsFrom hchars, ofString, String.toList_ofList]
  · rintro rfl
    exact encode_ofString s

end RawText

end PerArity
