import PerArity.Proofs.JsonTokens

/-!
# From tokens to values

The tokens of a value make it complete, whatever lists and objects are still open around it and
whatever comes next. So the tokens are read back as the value, and with them its text.
-/

namespace PerArity.Json

/-- Reads some tokens one after the other. -/
def readTokens (state : Phase × List Frame) (tokens : List Token) : Option (Phase × List Frame) :=
  tokens.foldlM readToken state

theorem readTokens_cons {state state' : Phase × List Frame} {t : Token}
    (h : readToken state t = some state') (ts : List Token) :
    readTokens state (t :: ts) = readTokens state' ts := by
  rw [readTokens, List.foldlM_cons, h]
  rfl

private theorem key?_ofString (k : String) : key? k = some k := by
  rw [key?, RawText.encode_ofString]
  rfl

private theorem readToken_firstKey (k : String) (frames : List Frame) :
    readToken (.member, frames) (.string k) = some (.colon [] k, frames) := by
  rw [readToken, key?_ofString]
  rfl

private theorem readToken_nextKey (k : String) (members : List (String × Json))
    (frames : List Frame) :
    readToken (.key members, frames) (.string k) = some (.colon members k, frames) := by
  rw [readToken, key?_ofString]
  rfl

private theorem readTokens_item (v : Json) (frames : List Frame) (rest : List Token) :
    readTokens (.item, frames) (tokens v ++ rest) =
      readTokens (.value, .list [] :: frames) (tokens v ++ rest) := by
  rcases v with n | s | (- | ⟨x, xs⟩) | (- | ⟨⟨k, x⟩, ms⟩)
  all_goals
    rw [tokens]
    rfl

mutual

/-- The tokens of a value make it complete below the same frames. -/
theorem readTokens_tokens (frames : List Frame) (rest : List Token) :
    ∀ v : Json, readTokens (.value, frames) (tokens v ++ rest) =
      readTokens (.complete v, frames) rest
  | int n => by
    rw [tokens]
    rfl
  | str s => by
    rw [tokens]
    rfl
  | arr [] => by
    rw [tokens]
    rfl
  | arr (x :: xs) => by
    have hx := readTokens_tokens (.list [] :: frames)
      (moreItemTokens xs ++ (.endList :: rest)) x
    simp only [tokens, List.cons_append, List.append_assoc, List.nil_append]
    rw [readTokens_cons (by rfl), readTokens_item, hx, readTokens_moreItems frames rest xs x []]
    rfl
  | obj [] => by
    rw [tokens]
    rfl
  | obj ((k, x) :: ms) => by
    have hx := readTokens_tokens (.object [] k :: frames)
      (moreMemberTokens ms ++ (.endObject :: rest)) x
    simp only [tokens, List.cons_append, List.append_assoc, List.nil_append]
    rw [readTokens_cons (by rfl), readTokens_cons (readToken_firstKey k _),
      readTokens_cons (by rfl), hx, readTokens_moreMembers frames rest ms k x []]
    rfl

private theorem readTokens_moreItems (frames : List Frame) (rest : List Token) :
    ∀ (xs : List Json) (v : Json) (items : List Json),
      readTokens (.complete v, .list items :: frames) (moreItemTokens xs ++ (.endList :: rest)) =
        readTokens (.complete (.arr (items.reverse ++ v :: xs)), frames) rest
  | [], v, items => by
    rw [moreItemTokens, List.nil_append, readTokens_cons (by rfl), List.reverse_cons]
  | x :: xs, v, items => by
    have hx := readTokens_tokens (.list (v :: items) :: frames)
      (moreItemTokens xs ++ (.endList :: rest)) x
    simp only [moreItemTokens, List.cons_append, List.append_assoc]
    rw [readTokens_cons (by rfl), hx, readTokens_moreItems frames rest xs x (v :: items),
      List.reverse_cons, List.append_assoc, List.singleton_append]

private theorem readTokens_moreMembers (frames : List Frame) (rest : List Token) :
    ∀ (ms : List (String × Json)) (k : String) (v : Json) (members : List (String × Json)),
      readTokens (.complete v, .object members k :: frames)
          (moreMemberTokens ms ++ (.endObject :: rest)) =
        readTokens (.complete (.obj (members.reverse ++ (k, v) :: ms)), frames) rest
  | [], k, v, members => by
    rw [moreMemberTokens, List.nil_append, readTokens_cons (by rfl), List.reverse_cons]
  | (k', x) :: ms, k, v, members => by
    have hx := readTokens_tokens (.object ((k, v) :: members) k' :: frames)
      (moreMemberTokens ms ++ (.endObject :: rest)) x
    simp only [moreMemberTokens, List.cons_append, List.append_assoc]
    rw [readTokens_cons (by rfl), readTokens_cons (readToken_nextKey k' _ _),
      readTokens_cons (by rfl), hx, readTokens_moreMembers frames rest ms k' x ((k, v) :: members),
      List.reverse_cons, List.append_assoc, List.singleton_append]

end

theorem ofTokens?_tokens (v : Json) : ofTokens? (tokens v) = some v := by
  have hread := readTokens_tokens [] [] v
  rw [List.append_nil] at hread
  rw [ofTokens?, ← readTokens, hread]
  rfl

theorem pretty_eq_ok (width : Nat) {v : Json} (h : v.IsPrintable) :
    v.pretty width = .ok (String.ofList (v.chars width 0)) := by
  rw [pretty, if_pos h]

/-- **A printed value is read back as the value**, at any width, if the texts in it are joined. -/
theorem ofText?_pretty {width : Nat} {v : Json} {text : String} (hv : v.IsJoined)
    (h : v.pretty width = .ok text) : ofText? text = some v := by
  rw [pretty] at h
  split at h
  · obtain rfl := Except.ok.inj h
    have hnil : NoDigit [] := by
      intro c hc
      cases hc
    have hlex := lexFrom_chars width 0 hnil v hv
    rw [List.append_nil] at hlex
    rw [ofText?, String.toList_ofList, hlex]
    change (some (tokens v ++ [])).bind ofTokens? = some v
    rw [List.append_nil]
    exact ofTokens?_tokens v
  · cases h

end PerArity.Json
