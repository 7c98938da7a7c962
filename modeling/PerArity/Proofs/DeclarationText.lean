import PerArity.Declaration
import PerArity.Proofs.JsonLayout
import PerArity.Proofs.JsonValues

/-!
# The JSON text of a declaration

The text is read back as the JSON value of the declaration, and that value tells everything about
the declaration but its separator. So the text does, too, whatever the indentation was. All this is
about texts that are joined, as all texts without surrogates are.
-/

namespace PerArity

/-! ## From values to declarations -/

theorem Fragment.toJson_injective {f f' : Fragment} (h : f.toJson = f'.toJson) : f = f' := by
  obtain ⟨arity, text, bound⟩ := f
  obtain ⟨arity', text', bound'⟩ := f'
  rw [toJson, toJson, Json.obj.injEq] at h
  cases bound <;> cases bound' <;> simp_all

namespace Declaration

/-- The value of a declaration tells everything but the separator. -/
theorem eq_of_toJson_eq {d d' : Declaration} (h : d.toJson = d'.toJson) :
    d' = { d with separator := d'.separator } := by
  obtain ⟨kind, target, maxArity, separator, fragments⟩ := d
  obtain ⟨kind', target', maxArity', separator', fragments'⟩ := d'
  simp only [toJson, Json.obj.injEq, List.cons.injEq, Prod.mk.injEq, Json.str.injEq,
    Json.int.injEq, Json.arr.injEq, true_and, and_true] at h
  obtain ⟨rfl, rfl, rfl, -, hfragments⟩ := h
  rw [(List.map_inj_right fun _ _ ↦ Fragment.toJson_injective).mp hfragments]

/-! ## Texts and integers in a declaration -/

/-- The texts of a declaration other than its separator are joined. -/
def IsJoined (d : Declaration) : Prop :=
  Json.IsJoinedText d.kind ∧ Json.IsJoinedText d.target ∧
    ∀ f ∈ d.fragments, Json.IsJoinedText f.text

instance (d : Declaration) : Decidable d.IsJoined := inferInstanceAs (Decidable (_ ∧ _))

private theorem texts_toJson (f : Fragment) : f.toJson.texts = [f.text] := by
  rw [Fragment.toJson]
  cases f.bound <;> rfl

private theorem isJoined_fragments {fs : List Fragment} (h : ∀ f ∈ fs, Json.IsJoinedText f.text) :
    ∀ s ∈ Json.textsOfItems (fs.map Fragment.toJson), Json.IsJoinedText s := by
  induction fs with
  | nil => exact fun s hs ↦ by cases hs
  | cons f fs ih =>
    rw [List.forall_mem_cons] at h
    rw [List.map_cons, Json.textsOfItems, texts_toJson, List.singleton_append, List.forall_mem_cons]
    exact ⟨h.1, ih h.2⟩

theorem isJoined_toJson {d : Declaration} (h : d.IsJoined) : d.toJson.IsJoined := by
  obtain ⟨hkind, htarget, hfragments⟩ := h
  simp only [Json.IsJoined, toJson, Json.texts, Json.textsOfMembers, List.nil_append,
    List.append_nil, List.singleton_append, List.forall_mem_cons]
  exact ⟨hkind, htarget, isJoined_fragments hfragments⟩

theorem isPrintable_toJson {d : Declaration} (h : ∀ n ∈ d.toJson.ints, n.natAbs < 1000) :
    d.toJson.IsPrintable := fun n hn ↦ Text.isPrintable_of_natAbs_lt (h n hn)

/-! ## Indentations -/

theorem jsonText_of_inRange (d : Declaration) {indent : Int}
    (h : Json.minIndent ≤ indent ∧ indent ≤ Json.maxIndent) :
    d.jsonText indent = d.toJson.pretty indent.toNat := by
  rw [jsonText, Json.widthOfIndent, if_pos h]
  rfl

theorem jsonText_of_outOfRange (d : Declaration) {indent : Int}
    (h : ¬(Json.minIndent ≤ indent ∧ indent ≤ Json.maxIndent)) :
    d.jsonText indent = .error .indentOutOfRange := by
  rw [jsonText, Json.widthOfIndent, if_neg h]
  rfl

theorem ofText?_of_jsonText {d : Declaration} (hd : d.IsJoined) {indent : Int} {text : String}
    (h : d.jsonText indent = .ok text) : Json.ofText? text = some d.toJson := by
  by_cases hrange : Json.minIndent ≤ indent ∧ indent ≤ Json.maxIndent
  · rw [jsonText_of_inRange d hrange] at h
    exact Json.ofText?_pretty (isJoined_toJson hd) h
  · rw [jsonText_of_outOfRange d hrange] at h
    cases h

private theorem place_of_ofText? {text : String} {v : Json} (h : Json.ofText? text = some v)
    {before after : List Char} (heq : text.toList = before ++ '\n' :: after) :
    before.foldl Json.Place.next .outside = .outside := by
  -- the reader takes the whole text, so it meets the line break outside of all strings
  rw [Json.ofText?, heq] at h
  have hsome : (Json.lexFrom .between (before ++ '\n' :: after)).isSome := by
    cases hlex : Json.lexFrom .between (before ++ '\n' :: after) with
    | none => rw [hlex] at h; cases h
    | some tokens => rfl
  exact Json.place_of_lexFrom hsome

/-- **The JSON text of a declaration is read back as its value.** There is a text for every
indentation in range if the integers of the declaration can be written, and otherwise it is refused.
The text is printable ASCII but for its line breaks, which all stand outside of the strings in it.
And a text belongs to one declaration only, up to the separator, even if the indentations differ. -/
theorem jsonText_spec (d : Declaration) (hd : d.IsJoined) (indent : Int) :
    (if Json.minIndent ≤ indent ∧ indent ≤ Json.maxIndent then
      if d.toJson.IsPrintable then
        ∃ text, d.jsonText indent = .ok text ∧ Json.ofText? text = some d.toJson ∧
          (∀ c ∈ text.toList, c = '\n' ∨ (' ' ≤ c ∧ c ≤ '~')) ∧
          ∀ before after, text.toList = before ++ '\n' :: after →
            before.foldl Json.Place.next .outside = .outside
      else d.jsonText indent = .error .tooManyDigits
    else d.jsonText indent = .error .indentOutOfRange) ∧
    ∀ (d' : Declaration) (indent' : Int) (text : String), d'.IsJoined →
      d.jsonText indent = .ok text → d'.jsonText indent' = .ok text →
        d' = { d with separator := d'.separator } := by
  constructor
  · split
    · rename_i hrange
      rw [jsonText_of_inRange d hrange]
      split
      · rename_i hints
        have htext := Json.pretty_eq_ok indent.toNat hints
        have hread := Json.ofText?_pretty (isJoined_toJson hd) htext
        refine ⟨_, htext, hread, ?_, fun before after ↦ place_of_ofText? hread⟩
        intro c hc
        rw [String.toList_ofList] at hc
        rcases Json.printed_chars _ 0 d.toJson c hc with hbreak | hplain
        · exact .inl hbreak
        · refine .inr ?_
          simpa [Json.isPlain] using hplain
      · rename_i hints
        exact if_neg hints
    · rename_i hrange
      exact jsonText_of_outOfRange d hrange
  · intro d' indent' text hd' h h'
    have hvalue := (ofText?_of_jsonText hd h).symm.trans (ofText?_of_jsonText hd' h')
    exact eq_of_toJson_eq (Option.some.inj hvalue)

/-- Texts with a character of two units and with the first half of another one. -/
theorem jsonText_spec_of_surrogate :
    let d : Declaration :=
      { kind := [.surrogate 0x3D], target := "\x22\\é", maxArity := -1, separator := [.surrogate 0]
        fragments := [{ arity := 0, text := "😀\n\x7f", bound := some 0 }] }
    d.IsJoined ∧ d.toJson.IsPrintable ∧
      ∃ text, d.jsonText (-7) = .ok text ∧ Json.ofText? text = some d.toJson := by
  intro d
  have hjoined : d.IsJoined := by decide +kernel
  have hints : d.toJson.IsPrintable := isPrintable_toJson (by decide)
  obtain ⟨hspec, -⟩ := jsonText_spec d hjoined (-7)
  rw [if_pos (by decide), if_pos hints] at hspec
  obtain ⟨text, htext, hread, -⟩ := hspec
  exact ⟨hjoined, hints, text, htext, hread⟩

/-- An indentation below the range gives no text, although a negative one counts as zero. -/
theorem jsonText_below_range :
    ¬∃ text, (⟨("partial" : String), ("t" : String), 1, [], []⟩ : Declaration).jsonText
      (-9223372036854775809) = .ok text := by
  rw [jsonText_of_outOfRange _ (by decide)]
  rintro ⟨text, h⟩
  cases h

end Declaration

end PerArity
