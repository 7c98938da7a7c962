import PerArity.Output
import PerArity.Proofs.DeclarationText

/-!
# Several declarations on one stream

Declarations that are emitted on one stream stand there one after the other. Nothing but a line
break comes between two of them, and nothing says how many there are. An emission that fails,
because of an integer with too many digits, leaves the stream as it was.

Among JSON items this is enough to tell them apart. A value that is complete and stands in nothing
takes no further token, so the tokens of a value never go on to those of another one
(`Json.eq_of_prefix_tokens`). They are a prefix code, and the tokens of several values can be cut
into values in one way only (`Json.flatMap_tokens_injective`). The line break after an item takes
care that its last token does not run into the next item, which would otherwise happen to integers.
-/

namespace PerArity

namespace Json

/-! ## The tokens of several values -/

theorem tokens_ne_nil (v : Json) : tokens v ≠ [] := by
  rw [tokens.eq_def]
  split <;> simp

theorem eq_of_prefix_tokens {v v' : Json} (h : tokens v <+: tokens v') : v = v' := by
  obtain ⟨more, hmore⟩ := h
  have hread : readTokens (.complete v, []) more = readTokens (.complete v', []) [] := by
    rw [← readTokens_tokens, ← readTokens_tokens, List.append_nil, hmore]
  cases more with
  | nil =>
    have hstate : (Phase.complete v, ([] : List Frame)) = (.complete v', []) :=
      Option.some.inj hread
    exact Phase.complete.inj (Prod.mk.inj hstate).1
  | cons t more =>
    -- the value is complete, so the next token is refused
    cases hread

theorem tokens_append_inj {v v' : Json} {rest rest' : List Token}
    (h : tokens v ++ rest = tokens v' ++ rest') : v = v' ∧ rest = rest' := by
  have hv : v = v' := by
    rcases List.prefix_or_prefix_of_prefix (List.prefix_append (tokens v) rest)
      (h ▸ List.prefix_append (tokens v') rest') with hprefix | hprefix
    · exact eq_of_prefix_tokens hprefix
    · exact (eq_of_prefix_tokens hprefix).symm
  subst hv
  exact ⟨rfl, List.append_cancel_left h⟩

/-- **The tokens of several values belong to these values only.** -/
theorem flatMap_tokens_injective {vs vs' : List Json} (h : vs.flatMap tokens = vs'.flatMap tokens) :
    vs = vs' := by
  induction vs generalizing vs' with
  | nil =>
    cases vs' with
    | nil => rfl
    | cons v' vs' =>
      rw [List.flatMap_cons] at h
      exact absurd (List.append_eq_nil_iff.mp h.symm).1 (tokens_ne_nil v')
  | cons v vs ih =>
    cases vs' with
    | nil =>
      rw [List.flatMap_cons] at h
      exact absurd (List.append_eq_nil_iff.mp h).1 (tokens_ne_nil v)
    | cons v' vs' =>
      rw [List.flatMap_cons, List.flatMap_cons] at h
      obtain ⟨rfl, hrest⟩ := tokens_append_inj h
      rw [ih hrest]

/-! ## The text of several values -/

/-- The characters of some values, each with a line break at its end. -/
def printedLines (width : Nat) (vs : List Json) : List Char :=
  vs.flatMap fun v ↦ chars width 0 v ++ ['\n']

theorem lexFrom_printedLines (width : Nat) {vs : List Json} (hvs : ∀ v ∈ vs, v.IsJoined) :
    lexFrom .between (printedLines width vs) = some (vs.flatMap tokens) := by
  induction vs with
  | nil => rfl
  | cons v vs ih =>
    rw [List.forall_mem_cons] at hvs
    have hlines : printedLines width (v :: vs) =
        chars width 0 v ++ (newline width 0 ++ printedLines width vs) := by
      rw [printedLines, List.flatMap_cons, List.append_assoc]
      rfl
    rw [hlines, lexFrom_chars width 0 (noDigit_newline width 0 _) v hvs.1, lexFrom_newline,
      ih hvs.2]
    rfl

/-- **Values that are printed one after the other can be told apart again.** -/
theorem printedLines_injective {width : Nat} {vs vs' : List Json} (hvs : ∀ v ∈ vs, v.IsJoined)
    (hvs' : ∀ v ∈ vs', v.IsJoined) (h : printedLines width vs = printedLines width vs') :
    vs = vs' := by
  have hlex := lexFrom_printedLines width hvs
  rw [h, lexFrom_printedLines width hvs'] at hlex
  exact (flatMap_tokens_injective (Option.some.inj hlex)).symm

end Json

/-! ## Emissions -/

/-- A declaration that is emitted on a stream, with all that decides about its text. -/
structure Emission where
  /-- The declaration. -/
  declaration : Declaration
  /-- The settings. -/
  config : Config
  /-- Whether code stands between banners. -/
  banner : Bool := true
  /-- Whether the fragments are shown as JSON. -/
  asJson : Bool := false

namespace Emission

variable (e : Emission)

/-- What is emitted, if it can be rendered. -/
def text : Except Json.Failure RawText :=
  e.declaration.render e.config (.ofFlags e.banner e.asJson)

/-- The text on a stream after an emission. One that fails leaves the stream alone. -/
def emit (stream : RawText) : RawText :=
  match e.declaration.emit e.config (.ofFlags e.banner e.asJson) stream with
  | .ok stream => stream
  | .error _ => stream

/-- The text that an emission puts on a stream. -/
def added : RawText :=
  match e.text with
  | .ok text => text
  | .error _ => []

theorem emit_eq (stream : RawText) : e.emit stream = stream ++ e.added := by
  rw [emit, Declaration.emit, added, text]
  cases e.declaration.render e.config (.ofFlags e.banner e.asJson) with
  | ok text => rfl
  | error failure => exact (List.append_nil stream).symm

/-- A JSON item that can be told from others: its integers can be written and its texts are
joined. -/
structure IsItem : Prop where
  /-- The fragments are shown as JSON. -/
  json : e.asJson = true
  /-- The texts are joined. -/
  joined : e.declaration.IsJoined
  /-- The integers can be written. -/
  printable : e.declaration.toJson.IsPrintable

/-- An item is the value of its declaration, whatever the settings and the banners. -/
theorem IsItem.added_eq {e : Emission} (h : e.IsItem) :
    e.added = (e.declaration.toJson.chars Declaration.defaultWidth 0 ++ ['\n']).map .char := by
  rw [added, text, Form.ofFlags, if_pos h.json, Declaration.render, Declaration.jsonOfWidth,
    Json.pretty_eq_ok _ h.printable, List.map_append]
  change RawText.ofString (String.ofList _) ++ _ = _
  rw [RawText.ofString, String.toList_ofList]
  rfl

end Emission

/-- The text on a stream after some emissions, from the text on it before them. -/
def emitAll (stream : RawText) (emissions : List Emission) : RawText :=
  emissions.foldl (fun stream e ↦ e.emit stream) stream

/-- The texts stand on the stream in the order of the emissions. -/
theorem emitAll_eq_append (stream : RawText) (emissions : List Emission) :
    emitAll stream emissions = stream ++ emissions.flatMap Emission.added := by
  induction emissions generalizing stream with
  | nil => exact (List.append_nil stream).symm
  | cons e emissions ih =>
    rw [emitAll, List.foldl_cons, ← emitAll, ih, Emission.emit_eq, List.flatMap_cons,
      List.append_assoc]

theorem flatMap_added_of_items {emissions : List Emission} (h : ∀ e ∈ emissions, e.IsItem) :
    emissions.flatMap Emission.added = (Json.printedLines Declaration.defaultWidth
      (emissions.map (·.declaration.toJson))).map .char := by
  induction emissions with
  | nil => rfl
  | cons e emissions ih =>
    rw [List.forall_mem_cons] at h
    rw [List.flatMap_cons, h.1.added_eq, ih h.2, ← List.map_append]
    rfl

/-- **What is emitted on a stream follows what was there, item by item, and JSON items can be told
apart again.** Two sequences of JSON items that start on an empty stream leave the same text exactly
when their declarations have the same values, one by one; in particular they are of one length. -/
theorem emitAll_spec :
    (∀ (stream : RawText) (emissions : List Emission),
      emitAll stream emissions = stream ++ emissions.flatMap Emission.added) ∧
    ∀ emissions emissions' : List Emission,
      (∀ e ∈ emissions, e.IsItem) → (∀ e ∈ emissions', e.IsItem) →
        (emitAll [] emissions = emitAll [] emissions' ↔
          emissions.map (·.declaration.toJson) = emissions'.map (·.declaration.toJson)) := by
  refine ⟨emitAll_eq_append, fun emissions emissions' h h' ↦ ?_⟩
  rw [emitAll_eq_append, emitAll_eq_append, List.nil_append, List.nil_append,
    flatMap_added_of_items h, flatMap_added_of_items h']
  constructor
  · intro htexts
    have hchars := (List.map_inj_right fun _ _ ↦ CodePoint.char.inj).mp htexts
    refine Json.printedLines_injective ?_ ?_ hchars
    · rw [List.forall_mem_map]
      exact fun e he ↦ Declaration.isJoined_toJson (h e he).joined
    · rw [List.forall_mem_map]
      exact fun e he ↦ Declaration.isJoined_toJson (h' e he).joined
  · intro hvalues
    rw [hvalues]

/-- Items with brackets, a quote and a line break in a text, which neither the settings nor the
banners nor the separators change. -/
theorem emitAll_spec_of_other_settings :
    let config (sourceUrl : String) : Config :=
      { maxArity := 0, sourceUrl := sourceUrl, outputRoot := ⟨.root, []⟩ }
    let d : Declaration :=
      { kind := ("partial" : String), target := ("t" : String), maxArity := 1, separator := []
        fragments := [{ arity := 0, text := ("\x7d\"]\n\x7b[" : String), bound := some 0 }] }
    let empty : Declaration :=
      { kind := [.surrogate 0], target := [], maxArity := -1, separator := [] }
    let emissions : List Emission :=
      [{ declaration := d, config := config "", asJson := true },
        { declaration := empty, config := config "", asJson := true }]
    let emissions' : List Emission :=
      [{ declaration := { d with separator := "," }, config := config "t", banner := false
         asJson := true },
        { declaration := empty, config := config "u", asJson := true }]
    (∀ e ∈ emissions, e.IsItem) ∧ (∀ e ∈ emissions', e.IsItem) ∧
      emitAll [] emissions = emitAll [] emissions' ∧
      emissions.map (·.declaration.toJson) = emissions'.map (·.declaration.toJson) := by
  intro config d empty emissions emissions'
  have hd : d.IsJoined ∧ d.toJson.IsPrintable :=
    ⟨by decide +kernel, Declaration.isPrintable_toJson (by decide)⟩
  have hempty : empty.IsJoined ∧ empty.toJson.IsPrintable :=
    ⟨by decide, Declaration.isPrintable_toJson (by decide)⟩
  have hitems : ∀ e ∈ emissions, e.IsItem := by
    simp only [emissions, List.forall_mem_cons, List.not_mem_nil, false_imp_iff, implies_true,
      and_true]
    exact ⟨⟨rfl, hd.1, hd.2⟩, ⟨rfl, hempty.1, hempty.2⟩⟩
  have hitems' : ∀ e ∈ emissions', e.IsItem := by
    simp only [emissions', List.forall_mem_cons, List.not_mem_nil, false_imp_iff, implies_true,
      and_true]
    exact ⟨⟨rfl, hd.1, hd.2⟩, ⟨rfl, hempty.1, hempty.2⟩⟩
  have hvalues : emissions.map (·.declaration.toJson) = emissions'.map (·.declaration.toJson) := rfl
  exact ⟨hitems, hitems', (emitAll_spec.2 emissions emissions' hitems hitems').mpr hvalues, hvalues⟩

/-- A character and the two halves of its surrogate pair have the same escapes, so the items of two
different declarations cannot be told apart. -/
theorem emitAll_of_unjoined :
    let config : Config := { maxArity := 0, outputRoot := ⟨.root, []⟩ }
    let item (kind : RawText) : Emission :=
      { declaration := ⟨kind, [], 0, [], []⟩, config := config, asJson := true }
    let joined := item ("😀" : String)
    let apart := item [.surrogate 0x3D, .surrogate 0x600]
    emitAll [] [joined] = emitAll [] [apart] ∧
      joined.declaration.toJson ≠ apart.declaration.toJson := by
  intro config item joined apart
  constructor
  · decide +kernel
  · intro h
    have hkind := congrArg Declaration.kind (Declaration.eq_of_toJson_eq h)
    revert hkind
    decide

end PerArity
