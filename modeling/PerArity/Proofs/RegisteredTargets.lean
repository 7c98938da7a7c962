import PerArity.Proofs.Filling

/-!
# The registered targets

Two targets can be asked for by name, and both can be relied upon where an arbitrary target cannot:
all their templates are plain, and none of them has a fault.
-/

namespace PerArity

/-- A plain template without a fault. -/
structure Template.Sound {F : Type} [Template.Field F] (t : Template F) : Prop where
  /-- The placeholders are bare names. -/
  plain : t.IsPlain
  /-- The template can be read to its end. -/
  fault : t.fault? = none

namespace Target

theorem mem_registered {t : Target} : t ∈ registered ↔ t = flow ∨ t = typescript := by
  rw [registered, List.mem_cons, List.mem_singleton]

theorem ofName_eq_ok_iff {name : String} {t : Target} :
    ofName name = .ok t ↔ t ∈ registered ∧ t.name = name := by
  constructor
  · intro h
    rw [ofName] at h
    split at h
    · rename_i target hfind
      obtain rfl := Except.ok.inj h
      exact ⟨List.mem_of_find?_eq_some hfind,
        beq_iff_eq.mp (List.find?_some (p := fun t : Target ↦ t.name == name) hfind)⟩
    · cases h
  · rintro ⟨hmem, rfl⟩
    rcases mem_registered.mp hmem with rfl | rfl <;> rfl

/-! ## Sound targets -/

/-- A target all of whose templates are sound. -/
structure Sound (t : Target) : Prop where
  /-- A type parameter with a bound. -/
  bound : t.boundTemplate.Sound
  /-- A parameter inside a function type. -/
  callableParam : t.callableParamTemplate.Sound
  /-- A signature of partial application. -/
  partialMember : t.partialMemberTemplate.Sound
  /-- A complement declaration. -/
  complementDeclaration : t.complementDeclarationTemplate.Sound
  /-- A test case. -/
  complementTest : t.complementTestTemplate.Sound

theorem Sound.isPlain {t : Target} (h : t.Sound) : t.IsPlain where
  boundTemplate := h.bound.plain
  callableParamTemplate := h.callableParam.plain
  partialMemberTemplate := h.partialMember.plain
  complementDeclarationTemplate := h.complementDeclaration.plain
  complementTestTemplate := h.complementTest.plain

/-- A template is read from its characters. A literal text shows them at once as the text of a list,
which spares the decoding of the text. -/
theorem sound_of_toList {F : Type} [Template.Field F] {t : Template F} {cs : List Char}
    (hsource : t.source.toList = cs)
    (hplain : (Template.read (F := F) .outside cs).all Template.Piece.isPlain = true)
    (hparts : (Template.partsOf (Template.read (F := F) .outside cs)).isOk = true) : t.Sound := by
  refine ⟨by rwa [Template.IsPlain, Template.pieces, hsource], ?_⟩
  rw [Template.fault?, Template.parts, Template.pieces, hsource]
  cases hread : Template.partsOf (Template.read (F := F) .outside cs) with
  | ok parts => rfl
  | error fault =>
    rw [hread] at hparts
    cases hparts

theorem toList_append_eq {a b : String} {as bs : List Char} (ha : a.toList = as)
    (hb : b.toList = bs) : (a ++ b).toList = as ++ bs := by
  rw [String.toList_append, ha, hb]

theorem sound_flow : flow.Sound where
  bound := sound_of_toList String.toList_ofList (by decide +kernel) (by decide +kernel)
  callableParam := sound_of_toList String.toList_ofList (by decide +kernel) (by decide +kernel)
  partialMember := sound_of_toList (toList_append_eq String.toList_ofList String.toList_ofList)
    (by decide +kernel) (by decide +kernel)
  complementDeclaration :=
    sound_of_toList String.toList_ofList (by decide +kernel) (by decide +kernel)
  complementTest :=
    sound_of_toList (toList_append_eq (toList_append_eq String.toList_ofList String.toList_ofList)
      String.toList_ofList) (by decide +kernel) (by decide +kernel)

theorem sound_typescript : typescript.Sound where
  bound := sound_of_toList String.toList_ofList (by decide +kernel) (by decide +kernel)
  callableParam := sound_of_toList String.toList_ofList (by decide +kernel) (by decide +kernel)
  -- the other templates are those of every target that does not set its own
  partialMember := sound_flow.partialMember
  complementDeclaration := sound_flow.complementDeclaration
  complementTest := sound_flow.complementTest

theorem sound_of_mem_registered {t : Target} (h : t ∈ registered) : t.Sound := by
  rcases mem_registered.mp h with rfl | rfl
  · exact sound_flow
  · exact sound_typescript

end Target

end PerArity
