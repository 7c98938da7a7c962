import PerArity.Proofs.DeclarationText
import PerArity.Proofs.Outcome
import PerArity.Rendering

/-!
# Rendering what was generated

A declaration need not have a text in every form, since JSON refuses an integer with too many
digits, and a text with surrogates in it has no encoding. Neither happens to a declaration that a
run has given. It is about fewer than 28 arities, so all its integers are small, and its texts are
put together from characters. So it has a text in every form, and one with an encoding as long as
the link of the banner has one (`exists_render_of_generate`).
-/

namespace PerArity

/-! ## Texts with an encoding -/

namespace RawText

/-- A text that is made of characters. -/
def IsEncodable (t : RawText) : Prop := ∃ s : String, t = s

variable {a b : RawText}

theorem isEncodable_ofString (s : String) : IsEncodable s := ⟨s, rfl⟩

theorem IsEncodable.append (ha : a.IsEncodable) (hb : b.IsEncodable) : IsEncodable (a ++ b) := by
  obtain ⟨s, rfl⟩ := ha
  obtain ⟨s', rfl⟩ := hb
  exact ⟨s ++ s', (ofString_append s s').symm⟩

theorem IsEncodable.of_prefix (hb : b.IsEncodable) (h : a <+: b) : a.IsEncodable := by
  obtain ⟨s, rfl⟩ := hb
  refine ⟨String.ofList (s.toList.take a.length), ?_⟩
  rw [ofString, String.toList_ofList, List.map_take]
  exact List.prefix_iff_eq_take.mp h

theorem isEncodable_intercalate {separator : RawText} {texts : List RawText}
    (hseparator : separator.IsEncodable) (h : ∀ t ∈ texts, t.IsEncodable) :
    IsEncodable (separator.intercalate texts) := by
  induction texts with
  | nil => exact isEncodable_ofString ""
  | cons t texts ih =>
    rw [List.forall_mem_cons] at h
    cases texts with
    | nil =>
      rw [List.intercalate_singleton]
      exact h.1
    | cons t' texts =>
      rw [List.intercalate_cons_cons]
      exact (h.1.append hseparator).append (ih h.2)

end RawText

open RawText (IsEncodable isEncodable_ofString)

/-! ## Rendering -/

namespace Declaration

variable {d : Declaration} {config : Config}

theorem isEncodable_text (hseparator : d.separator.IsEncodable)
    (h : ∀ f ∈ d.fragments, f.text.IsEncodable) : d.text.IsEncodable := by
  refine RawText.isEncodable_intercalate hseparator ?_
  rw [List.forall_mem_map]
  exact h

theorem isEncodable_label (hkind : d.kind.IsEncodable) : d.label.IsEncodable := by
  rw [label]
  split
  · exact isEncodable_ofString _
  · exact hkind

theorem isEncodable_banner (hkind : d.kind.IsEncodable) (hurl : config.sourceUrl.IsEncodable) :
    (d.banner config).IsEncodable := by
  refine RawText.isEncodable_intercalate (isEncodable_ofString _) ?_
  rw [List.forall_mem_map]
  intro remark hremark
  -- a trimmed line is the beginning of the whole line
  refine IsEncodable.of_prefix ?_ (Text.isPrefix_dropTrailing _ _)
  refine (isEncodable_ofString _).append ?_
  simp only [bannerRemarks, List.mem_cons, List.not_mem_nil, or_false] at hremark
  obtain rfl | rfl | rfl | rfl | rfl := hremark
  · exact isEncodable_ofString _
  · exact hurl.append (isEncodable_ofString _)
  · exact isEncodable_ofString _
  · exact isEncodable_ofString _
  · exact ((isEncodable_ofString _).append (isEncodable_label hkind)).append
      (isEncodable_ofString _)

theorem exists_render (hints : d.toJson.IsPrintable) (hkind : d.kind.IsEncodable)
    (htext : d.text.IsEncodable) (hurl : config.sourceUrl.IsEncodable) (form : Form) :
    ∃ text : String, d.render config form = .ok text := by
  cases form with
  | json =>
    have hjson : d.jsonOfWidth defaultWidth = .ok _ := Json.pretty_eq_ok defaultWidth hints
    obtain ⟨text, htext⟩ := (isEncodable_ofString _).append (isEncodable_ofString "\n")
    exact ⟨text, by rw [render, hjson]; exact congrArg Except.ok htext⟩
  | bare =>
    obtain ⟨text, htext⟩ := htext.append (isEncodable_ofString "\n")
    exact ⟨text, congrArg Except.ok htext⟩
  | bannered =>
    have hfooter : (d.footer config).IsEncodable :=
      ((isEncodable_ofString _).append (isEncodable_label hkind)).append (isEncodable_ofString _)
    have hparts : IsEncodable (lineBreak.intercalate [d.banner config, d.text, d.footer config]) :=
      RawText.isEncodable_intercalate (isEncodable_ofString _)
        (by simp [isEncodable_banner hkind hurl, htext, hfooter])
    obtain ⟨text, htext⟩ := hparts.append (isEncodable_ofString "\n")
    exact ⟨text, congrArg Except.ok htext⟩

end Declaration

/-! ## What a run gives -/

/-- What is true of every fragment that a run makes. -/
structure Fragment.IsModest (f : Fragment) : Prop where
  /-- The integers in it are small. -/
  ints : ∀ n ∈ f.toJson.ints, n.natAbs < 1000
  /-- The text is one of characters. -/
  text : f.text.IsEncodable

private theorem isModest_of_bounds {f : Fragment} (harity : 0 ≤ f.arity ∧ f.arity ≤ 26)
    (hbound : ∀ b ∈ f.bound, 0 ≤ b ∧ b ≤ 26) (htext : f.text.IsEncodable) : f.IsModest := by
  refine ⟨fun n hn ↦ ?_, htext⟩
  rw [Fragment.toJson] at hn
  cases hb : f.bound with
  | none =>
    rw [hb] at hn
    simp only [Json.ints, Json.intsOfMembers, List.append_nil, List.mem_singleton] at hn
    omega
  | some b =>
    have hb' := hbound b hb
    rw [hb] at hn
    simp only [Json.ints, Json.intsOfMembers, List.append_nil, List.nil_append, List.cons_append,
      List.mem_cons, List.not_mem_nil, or_false] at hn
    omega

namespace Family

variable {n : Int} {fs : List Fragment}

/-- A family with one fragment for each arity comes to an end within the capacity. -/
private theorem isModest_of_mapM {g : Int → Except Error Fragment}
    (hg : ∀ a f, g a = .ok f →
      a ≤ Parameter.capacity ∧ f.arity = a ∧ f.bound = none ∧ f.text.IsEncodable)
    (h : (IndexRange.mk 0 n).toList.mapM g = .ok fs) : n < 28 ∧ ∀ f ∈ fs, f.IsModest := by
  have hcapacity := Parameter.capacity_eq
  constructor
  · by_contra hlarge
    have hmem : 27 ∈ (IndexRange.mk 0 n).toList :=
      IndexRange.mem_toList.mpr ⟨show (0 : Int) ≤ 27 by decide, show 27 < n by omega⟩
    obtain ⟨f, -, hf⟩ := exists_mem_of_mapM h hmem
    obtain ⟨hcap, -⟩ := hg 27 f hf
    omega
  · intro f hf
    obtain ⟨a, ha, hfragment⟩ := exists_of_mem_mapM h hf
    obtain ⟨hnonneg, -⟩ := IndexRange.mem_toList.mp ha
    obtain ⟨hcap, harity, hbound, htext⟩ := hg a f hfragment
    refine isModest_of_bounds ?_ ?_ htext
    · rw [harity]
      exact ⟨hnonneg, hcap⟩
    · simp [hbound]

variable [Template.Formatter] {t : Target}

private theorem isModest_partialApplication (h : partialApplication.fragments n t = .ok fs) :
    n < 28 ∧ ∀ f ∈ fs, f.IsModest := by
  obtain ⟨-, hfs⟩ := PartialApplication.fragments_eq_ok h
  have hcapacity := Parameter.capacity_eq
  constructor
  · by_contra hlarge
    have hpoint : ⟨27, 1⟩ ∈ SplitPoint.points n :=
      SplitPoint.mem_points.mpr ⟨by decide, by decide, show 27 < n by omega⟩
    obtain ⟨f, -, hf⟩ := exists_mem_of_mapM hfs hpoint
    obtain ⟨hcap, -⟩ := PartialApplication.of_fragment (by decide) (by decide) hf
    dsimp only at hcap
    omega
  · intro f hf
    obtain ⟨p, hp, hfragment⟩ := exists_of_mem_mapM hfs hf
    obtain ⟨hpos, hle, -⟩ := SplitPoint.mem_points.mp hp
    obtain ⟨hcap, harity, hbound, -, text, -, -, htext⟩ :=
      PartialApplication.of_fragment (Int.le_of_lt hpos) hle hfragment
    refine isModest_of_bounds ?_ ?_ ⟨text, htext⟩
    · omega
    · rw [hbound]
      rintro b hb
      obtain rfl := Option.some.inj hb
      omega

/-- **A run that makes its fragments has few arities**, and the fragments hold small integers and
texts of characters. -/
theorem isModest_fragments {family : Family} (h : family.fragments n t = .ok fs) :
    0 ≤ n ∧ n < 28 ∧ ∀ f ∈ fs, f.IsModest := by
  cases family with
  | partialApplication =>
    exact ⟨(PartialApplication.fragments_eq_ok h).1, isModest_partialApplication h⟩
  | complement =>
    obtain ⟨hnonneg, hfs⟩ := Complement.fragments_eq_ok h
    refine ⟨hnonneg, isModest_of_mapM (fun a f hf ↦ ?_) hfs⟩
    obtain ⟨hcap, harity, hbound, -, -, text, -, -, -, htext⟩ := Complement.of_fragment hf
    exact ⟨hcap, harity, hbound, text, htext⟩
  | complementTest =>
    obtain ⟨hnonneg, hfs⟩ := ComplementTest.fragments_eq_ok h
    refine ⟨hnonneg, isModest_of_mapM (fun a f hf ↦ ?_) hfs⟩
    obtain ⟨hcap, harity, hbound, text, -, htext⟩ := ComplementTest.of_fragment hf
    exact ⟨hcap, harity, hbound, text, htext⟩

end Family

/-! ## Rendering what a run gives -/

private theorem natAbs_lt_of_mem_intsOfItems {fs : List Fragment}
    (h : ∀ f ∈ fs, ∀ n ∈ f.toJson.ints, n.natAbs < 1000) :
    ∀ n ∈ Json.intsOfItems (fs.map Fragment.toJson), n.natAbs < 1000 := by
  induction fs with
  | nil => exact List.forall_mem_nil _
  | cons f fs ih =>
    rw [List.forall_mem_cons] at h
    rw [List.map_cons, Json.intsOfItems, List.forall_mem_append]
    exact ⟨h.1, ih h.2⟩

private theorem Family.fragmentCount_lt (family : Family) {n : Int} (hn : n < 28) (h : 0 ≤ n) :
    family.fragmentCount n < 1000 := by
  have hproduct : n * (n - 1) ≤ 27 * 27 := by
    rcases Int.lt_or_le n 1 with hzero | hpos
    · obtain rfl : n = 0 := by omega
      decide
    · exact Int.mul_le_mul (by omega) (by omega) (by omega) (by decide)
  cases family with
  | partialApplication =>
    rw [fragmentCount]
    omega
  | complement | complementTest =>
    rw [fragmentCount]
    omega

variable [Template.Formatter] {name : String} {config : Config} {d : Declaration}

/-- **What a run has given can be rendered in every form**, and the text has an encoding if the link
has one. -/
theorem exists_render_of_generate (h : (generate name config).outcome = .ok d)
    (hurl : config.sourceUrl.IsEncodable) (form : Form) :
    ∃ text : String, d.render config form = .ok text := by
  obtain ⟨family, fragments, -, -, hfragments, rfl⟩ := generate_eq_ok_iff.mp h
  obtain ⟨hnonneg, hfew, hmodest⟩ := Family.isModest_fragments hfragments
  refine Declaration.exists_render ?_ (isEncodable_ofString _)
    (Declaration.isEncodable_text (isEncodable_ofString _) fun f hf ↦ (hmodest f hf).text) hurl form
  refine Declaration.isPrintable_toJson fun n hn ↦ ?_
  simp only [Declaration.toJson, Family.declarationOf, Json.ints, Json.intsOfMembers,
    List.nil_append, List.append_nil, List.cons_append, List.mem_cons] at hn
  obtain rfl | rfl | hn := hn
  · omega
  · have hlength := Family.length_fragments hfragments
    have hcount := family.fragmentCount_lt hfew hnonneg
    omega
  · exact natAbs_lt_of_mem_intsOfItems (fun f hf ↦ (hmodest f hf).ints) n hn

end PerArity
