import PerArity.Formatting
import PerArity.Proofs.Lines
import PerArity.Proofs.Outcome
import PerArity.Rendering

/-!
# Whether a banner is a comment

Each of the five remarks of a banner is put behind the prefix of comments once. That makes a comment
of a remark with one line, but the second remark begins with the link, and a link may hold line
feeds: the lines of the link after its first one come without a prefix. What stands behind the link
cannot help them, since it begins with a blank and no prefix of a registered target has one. So
what surrounds the code is a comment exactly when those lines of the link already are.

The code can stand in the rendered text in more than one place. That does not matter: whatever is
cut out, the same lines remain, perhaps in another order (`lines_around_perm`).
-/

namespace PerArity

open Text (lines lineFeed trimRight dropTrailing isBlankPoint)

/-! ## Comments -/

variable {p : RawText}

/-- A prefix of comments is a part of a line that trimming leaves as it is and that no blank
completes. -/
structure Text.CommentPrefix (p : RawText) : Prop where
  /-- A prefix does not end the line. -/
  lineFeed : lineFeed ∉ p
  /-- A prefix has no blank. -/
  blank : .char ' ' ∉ p
  /-- The last character of a prefix is not trimmed. -/
  last : ∃ as a, p = as ++ [a] ∧ isBlankPoint a = false

theorem Target.commentPrefix_of_registered {t : Target} (h : t ∈ registered) :
    Text.CommentPrefix t.commentPrefix := by
  have hslashes : (t.commentPrefix : RawText) = [.char '/', .char '/'] := by
    rcases mem_registered.mp h with rfl | rfl <;> rfl
  rw [hslashes]
  exact ⟨by decide, by decide, [.char '/'], .char '/', rfl, by decide⟩

private theorem prefix_append_blank_iff (h : .char ' ' ∉ p) (l rest : RawText) :
    p <+: l ++ .char ' ' :: rest ↔ p <+: l := by
  constructor
  · intro hp
    induction l generalizing p with
    | nil =>
      cases p with
      | nil => exact List.nil_prefix
      | cons c p =>
        obtain ⟨rfl, -⟩ := List.cons_prefix_cons.mp hp
        exact absurd List.mem_cons_self h
    | cons a l ih =>
      cases p with
      | nil => exact List.nil_prefix
      | cons c p =>
        obtain ⟨rfl, hrest⟩ := List.cons_prefix_cons.mp hp
        exact List.cons_prefix_cons.mpr ⟨rfl, ih (List.not_mem_of_not_mem_cons h) hrest⟩
  · intro hp
    exact hp.trans (List.prefix_append l _)

namespace Text

variable {pre : RawText}

/-- A remark with one line stays on one behind a prefix with one. -/
theorem lineFeed_notMem_comment {remark : RawText} (hpre : lineFeed ∉ pre)
    (hremark : lineFeed ∉ remark) : lineFeed ∉ trimRight (pre ++ [.char ' '] ++ remark) := by
  refine lineFeed_notMem_trimRight ?_
  rw [lineFeed_notMem_append_iff, lineFeed_notMem_append_iff]
  exact ⟨⟨hpre, by decide⟩, hremark⟩

private theorem commented_remark (hpre : CommentPrefix pre) {remark : RawText}
    (hremark : lineFeed ∉ remark) :
    ∀ line ∈ lines (trimRight (pre ++ [.char ' '] ++ remark)), pre <+: line := by
  obtain ⟨as, a, hlast, ha⟩ := hpre.last
  intro line hline
  rw [lines_of_notMem (lineFeed_notMem_comment hpre.lineFeed hremark), List.mem_singleton] at hline
  rw [hline, hlast, trimRight, List.append_assoc]
  exact prefix_dropTrailing ha (List.prefix_append _ _)

/-- A text at the end of a remark goes to the last line of what stands before it. If it begins with
a blank and is not trimmed, then the remark becomes a comment when the lines before it are comments
from the second one on. -/
private theorem commented_before_iff (hpre : CommentPrefix pre) {rest cs ds : RawText}
    {d : CodePoint} (hone : lineFeed ∉ rest) (hblank : rest = .char ' ' :: cs)
    (hlast : rest = ds ++ [d]) (hd : isBlankPoint d = false) (s : RawText) :
    (∀ line ∈ lines (trimRight (pre ++ [.char ' '] ++ (s ++ rest))), pre <+: line) ↔
      ∀ line ∈ (lines s).tail, pre <+: line := by
  have huntrimmed : trimRight (pre ++ [.char ' '] ++ (s ++ rest)) =
      pre ++ [.char ' '] ++ s ++ rest := by
    rw [← List.append_assoc, hlast, ← List.append_assoc]
    exact trimRight_of_last hd
  have hbegin : lineFeed ∉ pre ++ [.char ' '] := by
    rw [lineFeed_notMem_append_iff]
    exact ⟨hpre.lineFeed, by decide⟩
  rw [huntrimmed]
  obtain ⟨line, hs, hlines⟩ | ⟨first, middle, last, hs, hlines⟩ := lines_between hbegin hone s
  · rw [hlines, hs]
    simp
  · rw [hlines, hs, hblank]
    simp [or_imp, forall_and, prefix_append_blank_iff hpre.blank]

end Text

/-! ## What surrounds the code -/

namespace Declaration

variable {d : Declaration} {config : Config}

/-- What a banner says behind the link. -/
def inability (t : Target) : String := " due to " ++ t.displayName ++ " not being able to"

theorem lineFeed_notMem_inability {t : Target} (h : lineFeed ∉ (t.displayName : RawText)) :
    lineFeed ∉ (inability t : RawText) := by
  rw [inability, RawText.ofString_append, RawText.ofString_append, Text.lineFeed_notMem_append_iff,
    Text.lineFeed_notMem_append_iff]
  exact ⟨⟨by decide, h⟩, by decide⟩

private theorem exists_inability_eq (t : Target) :
    ∃ cs ds, (inability t : RawText) = .char ' ' :: cs ∧
      (inability t : RawText) = ds ++ [.char 'o'] := by
  refine ⟨"due to " ++ t.displayName ++ " not being able to",
    " due to " ++ t.displayName ++ " not being able t", ?_, ?_⟩
  · rw [inability, RawText.ofString_append, RawText.ofString_append]
    rfl
  · have hlast : RawText.ofString " not being able to" =
        RawText.ofString " not being able t" ++ [.char 'o'] := by decide
    rw [inability, RawText.ofString_append, RawText.ofString_append, hlast, ← List.append_assoc]

private theorem bannerRemarks_eq (d : Declaration) (config : Config) :
    d.bannerRemarks config =
      ([RawText.ofString "The following code is generated from",
        config.sourceUrl ++ inability config.target, d.reason, [],
        "Begin generated " ++ d.label ++ "."] : List RawText) := rfl

/-- A remark is the one with the link, or it has one line. -/
theorem of_mem_bannerRemarks (hreason : lineFeed ∉ (d.reason : RawText))
    (hlabel : lineFeed ∉ d.label) {remark : RawText} (h : remark ∈ d.bannerRemarks config) :
    remark = config.sourceUrl ++ inability config.target ∨ lineFeed ∉ remark := by
  rw [bannerRemarks_eq] at h
  simp only [List.mem_cons, List.not_mem_nil, or_false] at h
  rcases h with rfl | rfl | rfl | rfl | rfl
  · exact .inr (by decide)
  · exact .inl rfl
  · exact .inr hreason
  · exact .inr List.not_mem_nil
  · right
    rw [Text.lineFeed_notMem_append_iff, Text.lineFeed_notMem_append_iff]
    exact ⟨⟨by decide, hlabel⟩, by decide⟩

theorem banner_eq (d : Declaration) (config : Config) :
    d.banner config = List.intercalate [lineFeed] ((d.bannerRemarks config).map fun remark ↦
      trimRight ((config.target.commentPrefix : RawText) ++ [.char ' '] ++ remark)) := by
  rw [banner]
  congr 1
  refine List.map_congr_left fun remark _ ↦ ?_
  change trimRight (RawText.ofString (config.target.commentPrefix ++ " ") ++ remark) = _
  rw [RawText.ofString_append]
  rfl

theorem commented_banner_iff (hpre : Text.CommentPrefix config.target.commentPrefix)
    (hname : lineFeed ∉ (config.target.displayName : RawText))
    (hreason : lineFeed ∉ (d.reason : RawText)) (hlabel : lineFeed ∉ d.label) :
    (∀ line ∈ lines (d.banner config), (config.target.commentPrefix : RawText) <+: line) ↔
      ∀ line ∈ (lines config.sourceUrl).tail, (config.target.commentPrefix : RawText) <+: line := by
  obtain ⟨cs, ds, hblank, hlast⟩ := exists_inability_eq config.target
  have hlink := Text.commented_before_iff hpre (lineFeed_notMem_inability hname) hblank hlast
    (by decide) config.sourceUrl
  have hsome : d.bannerRemarks config ≠ [] := List.cons_ne_nil _ _
  rw [banner_eq, Text.lines_intercalate (List.map_eq_nil_iff.not.mpr hsome)]
  constructor
  · intro h
    have hmem : config.sourceUrl ++ RawText.ofString (inability config.target) ∈
        d.bannerRemarks config := by
      rw [bannerRemarks_eq]
      exact List.mem_cons_of_mem _ List.mem_cons_self
    refine hlink.mp fun line hline ↦ h line ?_
    exact List.mem_flatMap.mpr ⟨_, List.mem_map_of_mem hmem, hline⟩
  · intro h line hline
    obtain ⟨comment, hcomment, hline⟩ := List.mem_flatMap.mp hline
    obtain ⟨remark, hremark, rfl⟩ := List.mem_map.mp hcomment
    obtain rfl | hone := of_mem_bannerRemarks hreason hlabel hremark
    · exact hlink.mpr h line hline
    · exact Text.commented_remark hpre hone line hline

theorem footer_eq (d : Declaration) (config : Config) :
    d.footer config =
      config.target.commentPrefix ++ RawText.ofString " End generated " ++ d.label ++ "." := by
  rw [footer]
  change RawText.ofString (config.target.commentPrefix ++ " End generated ") ++ _ ++ _ = _
  rw [RawText.ofString_append]

theorem lineFeed_notMem_footer (hpre : lineFeed ∉ (config.target.commentPrefix : RawText))
    (hlabel : lineFeed ∉ d.label) : lineFeed ∉ d.footer config := by
  rw [footer_eq]
  simp only [Text.lineFeed_notMem_append_iff]
  exact ⟨⟨⟨hpre, by decide⟩, hlabel⟩, by decide⟩

theorem commented_footer (hpre : Text.CommentPrefix config.target.commentPrefix)
    (hlabel : lineFeed ∉ d.label) :
    ∀ line ∈ lines (d.footer config), (config.target.commentPrefix : RawText) <+: line := by
  rw [Text.lines_of_notMem (lineFeed_notMem_footer hpre.lineFeed hlabel), List.forall_mem_singleton,
    footer_eq, List.append_assoc, List.append_assoc]
  exact List.prefix_append _ _

/-! ## The whole text -/

/-- Whether all that surrounds the code is comment: a part before it and a part after it that have
comments as their lines. -/
def CommentedAround (d : Declaration) (config : Config) : Prop :=
  ∃ before after, d.render config .bannered =
      .ok (before ++ [lineFeed] ++ d.text ++ [lineFeed] ++ after ++ [lineFeed]) ∧
    ∀ line ∈ lines before ++ lines after, (config.target.commentPrefix : RawText) <+: line

theorem render_bannered (d : Declaration) (config : Config) :
    d.render config .bannered =
      .ok (d.banner config ++ [lineFeed] ++ d.text ++ [lineFeed] ++ d.footer config ++
        [lineFeed]) := by
  have hbreak : lineBreak = [lineFeed] := rfl
  rw [render, hbreak, List.intercalate_cons_cons, List.intercalate_cons_cons,
    List.intercalate_singleton]
  simp only [List.append_assoc]

theorem commentedAround_iff : d.CommentedAround config ↔
    ∀ line ∈ lines (d.banner config) ++ lines (d.footer config),
      (config.target.commentPrefix : RawText) <+: line := by
  constructor
  · rintro ⟨before, after, hrender, hcommented⟩ line hline
    rw [render_bannered] at hrender
    have hperm := Text.lines_around_perm (List.append_cancel_right (Except.ok.inj hrender))
    exact hcommented line (hperm.mem_iff.mp hline)
  · intro h
    exact ⟨_, _, d.render_bannered config, h⟩

private theorem exists_family_of_generate [Template.Formatter] {name : String} {c : Config}
    (h : (generate name c).outcome = .ok d) :
    ∃ family : Family, d.label = family.label ∧ d.reason = family.reason := by
  obtain ⟨family, fragments, -, -, -, rfl⟩ := generate_eq_ok_iff.mp h
  have hfamily : Family.ofText? family.name = some family := Family.ofText?_name family
  refine ⟨family, ?_, ?_⟩
  · rw [label, Family.declarationOf, hfamily]
  · rw [reason, Family.declarationOf, hfamily]

end Declaration

namespace Family

theorem lineFeed_notMem_label (family : Family) : lineFeed ∉ (family.label : RawText) := by
  cases family <;> decide

theorem lineFeed_notMem_reason (family : Family) : lineFeed ∉ (family.reason : RawText) := by
  cases family <;> decide

end Family

private theorem Target.lineFeed_notMem_displayName {t : Target} (h : t ∈ registered) :
    lineFeed ∉ (t.displayName : RawText) := by
  rcases mem_registered.mp h with rfl | rfl <;> decide

/-- **What surrounds the code is comment exactly when the link, from its second line on, is.** That
holds for every declaration that a run gives and every registered target, whatever the link; in
particular a link with one line is no danger, and a line feed in front of anything but a comment
is. -/
theorem commentedAround_iff_link [Template.Formatter] {name : String} {c config : Config}
    {d : Declaration} (h : (generate name c).outcome = .ok d)
    (htarget : config.target ∈ Target.registered) :
    d.CommentedAround config ↔
      ∀ line ∈ (lines config.sourceUrl).tail, (config.target.commentPrefix : RawText) <+: line := by
  have hpre := Target.commentPrefix_of_registered htarget
  have hname := Target.lineFeed_notMem_displayName htarget
  obtain ⟨family, hlabel, hreason⟩ := Declaration.exists_family_of_generate h
  have hlabelLine : lineFeed ∉ d.label := hlabel ▸ family.lineFeed_notMem_label
  have hreasonLine : lineFeed ∉ (d.reason : RawText) := hreason ▸ family.lineFeed_notMem_reason
  rw [Declaration.commentedAround_iff, List.forall_mem_append,
    Declaration.commented_banner_iff hpre hname hreasonLine hlabelLine]
  exact and_iff_left (Declaration.commented_footer hpre hlabelLine)

attribute [local instance] Template.Formatter.standard

/-- A link with a line feed in front of code. -/
theorem commentedAround_iff_link_of_call :
    let config : Config :=
      { maxArity := 1, sourceUrl := "x\nalert(1)", outputRoot := ⟨.relative, []⟩ }
    ∃ d, (generate "complement" config).outcome = .ok d ∧ config.target ∈ Target.registered ∧
      ¬d.CommentedAround config := by
  intro config
  have hregistered : config.target ∈ Target.registered := List.mem_cons_self
  have hsound := Target.sound_of_mem_registered hregistered
  obtain ⟨d, hd⟩ := exists_generate_of_sound hsound (by decide) (by decide) .complement
  refine ⟨d, hd, hregistered, ?_⟩
  rw [commentedAround_iff_link hd hregistered]
  intro hcommented
  -- the second line of the link is no comment
  have hline := hcommented "alert(1)" (by decide)
  revert hline
  decide

end PerArity
