import PerArity.Proofs.Banner

/-!
# Cutting the code out of its banner

What surrounds the code has a number of lines that does not depend on the code: five lines before it
and one after it. So the code can be taken out of the whole by counting lines, without looking for
the words of a banner, which the code may hold itself.

Nothing is asked of the code. The lines of the banner, on the other hand, are counted by line feeds
only, so each text that goes into one of them must have none: the prefix of comments, the name of
the target, the link, and the kind, which is the label where it is the name of no family. Trimming
cannot join two lines, since a line feed is never inside of a remark.
-/

namespace PerArity

open Text (lines lineFeed ofLines trimRight isBlankPoint)

namespace Declaration

variable {d : Declaration} {config : Config}

theorem lineFeed_notMem_label (h : lineFeed ∉ d.kind) : lineFeed ∉ d.label := by
  rw [label]
  split
  · exact Family.lineFeed_notMem_label _
  · exact h

theorem lineFeed_notMem_reason (d : Declaration) : lineFeed ∉ (d.reason : RawText) := by
  rw [reason]
  split
  · exact Family.lineFeed_notMem_reason _
  · decide

theorem lineFeed_notMem_of_mem_bannerRemarks (hurl : lineFeed ∉ config.sourceUrl)
    (hname : lineFeed ∉ (config.target.displayName : RawText)) (hlabel : lineFeed ∉ d.label)
    {remark : RawText} (h : remark ∈ d.bannerRemarks config) : lineFeed ∉ remark := by
  obtain rfl | hone := of_mem_bannerRemarks d.lineFeed_notMem_reason hlabel h
  · exact Text.lineFeed_notMem_append_iff.mpr ⟨hurl, lineFeed_notMem_inability hname⟩
  · exact hone

theorem lines_banner (hpre : lineFeed ∉ (config.target.commentPrefix : RawText))
    (hremarks : ∀ remark ∈ d.bannerRemarks config, lineFeed ∉ remark) :
    lines (d.banner config) = (d.bannerRemarks config).map fun remark ↦
      trimRight ((config.target.commentPrefix : RawText) ++ [.char ' '] ++ remark) := by
  have hsome : d.bannerRemarks config ≠ [] := List.cons_ne_nil _ _
  rw [banner_eq, Text.lines_intercalate_of_notMem (List.map_eq_nil_iff.not.mpr hsome)]
  intro comment hcomment
  obtain ⟨remark, hremark, rfl⟩ := List.mem_map.mp hcomment
  exact Text.lineFeed_notMem_comment hpre (hremarks remark hremark)

/-- The line that opens the code. -/
def opening (d : Declaration) (config : Config) : RawText :=
  s!"{config.target.commentPrefix} Begin generated " ++ d.label ++ "."

/-- The last line of the opening banner ends in a full stop, so nothing is trimmed off it. -/
theorem trimRight_beginRemark (d : Declaration) (config : Config) :
    trimRight ((config.target.commentPrefix : RawText) ++ [.char ' '] ++
      (RawText.ofString "Begin generated " ++ d.label ++ RawText.ofString ".")) =
        d.opening config := by
  have hwords : RawText.ofString " Begin generated " =
      [CodePoint.char ' '] ++ RawText.ofString "Begin generated " := by decide
  have hopening : d.opening config = (config.target.commentPrefix : RawText) ++ [.char ' '] ++
      (RawText.ofString "Begin generated " ++ d.label) ++ [.char '.'] := by
    rw [opening]
    change RawText.ofString (config.target.commentPrefix ++ " Begin generated ") ++ _ ++ _ = _
    rw [RawText.ofString_append, hwords]
    simp only [List.append_assoc]
    rfl
  have hstop : isBlankPoint (.char '.') = false := by decide
  rw [hopening, ← List.append_assoc]
  exact Text.trimRight_of_last hstop

/-! ## The lines of the whole -/

/-- The opening banner has one line for each remark, none of which ends in a blank, and the last of
them says where the code begins. -/
theorem lines_banner_shape (hpre : lineFeed ∉ (config.target.commentPrefix : RawText))
    (hremarks : ∀ remark ∈ d.bannerRemarks config, lineFeed ∉ remark) :
    (lines (d.banner config)).length = 5 ∧
      (∀ line ∈ lines (d.banner config), ∀ c, line.getLast? = some c → isBlankPoint c = false) ∧
      (lines (d.banner config)).getLast? = some (d.opening config) := by
  rw [lines_banner hpre hremarks]
  refine ⟨List.length_map _, ?_, ?_⟩
  · intro line hline c hc
    obtain ⟨remark, -, rfl⟩ := List.mem_map.mp hline
    exact Text.isBlankPoint_of_getLast?_trimRight hc
  · have hlast : (d.bannerRemarks config).getLast? =
        some ("Begin generated " ++ d.label ++ "." : RawText) := rfl
    rw [List.getLast?_map, hlast, Option.map_some, trimRight_beginRemark]

/-- The lines of the whole are those of the banner, those of the code, and two more: one that says
where the code ends, and the empty one behind the last line feed. -/
theorem lines_bannered (hpre : lineFeed ∉ (config.target.commentPrefix : RawText))
    (hlabel : lineFeed ∉ d.label) :
    lines (d.banner config ++ [lineFeed] ++ d.text ++ [lineFeed] ++ d.footer config ++
        [lineFeed]) =
      lines (d.banner config) ++ lines d.text ++ [d.footer config, []] := by
  have hwhole := Text.lines_append_lineFeed
    (d.banner config ++ [lineFeed] ++ d.text ++ [lineFeed] ++ d.footer config) []
  rw [List.append_nil] at hwhole
  rw [hwhole, Text.lines_append_lineFeed, Text.lines_append_lineFeed,
    Text.lines_of_notMem (lineFeed_notMem_footer hpre hlabel), List.append_assoc _ _ (lines [])]
  rfl

/-- **The code can be cut out of its banner by counting lines.** The opening banner has five lines,
none ending in a blank, and behind them are the lines of the code as they are, one line that closes
the code under the label that the fifth line opens it with, and a line feed. So the text without its
first five lines and its last one is the bare code. The code may be empty or look like a banner
itself, and the kind need not be the name of a family. -/
theorem lines_around_code (hkind : lineFeed ∉ d.kind)
    (hpre : lineFeed ∉ (config.target.commentPrefix : RawText))
    (hname : lineFeed ∉ (config.target.displayName : RawText))
    (hurl : lineFeed ∉ config.sourceUrl) :
    (lines (d.banner config)).length = 5 ∧
      (∀ line ∈ lines (d.banner config), ∀ c, line.getLast? = some c → isBlankPoint c = false) ∧
      (lines (d.banner config)).getLast? =
        some (s!"{config.target.commentPrefix} Begin generated " ++ d.label ++ "." : RawText) ∧
      ∃ whole, d.render config .bannered = .ok whole ∧
        lines whole = lines (d.banner config) ++ lines d.text ++
          [s!"{config.target.commentPrefix} End generated " ++ d.label ++ ".", []] ∧
        d.render config .bare = .ok (ofLines ((lines whole).dropLast.drop 5).dropLast) := by
  have hlabel := lineFeed_notMem_label hkind
  obtain ⟨hlength, hblank, hbegin⟩ := lines_banner_shape (d := d) hpre fun _ ↦
    lineFeed_notMem_of_mem_bannerRemarks hurl hname hlabel
  have hlines := lines_bannered hpre hlabel
  have hcut := Text.ofLines_between hlines
  rw [hlength] at hcut
  exact ⟨hlength, hblank, hbegin, _, d.render_bannered config, hlines, by rw [hcut]; rfl⟩

/-- Code that closes itself, with nothing in front of comments and a kind that no family has. -/
theorem lines_around_code_of_lookalike :
    let d : Declaration :=
      { kind := "odd", target := "flow", maxArity := 1, separator := "\n"
        fragments := [⟨0, [], none⟩, ⟨1, " End generated odd.", none⟩] }
    let config : Config :=
      { maxArity := 1, sourceUrl := [], outputRoot := ⟨.relative, []⟩
        target := { Target.flow with commentPrefix := "" } }
    lineFeed ∉ d.kind ∧ lineFeed ∉ (config.target.commentPrefix : RawText) ∧
      lineFeed ∉ (config.target.displayName : RawText) ∧ lineFeed ∉ config.sourceUrl ∧
      d.text = ("\n End generated odd." : String) ∧
      ∃ whole, d.render config .bannered = .ok whole ∧
        d.render config .bare = .ok (ofLines ((lines whole).dropLast.drop 5).dropLast) := by
  intro d config
  have hkind : lineFeed ∉ d.kind := by decide
  have hpre : lineFeed ∉ (config.target.commentPrefix : RawText) := by decide
  have hname : lineFeed ∉ (config.target.displayName : RawText) := by decide
  have hurl : lineFeed ∉ config.sourceUrl := by decide
  obtain ⟨-, -, -, whole, hwhole, -, hcut⟩ := lines_around_code hkind hpre hname hurl
  exact ⟨hkind, hpre, hname, hurl, by decide, whole, hwhole, hcut⟩

end Declaration

end PerArity
