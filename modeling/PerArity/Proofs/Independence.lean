import PerArity.Proofs.Footprint

/-!
# Writes that do not interfere

A delivery asks of a tree that no file stands on the trail of its directory and that no directory
stands at its location, and it leaves behind directories on that trail and a file at that location.
So a second delivery can only get into the way of a first one where the location of one is on the
trail of the other or is the location of the other. If they succeed in one order they do not, and
then they can be made in the other order, too, and lead to the same tree (`write_independent`).

There is one thing for which the order matters. A delivery takes the more room on the stack, the
more of its directories are missing, and what one delivery makes the other one finds made. So a
delivery that has come second may have no room to come first.

Writes to the same path absorb one another: the second one finds its trail made and replaces the
text of the file.
-/

namespace PerArity

namespace Workspace

variable {w w' : Workspace} {written : Option (Location × String)}

theorem Follows.text?_eq_none (h : w.Follows written w') {l : Location}
    (hl : w'.tree.text? l = none) : w.tree.text? l = none := by
  rw [h.text?, Option.or_eq_none_iff] at hl
  exact hl.2

/-! ## Two deliveries -/

variable {p q : Path} {l m : Location} {content : String}

theorem Deliverable.before (h : w'.Deliverable p l) (hfollows : w.Follows written w') :
    w.Deliverable p l where
  names := hfollows.names_iff.mp h.names
  fits := (hfollows.fits _).symm.trans h.fits
  clear := ⟨h.clear.short, fun l' hl' ↦
    hfollows.text?_eq_none (h.clear.free l' (by rwa [hfollows.trail]))⟩
  offTrail := by
    rw [← hfollows.trail]
    exact h.offTrail
  free hdirectory := h.free (hfollows.directory l hdirectory)

theorem Deliverable.after (h : w.Deliverable p l)
    (hd : w.Delivered q m content w') (hm : m ∉ w.trail p.parent) (hl : l ∉ w.trail q.parent) :
    w'.Deliverable p l where
  names := hd.follows.names_iff.mpr h.names
  fits := (hd.follows.fits _).trans h.fits
  clear := by
    refine ⟨h.clear.short, fun l' hl' ↦ ?_⟩
    rw [hd.follows.trail] at hl'
    have hne : m ≠ l' := by
      rintro rfl
      exact hm hl'
    rw [hd.follows.text?, Option.filter_some, if_neg (by simpa using hne)]
    exact h.clear.free l' hl'
  offTrail := by
    rw [hd.follows.trail]
    exact h.offTrail
  free := by
    rw [hd.get?, if_neg hl, Option.or_none]
    split
    · simp
    · exact h.free

/-- Of two deliveries that succeed one after the other, neither location is on the trail of the
other: as a file it would be in the way, and as a directory it could not be written to. -/
theorem Deliverable.notMem_trail (hp : w.Deliverable p l) (hd : w.Delivered p l content w')
    (hq : w'.Deliverable q m) : m ∉ w.trail p.parent ∧ l ∉ w.trail q.parent := by
  constructor
  · intro hmem
    have hne : m ≠ l := by
      rintro rfl
      exact hp.offTrail hmem
    refine hq.free ?_
    rw [hd.get?, if_neg hne, if_pos hmem, FileTree.get?_or_directory (hp.clear.free m hmem)]
  · intro hmem
    have hfree := hq.clear.free l (by rwa [hd.follows.trail])
    rw [hd.follows.text?_written] at hfree
    cases hfree

/-- Two deliveries to different locations leave the same tree in either order. -/
theorem Delivered.get?_swap {w₁ w₂ w₁₂ w₂₁ : Workspace} {p₁ p₂ : Path} {l₁ l₂ : Location}
    {content₁ content₂ : String} (h₁ : w.Delivered p₁ l₁ content₁ w₁)
    (h₁₂ : w₁.Delivered p₂ l₂ content₂ w₁₂) (h₂ : w.Delivered p₂ l₂ content₂ w₂)
    (h₂₁ : w₂.Delivered p₁ l₁ content₁ w₂₁) (hne : l₁ ≠ l₂) (l : Location) :
    w₂₁.tree.get? l = w₁₂.tree.get? l := by
  rw [h₂₁.get?, h₂.get?, h₁₂.get?, h₁.get?, h₁.follows.trail, h₂.follows.trail]
  by_cases hl₁ : l = l₁
  · rw [if_pos hl₁, if_neg (hl₁ ▸ hne), if_pos hl₁, Option.some_or]
  · rw [if_neg hl₁, if_neg hl₁]
    by_cases hl₂ : l = l₂
    · rw [if_pos hl₂, if_pos hl₂, Option.some_or]
    · rw [if_neg hl₂, if_neg hl₂, Option.or_assoc, Option.or_assoc]
      congr 1
      split <;> split <;> rfl

/-- A delivery that comes after another one to the same path leaves the tree that it would have left
by itself. -/
theorem Delivered.get?_absorb {w₁ w₂ w₁₂ : Workspace} {content₁ content₂ : String}
    (h₁ : w.Delivered p l content₁ w₁) (h₁₂ : w₁.Delivered p l content₂ w₁₂)
    (h₂ : w.Delivered p l content₂ w₂) (l' : Location) :
    w₂.tree.get? l' = w₁₂.tree.get? l' := by
  rw [h₂.get?, h₁₂.get?, h₁.get?, h₁.follows.trail]
  by_cases hl' : l' = l
  · rw [if_pos hl', if_pos hl']
  · rw [if_neg hl', if_neg hl', if_neg hl', Option.or_assoc]
    congr 1
    split <;> rfl

theorem Delivered.get?_trail (h : w.Delivered p l content w') (hl : w.Deliverable p l)
    {l' : Location} (hl' : l' ∈ w'.trail p.parent) : w'.tree.get? l' ≠ none := by
  rw [h.follows.trail] at hl'
  have hne : l' ≠ l := by
    rintro rfl
    exact hl.offTrail hl'
  rw [h.get?, if_neg hne, if_pos hl', FileTree.get?_or_directory (hl.clear.free l' hl')]
  exact Option.some_ne_none _

theorem AddsWithin.get?_eq {places : List Location} (h : w.AddsWithin places w')
    (hthere : ∀ {l}, l ∈ places → w.tree.get? l ≠ none) (l : Location) :
    w'.tree.get? l = w.tree.get? l := by
  obtain ⟨made, hmade, hadds⟩ := h
  rw [hadds.get?]
  split
  · rename_i hl
    exact Option.or_of_isSome (Option.isSome_iff_ne_none.mpr (hthere (hmade hl)))
  · exact Option.or_none

end Workspace

/-! ## Two writes -/

open Workspace

/-- An attempt to write for which the stack had no room. Some of the directories above the file may
have been made, and nothing else. -/
def Workspace.OutOfRoom (w : Workspace) (p : Path) (attempt : Attempt OutputError Path) : Prop :=
  w.stack ≠ .unlimited ∧ attempt.outcome = .error (.unwritten .tooDeep) ∧
    w.AddsWithin (w.trail p.parent) attempt.workspace

namespace Declaration

variable {w : Workspace} {d : Declaration} {config : Config} {output : Path} {form : Form}

theorem exists_delivered (hw : w.WellFormed) {p : Path}
    (h : (d.write w config output form).outcome = .ok p) :
    p = config.destination output ∧ ∃ (text : String) (l : Location),
      d.render config form = .ok text ∧ w.Deliverable p l ∧
        w.Delivered p l text (d.write w config output form).workspace := by
  rcases hrender : d.render config form with failure | content
  · rw [write_of_unrendered hrender] at h
    cases h
  rw [write_of_render hrender] at h ⊢
  have hok := mapError_eq_ok_iff.mp h
  obtain hdeep | ⟨l, hl, hending, hdelivered⟩ | ⟨-, refusal, q, -, hrefused⟩ :=
    w.deliver_outcome hw (config.destination output) content
  · cases hok.symm.trans hdeep
  · obtain ⟨rfl, hcontent⟩ := RawText.ending_eq_ok_iff.mp (hending.symm.trans hok)
    exact ⟨rfl, content.stored, l, congrArg Except.ok hcontent, hl, hdelivered⟩
  · cases hok.symm.trans hrefused

theorem write_of_deliverable (hw : w.WellFormed) {text : String} {l : Location}
    (htext : d.render config form = .ok text) (hl : w.Deliverable (config.destination output) l) :
    w.OutOfRoom (config.destination output) (d.write w config output form) ∨
      (d.write w config output form).outcome = .ok (config.destination output) ∧
        w.Delivered (config.destination output) l text
          (d.write w config output form).workspace := by
  rw [write_of_render htext]
  obtain hdeep | ⟨hok, hdelivered⟩ := deliver_of_deliverable hw hl text
  · refine .inl ⟨fun hstack ↦ deliver_ne_tooDeep hw hstack _ _ hdeep, ?_,
      deliver_addsWithin_of_error hw hdeep (by simp)⟩
    rw [hdeep]
    rfl
  · rw [RawText.ending_ofString] at hok
    rw [RawText.stored_ofString] at hdelivered
    refine .inr ⟨?_, hdelivered⟩
    rw [hok]
    rfl

theorem write_eq_tooDeep_iff {content : RawText} (h : d.render config form = .ok content) :
    (d.write w config output form).outcome = .error (.unwritten .tooDeep) ↔
      (w.makeDirectories (config.destination output).parent).outcome = .error .tooDeep := by
  rw [write_of_render h, ← deliver_eq_tooDeep_iff content]
  cases (w.deliver (config.destination output) content).outcome <;> simp [Except.mapError]

end Declaration

/-- **Writes to different files are independent, and writes to the same path absorb.** Take a write
that succeeds, and a second one after it that succeeds, too. If they write to different locations,
then each of them can come first: they also succeed in the other order, with the same paths, and
leave the same tree, unless there is no room on the stack for one of them. If they write to the same
path, the second write also succeeds by itself and leaves the same tree. In particular a write can
be repeated, which changes nothing, whether or not there is room for it. -/
theorem write_independent {w : Workspace} (hw : w.WellFormed) {d₁ d₂ : Declaration}
    {config₁ config₂ : Config} {output₁ output₂ : Path} {form₁ form₂ : Form} {p₁ : Path}
    (h₁ : (d₁.write w config₁ output₁ form₁).outcome = .ok p₁) :
    let first := d₁.write w config₁ output₁ form₁
    let both := d₂.write first.workspace config₂ output₂ form₂
    let alone := d₂.write w config₂ output₂ form₂
    let swapped := d₁.write alone.workspace config₁ output₁ form₁
    let again := d₁.write first.workspace config₁ output₁ form₁
    (∀ p₂, both.outcome = .ok p₂ →
      (both.workspace.location? p₁ ≠ both.workspace.location? p₂ →
        w.OutOfRoom p₂ alone ∨
          alone.outcome = .ok p₂ ∧
            (alone.workspace.OutOfRoom p₁ swapped ∨
              swapped.outcome = .ok p₁ ∧
                ∀ l, swapped.workspace.tree.get? l = both.workspace.tree.get? l)) ∧
      (config₁.destination output₁ = config₂.destination output₂ →
        alone.outcome = .ok p₂ ∧
          ∀ l, alone.workspace.tree.get? l = both.workspace.tree.get? l)) ∧
      (first.workspace.OutOfRoom p₁ again ∨ again.outcome = .ok p₁) ∧
        ∀ l, again.workspace.tree.get? l = first.workspace.tree.get? l := by
  intro first both alone swapped again
  obtain ⟨rfl, text₁, l₁, htext₁, hl₁, hfirst⟩ := Declaration.exists_delivered hw h₁
  have hw₁ := hfirst.follows.wellFormed
  refine ⟨fun p₂ h₂ ↦ ?_, ?_⟩
  · obtain ⟨rfl, text₂, l₂, htext₂, hl₂, hboth⟩ := Declaration.exists_delivered hw₁ h₂
    have hbefore := hl₂.before hfirst.follows
    refine ⟨fun hne ↦ ?_, fun hsame ↦ ?_⟩
    · have hl : l₁ ≠ l₂ := by
        rintro rfl
        refine hne ?_
        rw [location?_of_slot (hboth.follows.slot hfirst.slot), location?_of_slot hboth.slot]
      obtain ⟨hoff₂, hoff₁⟩ := hl₁.notMem_trail hfirst hl₂
      obtain hdeep | ⟨halone, hsecond⟩ := Declaration.write_of_deliverable hw htext₂ hbefore
      · exact .inl hdeep
      · refine .inr ⟨halone, ?_⟩
        obtain hdeep | ⟨hswapped, hlast⟩ := Declaration.write_of_deliverable
          hsecond.follows.wellFormed htext₁ (hl₁.after hsecond hoff₂ hoff₁)
        · exact .inl hdeep
        · exact .inr ⟨hswapped, hfirst.get?_swap hboth hsecond hlast hl⟩
    · -- the first write has made the directory, so there is room for the second one to make it
      rw [hsame] at hfirst hl₁
      obtain rfl := hl₁.names.unique hbefore.names
      obtain ⟨-, hdeep, -⟩ | ⟨halone, hsecond⟩ :=
        Declaration.write_of_deliverable hw htext₂ hbefore
      · rw [Declaration.write_eq_tooDeep_iff htext₂, ← hsame,
          ← Declaration.write_eq_tooDeep_iff htext₁, h₁] at hdeep
        cases hdeep
      · exact ⟨halone, hfirst.get?_absorb hboth hsecond⟩
  · have hthere := hl₁.after hfirst hl₁.offTrail hl₁.offTrail
    obtain hdeep | ⟨hok, hlast⟩ := Declaration.write_of_deliverable hw₁ htext₁ hthere
    · exact ⟨.inl hdeep, hdeep.2.2.get?_eq (hfirst.get?_trail hl₁)⟩
    · exact ⟨.inr hok, fun l ↦ (hfirst.get?_absorb hlast hfirst l).symm⟩

/-- A write that makes a directory and leaves it again, and one into that directory. -/
theorem write_independent_in_shared_directory :
    let home : Workspace := { directory := ["home"], tree := .directory "home" .empty .empty }
    let config : Config := { maxArity := 0, outputRoot := home.path }
    let d : Declaration := { kind := "partial", target := "flow", maxArity := 0, separator := "" }
    let first := d.write home config (Path.ofString "out/../f") .bare
    let both := d.write first.workspace config (Path.ofString "out/f") .bare
    let alone := d.write home config (Path.ofString "out/f") .bare
    let swapped := d.write alone.workspace config (Path.ofString "out/../f") .bare
    home.WellFormed ∧ first.outcome = .ok ⟨.root, ["home", "out", "..", "f"]⟩ ∧
      both.outcome = .ok ⟨.root, ["home", "out", "f"]⟩ ∧ alone.outcome = both.outcome ∧
      swapped.outcome = first.outcome ∧
      ∀ l, swapped.workspace.tree.get? l = both.workspace.tree.get? l := by
  intro home config d first both alone swapped
  have hhome : home.WellFormed := by decide
  have hfirst : first.outcome = .ok ⟨.root, ["home", "out", "..", "f"]⟩ := by decide +kernel
  have hboth : both.outcome = .ok ⟨.root, ["home", "out", "f"]⟩ := by decide +kernel
  have hdiffer : both.workspace.location? ⟨.root, ["home", "out", "..", "f"]⟩ ≠
      both.workspace.location? ⟨.root, ["home", "out", "f"]⟩ := by decide +kernel
  have hswapped : swapped.outcome = .ok ⟨.root, ["home", "out", "..", "f"]⟩ := by decide +kernel
  obtain ⟨hstack, -⟩ | ⟨halone, ⟨-, hdeep, -⟩ | ⟨-, htree⟩⟩ :=
    ((write_independent hhome hfirst).1 _ hboth).1 hdiffer
  · exact absurd rfl hstack
  · rw [show d.write alone.workspace config (Path.ofString "out/../f") .bare = swapped from rfl,
      hswapped] at hdeep
    cases hdeep
  · refine ⟨hhome, hfirst, hboth, halone.trans hboth.symm, hswapped.trans hfirst.symm, ?_⟩
    simp only [swapped, alone, both, first]
    exact htree

/-! ## Going down and up -/

/-- A path that goes down and up again many times before its file. -/
def downAndUp (n : Nat) : String :=
  String.ofList ((List.replicate n ['n', '/', '.', '.', '/']).flatten ++ ['f'])

private theorem splitOn_downAndUp (n : Nat) :
    ((List.replicate n ['n', '/', '.', '.', '/']).flatten ++ ['f']).splitOn '/' =
      (List.replicate n [['n'], ['.', '.']]).flatten ++ [['f']] := by
  induction n with
  | zero => rfl
  | succ n ih =>
    have hsplit : ∀ cs : List Char, ('n' :: '/' :: '.' :: '.' :: '/' :: cs).splitOn '/' =
        ['n'] :: ['.', '.'] :: cs.splitOn '/' := by
      intro cs
      exact (List.splitOn_append_cons_self ['n'] ('.' :: '.' :: '/' :: cs)).trans
        (congrArg (['n'] :: ·) (List.splitOn_append_cons_self ['.', '.'] cs))
    rw [List.replicate_succ, List.flatten_cons, List.replicate_succ, List.flatten_cons,
      List.append_assoc, List.append_assoc, ← ih]
    exact hsplit _

theorem ofString_downAndUp (n : Nat) :
    Path.ofString (downAndUp (n + 1)) =
      ⟨.relative, (List.replicate (n + 1) ["n", ".."]).flatten ++ ["f"]⟩ := by
  rw [Path.ofString, downAndUp, String.toList_ofList, splitOn_downAndUp]
  have hkept : ∀ c ∈ (List.replicate (n + 1) [['n'], ['.', '.']]).flatten ++ [['f']],
      decide (c ≠ [] ∧ c ≠ ['.']) = true := by
    intro c hc
    have hc' : c = ['n'] ∨ c = ['.', '.'] ∨ c = ['f'] := by
      simpa [or_assoc] using hc
    rcases hc' with rfl | rfl | rfl <;> decide
  rw [List.filter_eq_self.mpr hkept, Path.mk.injEq]
  constructor
  · rfl
  · rw [List.map_append, List.map_flatten, List.map_replicate]
    rfl

theorem destination_downAndUp {config : Config} {anchor : Path.Anchor} {above : List String}
    (hroot : config.outputRoot = ⟨anchor, above⟩) (n : Nat) :
    config.destination (Path.ofString (downAndUp (n + 1))) =
      ⟨anchor, above ++ (List.replicate (n + 1) ["n", ".."]).flatten ++ ["f"]⟩ := by
  rw [Config.destination, hroot, ofString_downAndUp, Path.join,
    if_neg (by simp [Path.isAbsolute]), List.append_assoc]

namespace Workspace

variable {w : Workspace} {l : Location}

/-- There is room for a directory that is there, if there is room for one call. -/
theorem makeDirectories_ne_tooDeep_of_walk (hroom : ∀ work, w.stack.overflows 1 work = false)
    {anchor : Path.Anchor} {names : List String} (h : w.walk (w.origin anchor) names = .ok l) :
    (w.makeDirectories ⟨anchor, names⟩).outcome ≠ .error .tooDeep := by
  have htried : w.makeDirectory ⟨anchor, names.reverse.reverse⟩ ≠ .error .missing := by
    rw [List.reverse_reverse, ne_eq, makeDirectory_eq_missing_iff, slot_eq_missing_iff]
    rintro ⟨-, hnames, hmissing⟩
    -- all names can be followed, and so can all but the last
    obtain ⟨above, name, rfl⟩ := (List.eq_nil_or_concat' names).resolve_left hnames
    rw [List.dropLast_concat] at hmissing
    rw [walk_append, hmissing] at h
    cases h
  rw [makeDirectories, makeDirectoriesUp_of_ne_missing htried, List.reverse_reverse]
  obtain ⟨⟨work, hfull⟩, -⟩ | ⟨made, -, hattempt⟩ | ⟨refusal, -, hattempt⟩ :=
    w.makeAgain_cases 1 ⟨anchor, names⟩
  · cases (hroom work).symm.trans hfull
  · simp [hattempt]
  · rw [hattempt]
    split <;> simp

theorem deliverable_of_walk (hw : w.WellFormed) (hpath : w.pathLimit = none)
    {anchor : Path.Anchor} {names : List String} {name : String}
    (h : w.walk (w.origin anchor) names = .ok l) (hname : name ≠ "..")
    (hshort : name.utf8ByteSize ≤ maxNameBytes)
    (hfree : w.tree.get? (l ++ [name]) ≠ some .directory) :
    w.Deliverable ⟨anchor, names ++ [name]⟩ (l ++ [name]) := by
  have hfits : ∀ p, w.fits p = true := by
    intro p
    rw [fits, hpath]
  have hparent : (⟨anchor, names ++ [name]⟩ : Path).parent = ⟨anchor, names⟩ := by
    rw [Path.parent, List.dropLast_concat]
  obtain ⟨hclear, -, hgoal⟩ := clear_of_walk hw (p := ⟨anchor, names⟩) h
  have htrail := ((walk_eq_ok_iff (origin_directory hw anchor)).mp h).2.1
  refine ⟨⟨hfits _, name, List.getLast?_concat, hname, hshort, ?_⟩, hfits _, ?_, ?_, hfree⟩
  · rw [hparent, hgoal]
  · rw [hparent]
    exact hclear
  · rw [hparent]
    exact fun hmem ↦ hfree (htrail _ hmem)

theorem walk_downAndUp {start : Location} {above : List String}
    (habove : w.walk start above = .ok l) (hl : w.tree.get? l = some .directory)
    (hn : w.tree.get? (l ++ ["n"]) = some .directory) (n : Nat) :
    w.walk start (above ++ (List.replicate n ["n", ".."]).flatten) = .ok l := by
  have hturn : w.walk l ["n", ".."] = .ok l := by
    have htrail : trailFrom l ["n", ".."] = [l ++ ["n"], l] := by simp [trailFrom, goTo]
    refine (walk_eq_ok_iff hl).mpr ⟨by decide, ?_, List.dropLast_concat⟩
    rw [htrail, List.forall_mem_cons, List.forall_mem_singleton]
    exact ⟨hn, hl⟩
  rw [walk_append, habove]
  change w.walk l _ = _
  induction n with
  | zero => rfl
  | succ n ih =>
    rw [List.replicate_succ, List.flatten_cons, walk_append, hturn]
    exact ih

/-- Where going down is not possible yet, every turn takes two more calls. -/
theorem makeDirectories_downAndUp {anchor : Path.Anchor} {above : List String}
    (hfits : ∀ p, w.fits p = true) (habove : w.walk (w.origin anchor) above = .ok l)
    (hn : w.enter l "n" = .error .missing) {n : Nat}
    (hroom : w.stack.overflows (2 * (n + 1)) .attempt = true) :
    w.makeDirectories ⟨anchor, above ++ (List.replicate (n + 1) ["n", ".."]).flatten⟩ =
      ⟨w, .error .tooDeep⟩ := by
  have hreverse : (above ++ (List.replicate (n + 1) ["n", ".."]).flatten).reverse =
      (".." :: (List.replicate n ["n", ".."]).flatten).reverse ++ "n" :: above.reverse := by
    simp [List.replicate_succ]
  have hlength : 1 + (".." :: (List.replicate n ["n", ".."]).flatten).reverse.length =
      2 * (n + 1) := by
    simp
    omega
  rw [makeDirectories, hreverse]
  exact makeDirectoriesUp_tooDeep hfits habove hn _ (by rwa [hlength])

end Workspace

section DownAndUp

open Workspace

variable {w : Workspace} {config : Config} {anchor : Path.Anchor} {above : List String}
  {l : Location} {n : Nat} {d : Declaration} {form : Form} {text : String}

/-- Where going down and up is possible, a file can be written after any number of turns. -/
theorem write_downAndUp (hw : w.WellFormed) (hpath : w.pathLimit = none)
    (hroom : ∀ work, w.stack.overflows 1 work = false) (hroot : config.outputRoot = ⟨anchor, above⟩)
    (habove : w.walk (w.origin anchor) above = .ok l)
    (hn : w.tree.get? (l ++ ["n"]) = some .directory)
    (hfree : w.tree.get? (l ++ ["f"]) ≠ some .directory)
    (htext : d.render config form = .ok text) (n : Nat) :
    let far := Path.ofString (downAndUp (n + 1))
    (d.write w config far form).outcome = .ok (config.destination far) ∧
      w.Delivered (config.destination far) (l ++ ["f"]) text
        (d.write w config far form).workspace := by
  intro far
  have hdestination := destination_downAndUp hroot n
  have hl := walk_directory (origin_directory hw anchor) habove
  have hwalk := walk_downAndUp habove hl hn (n + 1)
  have hfile := deliverable_of_walk hw hpath hwalk (show "f" ≠ ".." by decide) (by decide) hfree
  rw [← hdestination] at hfile
  obtain ⟨-, hdeep, -⟩ | hwritten := Declaration.write_of_deliverable hw htext hfile
  · rw [Declaration.write_eq_tooDeep_iff htext, hdestination, Path.parent,
      List.dropLast_concat] at hdeep
    exact absurd hdeep (makeDirectories_ne_tooDeep_of_walk hroom hwalk)
  · exact hwritten

theorem write_downAndUp_tooDeep (hpath : w.pathLimit = none)
    (hroot : config.outputRoot = ⟨anchor, above⟩) (habove : w.walk (w.origin anchor) above = .ok l)
    (hn : w.enter l "n" = .error .missing) (htext : d.render config form = .ok text)
    (hroom : w.stack.overflows (2 * (n + 1)) .attempt = true) :
    (d.write w config (Path.ofString (downAndUp (n + 1))) form).outcome =
      .error (.unwritten .tooDeep) := by
  have hfits : ∀ p, w.fits p = true := by
    intro p
    rw [fits, hpath]
  rw [Declaration.write_eq_tooDeep_iff htext, destination_downAndUp hroot, Path.parent,
    List.dropLast_concat, makeDirectories_downAndUp hfits habove hn hroom]

/-- A directory that is made by the first of two writes, and without which the stack of the program
has no room for the second one. -/
theorem write_independent_out_of_reach :
    let home : Workspace :=
      { directory := ["home"], tree := .directory "home" .empty .empty, stack := .ofProgram }
    let config : Config := { maxArity := 0, outputRoot := home.path }
    let d : Declaration := { kind := "partial", target := "flow", maxArity := 0, separator := "" }
    let near := Path.ofString "n/g"
    let far := Path.ofString (downAndUp 600)
    let first := d.write home config near .bare
    home.WellFormed ∧ first.outcome = .ok (config.destination near) ∧
      (d.write first.workspace config far .bare).outcome = .ok (config.destination far) ∧
      (d.write first.workspace config far .bare).workspace.location? (config.destination near) ≠
        (d.write first.workspace config far .bare).workspace.location? (config.destination far) ∧
      (d.write home config far .bare).outcome = .error (.unwritten .tooDeep) := by
  intro home config d near far first
  have hhome : home.WellFormed := by decide
  have htext : d.render config .bare = .ok "\n" := by decide +kernel
  have hfirst : first.outcome = .ok (config.destination near) := by decide +kernel
  have hw₁ : first.workspace.WellFormed := by decide +kernel
  have hpath : first.workspace.pathLimit = none := by decide +kernel
  have hroom : ∀ work, first.workspace.stack.overflows 1 work = false := by
    intro work
    cases work <;> decide +kernel
  have hroot : config.outputRoot = ⟨.root, ["home"]⟩ := rfl
  have habove₁ : first.workspace.walk (first.workspace.origin .root) ["home"] = .ok ["home"] := by
    decide +kernel
  have hmade : first.workspace.tree.get? (["home"] ++ ["n"]) = some .directory := by decide +kernel
  have hfree : first.workspace.tree.get? (["home"] ++ ["f"]) ≠ some .directory := by decide +kernel
  have hnear : first.workspace.slot (config.destination near) = .ok (some ["home", "n", "g"]) := by
    decide +kernel
  have habove : home.walk (home.origin .root) ["home"] = .ok ["home"] := by decide +kernel
  have hmissing : home.enter ["home"] "n" = .error .missing := by decide +kernel
  obtain ⟨hboth, hdelivered⟩ :=
    write_downAndUp hw₁ hpath hroom hroot habove₁ hmade hfree htext 599
  refine ⟨hhome, hfirst, hboth, ?_,
    write_downAndUp_tooDeep rfl hroot habove hmissing htext (by decide +kernel)⟩
  rw [location?_of_slot (hdelivered.follows.slot hnear), location?_of_slot hdelivered.slot]
  decide

end DownAndUp

end PerArity
