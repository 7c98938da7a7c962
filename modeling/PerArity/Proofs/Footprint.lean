import PerArity.Proofs.Trail

/-!
# What a write leaves behind

A write puts one file into a tree and makes the directories that it needs. Nothing else changes, and
which directories are new can be told from the path alone: they are the places on the trail of its
directory where nothing stood (`Declaration.write_footprint`). A double dot does not take a place
off the trail, so a detour leaves a directory that the file is not in.

An attempt may also fail half-way. Making the directories is a sequence of single steps, each of
which adds one place of the trail or nothing, so at whatever step it stops, what has been made lies
on the trail (`makeDirectories_addsWithin`), and no file has been touched. The file is emptied in
one more step at the end, and a text without an encoding gets no further than that.
-/

namespace PerArity

namespace Workspace

variable {w w' : Workspace}

/-! ## The places that a path names on its way -/

theorem mem_trailFrom_iff {l m : Location} {names : List String} :
    m ∈ trailFrom l names ↔ ∃ above, above ≠ [] ∧ above <+: names ∧ above.foldl goTo l = m := by
  induction names generalizing l with
  | nil => simp [trailFrom, List.prefix_nil]
  | cons name names ih =>
    rw [trailFrom, List.mem_cons, ih]
    constructor
    · rintro (rfl | ⟨above, -, habove, rfl⟩)
      · exact ⟨[name], List.cons_ne_nil _ _, List.prefix_append [name] names, rfl⟩
      · exact ⟨name :: above, List.cons_ne_nil _ _, (List.prefix_cons_inj name).mpr habove, rfl⟩
    · rintro ⟨above, hne, habove, rfl⟩
      obtain ⟨first, above, rfl⟩ := List.exists_cons_of_ne_nil hne
      obtain ⟨rfl, hrest⟩ := List.cons_prefix_cons.mp habove
      by_cases hnil : above = []
      · exact .inl (by rw [hnil]; rfl)
      · exact .inr ⟨above, hnil, hrest, rfl⟩

theorem mem_trail_iff {p : Path} {l : Location} :
    l ∈ w.trail p ↔
      ∃ names, names ≠ [] ∧ names <+: p.components ∧ w.goal ⟨p.anchor, names⟩ = l :=
  mem_trailFrom_iff

/-! ## What has been made when an attempt ends -/

/-- A workspace that comes from another one by making directories at some of the given places. -/
def AddsWithin (w : Workspace) (places : List Location) (w' : Workspace) : Prop :=
  ∃ made ⊆ places, w.Adds made w'

theorem AddsWithin.refl (hw : w.WellFormed) (places : List Location) : w.AddsWithin places w :=
  ⟨[], List.nil_subset _, .of_directory hw (List.forall_mem_nil _)⟩

/-- The last step of an attempt makes the place that the path ends at, or nothing. -/
theorem makeAgain_addsWithin (hw : w.WellFormed) (depth : Nat) (p : Path) :
    w.AddsWithin (w.trail p) (w.makeAgain depth p).workspace := by
  obtain ⟨-, hattempt⟩ | ⟨made, hmade, hattempt⟩ | ⟨refusal, -, hattempt⟩ :=
    w.makeAgain_cases depth p
  · rw [hattempt]
    exact .refl hw _
  · -- the directory is made where the names above lead, so it is the last place of the trail
    obtain ⟨l, hslot, -⟩ := makeDirectory_eq_ok_iff.mp hmade
    obtain ⟨-, above, name, hlast, -, -, hwalk, -⟩ := slot_eq_ok_some_iff.mp hslot
    obtain ⟨names, hnames⟩ := List.getLast?_eq_some_iff.mp hlast
    obtain ⟨anchor, components⟩ := p
    dsimp only at hnames hwalk
    subst hnames
    rw [List.dropLast_concat] at hwalk
    obtain ⟨-, -, hgoal⟩ := clear_of_walk hw (p := ⟨anchor, names⟩) hwalk
    have hdirectory := walk_directory (origin_directory hw anchor) hwalk
    obtain ⟨⟨-, -, hnone⟩, rfl⟩ := (makeDirectory_concat_eq_ok_iff hdirectory hwalk).mp hmade
    rw [hattempt, trail_concat, hgoal]
    exact ⟨_, List.subset_append_right _ _, adds_insert hw hdirectory hnone⟩
  · rw [hattempt]
    split <;> exact .refl hw _

private theorem makeDirectoriesUp_addsWithin (hw : w.WellFormed) (anchor : Path.Anchor)
    (depth : Nat) (components : List String) :
    w.AddsWithin (w.trail ⟨anchor, components.reverse⟩)
      (makeDirectoriesUp anchor w depth components).workspace := by
  induction components generalizing depth with
  | nil => exact makeAgain_addsWithin hw depth _
  | cons name above ih =>
    by_cases hmissing : w.makeDirectory ⟨anchor, (name :: above).reverse⟩ = .error .missing
    · obtain ⟨made, hmade, hadds⟩ := ih (depth + 1)
      have hpart : made ⊆ w.trail ⟨anchor, (name :: above).reverse⟩ := by
        rw [List.reverse_cons, trail_concat]
        exact List.subset_append_of_subset_left _ hmade
      obtain ⟨-, hup⟩ | ⟨e, -, hup⟩ | ⟨-, hup⟩ := makeDirectoriesUp_cases_of_missing hmissing depth
      · rw [hup]
        exact .refl hw _
      · rw [hup]
        exact ⟨made, hpart, hadds⟩
      · obtain ⟨made', hmade', hadds'⟩ := makeAgain_addsWithin hadds.follows.wellFormed (depth + 1)
          ⟨anchor, (name :: above).reverse⟩
        rw [hadds.follows.trail] at hmade'
        rw [hup]
        exact ⟨made ++ made', List.append_subset.mpr ⟨hpart, hmade'⟩, hadds.trans hadds'⟩
    · rw [makeDirectoriesUp_of_ne_missing hmissing]
      exact makeAgain_addsWithin hw depth _

/-- **Whether or not the directories of a path can be made, what is made lies on its trail.** -/
theorem makeDirectories_addsWithin (hw : w.WellFormed) (p : Path) :
    w.AddsWithin (w.trail p) (w.makeDirectories p).workspace := by
  have hmade := makeDirectoriesUp_addsWithin hw p.anchor 1 p.components.reverse
  rwa [List.reverse_reverse] at hmade

/-- A delivery that fails has made directories at most, unless it fails for the encoding. -/
theorem deliver_addsWithin_of_error (hw : w.WellFormed) {p : Path} {content : RawText}
    {e : FileError} (h : (w.deliver p content).outcome = .error e)
    (hne : ∀ place, e ≠ .unencodable place) :
    w.AddsWithin (w.trail p.parent) (w.deliver p content).workspace := by
  have hmade := makeDirectories_addsWithin hw p.parent
  obtain ⟨e, -, hdeliver⟩ | ⟨refusal, -, -, hdeliver⟩ | ⟨l, -, -, hdeliver⟩ :=
    w.deliver_cases p content
  · rwa [hdeliver]
  · rwa [hdeliver]
  · rw [hdeliver] at h
    obtain ⟨place, -, rfl⟩ := RawText.ending_eq_error_iff.mp h
    exact absurd rfl (hne place)

/-! ## New directories -/

theorem Adds.mem_of_new {made : List Location} (h : w.Adds made w') {l : Location}
    (hnew : w'.tree.get? l = some .directory) (hold : w.tree.get? l ≠ some .directory) :
    l ∈ made := by
  rw [h.get?, Option.or_eq_some_iff] at hnew
  obtain ⟨-, hmade⟩ := hnew.resolve_left hold
  exact (Option.ite_none_right_eq_some.mp hmade).1

theorem AddsWithin.exists_prefix {p : Path} (h : w.AddsWithin (w.trail p) w') {m : Location}
    (hnew : w'.tree.get? m = some .directory) (hold : w.tree.get? m ≠ some .directory) :
    ∃ names, names <+: p.components ∧ w.goal ⟨p.anchor, names⟩ = m := by
  obtain ⟨made, hmade, hadds⟩ := h
  obtain ⟨names, -, hnames, hgoal⟩ := mem_trail_iff.mp (hmade (hadds.mem_of_new hnew hold))
  exact ⟨names, hnames, hgoal⟩

theorem AddsWithin.follows {places : List Location} (h : w.AddsWithin places w') :
    w.Follows none w' := by
  obtain ⟨made, -, hadds⟩ := h
  exact hadds.follows

/-- The footprint of a write that comes to its file: the file has a text, and directories have been
made on the way. -/
structure Footprint (w : Workspace) (p : Path) (text : String) (w' : Workspace) : Prop where
  /-- The file where the path leads holds the text, and every other file is as before. -/
  file : ∃ l, w'.location? p = some l ∧ w'.tree.text? l = some text ∧
    ∀ m, m ≠ l → w'.tree.text? m = w.tree.text? m
  /-- The new directories are the places on the way to the file where nothing stood. -/
  directories : ∀ m, (w'.tree.get? m = some .directory ∧ w.tree.get? m ≠ some .directory) ↔
    m ∈ w.trail p.parent ∧ w.tree.get? m = none

theorem Delivered.footprint {p : Path} {l : Location} {text : String}
    (h : w.Delivered p l text w') (hl : w.Deliverable p l) : w.Footprint p text w' where
  file := by
    refine ⟨l, location?_of_slot h.slot, h.follows.text?_written, fun m hm ↦ ?_⟩
    rw [h.follows.text? m, Option.filter_some, if_neg (by simpa using Ne.symm hm)]
    rfl
  directories m := by
    rw [h.get?]
    by_cases hm : m = l
    · simp [hm, hl.offTrail]
    · rw [if_neg hm]
      by_cases htrail : m ∈ w.trail p.parent
      · rcases FileTree.text?_eq_none_iff.mp (hl.clear.free m htrail) with hnone | hthere
        · simp [htrail, hnone]
        · simp [htrail, hthere]
      · simp [htrail]

end Workspace

open Workspace

/-- **A write touches nothing else.** Every directory is still there. If a declaration is written,
then its text stands in the file where the returned path leads, all other files are as before, and
the new directories are exactly the places on the way to the file, detours included, where nothing
stood. If its text has no encoding, all this is so of an empty file. If the attempt fails in any
other way, then all files are as before, and each new directory is a place that the first names of
the directory of the file lead to. -/
theorem Declaration.write_footprint {w : Workspace} (hw : w.WellFormed) (d : Declaration)
    (config : Config) (output : Path) (form : Form) :
    let p := config.destination output
    let attempt := d.write w config output form
    let after := attempt.workspace.tree
    (∀ l, w.tree.get? l = some .directory → after.get? l = some .directory) ∧
      match attempt.outcome with
      | .ok returned =>
        returned = p ∧ ∃ text : String, d.render config form = .ok text ∧
          w.Footprint p text attempt.workspace
      | .error (.unwritten (.unencodable place)) =>
        (∃ content, d.render config form = .ok content ∧ content.encode = .error place) ∧
          w.Footprint p "" attempt.workspace
      | .error _ =>
        (∀ m, after.text? m = w.tree.text? m) ∧
          ∀ m, after.get? m = some .directory → w.tree.get? m ≠ some .directory →
            ∃ names, names <+: p.parent.components ∧ w.goal ⟨p.anchor, names⟩ = m := by
  intro p attempt after
  rcases hrender : d.render config form with failure | content
  · have hattempt : attempt = ⟨w, .error (.unrendered failure)⟩ :=
      write_of_unrendered hrender w output
    simp only [after, hattempt]
    exact ⟨fun l hl ↦ hl, fun m ↦ trivial, fun m hnew hold ↦ absurd hnew hold⟩
  have hattempt : attempt = _ := write_of_render hrender w output
  simp only [after, hattempt]
  -- what is left of an attempt that does not come to its file
  have hfailed : ∀ e, (w.deliver p content).outcome = .error e → (∀ place, e ≠ .unencodable place) →
      w.AddsWithin (w.trail p.parent) (w.deliver p content).workspace :=
    fun e ↦ deliver_addsWithin_of_error hw
  obtain hdeep | ⟨l, hl, hending, hdelivered⟩ | ⟨-, refusal, q, -, hrefused⟩ :=
    w.deliver_outcome hw p content
  · have hwithin := hfailed _ hdeep (by simp)
    rw [hdeep]
    exact ⟨hwithin.follows.directory, hwithin.follows.text?, fun m ↦ hwithin.exists_prefix⟩
  · refine ⟨hdelivered.follows.directory, ?_⟩
    have hfootprint := hdelivered.footprint hl
    rw [hending, RawText.ending]
    rcases hencode : content.encode with place | text
    · rw [RawText.stored_of_error hencode] at hfootprint
      exact ⟨⟨content, rfl, hencode⟩, hfootprint⟩
    · obtain rfl := RawText.encode_eq_ok_iff.mp hencode
      rw [RawText.stored_ofString] at hfootprint
      exact ⟨rfl, text, rfl, hfootprint⟩
  · have hwithin := hfailed _ hrefused (by simp)
    rw [hrefused]
    exact ⟨hwithin.follows.directory, hwithin.follows.text?, fun m ↦ hwithin.exists_prefix⟩

/-- Two paths with a detour. One is written to and leaves the directory of the detour beside the
file; the other one runs into the file and leaves that directory all the same. -/
theorem Declaration.write_footprint_of_detour :
    let home : Workspace := { directory := ["home"],
                              tree := .directory "home" (.file "f" "old" .empty) .empty }
    let config : Config := { maxArity := 0, outputRoot := home.path }
    let d : Declaration := { kind := "partial", target := "flow", maxArity := 0, separator := "" }
    let written := d.write home config (Path.ofString "out/../f") .bare
    let refused := d.write home config (Path.ofString "out/../f/g") .bare
    let file : Path := ⟨.root, ["home", "out", "..", "f"]⟩
    home.WellFormed ∧
      (written.outcome = .ok file ∧ (∃ l, written.workspace.location? file = some l ∧
        written.workspace.tree.text? l = some "\n") ∧
        written.workspace.tree.get? ["home", "out"] = some .directory) ∧
      refused.outcome = .error (.unwritten (.refused .alreadyExists file)) ∧
        refused.workspace.tree.text? ["home", "f"] = some "old" ∧
        refused.workspace.tree.get? ["home", "out"] = some .directory ∧
        ∃ names, names <+: file.components ∧ home.goal ⟨.root, names⟩ = ["home", "out"] := by
  intro home config d written refused file
  have hhome : home.WellFormed := by decide
  have hrender : d.render config .bare = .ok "\n" := by decide +kernel
  have hok : written.outcome = .ok file := by decide +kernel
  have herror : refused.outcome = .error (.unwritten (.refused .alreadyExists file)) := by
    decide +kernel
  obtain ⟨-, hwritten⟩ := d.write_footprint hhome config (Path.ofString "out/../f") .bare
  obtain ⟨-, hrefused⟩ := d.write_footprint hhome config (Path.ofString "out/../f/g") .bare
  rw [show d.write home config (Path.ofString "out/../f") .bare = written from rfl, hok] at hwritten
  rw [show d.write home config (Path.ofString "out/../f/g") .bare = refused from rfl, herror]
    at hrefused
  obtain ⟨hfile, text, htext, ⟨l, hlocation, hstands, -⟩, hnew⟩ := hwritten
  obtain ⟨hfiles, hprefix⟩ := hrefused
  obtain rfl : "\n" = text := RawText.ofString_inj (Except.ok.inj (hrender.symm.trans htext))
  rw [← hfile] at hlocation
  have hout : home.tree.get? ["home", "out"] ≠ some .directory := by decide +kernel
  have hleft : refused.workspace.tree.get? ["home", "out"] = some .directory := by decide +kernel
  refine ⟨hhome, ⟨hok, ⟨l, hlocation, hstands⟩, ?_⟩, herror, ?_, hleft, hprefix _ hleft hout⟩
  · exact ((hnew ["home", "out"]).mpr (by decide +kernel)).1
  · exact (hfiles _).trans (by decide +kernel)

/-- A text with half a character in it. The write fails, and the file that was to be replaced is
empty. -/
theorem Declaration.write_footprint_of_surrogate :
    let home : Workspace := { directory := ["home"],
                              tree := .directory "home" (.file "f" "old" .empty) .empty }
    let config : Config := { maxArity := 0, outputRoot := home.path }
    let d : Declaration :=
      { kind := "partial", target := "flow", maxArity := 0, separator := ""
        fragments := [{ arity := 0, text := [.surrogate 0] }] }
    let attempt := d.write home config (Path.ofString "f") .bare
    attempt.outcome = .error (.unwritten (.unencodable ⟨0, 0, 0⟩)) ∧
      home.tree.text? ["home", "f"] = some "old" ∧
      attempt.workspace.tree.text? ["home", "f"] = some "" := by
  decide +kernel

end PerArity
