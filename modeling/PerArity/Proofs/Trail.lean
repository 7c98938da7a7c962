import PerArity.Proofs.OutputRoot

/-!
# The trail of a path

Where a path goes can be said without looking at what stands there: a name leads one step down and a
double dot one step up. The locations that are met on the way are the *trail* of the path and the
last of them is its *goal*. Following a path is then walking its trail: it succeeds when every
location on it is a directory (`walk_eq_ok_iff`).

Making the directories for a path does not ask for that much. No file may stand on the trail, and
whatever is missing there is made (`makeDirectories_eq_ok_iff`, `makeDirectories_adds`), although
the names are tried from the last one upwards. A text can be delivered when the directory of its
file can be made and the file itself stands neither in place of a directory nor on the trail
(`Deliverable`). A delivery leaves behind what was there before, the directories on the trail and
the file (`Delivered`). `deliver_outcome` says how an attempt ends, and that it is never refused
because something is missing.

All this is about attempts for which there is room on the stack. Whether there is depends on the
order in which the directories are tried, and the trail does not tell.
-/

namespace PerArity

namespace Workspace

variable {w w' w'' : Workspace}

/-! ## Trails -/

/-- The location that a name leads to from another one. -/
def goTo (l : Location) (name : String) : Location :=
  if name = ".." then l.dropLast else l ++ [name]

/-- The locations that names lead through, one after the other. -/
def trailFrom (l : Location) : List String → List Location
  | [] => []
  | name :: names => goTo l name :: trailFrom (goTo l name) names

/-- The locations that a path leads through. -/
def trail (w : Workspace) (p : Path) : List Location := trailFrom (w.origin p.anchor) p.components

/-- The location that a path leads to. -/
def goal (w : Workspace) (p : Path) : Location := p.components.foldl goTo (w.origin p.anchor)

theorem trailFrom_concat (l : Location) (names : List String) (name : String) :
    trailFrom l (names ++ [name]) = trailFrom l names ++ [goTo (names.foldl goTo l) name] := by
  induction names generalizing l with
  | nil => rfl
  | cons first names ih =>
    rw [List.cons_append, trailFrom, ih, trailFrom, List.foldl_cons, List.cons_append]

theorem get?_goTo {l : Location} (hl : w.tree.get? l = some .directory) {name : String}
    (h : w.tree.get? (goTo l name) ≠ some .directory) :
    name ≠ ".." ∧ goTo l name = l ++ [name] := by
  have hname : name ≠ ".." := by
    rintro rfl
    refine h (FileTree.get?_dropLast ?_)
    rw [hl]
    exact Option.some_ne_none _
  exact ⟨hname, if_neg hname⟩

/-! ## Following a trail -/

theorem enter_eq {l : Location} (hl : w.tree.get? l = some .directory) (name : String) :
    w.enter l name =
      if maxNameBytes < name.utf8ByteSize then .error .nameTooLong
      else match w.tree.get? (goTo l name) with
        | some .directory => .ok (goTo l name)
        | some (.file _) => .error .notDirectory
        | none => .error .missing := by
  rw [enter, goTo]
  by_cases hname : name = ".."
  · subst hname
    have hup : w.tree.get? l.dropLast = some .directory :=
      FileTree.get?_dropLast (by rw [hl]; exact Option.some_ne_none _)
    have hshort : ¬maxNameBytes < "..".utf8ByteSize := by decide
    simp only [if_true, hup, hshort, if_false]
  · rcases hget : w.tree.get? (l ++ [name]) with - | - | content <;>
      simp only [if_neg hname, hget]

theorem enter_eq_ok_iff {l l' : Location} (hl : w.tree.get? l = some .directory) {name : String} :
    w.enter l name = .ok l' ↔ name.utf8ByteSize ≤ maxNameBytes ∧
      w.tree.get? (goTo l name) = some .directory ∧ goTo l name = l' := by
  rw [enter_eq hl]
  split
  · rename_i hlong
    simp [Nat.not_le.mpr hlong]
  · rename_i hshort
    rw [and_iff_right (Nat.not_lt.mp hshort)]
    split
    all_goals simp_all

/-- **Names are followed when they are short and lead through directories only.** -/
theorem walk_eq_ok_iff {l l' : Location} (hl : w.tree.get? l = some .directory)
    {names : List String} :
    w.walk l names = .ok l' ↔ (∀ name ∈ names, name.utf8ByteSize ≤ maxNameBytes) ∧
      (∀ m ∈ trailFrom l names, w.tree.get? m = some .directory) ∧ names.foldl goTo l = l' := by
  induction names generalizing l with
  | nil => simp [walk, trailFrom, pure, Except.pure]
  | cons name names ih =>
    rw [walk_cons, bind_eq_ok_iff]
    simp only [trailFrom, List.forall_mem_cons, List.foldl_cons]
    constructor
    · rintro ⟨m, henter, hwalk⟩
      obtain ⟨hshort, hdirectory, rfl⟩ := (enter_eq_ok_iff hl).mp henter
      obtain ⟨hshorts, hdirectories, hend⟩ := (ih hdirectory).mp hwalk
      exact ⟨⟨hshort, hshorts⟩, ⟨hdirectory, hdirectories⟩, hend⟩
    · rintro ⟨⟨hshort, hshorts⟩, ⟨hdirectory, hdirectories⟩, hend⟩
      exact ⟨_, (enter_eq_ok_iff hl).mpr ⟨hshort, hdirectory, rfl⟩,
        (ih hdirectory).mpr ⟨hshorts, hdirectories, hend⟩⟩

/-- Where the names are short and no file is in the way, nothing but a missing name stops the way
down. -/
theorem walk_eq_missing {l : Location} (hl : w.tree.get? l = some .directory) {names : List String}
    (hshort : ∀ name ∈ names, name.utf8ByteSize ≤ maxNameBytes)
    (hfree : ∀ m ∈ trailFrom l names, w.tree.text? m = none) {refusal : Refusal}
    (h : w.walk l names = .error refusal) : refusal = .missing := by
  induction names generalizing l with
  | nil => cases h
  | cons name names ih =>
    rw [List.forall_mem_cons] at hshort
    rw [trailFrom, List.forall_mem_cons] at hfree
    rw [walk_cons, enter_eq hl, if_neg (Nat.not_lt.mpr hshort.1)] at h
    split at h
    · rename_i hdirectory
      exact ih hdirectory hshort.2 hfree.2 h
    · rename_i hfile
      rw [FileTree.text?, hfile] at hfree
      cases hfree.1
    · exact (Except.error.inj h).symm

/-! ## Making one directory -/

theorem fits_of_concat {anchor : Path.Anchor} {names : List String} {name : String}
    (hnames : names ≠ []) (h : w.fits ⟨anchor, names ++ [name]⟩ = true) :
    w.fits ⟨anchor, names⟩ = true := by
  rw [fits] at h ⊢
  split
  · rfl
  · rename_i limit hlimit
    rw [hlimit] at h
    refine decide_eq_true (Nat.le_trans ?_ (of_decide_eq_true h))
    rw [Path.toString, Path.toString, if_neg (fun hdot ↦ hnames hdot.2), if_neg (by simp),
      String.intercalate_append_of_ne_nil hnames (List.cons_ne_nil _ _)]
    simp only [String.utf8ByteSize_append]
    omega

theorem isDirectory_iff {p : Path} :
    w.isDirectory p = true ↔
      w.fits p = true ∧ ∃ l, w.walk (w.origin p.anchor) p.components = .ok l := by
  rw [isDirectory, Bool.and_eq_true]
  cases w.walk (w.origin p.anchor) p.components <;> simp [Except.isOk, Except.toBool]

theorem isDirectory_concat_iff {anchor : Path.Anchor} {names : List String} {l : Location}
    (hl : w.tree.get? l = some .directory) (h : w.walk (w.origin anchor) names = .ok l)
    (name : String) :
    w.isDirectory ⟨anchor, names ++ [name]⟩ = true ↔
      w.fits ⟨anchor, names ++ [name]⟩ = true ∧ name.utf8ByteSize ≤ maxNameBytes ∧
        w.tree.get? (goTo l name) = some .directory := by
  have hwalk : ∀ l', w.walk (w.origin anchor) (names ++ [name]) = .ok l' ↔
      w.enter l name = .ok l' := by
    intro l'
    rw [walk_append, h]
    change w.walk l [name] = .ok l' ↔ _
    rw [walk_cons, bind_eq_ok_iff]
    constructor
    · rintro ⟨l₁, henter, heq⟩
      rwa [Except.ok.inj heq] at henter
    · intro henter
      exact ⟨l', henter, rfl⟩
  rw [isDirectory_iff]
  simp only [hwalk, enter_eq_ok_iff hl, exists_and_left, exists_eq', and_true]

theorem makeDirectory_concat_eq_ok_iff {anchor : Path.Anchor} {names : List String} {name : String}
    {l : Location} (hl : w.tree.get? l = some .directory)
    (h : w.walk (w.origin anchor) names = .ok l) :
    w.makeDirectory ⟨anchor, names ++ [name]⟩ = .ok w' ↔
      (w.fits ⟨anchor, names ++ [name]⟩ = true ∧ name.utf8ByteSize ≤ maxNameBytes ∧
        w.tree.get? (goTo l name) = none) ∧ w' = w.insert (goTo l name) .directory := by
  rw [makeDirectory_eq_ok_iff]
  constructor
  · rintro ⟨l', hslot, hnone, rfl⟩
    obtain ⟨hfits, above, name', hlast, hname, hshort, hwalk, rfl⟩ := slot_eq_ok_some_iff.mp hslot
    obtain rfl := Option.some.inj (List.getLast?_concat.symm.trans hlast)
    rw [List.dropLast_concat] at hwalk
    obtain rfl := Except.ok.inj (h.symm.trans hwalk)
    have hgo : goTo l name = l ++ [name] := if_neg hname
    rw [hgo]
    exact ⟨⟨hfits, hshort, hnone⟩, rfl⟩
  · rintro ⟨⟨hfits, hshort, hnone⟩, rfl⟩
    have hfree : w.tree.get? (goTo l name) ≠ some .directory := by simp [hnone]
    obtain ⟨hname, hgo⟩ := get?_goTo hl hfree
    refine ⟨_, slot_eq_ok_some_iff.mpr ⟨hfits, l, name, List.getLast?_concat, hname, hshort, ?_,
      hgo⟩, hnone, rfl⟩
    rw [List.dropLast_concat]
    exact h

theorem makeDirectory_concat_eq_missing_iff {anchor : Path.Anchor} {names : List String}
    {name : String} :
    w.makeDirectory ⟨anchor, names ++ [name]⟩ = .error .missing ↔
      w.fits ⟨anchor, names ++ [name]⟩ = true ∧
        w.walk (w.origin anchor) names = .error .missing := by
  rw [makeDirectory_eq_missing_iff, slot_eq_missing_iff, List.dropLast_concat,
    and_iff_right (List.concat_ne_nil name names)]

/-- A workspace that comes from another one by making directories at some locations, as far as
nothing stands there. -/
structure Adds (w : Workspace) (made : List Location) (w' : Workspace) : Prop where
  /-- No file changes. -/
  follows : w.Follows none w'
  /-- What was there before is still there, and the directories are, too. -/
  get? : ∀ l, w'.tree.get? l =
    (w.tree.get? l).or (if l ∈ made then some .directory else none)

theorem Adds.of_directory (hw : w.WellFormed) {made : List Location}
    (h : ∀ l ∈ made, w.tree.get? l = some .directory) : w.Adds made w := by
  refine ⟨.refl hw, fun l ↦ ?_⟩
  split
  · rename_i hl
    rw [h l hl]
    rfl
  · rw [Option.or_none]

theorem Adds.trans {made made' : List Location} (h : w.Adds made w') (h' : w'.Adds made' w'') :
    w.Adds (made ++ made') w'' := by
  refine ⟨h.follows.trans h'.follows, fun l ↦ ?_⟩
  rw [h'.get?, h.get?, Option.or_assoc]
  by_cases hl : l ∈ made <;> simp [hl]

theorem Adds.of_mem {made : List Location} (h : w.Adds made w') {l : Location} (hl : l ∈ made)
    (hfree : w.tree.text? l = none) : w'.tree.get? l = some .directory := by
  rw [h.get?, if_pos hl, FileTree.get?_or_directory hfree]

theorem adds_insert (hw : w.WellFormed) {l : Location} (hl : w.tree.get? l = some .directory)
    {name : String} (hnone : w.tree.get? (goTo l name) = none) :
    w.Adds [goTo l name] (w.insert (goTo l name) .directory) := by
  have hfree : w.tree.get? (goTo l name) ≠ some .directory := by simp [hnone]
  have hparent : w.tree.get? (goTo l name).dropLast = some .directory := by
    rwa [(get?_goTo hl hfree).2, List.dropLast_concat]
  refine ⟨insert_directory_follows hw hparent hnone, fun l' ↦ ?_⟩
  refine (FileTree.get?_insert hparent hfree).trans ?_
  by_cases hl' : l' = goTo l name
  · rw [if_pos hl', if_pos (List.mem_singleton.mpr hl'), hl', hnone, Option.none_or]
  · rw [if_neg hl', if_neg (fun hmem ↦ hl' (List.mem_singleton.mp hmem)), Option.or_none]

/-- What it means that an attempt makes directories at some locations just where that can be done:
what succeeds has made them, and where they can be made, nothing but the stack prevents it. -/
private structure MakesIf (w : Workspace) (can : Prop) (made : List Location)
    (attempt : Attempt FileError Unit) : Prop where
  /-- What succeeds could be done and has been done. -/
  of_ok : attempt.outcome = .ok () → can ∧ w.Adds made attempt.workspace
  /-- What can be done succeeds, if there is room for it. -/
  or_tooDeep : can → attempt.outcome = .ok () ∨ attempt.outcome = .error .tooDeep

private theorem MakesIf.of_fails {can : Prop} {made : List Location}
    {attempt : Attempt FileError Unit} (hfails : attempt.outcome ≠ .ok ()) (h : ¬can) :
    w.MakesIf can made attempt :=
  ⟨fun hok ↦ absurd hok hfails, fun hcan ↦ absurd hcan h⟩

private theorem MakesIf.of_tooDeep {can : Prop} {made : List Location}
    {attempt : Attempt FileError Unit} (h : attempt.outcome = .error .tooDeep) :
    w.MakesIf can made attempt :=
  ⟨fun hok ↦ (by cases h.symm.trans hok), fun _ ↦ .inr h⟩

/-- **A directory whose parent is there can be made, or is there, unless a file stands in its
place.** -/
private theorem makesIf_makeAgain (hw : w.WellFormed) {anchor : Path.Anchor} {names : List String}
    {l : Location} (h : w.walk (w.origin anchor) names = .ok l) (name : String) (depth : Nat) :
    w.MakesIf (w.fits ⟨anchor, names ++ [name]⟩ = true ∧ name.utf8ByteSize ≤ maxNameBytes ∧
      w.tree.text? (goTo l name) = none) [goTo l name]
      (w.makeAgain depth ⟨anchor, names ++ [name]⟩) := by
  have hl := walk_directory (origin_directory hw anchor) h
  have hdirectory := isDirectory_concat_iff hl h name
  rw [FileTree.text?_eq_none_iff]
  obtain ⟨-, hattempt⟩ | ⟨made, hmade, hattempt⟩ | ⟨refusal, hmade, hattempt⟩ :=
    w.makeAgain_cases depth ⟨anchor, names ++ [name]⟩
  · exact .of_tooDeep (by rw [hattempt])
  · obtain ⟨⟨hfits, hshort, hnone⟩, rfl⟩ := (makeDirectory_concat_eq_ok_iff hl h).mp hmade
    rw [hattempt]
    exact ⟨fun _ ↦ ⟨⟨hfits, hshort, .inl hnone⟩, adds_insert hw hl hnone⟩, fun _ ↦ .inl rfl⟩
  · -- nothing is made, so the attempt succeeds where the directory is there already
    rw [hattempt]
    by_cases hthere : w.isDirectory ⟨anchor, names ++ [name]⟩ = true
    · rw [if_pos hthere]
      obtain ⟨hfits, hshort, hget⟩ := hdirectory.mp hthere
      refine ⟨fun _ ↦ ⟨⟨hfits, hshort, .inr hget⟩, .of_directory hw ?_⟩, fun _ ↦ .inl rfl⟩
      exact List.forall_mem_singleton.mpr hget
    · rw [if_neg hthere]
      refine .of_fails (by simp) ?_
      rintro ⟨hfits, hshort, hnone | hget⟩
      · have hmade' := (makeDirectory_concat_eq_ok_iff hl h).mpr ⟨⟨hfits, hshort, hnone⟩, rfl⟩
        cases hmade.symm.trans hmade'
      · exact hthere (hdirectory.mpr ⟨hfits, hshort, hget⟩)

/-! ## Making all directories -/

/-- Nothing that stands in a tree is in the way of a path. -/
structure Clear (w : Workspace) (p : Path) : Prop where
  /-- The names in it are short enough for a directory. -/
  short : ∀ name ∈ p.components, name.utf8ByteSize ≤ maxNameBytes
  /-- No file stands on the trail. -/
  free : ∀ l ∈ w.trail p, w.tree.text? l = none

theorem trail_concat (w : Workspace) (anchor : Path.Anchor) (names : List String) (name : String) :
    w.trail ⟨anchor, names ++ [name]⟩ =
      w.trail ⟨anchor, names⟩ ++ [goTo (w.goal ⟨anchor, names⟩) name] :=
  trailFrom_concat _ _ _

theorem clear_concat_iff {anchor : Path.Anchor} {names : List String} {name : String} :
    w.Clear ⟨anchor, names ++ [name]⟩ ↔ w.Clear ⟨anchor, names⟩ ∧
      name.utf8ByteSize ≤ maxNameBytes ∧
        w.tree.text? (goTo (w.goal ⟨anchor, names⟩) name) = none := by
  have hnames : (∀ name' ∈ names ++ [name], name'.utf8ByteSize ≤ maxNameBytes) ↔
      (∀ name' ∈ names, name'.utf8ByteSize ≤ maxNameBytes) ∧
        name.utf8ByteSize ≤ maxNameBytes := by
    rw [List.forall_mem_append, List.forall_mem_singleton]
  have htrail : (∀ l ∈ w.trail ⟨anchor, names ++ [name]⟩, w.tree.text? l = none) ↔
      (∀ l ∈ w.trail ⟨anchor, names⟩, w.tree.text? l = none) ∧
        w.tree.text? (goTo (w.goal ⟨anchor, names⟩) name) = none := by
    rw [trail_concat, List.forall_mem_append, List.forall_mem_singleton]
  constructor
  · rintro ⟨hshort, hfree⟩
    exact ⟨⟨(hnames.mp hshort).1, (htrail.mp hfree).1⟩, (hnames.mp hshort).2, (htrail.mp hfree).2⟩
  · rintro ⟨⟨hshort, hfree⟩, hname, hlast⟩
    exact ⟨hnames.mpr ⟨hshort, hname⟩, htrail.mpr ⟨hfree, hlast⟩⟩

/-- Nothing is in the way of names that lead to a directory, and nothing has to be made for them. -/
theorem clear_of_walk (hw : w.WellFormed) {p : Path} {l : Location}
    (h : w.walk (w.origin p.anchor) p.components = .ok l) :
    w.Clear p ∧ w.Adds (w.trail p) w ∧ w.goal p = l := by
  obtain ⟨hshort, hdirectories, hgoal⟩ := (walk_eq_ok_iff (origin_directory hw p.anchor)).mp h
  refine ⟨⟨hshort, fun m hm ↦ ?_⟩, .of_directory hw hdirectories, hgoal⟩
  rw [FileTree.text?_eq_none_iff]
  exact .inr (hdirectories m hm)

/-- A path whose directories have been made is followed to its goal. -/
theorem Adds.walk_goal {p : Path} (hclear : w.Clear p) (h : w.Adds (w.trail p) w') :
    w'.walk (w'.origin p.anchor) p.components = .ok (w.goal p) := by
  have horigin := origin_directory h.follows.wellFormed p.anchor
  rw [h.follows.origin] at horigin ⊢
  refine (walk_eq_ok_iff horigin).mpr ⟨hclear.short, fun m hm ↦ ?_, rfl⟩
  exact h.of_mem hm (hclear.free m hm)

private theorem makeAgain_of_walk_error {anchor : Path.Anchor} {names : List String} {name : String}
    {refusal : Refusal} (h : w.walk (w.origin anchor) names = .error refusal) (depth : Nat) :
    (w.makeAgain depth ⟨anchor, names ++ [name]⟩).outcome ≠ .ok () := by
  have hdirectory : ¬w.isDirectory ⟨anchor, names ++ [name]⟩ = true := by
    rw [isDirectory_iff]
    rintro ⟨-, l, hwalk⟩
    rw [walk_append, h] at hwalk
    cases hwalk
  obtain ⟨-, hattempt⟩ | ⟨made, hmade, -⟩ | ⟨r, -, hattempt⟩ :=
    w.makeAgain_cases depth ⟨anchor, names ++ [name]⟩
  · simp [hattempt]
  · obtain ⟨l, hslot, -⟩ := makeDirectory_eq_ok_iff.mp hmade
    obtain ⟨-, above, name', -, -, -, hwalk, -⟩ := slot_eq_ok_some_iff.mp hslot
    rw [List.dropLast_concat, h] at hwalk
    cases hwalk
  · simp [hattempt, hdirectory]

/-- An attempt makes all directories of a path that are not there. -/
private abbrev Makes (w : Workspace) (p : Path) (attempt : Attempt FileError Unit) : Prop :=
  w.MakesIf (w.fits p = true ∧ w.Clear p) (w.trail p) attempt

private theorem makes_makeAgain {anchor : Path.Anchor} {names : List String} (name : String)
    (depth : Nat) (hclear : w.Clear ⟨anchor, names⟩)
    (hadds : w.Adds (w.trail ⟨anchor, names⟩) w') :
    w.Makes ⟨anchor, names ++ [name]⟩ (w'.makeAgain depth ⟨anchor, names ++ [name]⟩) := by
  have hwalk : w'.walk (w'.origin anchor) names = .ok (w.goal ⟨anchor, names⟩) :=
    hadds.walk_goal hclear
  obtain ⟨hmade, hcan⟩ := makesIf_makeAgain hadds.follows.wellFormed hwalk name depth
  have htext := hadds.follows.text? (goTo (w.goal ⟨anchor, names⟩) name)
  rw [hadds.follows.fits, htext] at hmade hcan
  constructor
  · intro hok
    rw [clear_concat_iff, and_iff_right hclear, trail_concat]
    exact ⟨(hmade hok).1, hadds.trans (hmade hok).2⟩
  · rw [clear_concat_iff, and_iff_right hclear]
    exact hcan

private theorem makes_nil (hw : w.WellFormed) (anchor : Path.Anchor) (depth : Nat) :
    w.Makes ⟨anchor, []⟩ (w.makeAgain depth ⟨anchor, []⟩) := by
  have hwalk : w.walk (w.origin anchor) [] = .ok (w.origin anchor) := rfl
  obtain ⟨hclear, hadds, -⟩ := clear_of_walk hw (p := ⟨anchor, []⟩) hwalk
  obtain ⟨-, hattempt⟩ | ⟨made, hmade, -⟩ | ⟨refusal, -, hattempt⟩ :=
    w.makeAgain_cases depth ⟨anchor, []⟩
  · exact .of_tooDeep (by rw [hattempt])
  · -- the place where paths start is not one for a directory to be made
    obtain ⟨l, hslot, -⟩ := makeDirectory_eq_ok_iff.mp hmade
    obtain ⟨-, above, name, hlast, -⟩ := slot_eq_ok_some_iff.mp hslot
    cases hlast
  · rw [hattempt]
    by_cases hfits : w.fits ⟨anchor, []⟩ = true
    · rw [if_pos (isDirectory_iff.mpr ⟨hfits, _, hwalk⟩)]
      exact ⟨fun _ ↦ ⟨⟨hfits, hclear⟩, hadds⟩, fun _ ↦ .inl rfl⟩
    · rw [if_neg fun h ↦ hfits (isDirectory_iff.mp h).1]
      exact .of_fails (by simp) fun h ↦ hfits h.1

private theorem makes_makeDirectoriesUp (hw : w.WellFormed) (anchor : Path.Anchor) (depth : Nat)
    (components : List String) :
    w.Makes ⟨anchor, components.reverse⟩ (makeDirectoriesUp anchor w depth components) := by
  induction components generalizing depth with
  | nil => exact makes_nil hw anchor depth
  | cons name above ih =>
    rcases hwalk : w.walk (w.origin anchor) above.reverse with refusal | l
    · by_cases hmissing : w.makeDirectory ⟨anchor, (name :: above).reverse⟩ = .error .missing
      · obtain ⟨hparent, hcan⟩ := ih (depth + 1)
        obtain ⟨-, hup⟩ | ⟨e, herror, hup⟩ | ⟨hok, hup⟩ :=
          makeDirectoriesUp_cases_of_missing hmissing depth
        · exact .of_tooDeep (by rw [hup])
        · -- the parent cannot be made, or there is no room for it
          have habove : above.reverse ≠ [] := by
            intro hnil
            rw [hnil] at hwalk
            cases hwalk
          rw [hup, List.reverse_cons]
          refine ⟨fun hok ↦ (by cases hok), ?_⟩
          rintro ⟨hfits, hclear⟩
          rcases hcan ⟨fits_of_concat habove hfits, (clear_concat_iff.mp hclear).1⟩
            with hok | hdeep
          · cases herror.symm.trans hok
          · exact .inr (herror.symm.trans hdeep)
        · -- the directory is made in the workspace that making the parent leaves
          obtain ⟨⟨-, hclear⟩, hadds⟩ := hparent hok
          rw [hup, List.reverse_cons]
          exact makes_makeAgain name (depth + 1) hclear hadds
      · rw [makeDirectoriesUp_of_ne_missing hmissing, List.reverse_cons]
        refine .of_fails (makeAgain_of_walk_error hwalk depth) ?_
        rintro ⟨hfits, hclear⟩
        obtain ⟨hshort, hfree⟩ := (clear_concat_iff.mp hclear).1
        obtain rfl := walk_eq_missing (origin_directory hw anchor) hshort hfree hwalk
        rw [List.reverse_cons] at hmissing
        exact hmissing (makeDirectory_concat_eq_missing_iff.mpr ⟨hfits, hwalk⟩)
    · have hmissing : w.makeDirectory ⟨anchor, (name :: above).reverse⟩ ≠ .error .missing := by
        rw [List.reverse_cons, ne_eq, makeDirectory_concat_eq_missing_iff, hwalk]
        simp
      obtain ⟨hclear, hadds, -⟩ := clear_of_walk hw (p := ⟨anchor, above.reverse⟩) hwalk
      rw [makeDirectoriesUp_of_ne_missing hmissing, List.reverse_cons]
      exact makes_makeAgain name depth hclear hadds

private theorem makes_makeDirectories (hw : w.WellFormed) (p : Path) :
    w.Makes p (w.makeDirectories p) := by
  have hmakes := makes_makeDirectoriesUp hw p.anchor 1 p.components.reverse
  rwa [List.reverse_reverse] at hmakes

/-- **The directories of a path are made exactly when the path is short enough and nothing is in the
way**, if there is room for that. -/
theorem makeDirectories_eq_ok_iff (hw : w.WellFormed) {p : Path} :
    (w.makeDirectories p).outcome = .ok () ↔
      (w.makeDirectories p).outcome ≠ .error .tooDeep ∧ w.fits p = true ∧ w.Clear p := by
  obtain ⟨hok, hcan⟩ := makes_makeDirectories hw p
  constructor
  · intro h
    exact ⟨by simp [h], (hok h).1⟩
  · rintro ⟨hroom, h⟩
    exact (hcan h).resolve_right hroom

/-- **What is made is what is missing on the trail.** -/
theorem makeDirectories_adds (hw : w.WellFormed) {p : Path}
    (h : (w.makeDirectories p).outcome = .ok ()) :
    w.Adds (w.trail p) (w.makeDirectories p).workspace :=
  ((makes_makeDirectories hw p).of_ok h).2

private theorem makeAgain_ne_missing {p : Path} (h : w.makeDirectory p ≠ .error .missing)
    (depth : Nat) (q : Path) : (w.makeAgain depth p).outcome ≠ .error (.refused .missing q) := by
  obtain ⟨-, hattempt⟩ | ⟨made, -, hattempt⟩ | ⟨refusal, hmade, hattempt⟩ :=
    w.makeAgain_cases depth p
  · simp [hattempt]
  · simp [hattempt]
  · rw [hattempt]
    split
    · simp
    · intro heq
      obtain ⟨rfl, -⟩ := FileError.refused.inj (Except.error.inj heq)
      exact h hmade

private theorem makeDirectoriesUp_ne_missing (hw : w.WellFormed) (anchor : Path.Anchor)
    (depth : Nat) (components : List String) (q : Path) :
    (makeDirectoriesUp anchor w depth components).outcome ≠ .error (.refused .missing q) := by
  induction components generalizing depth with
  | nil =>
    refine makeAgain_ne_missing ?_ depth q
    rw [ne_eq, makeDirectory_eq_missing_iff, slot_eq_missing_iff]
    simp
  | cons name above ih =>
    by_cases hmissing : w.makeDirectory ⟨anchor, (name :: above).reverse⟩ = .error .missing
    · obtain ⟨-, hup⟩ | ⟨e, herror, hup⟩ | ⟨hok, hup⟩ :=
        makeDirectoriesUp_cases_of_missing hmissing depth
      · simp [hup]
      · rw [hup, ← herror]
        exact ih (depth + 1)
      · -- the parent has been made, so its names can be followed
        obtain ⟨⟨-, hclear⟩, hadds⟩ :=
          (makes_makeDirectoriesUp hw anchor (depth + 1) above).of_ok hok
        have hwalk := hadds.walk_goal hclear
        rw [hup]
        refine makeAgain_ne_missing ?_ (depth + 1) q
        rw [List.reverse_cons, ne_eq, makeDirectory_concat_eq_missing_iff, hwalk]
        simp
    · rw [makeDirectoriesUp_of_ne_missing hmissing]
      exact makeAgain_ne_missing hmissing depth q

/-- **The attempt to make directories does not end at a missing name.** -/
theorem makeDirectories_ne_missing (hw : w.WellFormed) (p q : Path) :
    (w.makeDirectories p).outcome ≠ .error (.refused .missing q) :=
  makeDirectoriesUp_ne_missing hw _ _ _ q

/-! ## Delivering -/

/-- The location of the file that a path names, by its form alone. -/
structure Names (w : Workspace) (p : Path) (l : Location) : Prop where
  /-- The path is short enough to be followed. -/
  fits : w.fits p = true
  /-- The path ends in a name that a directory can hold, and the directory is the goal of its
  parent. -/
  last : ∃ name, p.components.getLast? = some name ∧ name ≠ ".." ∧
    name.utf8ByteSize ≤ maxNameBytes ∧ l = w.goal p.parent ++ [name]

theorem Names.unique {p : Path} {l l' : Location} (h : w.Names p l) (h' : w.Names p l') :
    l = l' := by
  obtain ⟨-, name, hlast, -, -, rfl⟩ := h
  obtain ⟨-, name', hlast', -, -, rfl⟩ := h'
  rw [Option.some.inj (hlast.symm.trans hlast')]

/-- A text can be delivered to a path, which is where a location is. -/
structure Deliverable (w : Workspace) (p : Path) (l : Location) : Prop where
  /-- The path names the location. -/
  names : w.Names p l
  /-- The path of the directory is short enough to be followed. -/
  fits : w.fits p.parent = true
  /-- Nothing is in the way of the directory. -/
  clear : w.Clear p.parent
  /-- The location is not one that the directory lies on the way of. -/
  offTrail : l ∉ w.trail p.parent
  /-- No directory stands at the location. -/
  free : w.tree.get? l ≠ some .directory

/-- A workspace that comes from another one by delivering a text to a path. -/
structure Delivered (w : Workspace) (p : Path) (l : Location) (content : String)
    (w' : Workspace) : Prop where
  /-- The path leads to the location. -/
  slot : w'.slot p = .ok (some l)
  /-- No other file changes. -/
  follows : w.Follows (some (l, content)) w'
  /-- The file stands at the location, the trail of its directory has been made, and everything else
  is as before. -/
  get? : ∀ l', w'.tree.get? l' = if l' = l then some (.file content)
    else (w.tree.get? l').or (if l' ∈ w.trail p.parent then some .directory else none)

theorem slot_eq_ok_some_iff_names {p : Path} {l : Location}
    (h : w.walk (w.origin p.anchor) p.components.dropLast = .ok (w.goal p.parent)) :
    w.slot p = .ok (some l) ↔ w.Names p l := by
  rw [slot_eq_ok_some_iff]
  constructor
  · rintro ⟨hfits, above, name, hlast, hname, hshort, hwalk, rfl⟩
    obtain rfl := Except.ok.inj (h.symm.trans hwalk)
    exact ⟨hfits, name, hlast, hname, hshort, rfl⟩
  · rintro ⟨hfits, name, hlast, hname, hshort, rfl⟩
    exact ⟨hfits, _, name, hlast, hname, hshort, h, rfl⟩

namespace Follows

variable {written : Option (Location × String)}

theorem trail (h : w.Follows written w') (p : Path) : w'.trail p = w.trail p := by
  rw [Workspace.trail, h.origin, ← Workspace.trail]

theorem goal (h : w.Follows written w') (p : Path) : w'.goal p = w.goal p := by
  rw [Workspace.goal, h.origin, ← Workspace.goal]

theorem names_iff (h : w.Follows written w') {p : Path} {l : Location} :
    w'.Names p l ↔ w.Names p l := by
  constructor
  · rintro ⟨hfits, hlast⟩
    rw [h.goal] at hlast
    exact ⟨(h.fits p).symm.trans hfits, hlast⟩
  · rintro ⟨hfits, hlast⟩
    refine ⟨(h.fits p).trans hfits, ?_⟩
    rw [h.goal]
    exact hlast

end Follows

theorem Adds.slot_eq_ok_some_iff {p : Path} {l : Location} (hclear : w.Clear p.parent)
    (h : w.Adds (w.trail p.parent) w') : w'.slot p = .ok (some l) ↔ w.Names p l := by
  have hwalk := h.walk_goal hclear
  rw [← h.follows.goal] at hwalk
  rw [slot_eq_ok_some_iff_names hwalk, h.follows.names_iff]

/-- A place for a file is one that the path names, off the way to its directory, where no directory
stands. -/
theorem filePlace_eq_ok_iff_deliverable (hw : w.WellFormed) {p : Path} {l : Location}
    (h : (w.makeDirectories p.parent).outcome = .ok ()) :
    (w.makeDirectories p.parent).workspace.filePlace p = .ok l ↔ w.Deliverable p l := by
  obtain ⟨-, hfits, hclear⟩ := (makeDirectories_eq_ok_iff hw).mp h
  have hadds := makeDirectories_adds hw h
  rw [filePlace_eq_ok_iff, hadds.slot_eq_ok_some_iff hclear]
  constructor
  · rintro ⟨hnames, hfree⟩
    refine ⟨hnames, hfits, hclear, ?_, ?_⟩
    · exact fun hmem ↦ hfree (hadds.of_mem hmem (hclear.free l hmem))
    · exact fun hdirectory ↦ hfree (hadds.follows.directory l hdirectory)
  · intro hdeliverable
    refine ⟨hdeliverable.names, ?_⟩
    rw [hadds.get?, if_neg hdeliverable.offTrail, Option.or_none]
    exact hdeliverable.free

/-- **What is left of a delivery** that comes to its file. -/
theorem delivered_of_filePlace (hw : w.WellFormed) {p : Path} {l : Location}
    (hdirs : (w.makeDirectories p.parent).outcome = .ok ())
    (hplace : (w.makeDirectories p.parent).workspace.filePlace p = .ok l) (text : String) :
    w.Delivered p l text ((w.makeDirectories p.parent).workspace.insert l (.file text)) := by
  have hadds := makeDirectories_adds hw hdirs
  obtain ⟨hslot, hfree⟩ := filePlace_eq_ok_iff.mp hplace
  have hfollows := insert_file_follows hadds.follows.wellFormed hplace text
  refine ⟨hfollows.slot hslot, hadds.follows.trans hfollows, fun l' ↦ ?_⟩
  have hparent := slot_directory hadds.follows.wellFormed hslot
  rw [← hadds.get?]
  exact FileTree.get?_insert hparent hfree

/-- **How a delivery ends.** There may be no room for making the directory. Otherwise the text is
delivered where it can be, as far as it has an encoding, and where it cannot be it is refused, but
never because something is missing. -/
theorem deliver_outcome (hw : w.WellFormed) (p : Path) (content : RawText) :
    (w.deliver p content).outcome = .error .tooDeep ∨
    (∃ l, w.Deliverable p l ∧ (w.deliver p content).outcome = content.ending p ∧
      w.Delivered p l content.stored (w.deliver p content).workspace) ∨
    ((∀ l, ¬w.Deliverable p l) ∧ ∃ refusal q, refusal ≠ .missing ∧
      (w.deliver p content).outcome = .error (.refused refusal q)) := by
  obtain ⟨e, herror, hdeliver⟩ | ⟨refusal, hdirs, hplace, hdeliver⟩ |
    ⟨l, hdirs, hplace, hdeliver⟩ := w.deliver_cases p content
  · rw [hdeliver]
    rcases e with ⟨refusal, q⟩ | - | place
    · refine .inr (.inr ⟨fun l hl ↦ ?_, refusal, q, ?_, rfl⟩)
      · rcases (makes_makeDirectories hw p.parent).or_tooDeep ⟨hl.fits, hl.clear⟩
          with hmade | hmade
        · cases herror.symm.trans hmade
        · cases herror.symm.trans hmade
      · rintro rfl
        exact makeDirectories_ne_missing hw _ q herror
    · exact .inl rfl
    · exact absurd herror (makeDirectories_ne_unencodable hw _ place)
  · rw [hdeliver]
    refine .inr (.inr ⟨fun l hl ↦ ?_, refusal, p, ?_, rfl⟩)
    · have hplace' := (filePlace_eq_ok_iff_deliverable hw hdirs).mpr hl
      cases hplace.symm.trans hplace'
    · -- the directory of the file is there, so the names above the last one can be followed
      rintro rfl
      obtain ⟨-, -, hclear⟩ := (makeDirectories_eq_ok_iff hw).mp hdirs
      have hwalk := (makeDirectories_adds hw hdirs).walk_goal hclear
      have hparent := (slot_eq_missing_iff.mp (filePlace_eq_missing_iff.mp hplace)).2.2
      cases hwalk.symm.trans hparent
  · rw [hdeliver]
    exact .inr (.inl ⟨l, (filePlace_eq_ok_iff_deliverable hw hdirs).mp hplace, rfl,
      delivered_of_filePlace hw hdirs hplace _⟩)

theorem deliver_of_deliverable (hw : w.WellFormed) {p : Path} {l : Location}
    (h : w.Deliverable p l) (content : RawText) :
    (w.deliver p content).outcome = .error .tooDeep ∨
      (w.deliver p content).outcome = content.ending p ∧
        w.Delivered p l content.stored (w.deliver p content).workspace := by
  obtain hdeep | ⟨l', hl', hending, hdelivered⟩ | ⟨hnone, -⟩ := w.deliver_outcome hw p content
  · exact .inl hdeep
  · obtain rfl := h.names.unique hl'.names
    exact .inr ⟨hending, hdelivered⟩
  · exact absurd h (hnone l)

end Workspace

end PerArity
