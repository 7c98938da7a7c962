import PerArity.Proofs.Trail

/-!
# Which paths a text can be written to

The directories for a file are tried from the whole path upwards and then made from the top down
again. Whether this comes to an end well can be told in a simpler way, by one walk from the first
name to the last one that makes what is missing as it goes (`pass`). The walk stops at a file and at
a name that is too long; when it does not, the last name still has to be one for a file, and no
directory may stand in its place after the walk (`walkable`).

The walk looks at the tree that it has changed itself, so it is compared with the trail of the path,
which is given by the tree at the start: the names are passed exactly when nothing is in the way of
them (`exists_pass`, `of_pass`). A text that has an encoding is written exactly to the paths that
can be walked, and a write that fails is not refused because something is missing
(`write_walkable`). There has to be room enough for that, on the stack and in the length of paths.
-/

namespace PerArity

namespace Workspace

variable {w w' : Workspace} {l l' : Location}

/-! ## Walking and making -/

/-- Goes on from a directory by a name, and makes a directory where nothing stands. -/
def passName (w : Workspace) (l : Location) (name : String) : Option (Workspace × Location) :=
  if maxNameBytes < name.utf8ByteSize then none
  else
    match w.tree.get? (goTo l name) with
    | some .directory => some (w, goTo l name)
    | some (.file _) => none
    | none => some (w.insert (goTo l name) .directory, goTo l name)

/-- Goes on from a directory by names, one after the other. -/
def pass (w : Workspace) (l : Location) (names : List String) : Option (Workspace × Location) :=
  names.foldlM (fun (state : Workspace × Location) name ↦ state.1.passName state.2 name) (w, l)

/-- Whether a path can be walked to a place for a file. -/
def walkable (w : Workspace) (p : Path) : Bool :=
  match w.pass (w.origin p.anchor) p.parent.components, p.components.getLast? with
  | some (made, l), some name =>
    name ≠ ".." && name.utf8ByteSize ≤ maxNameBytes &&
      made.tree.get? (l ++ [name]) ≠ some .directory
  | _, _ => false

theorem pass_cons (w : Workspace) (l : Location) (name : String) (names : List String) :
    w.pass l (name :: names) =
      (w.passName l name).bind fun state ↦ state.1.pass state.2 names :=
  List.foldlM_cons

/-! ### One name -/

theorem passName_of_directory {name : String} (hshort : name.utf8ByteSize ≤ maxNameBytes)
    (h : w.tree.get? (goTo l name) = some .directory) :
    w.passName l name = some (w, goTo l name) := by
  rw [passName, if_neg (Nat.not_lt.mpr hshort), h]

theorem passName_of_missing {name : String} (hshort : name.utf8ByteSize ≤ maxNameBytes)
    (h : w.tree.get? (goTo l name) = none) :
    w.passName l name = some (w.insert (goTo l name) .directory, goTo l name) := by
  rw [passName, if_neg (Nat.not_lt.mpr hshort), h]

theorem exists_passName (hw : w.WellFormed) (hl : w.tree.get? l = some .directory) {name : String}
    (hshort : name.utf8ByteSize ≤ maxNameBytes) (hfree : w.tree.text? (goTo l name) = none) :
    ∃ w', w.passName l name = some (w', goTo l name) ∧ w.Adds [goTo l name] w' := by
  rcases FileTree.text?_eq_none_iff.mp hfree with hnone | hdirectory
  · exact ⟨_, passName_of_missing hshort hnone, adds_insert hw hl hnone⟩
  · exact ⟨w, passName_of_directory hshort hdirectory,
      .of_directory hw (List.forall_mem_singleton.mpr hdirectory)⟩

theorem of_passName {name : String} {state : Workspace × Location}
    (h : w.passName l name = some state) :
    name.utf8ByteSize ≤ maxNameBytes ∧ w.tree.text? (goTo l name) = none := by
  rw [passName] at h
  split at h
  · cases h
  · rename_i hshort
    refine ⟨Nat.not_lt.mp hshort, FileTree.text?_eq_none_iff.mpr ?_⟩
    split at h
    · rename_i hdirectory
      exact .inr hdirectory
    · cases h
    · rename_i hnone
      exact .inl hnone

/-! ### Several names -/

/-- Names are passed when they are short and no file stands on their trail, and what is made on the
way is what is missing on the trail. -/
theorem exists_pass (hw : w.WellFormed) (hl : w.tree.get? l = some .directory) {names : List String}
    (hshort : ∀ name ∈ names, name.utf8ByteSize ≤ maxNameBytes)
    (hfree : ∀ m ∈ trailFrom l names, w.tree.text? m = none) :
    ∃ w', w.pass l names = some (w', names.foldl goTo l) ∧ w.Adds (trailFrom l names) w' := by
  induction names generalizing w l with
  | nil => exact ⟨w, rfl, .of_directory hw (List.forall_mem_nil _)⟩
  | cons name names ih =>
    rw [List.forall_mem_cons] at hshort
    rw [trailFrom, List.forall_mem_cons] at hfree
    obtain ⟨w₁, hname, hadds⟩ := exists_passName hw hl hshort.1 hfree.1
    have hl₁ := hadds.of_mem (List.mem_singleton.mpr rfl) hfree.1
    -- the step has changed the tree, but no file in it
    have hfree₁ : ∀ m ∈ trailFrom (goTo l name) names, w₁.tree.text? m = none := by
      intro m hm
      rw [hadds.follows.text?, hfree.2 m hm]
      rfl
    obtain ⟨w', hnames, hadds'⟩ := ih hadds.follows.wellFormed hl₁ hshort.2 hfree₁
    refine ⟨w', ?_, hadds.trans hadds'⟩
    rw [pass_cons, hname]
    exact hnames

theorem of_pass (hw : w.WellFormed) (hl : w.tree.get? l = some .directory) {names : List String}
    {state : Workspace × Location} (h : w.pass l names = some state) :
    (∀ name ∈ names, name.utf8ByteSize ≤ maxNameBytes) ∧
      ∀ m ∈ trailFrom l names, w.tree.text? m = none := by
  induction names generalizing w l with
  | nil => exact ⟨List.forall_mem_nil _, List.forall_mem_nil _⟩
  | cons name names ih =>
    rw [pass_cons, Option.bind_eq_some_iff] at h
    obtain ⟨state₁, hname, hnames⟩ := h
    obtain ⟨hshort, hfree⟩ := of_passName hname
    obtain ⟨w₁, hname', hadds⟩ := exists_passName hw hl hshort hfree
    obtain rfl := Option.some.inj (hname.symm.trans hname')
    have hl₁ := hadds.of_mem (List.mem_singleton.mpr rfl) hfree
    obtain ⟨hshorts, hfrees⟩ := ih hadds.follows.wellFormed hl₁ hnames
    rw [List.forall_mem_cons, trailFrom, List.forall_mem_cons]
    refine ⟨⟨hshort, hshorts⟩, hfree, fun m hm ↦ ?_⟩
    have htext := hadds.follows.text? m
    rw [hfrees m hm] at htext
    exact htext.symm

/-! ## Walking and delivering -/

/-- Where no file was in the way, what was made are exactly the directories that were not there. -/
theorem Adds.get?_eq_directory_iff {made : List Location} (h : w.Adds made w')
    (hfree : ∀ m ∈ made, w.tree.text? m = none) :
    w'.tree.get? l = some .directory ↔ l ∈ made ∨ w.tree.get? l = some .directory := by
  constructor
  · intro hdirectory
    rw [h.get?, Option.or_eq_some_iff] at hdirectory
    rcases hdirectory with hthere | ⟨-, hmade⟩
    · exact .inr hthere
    · refine .inl ?_
      by_contra hl
      rw [if_neg hl] at hmade
      cases hmade
  · rintro (hl | hthere)
    · exact h.of_mem hl (hfree l hl)
    · exact h.follows.directory l hthere

theorem walkable_iff (hw : w.WellFormed) {p : Path} :
    w.walkable p = true ↔ w.Clear p.parent ∧
      ∃ name, p.components.getLast? = some name ∧ name ≠ ".." ∧
        name.utf8ByteSize ≤ maxNameBytes ∧ w.goal p.parent ++ [name] ∉ w.trail p.parent ∧
        w.tree.get? (w.goal p.parent ++ [name]) ≠ some .directory := by
  have horigin := origin_directory hw p.anchor
  by_cases hclear : w.Clear p.parent
  · obtain ⟨made, hpass, hadds⟩ := exists_pass hw horigin hclear.short hclear.free
    have hpass' : w.pass (w.origin p.anchor) p.parent.components =
        some (made, w.goal p.parent) := hpass
    have hmade : ∀ l, made.tree.get? l = some .directory ↔
        l ∈ w.trail p.parent ∨ w.tree.get? l = some .directory :=
      fun l ↦ Adds.get?_eq_directory_iff hadds hclear.free
    rw [and_iff_right hclear, walkable, hpass']
    cases p.components.getLast? with
    | none => simp
    | some name => simp [hmade, and_assoc]
  · have hnone : w.pass (w.origin p.anchor) p.parent.components = none := by
      rw [Option.eq_none_iff_forall_ne_some]
      intro state hpass
      obtain ⟨hshort, hfree⟩ := of_pass hw horigin hpass
      exact hclear ⟨hshort, hfree⟩
    simp [walkable, hnone, hclear]

/-- **A text can be delivered to the paths that can be walked,** if no path is too long. -/
theorem exists_deliverable_iff (hw : w.WellFormed) (hpath : w.pathLimit = none) {p : Path} :
    (∃ l, w.Deliverable p l) ↔ w.walkable p = true := by
  have hfits : ∀ p, w.fits p = true := by
    intro p
    rw [fits, hpath]
  rw [walkable_iff hw]
  constructor
  · rintro ⟨l, ⟨-, name, hlast, hname, hshort, rfl⟩, -, hclear, hoff, hfree⟩
    exact ⟨hclear, name, hlast, hname, hshort, hoff, hfree⟩
  · rintro ⟨hclear, name, hlast, hname, hshort, hoff, hfree⟩
    exact ⟨_, ⟨hfits _, name, hlast, hname, hshort, rfl⟩, hfits _, hclear, hoff, hfree⟩

end Workspace

/-! ## Writing -/

open Workspace

/-- **A declaration is written exactly when its path can be walked.** The path that is reported is
the one that was asked for. A path that cannot be walked is refused, because something stands at the
place, a name on the way is a file, the place is a directory or a name is too long, and never
because something is missing. A declaration without a text is not written anywhere, and one whose
text has no encoding fails for that where another one would be written. All this is so where there
is room for every path and on the stack. -/
theorem write_walkable {w : Workspace} (hw : w.WellFormed) (hpath : w.pathLimit = none)
    (hstack : w.stack = .unlimited) (d : Declaration) (config : Config) (output : Path)
    (form : Form) :
    let p := config.destination output
    let attempt := d.write w config output form
    match d.render config form with
    | .error failure => attempt = ⟨w, .error (.unrendered failure)⟩
    | .ok content =>
      if w.walkable p = true then
        match content.encode with
        | .ok _ => attempt.outcome = .ok p
        | .error place => attempt.outcome = .error (.unwritten (.unencodable place))
      else ∃ refusal q, attempt.outcome = .error (.unwritten (.refused refusal q)) ∧
        refusal ≠ .missing := by
  intro p attempt
  rcases hrender : d.render config form with failure | content
  · exact Declaration.write_of_unrendered hrender w output
  have hattempt : attempt = _ := Declaration.write_of_render hrender w output
  dsimp only
  rw [hattempt]
  obtain hdeep | ⟨l, hl, hending, -⟩ | ⟨hnone, refusal, q, hne, hrefused⟩ :=
    w.deliver_outcome hw p content
  · exact absurd hdeep (deliver_ne_tooDeep hw hstack p content)
  · rw [if_pos ((exists_deliverable_iff hw hpath).mp ⟨l, hl⟩), hending, RawText.ending]
    cases content.encode <;> rfl
  · rw [if_neg fun hwalkable ↦ ?_, hrefused]
    · exact ⟨refusal, q, rfl, hne⟩
    · obtain ⟨l, hl⟩ := (exists_deliverable_iff hw hpath).mpr hwalkable
      exact hnone l hl

/-- Two paths that go through a directory that has to be made first. One is walked to the file, and
the other one meets the file on its way. -/
theorem write_walkable_through_missing :
    let home : Workspace := { directory := ["home"],
                              tree := .directory "home" (.file "f" "old" .empty) .empty }
    let config : Config := { maxArity := 0, outputRoot := home.path }
    let d : Declaration := { kind := "partial", target := "flow", maxArity := 0, separator := "" }
    let through := Path.ofString "out/../f"
    let below := Path.ofString "out/../f/g"
    home.WellFormed ∧ home.pathLimit = none ∧ home.stack = .unlimited ∧
      home.walkable (config.destination through) = true ∧
      (d.write home config through .bare).outcome = .ok (config.destination through) ∧
      home.walkable (config.destination below) = false ∧
      ∃ refusal q, (d.write home config below .bare).outcome =
        .error (.unwritten (.refused refusal q)) ∧ refusal ≠ .missing := by
  intro home config d through below
  have hhome : home.WellFormed := by decide
  have hrender : d.render config .bare = .ok "\n" := by decide +kernel
  have hthrough : home.walkable (config.destination through) = true := by decide +kernel
  have hbelow : home.walkable (config.destination below) = false := by decide +kernel
  have hwritten := write_walkable hhome rfl rfl d config through .bare
  simp only [hrender, hthrough, RawText.encode_ofString, if_true] at hwritten
  have hrefused := write_walkable hhome rfl rfl d config below .bare
  simp only [hrender, hbelow, Bool.false_eq_true, if_false] at hrefused
  exact ⟨hhome, rfl, rfl, hthrough, hwritten, hbelow, hrefused⟩

/-- A path that can be walked, for a declaration whose text has no encoding. -/
theorem write_walkable_of_surrogate :
    let home : Workspace := { directory := ["home"], tree := .directory "home" .empty .empty }
    let config : Config := { maxArity := 0, outputRoot := home.path }
    let d : Declaration :=
      { kind := "partial", target := "flow", maxArity := 0, separator := ""
        fragments := [{ arity := 0, text := [.surrogate 0] }] }
    let output := Path.ofString "f"
    home.pathLimit = none ∧ home.stack = .unlimited ∧
      home.walkable (config.destination output) = true ∧
      (d.write home config output .bare).outcome =
        .error (.unwritten (.unencodable ⟨0, 0, 0⟩)) := by
  intro home config d output
  exact ⟨rfl, rfl, by decide +kernel, by decide +kernel⟩

end PerArity
