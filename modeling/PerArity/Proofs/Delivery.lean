import PerArity.Output
import PerArity.Proofs.Entries
import PerArity.Proofs.Traversal

/-!
# Delivering a file

Everything that is done in a workspace is described by one relation: a workspace *follows* another
with a write, or with none, if every directory is still there and the files are the same but for the
one that was written. Making a directory is a step of this kind without a write, writing a file is
one with a write, and so is a delivery, whether or not it succeeds.

Following is monotone in the directories, and this is what lets a path be read again later: a path
that leads to a location does so in every workspace that follows (`Follows.slot`). In particular
the location of a delivered file can be read off the workspace in which the file already stands.
-/

namespace PerArity

/-! ## Well-formed workspaces -/

instance FileTree.decidableWellFormed : ∀ t : FileTree, Decidable t.WellFormed
  | .empty => inferInstanceAs (Decidable True)
  | .file name _ rest =>
    have := rest.decidableWellFormed
    inferInstanceAs (Decidable (name ∉ rest.names ∧ rest.WellFormed))
  | .directory name inside rest =>
    have := inside.decidableWellFormed
    have := rest.decidableWellFormed
    inferInstanceAs (Decidable (name ∉ rest.names ∧ inside.WellFormed ∧ rest.WellFormed))

namespace Workspace

/-- A workspace whose tree has no name twice in a directory and whose own directory exists. -/
structure WellFormed (w : Workspace) : Prop where
  /-- No name stands twice in a directory. -/
  tree : w.tree.WellFormed
  /-- The directory that relative paths start from exists. -/
  directory : w.tree.get? w.directory = some .directory

instance (w : Workspace) : Decidable w.WellFormed :=
  decidable_of_iff (w.tree.WellFormed ∧ w.tree.get? w.directory = some .directory)
    ⟨fun h ↦ ⟨h.1, h.2⟩, fun h ↦ ⟨h.tree, h.directory⟩⟩

/-- One workspace comes from another by making directories and by at most one write of a file. -/
structure Follows (w : Workspace) (written : Option (Location × String)) (w' : Workspace) :
    Prop where
  /-- Nothing but the tree changes. -/
  frame : w' = { w with tree := w'.tree }
  /-- The workspace is well-formed again. -/
  wellFormed : w'.WellFormed
  /-- A directory stays where it is. -/
  directory : ∀ l, w.tree.get? l = some .directory → w'.tree.get? l = some .directory
  /-- A file has the text that was written to it, or else the text that it had. -/
  text? : ∀ l, w'.tree.text? l =
    ((written.filter fun write ↦ write.1 = l).map Prod.snd).or (w.tree.text? l)

variable {w w' w'' : Workspace}

/-! ## Following names -/

theorem origin_directory (hw : w.WellFormed) (anchor : Path.Anchor) :
    w.tree.get? (w.origin anchor) = some .directory := by
  cases anchor with
  | relative => exact hw.directory
  | root => exact FileTree.get?_root _
  | doubleRoot => exact FileTree.get?_root _

private theorem enter_directory {l l' : Location} {name : String}
    (hl : w.tree.get? l = some .directory) (h : w.enter l name = .ok l') :
    w.tree.get? l' = some .directory := by
  rw [enter] at h
  split at h
  · obtain rfl := Except.ok.inj h
    exact FileTree.get?_dropLast (by rw [hl]; exact Option.some_ne_none _)
  · split at h
    · cases h
    · split at h
      · rename_i hd
        obtain rfl := Except.ok.inj h
        exact hd
      · cases h
      · cases h

theorem walk_cons (l : Location) (name : String) (names : List String) :
    w.walk l (name :: names) = w.enter l name >>= fun l ↦ w.walk l names := by
  rw [walk, List.foldlM_cons]
  rfl

theorem walk_directory {names : List String} {l l' : Location}
    (hl : w.tree.get? l = some .directory) (h : w.walk l names = .ok l') :
    w.tree.get? l' = some .directory := by
  induction names generalizing l with
  | nil =>
    obtain rfl := Except.ok.inj h
    exact hl
  | cons name names ih =>
    rw [walk_cons, bind_eq_ok_iff] at h
    obtain ⟨l₁, he, h⟩ := h
    exact ih (enter_directory hl he) h

theorem slot_eq_ok_some_iff {p : Path} {l : Location} :
    w.slot p = .ok (some l) ↔
      w.fits p = true ∧ ∃ above name, p.components.getLast? = some name ∧ name ≠ ".." ∧
        name.utf8ByteSize ≤ maxNameBytes ∧
        w.walk (w.origin p.anchor) p.components.dropLast = .ok above ∧ l = above ++ [name] := by
  rw [slot]
  split
  · rename_i hfits
    rw [and_iff_right hfits, place]
    split
    · rename_i hnone
      simp [hnone]
    · rename_i name hlast
      rw [bind_eq_ok_iff]
      constructor
      · rintro ⟨above, hwalk, hplace⟩
        split at hplace
        · cases hplace
        · rename_i hn
          split at hplace
          · cases hplace
          · rename_i hshort
            obtain rfl := Option.some.inj (Except.ok.inj hplace)
            exact ⟨above, name, hlast, hn, Nat.not_lt.mp hshort, hwalk, rfl⟩
      · rintro ⟨above, name', hlast', hn, hshort, hwalk, rfl⟩
        obtain rfl := Option.some.inj (hlast.symm.trans hlast')
        refine ⟨above, hwalk, ?_⟩
        rw [if_neg hn, if_neg (Nat.not_lt.mpr hshort)]
  · rename_i hfits
    simp [hfits]

theorem slot_eq_missing_iff {p : Path} :
    w.slot p = .error .missing ↔
      w.fits p = true ∧ p.components ≠ [] ∧
        w.walk (w.origin p.anchor) p.components.dropLast = .error .missing := by
  rw [slot]
  split
  · rename_i hfits
    rw [and_iff_right hfits, place]
    split
    · rename_i hnone
      simp [List.getLast?_eq_none_iff.mp hnone]
    · rename_i name hlast
      have hne : p.components ≠ [] := by
        intro hnil
        rw [hnil] at hlast
        cases hlast
      rw [and_iff_right hne]
      rcases w.walk (w.origin p.anchor) p.components.dropLast with refusal | above
      · simp [bind, Except.bind]
      · -- none of the refusals that are left is for a missing name
        simp only [bind, Except.bind, reduceCtorEq, iff_false]
        split
        · simp
        · split <;> simp
  · rename_i hfits
    simp [hfits]

/-- The location that a path leads to, if it leads to one. -/
def location? (w : Workspace) (p : Path) : Option Location :=
  match w.slot p with
  | .ok l? => l?
  | .error _ => none

theorem location?_of_slot {p : Path} {l : Location} (h : w.slot p = .ok (some l)) :
    w.location? p = some l := by
  rw [location?, h]

theorem slot_directory (hw : w.WellFormed) {p : Path} {l : Location}
    (h : w.slot p = .ok (some l)) : w.tree.get? l.dropLast = some .directory := by
  obtain ⟨-, above, name, -, -, -, hwalk, rfl⟩ := slot_eq_ok_some_iff.mp h
  rw [List.dropLast_concat]
  exact walk_directory (origin_directory hw _) hwalk

/-! ## Following a workspace -/

namespace Follows

variable {written : Option (Location × String)}

theorem refl (hw : w.WellFormed) : w.Follows none w where
  frame := rfl
  wellFormed := hw
  directory _ hl := hl
  text? _ := rfl

theorem trans (h : w.Follows none w') (h' : w'.Follows written w'') : w.Follows written w'' where
  frame := by rw [h'.frame, h.frame]
  wellFormed := h'.wellFormed
  directory l hl := h'.directory l (h.directory l hl)
  text? l := by rw [h'.text? l, h.text? l]; rfl

theorem text?_written {l : Location} {content : String} (h : w.Follows (some (l, content)) w') :
    w'.tree.text? l = some content := by
  rw [h.text? l, Option.filter_some, if_pos (decide_eq_true rfl)]
  rfl

private theorem enter (h : w.Follows written w') {l l' : Location} {name : String}
    (he : w.enter l name = .ok l') : w'.enter l name = .ok l' := by
  rw [Workspace.enter] at he ⊢
  split at he
  · rename_i hn
    rw [if_pos hn, he]
  · rename_i hn
    rw [if_neg hn]
    split at he
    · cases he
    · rename_i hlong
      rw [if_neg hlong]
      split at he
      · rename_i hd
        rw [h.directory _ hd]
        exact he
      · cases he
      · cases he

theorem walk (h : w.Follows written w') {names : List String} {l l' : Location}
    (hwalk : w.walk l names = .ok l') : w'.walk l names = .ok l' := by
  induction names generalizing l with
  | nil => exact hwalk
  | cons name names ih =>
    rw [walk_cons, bind_eq_ok_iff] at hwalk ⊢
    obtain ⟨l₁, he, hwalk⟩ := hwalk
    exact ⟨l₁, h.enter he, ih hwalk⟩

theorem origin (h : w.Follows written w') (anchor : Path.Anchor) :
    w'.origin anchor = w.origin anchor := by
  rw [h.frame]
  rfl

theorem fits (h : w.Follows written w') (p : Path) : w'.fits p = w.fits p := by
  rw [h.frame]
  rfl

theorem stack (h : w.Follows written w') : w'.stack = w.stack := by
  rw [h.frame]

/-- **A path that leads to a location leads there in every workspace that follows.** -/
theorem slot (h : w.Follows written w') {p : Path} {l : Location}
    (hslot : w.slot p = .ok (some l)) : w'.slot p = .ok (some l) := by
  obtain ⟨hfits, above, name, hlast, hn, hshort, hwalk, rfl⟩ := slot_eq_ok_some_iff.mp hslot
  refine slot_eq_ok_some_iff.mpr ⟨?_, above, name, hlast, hn, hshort, ?_, rfl⟩
  · rw [h.fits, hfits]
  · rw [h.origin]
    exact h.walk hwalk

end Follows

/-! ## Making directories -/

theorem makeDirectory_eq_ok_iff {p : Path} :
    w.makeDirectory p = .ok w' ↔
      ∃ l, w.slot p = .ok (some l) ∧ w.tree.get? l = none ∧ w' = w.insert l .directory := by
  rw [makeDirectory, bind_eq_ok_iff]
  constructor
  · rintro ⟨- | l, hslot, hmade⟩
    · cases hmade
    · dsimp only at hmade
      split at hmade
      · cases hmade
      · rename_i hnone
        obtain rfl := Except.ok.inj hmade
        exact ⟨l, hslot, hnone, rfl⟩
  · rintro ⟨l, hslot, hnone, rfl⟩
    refine ⟨some l, hslot, ?_⟩
    dsimp only
    rw [hnone]

theorem makeDirectory_eq_missing_iff {p : Path} :
    w.makeDirectory p = .error .missing ↔ w.slot p = .error .missing := by
  rw [makeDirectory]
  rcases w.slot p with refusal | - | l
  · simp [bind, Except.bind]
  · simp [bind, Except.bind]
  · simp only [bind, Except.bind, reduceCtorEq, iff_false]
    split <;> simp

theorem insert_directory_follows (hw : w.WellFormed) {l : Location}
    (hparent : w.tree.get? l.dropLast = some .directory) (hnone : w.tree.get? l = none) :
    w.Follows none (w.insert l .directory) := by
  have hfree : w.tree.get? l ≠ some .directory := by simp [hnone]
  have hkeeps : ∀ l', w.tree.get? l' = some .directory →
      (w.tree.insert l .directory).get? l' = some .directory := by
    intro l' hl'
    rw [FileTree.get?_insert hparent hfree, hl', ite_self]
  refine ⟨rfl, ⟨hw.tree.insert l .directory, hkeeps _ hw.directory⟩, hkeeps, ?_⟩
  intro l'
  refine (FileTree.text?_insert hparent hfree l').trans ?_
  split
  · rename_i hl'
    rw [hl', FileTree.text?, hnone]
    rfl
  · rfl

theorem makeDirectory_follows (hw : w.WellFormed) {p : Path} (h : w.makeDirectory p = .ok w') :
    w.Follows none w' := by
  obtain ⟨l, hslot, hnone, rfl⟩ := makeDirectory_eq_ok_iff.mp h
  exact insert_directory_follows hw (slot_directory hw hslot) hnone

/-- Trying for the second time ends for lack of room, by making the directory, or in a refusal,
which does not matter where the directory is there. -/
theorem makeAgain_cases (w : Workspace) (depth : Nat) (p : Path) :
    ((∃ work, w.stack.overflows depth work = true) ∧
      w.makeAgain depth p = ⟨w, .error .tooDeep⟩) ∨
    (∃ made, w.makeDirectory p = .ok made ∧ w.makeAgain depth p = ⟨made, .ok ()⟩) ∨
    ∃ refusal, w.makeDirectory p = .error refusal ∧
      w.makeAgain depth p =
        if w.isDirectory p then ⟨w, .ok ()⟩ else ⟨w, .error (.refused refusal p)⟩ := by
  rw [makeAgain]
  split
  · rename_i hroom
    exact .inl ⟨⟨_, hroom⟩, rfl⟩
  · split
    · rename_i made hmade
      exact .inr (.inl ⟨made, hmade, rfl⟩)
    · rename_i refusal hrefused
      rw [unlessDirectory]
      split
      · rename_i hroom
        exact .inl ⟨⟨_, hroom⟩, rfl⟩
      · exact .inr (.inr ⟨refusal, hrefused, rfl⟩)

/-- Unless a name above is missing, the path is tried once. -/
theorem makeDirectoriesUp_of_ne_missing {anchor : Path.Anchor} {components : List String}
    (h : w.makeDirectory ⟨anchor, components.reverse⟩ ≠ .error .missing) (depth : Nat) :
    makeDirectoriesUp anchor w depth components =
      w.makeAgain depth ⟨anchor, components.reverse⟩ := by
  cases components with
  | nil => rfl
  | cons name above =>
    rw [makeDirectoriesUp, makeAgain]
    dsimp only
    split
    · rfl
    · split
      · rename_i made hmade
        rw [hmade]
      · rename_i hmissing
        exact absurd hmissing h
      · rename_i refusal _ hrefused
        rw [hrefused]

/-- Where a name above is missing, the directories above are made first, and then the path is tried
again. -/
theorem makeDirectoriesUp_cases_of_missing {anchor : Path.Anchor} {name : String}
    {above : List String}
    (h : w.makeDirectory ⟨anchor, (name :: above).reverse⟩ = .error .missing) (depth : Nat) :
    let parent := makeDirectoriesUp anchor w (depth + 1) above
    (w.stack.overflows depth .attempt = true ∧
      makeDirectoriesUp anchor w depth (name :: above) = ⟨w, .error .tooDeep⟩) ∨
    (∃ e, parent.outcome = .error e ∧
      makeDirectoriesUp anchor w depth (name :: above) = ⟨parent.workspace, .error e⟩) ∨
    (parent.outcome = .ok () ∧
      makeDirectoriesUp anchor w depth (name :: above) =
        parent.workspace.makeAgain (depth + 1) ⟨anchor, (name :: above).reverse⟩) := by
  intro parent
  rw [makeDirectoriesUp, h]
  dsimp only
  split
  · rename_i hroom
    exact .inl ⟨hroom, rfl⟩
  · rcases hparent : (makeDirectoriesUp anchor w (depth + 1) above).outcome with e | ⟨⟩
    · exact .inr (.inl ⟨e, rfl, rfl⟩)
    · exact .inr (.inr ⟨rfl, rfl⟩)

/-- What every attempt to make directories has in common: no file changes, and nothing is
encoded. -/
private structure MakesOnly (w : Workspace) (attempt : Attempt FileError Unit) : Prop where
  /-- Nothing but directories is made. -/
  follows : w.Follows none attempt.workspace
  /-- A failure is not about an encoding. -/
  ne_unencodable : ∀ place, attempt.outcome ≠ .error (.unencodable place)

private theorem makesOnly_makeAgain (hw : w.WellFormed) (depth : Nat) (p : Path) :
    w.MakesOnly (w.makeAgain depth p) := by
  obtain ⟨-, hattempt⟩ | ⟨made, hmade, hattempt⟩ | ⟨refusal, -, hattempt⟩ :=
    w.makeAgain_cases depth p
  · rw [hattempt]
    exact ⟨.refl hw, by simp⟩
  · rw [hattempt]
    exact ⟨makeDirectory_follows hw hmade, by simp⟩
  · rw [hattempt]
    split <;> exact ⟨.refl hw, by simp⟩

private theorem makesOnly_makeDirectoriesUp (hw : w.WellFormed) (anchor : Path.Anchor)
    (depth : Nat) (components : List String) :
    w.MakesOnly (makeDirectoriesUp anchor w depth components) := by
  induction components generalizing depth with
  | nil => exact makesOnly_makeAgain hw depth _
  | cons name above ih =>
    by_cases hmissing : w.makeDirectory ⟨anchor, (name :: above).reverse⟩ = .error .missing
    · obtain ⟨hfollows, hne⟩ := ih (depth + 1)
      obtain ⟨-, hup⟩ | ⟨e, herror, hup⟩ | ⟨-, hup⟩ :=
        makeDirectoriesUp_cases_of_missing hmissing depth
      · rw [hup]
        exact ⟨.refl hw, by simp⟩
      · rw [hup]
        exact ⟨hfollows, fun place ↦ herror ▸ hne place⟩
      · -- the second attempt starts from the workspace that making the parent has left
        obtain ⟨hagain, hne'⟩ := makesOnly_makeAgain hfollows.wellFormed (depth + 1)
          ⟨anchor, (name :: above).reverse⟩
        rw [hup]
        exact ⟨hfollows.trans hagain, hne'⟩
    · rw [makeDirectoriesUp_of_ne_missing hmissing]
      exact makesOnly_makeAgain hw depth _

theorem makeDirectories_follows (hw : w.WellFormed) (p : Path) :
    w.Follows none (w.makeDirectories p).workspace :=
  (makesOnly_makeDirectoriesUp hw _ _ _).follows

theorem makeDirectories_ne_unencodable (hw : w.WellFormed) (p : Path)
    (place : RawText.Unencodable) :
    (w.makeDirectories p).outcome ≠ .error (.unencodable place) :=
  (makesOnly_makeDirectoriesUp hw _ _ _).ne_unencodable place

/-! ## The stack -/

private theorem makeDirectoriesUp_ne_tooDeep (hw : w.WellFormed) (h : w.stack = .unlimited)
    (anchor : Path.Anchor) (depth : Nat) (components : List String) :
    (makeDirectoriesUp anchor w depth components).outcome ≠ .error .tooDeep := by
  have hagain : ∀ w : Workspace, w.stack = .unlimited → ∀ depth p,
      (w.makeAgain depth p).outcome ≠ .error .tooDeep := by
    intro w hstack depth p
    obtain ⟨⟨work, hroom⟩, -⟩ | ⟨made, -, hattempt⟩ | ⟨refusal, -, hattempt⟩ :=
      w.makeAgain_cases depth p
    · rw [hstack] at hroom
      cases hroom
    · simp [hattempt]
    · rw [hattempt]
      split <;> simp
  induction components generalizing depth with
  | nil => exact hagain w h depth _
  | cons name above ih =>
    by_cases hmissing : w.makeDirectory ⟨anchor, (name :: above).reverse⟩ = .error .missing
    · obtain ⟨hroom, -⟩ | ⟨e, herror, hup⟩ | ⟨-, hup⟩ :=
        makeDirectoriesUp_cases_of_missing hmissing depth
      · rw [h] at hroom
        cases hroom
      · rw [hup, ← herror]
        exact ih (depth + 1)
      · have hfollows := (makesOnly_makeDirectoriesUp hw anchor (depth + 1) above).follows
        rw [hup]
        exact hagain _ (hfollows.stack.trans h) _ _
    · rw [makeDirectoriesUp_of_ne_missing hmissing]
      exact hagain w h depth _

theorem makeDirectories_ne_tooDeep (hw : w.WellFormed) (h : w.stack = .unlimited) (p : Path) :
    (w.makeDirectories p).outcome ≠ .error .tooDeep :=
  makeDirectoriesUp_ne_tooDeep hw h _ _ _

private theorem makeDirectory_of_missing {anchor : Path.Anchor} {above names : List String}
    {l : Location} {first name : String} (hfits : ∀ p, w.fits p = true)
    (habove : w.walk (w.origin anchor) above = .ok l)
    (hfirst : w.enter l first = .error .missing) :
    w.makeDirectory ⟨anchor, above ++ first :: (names ++ [name])⟩ = .error .missing := by
  have hwalk : w.walk (w.origin anchor) (above ++ first :: names) = .error .missing := by
    rw [walk, List.foldlM_append, ← walk, habove]
    change w.walk l (first :: names) = _
    rw [walk_cons, hfirst]
    rfl
  have hcomponents : above ++ first :: (names ++ [name]) = above ++ first :: names ++ [name] := by
    simp
  rw [makeDirectory, slot, if_pos (hfits _), place, hcomponents]
  simp only [List.getLast?_concat, List.dropLast_concat]
  rw [hwalk]
  rfl

/-- Where a name is missing, every path that goes on from it is tried before the name itself is. If
there is no room for trying that, nothing has been made. -/
theorem makeDirectoriesUp_tooDeep {anchor : Path.Anchor} {above : List String} {l : Location}
    {first : String} (hfits : ∀ p, w.fits p = true)
    (habove : w.walk (w.origin anchor) above = .ok l)
    (hfirst : w.enter l first = .error .missing) (names : List String) {depth : Nat}
    (hroom : w.stack.overflows (depth + names.length) .attempt = true) :
    makeDirectoriesUp anchor w depth (names ++ first :: above.reverse) =
      ⟨w, .error .tooDeep⟩ := by
  induction names generalizing depth with
  | nil =>
    rw [List.nil_append, makeDirectoriesUp]
    exact if_pos hroom
  | cons name names ih =>
    have hreverse : (name :: (names ++ first :: above.reverse)).reverse =
        above ++ first :: (names.reverse ++ [name]) := by simp
    have hmissing : w.makeDirectory ⟨anchor, (name :: (names ++ first :: above.reverse)).reverse⟩ =
        .error .missing := by
      rw [hreverse]
      exact makeDirectory_of_missing hfits habove hfirst
    have hparent : makeDirectoriesUp anchor w (depth + 1) (names ++ first :: above.reverse) =
        ⟨w, .error .tooDeep⟩ := ih (by rwa [Nat.add_assoc, Nat.add_comm 1])
    obtain ⟨-, hup⟩ | ⟨e, herror, hup⟩ | ⟨hok, -⟩ :=
      makeDirectoriesUp_cases_of_missing hmissing depth
    · exact hup
    · rw [hparent] at herror hup
      obtain rfl := Except.error.inj herror
      exact hup
    · rw [hparent] at hok
      cases hok

/-! ## Writing a file -/

theorem filePlace_eq_ok_iff {p : Path} {l : Location} :
    w.filePlace p = .ok l ↔ w.slot p = .ok (some l) ∧ w.tree.get? l ≠ some .directory := by
  rw [filePlace, bind_eq_ok_iff]
  constructor
  · rintro ⟨- | l', hslot, hplace⟩
    · cases hplace
    · dsimp only at hplace
      split at hplace
      · cases hplace
      · rename_i hfree
        obtain rfl := Except.ok.inj hplace
        exact ⟨hslot, hfree⟩
  · rintro ⟨hslot, hfree⟩
    refine ⟨some l, hslot, ?_⟩
    dsimp only
    split
    · rename_i hdirectory
      exact absurd hdirectory hfree
    · rfl

theorem filePlace_eq_missing_iff {p : Path} :
    w.filePlace p = .error .missing ↔ w.slot p = .error .missing := by
  rw [filePlace]
  rcases w.slot p with refusal | - | l
  · simp [bind, Except.bind]
  · simp [bind, Except.bind]
  · simp only [bind, Except.bind, reduceCtorEq, iff_false]
    split <;> simp

theorem insert_file_follows (hw : w.WellFormed) {p : Path} {l : Location}
    (h : w.filePlace p = .ok l) (text : String) :
    w.Follows (some (l, text)) (w.insert l (.file text)) := by
  obtain ⟨hslot, hfree⟩ := filePlace_eq_ok_iff.mp h
  have hparent := slot_directory hw hslot
  have hkeeps : ∀ l', w.tree.get? l' = some .directory →
      (w.tree.insert l (.file text)).get? l' = some .directory := by
    intro l' hl'
    have hne : l' ≠ l := by
      rintro rfl
      exact hfree hl'
    rw [FileTree.get?_insert hparent hfree, if_neg hne, hl']
  refine ⟨rfl, ⟨hw.tree.insert _ _, hkeeps _ hw.directory⟩, hkeeps, ?_⟩
  intro l'
  refine (FileTree.text?_insert hparent hfree l').trans ?_
  rw [Option.filter_some]
  by_cases hl' : l' = l
  · rw [if_pos hl', if_pos (decide_eq_true hl'.symm)]
    rfl
  · rw [if_neg hl', if_neg (by simpa using Ne.symm hl')]
    rfl

end Workspace

/-! ## Delivering -/

namespace RawText

/-- What a file holds once a text was written to it: nothing, if the text has no encoding. -/
def stored (content : RawText) : String :=
  match content.encode with
  | .ok text => text
  | .error _ => ""

/-- How a write ends that has come to its file. -/
def ending (content : RawText) (p : Path) : Except FileError Path :=
  match content.encode with
  | .ok _ => .ok p
  | .error place => .error (.unencodable place)

@[simp] theorem stored_ofString (s : String) : stored s = s := by
  rw [stored, encode_ofString]

@[simp] theorem ending_ofString (s : String) (p : Path) : ending s p = .ok p := by
  rw [ending, encode_ofString]

/-- A write to a file succeeds for a text of characters, which is then in the file. -/
theorem ending_eq_ok_iff {content : RawText} {p p' : Path} :
    content.ending p = .ok p' ↔ p' = p ∧ content = content.stored := by
  rw [ending, stored]
  cases hencode : content.encode with
  | error place =>
    simp only [reduceCtorEq, false_iff, not_and]
    rintro - hempty
    rw [hempty, encode_ofString] at hencode
    cases hencode
  | ok text => simp [encode_eq_ok_iff.mp hencode, eq_comm]

theorem ending_eq_error_iff {content : RawText} {p : Path} {e : FileError} :
    content.ending p = .error e ↔
      ∃ place, content.encode = .error place ∧ e = .unencodable place := by
  rw [ending]
  cases content.encode <;> simp [eq_comm]

theorem stored_of_error {content : RawText} {place : Unencodable}
    (h : content.encode = .error place) : content.stored = "" := by
  rw [stored, h]

end RawText

namespace Workspace

variable {w w' w'' : Workspace}

/-- A delivery fails for the directory or for the place of the file, or it comes to the file. -/
theorem deliver_cases (w : Workspace) (p : Path) (content : RawText) :
    let made := w.makeDirectories p.parent
    (∃ e, made.outcome = .error e ∧ w.deliver p content = ⟨made.workspace, .error e⟩) ∨
    (∃ refusal, made.outcome = .ok () ∧ made.workspace.filePlace p = .error refusal ∧
      w.deliver p content = ⟨made.workspace, .error (.refused refusal p)⟩) ∨
    ∃ l, made.outcome = .ok () ∧ made.workspace.filePlace p = .ok l ∧
      w.deliver p content =
        ⟨made.workspace.insert l (.file content.stored), content.ending p⟩ := by
  intro made
  rw [deliver]
  rcases made.outcome with e | ⟨⟩
  · exact .inl ⟨e, rfl, rfl⟩
  · dsimp only
    rw [writeFile]
    rcases hplace : made.workspace.filePlace p with refusal | l
    · exact .inr (.inl ⟨refusal, rfl, rfl, rfl⟩)
    · refine .inr (.inr ⟨l, rfl, rfl, ?_⟩)
      rw [RawText.stored, RawText.ending]
      cases content.encode <;> rfl

/-- **A delivery puts its text at the location that its destination has afterwards, or it fails and
changes no file.** If the text has no encoding, it fails as well, but there is an empty file. -/
theorem deliver_spec (hw : w.WellFormed) (destination : Path) (content : RawText) :
    (∃ l, (w.deliver destination content).outcome = content.ending destination ∧
      (w.deliver destination content).workspace.slot destination = .ok (some l) ∧
        w.Follows (some (l, content.stored)) (w.deliver destination content).workspace) ∨
    ∃ e, (w.deliver destination content).outcome = .error e ∧ (∀ place, e ≠ .unencodable place) ∧
      w.Follows none (w.deliver destination content).workspace := by
  have hmade := makeDirectories_follows hw destination.parent
  obtain ⟨e, herror, hdeliver⟩ | ⟨refusal, -, -, hdeliver⟩ | ⟨l, -, hplace, hdeliver⟩ :=
    w.deliver_cases destination content
  · rw [hdeliver]
    refine .inr ⟨e, rfl, ?_, hmade⟩
    rintro place rfl
    exact makeDirectories_ne_unencodable hw _ place herror
  · rw [hdeliver]
    exact .inr ⟨_, rfl, by simp, hmade⟩
  · -- the path is followed once the directories are there, and still leads to the same place when
    -- the file is
    have hwritten := insert_file_follows hmade.wellFormed hplace content.stored
    rw [hdeliver]
    exact .inl ⟨l, rfl, hwritten.slot (filePlace_eq_ok_iff.mp hplace).1, hmade.trans hwritten⟩

theorem deliver_eq_tooDeep_iff {p : Path} (content : RawText) :
    (w.deliver p content).outcome = .error .tooDeep ↔
      (w.makeDirectories p.parent).outcome = .error .tooDeep := by
  obtain ⟨e, herror, hdeliver⟩ | ⟨refusal, hok, -, hdeliver⟩ | ⟨l, hok, -, hdeliver⟩ :=
    w.deliver_cases p content
  · rw [hdeliver, herror]
    simp
  · simp [hdeliver, hok]
  · rw [hdeliver, hok, RawText.ending]
    cases content.encode <;> simp

theorem deliver_ne_tooDeep (hw : w.WellFormed) (hstack : w.stack = .unlimited) (p : Path)
    (content : RawText) : (w.deliver p content).outcome ≠ .error .tooDeep := by
  rw [ne_eq, deliver_eq_tooDeep_iff]
  exact makeDirectories_ne_tooDeep hw hstack p.parent

end Workspace

/-! ## Writing -/

/-- The text of a declaration as a file can hold it. -/
def Declaration.encoded? (d : Declaration) (config : Config) (form : Form) : Option String :=
  (d.render config form).toOption.bind fun content ↦ content.encode.toOption

theorem Declaration.encoded?_eq_some_iff {d : Declaration} {config : Config} {form : Form}
    {text : String} : d.encoded? config form = some text ↔ d.render config form = .ok text := by
  rw [encoded?]
  rcases d.render config form with failure | content
  · simp [Except.toOption]
  · simp only [Except.toOption, Option.bind_some, Except.ok.injEq]
    rw [← RawText.encode_eq_ok_iff]
    cases content.encode <;> simp

/-- **How a declaration is written.** It has a text, and what can be stored of that stands where the
path leads; or it fails, and no file has changed. It succeeds just where all of it is stored. -/
theorem Declaration.write_spec {w : Workspace} (hw : w.WellFormed) (d : Declaration)
    (config : Config) (output : Path) (form : Form) :
    let p := config.destination output
    let attempt := d.write w config output form
    (∃ content l, d.render config form = .ok content ∧
      attempt.outcome = (content.ending p).mapError .unwritten ∧
        attempt.workspace.slot p = .ok (some l) ∧
          w.Follows (some (l, content.stored)) attempt.workspace) ∨
    ∃ e, attempt.outcome = .error e ∧ (∀ place, e ≠ .unwritten (.unencodable place)) ∧
      w.Follows none attempt.workspace := by
  intro p attempt
  rcases hrender : d.render config form with failure | content
  · simp only [attempt, write_of_unrendered hrender]
    exact .inr ⟨_, rfl, by simp, .refl hw⟩
  · simp only [attempt, write_of_render hrender]
    obtain ⟨l, hending, hslot, hfollows⟩ | ⟨e, herror, hne, hfollows⟩ := w.deliver_spec hw p content
    · exact .inl ⟨content, l, rfl, by rw [hending], hslot, hfollows⟩
    · refine .inr ⟨.unwritten e, by rw [herror]; rfl, ?_, hfollows⟩
      rintro place heq
      exact hne place (OutputError.unwritten.inj heq)

end PerArity
