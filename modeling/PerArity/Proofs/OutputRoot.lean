import Mathlib.Data.List.Basic
import PerArity.Proofs.Delivery

/-!
# Below the output root

A relative path without a double dot only goes down: each of its components is one step below the
directory that was reached before (`Workspace.walk_eq_append`). So what is written under such a path
lies below the directory that the output root leads to, and that directory is there afterwards,
whether or not it was before.

All this takes a component. A path text of which nothing is left, like a single dot, stands for the
output root itself. What has to be a directory then is only what is above the root, and where the
delivery succeeds the root has become a file.
-/

namespace PerArity

namespace Workspace

variable {w : Workspace}

/-! ## Going down -/

theorem walk_append (l : Location) (names names' : List String) :
    w.walk l (names ++ names') = w.walk l names >>= fun l ↦ w.walk l names' := by
  rw [walk, List.foldlM_append]
  rfl

/-- Names without a double dot lead straight down. -/
theorem walk_eq_append {names : List String} {l l' : Location} (hup : ".." ∉ names)
    (h : w.walk l names = .ok l') : l' = l ++ names := by
  induction names generalizing l with
  | nil =>
    obtain rfl := Except.ok.inj h
    rw [List.append_nil]
  | cons name names ih =>
    obtain ⟨hname, hnames⟩ := List.ne_and_not_mem_of_not_mem_cons hup
    rw [walk_cons, bind_eq_ok_iff] at h
    obtain ⟨l₁, henter, hwalk⟩ := h
    rw [enter, if_neg (Ne.symm hname)] at henter
    split at henter
    · cases henter
    · split at henter
      · obtain rfl := Except.ok.inj henter
        rw [ih hnames hwalk, List.append_assoc, List.singleton_append]
      · cases henter
      · cases henter

/-- A path leads to a directory. -/
def LeadsTo (w : Workspace) (p : Path) (l : Location) : Prop :=
  w.walk (w.origin p.anchor) p.components = .ok l

theorem LeadsTo.get?_eq (hw : w.WellFormed) {p : Path} {l : Location} (h : w.LeadsTo p l) :
    w.tree.get? l = some .directory :=
  walk_directory (origin_directory hw p.anchor) h

theorem exists_leadsTo_of_slot {base : Path} {names : List String} {l : Location}
    (hnames : names ≠ []) (hup : ".." ∉ names)
    (h : w.slot { base with components := base.components ++ names } = .ok (some l)) :
    ∃ root, w.LeadsTo base root ∧ l = root ++ names := by
  obtain ⟨-, above, name, hlast, -, -, hwalk, rfl⟩ := slot_eq_ok_some_iff.mp h
  -- the last component is one of the names, so the others are followed from the base
  rw [List.getLast?_append_of_ne_nil _ hnames, List.getLast?_eq_some_iff] at hlast
  obtain ⟨names, rfl⟩ := hlast
  rw [← List.append_assoc, List.dropLast_concat, walk_append, bind_eq_ok_iff] at hwalk
  obtain ⟨root, hroot, hbelow⟩ := hwalk
  have habove := walk_eq_append (fun hmem ↦ hup (List.mem_append_left _ hmem)) hbelow
  exact ⟨root, hroot, by rw [habove, List.append_assoc]⟩

theorem not_leadsTo_of_text? {p : Path} {l : Location} {content : String}
    (hslot : w.slot p = .ok (some l)) (htext : w.tree.text? l = some content) (l' : Location) :
    ¬w.LeadsTo p l' := by
  intro hleads
  obtain ⟨-, above, name, hlast, hname, -, hwalk, rfl⟩ := slot_eq_ok_some_iff.mp hslot
  obtain ⟨names, hnames⟩ := List.getLast?_eq_some_iff.mp hlast
  rw [hnames, List.dropLast_concat] at hwalk
  rw [LeadsTo, hnames, walk_append, hwalk] at hleads
  -- the last step would have to enter the file
  change w.walk above [name] = .ok l' at hleads
  rw [walk_cons, bind_eq_ok_iff] at hleads
  obtain ⟨l₁, henter, -⟩ := hleads
  rw [enter, if_neg hname] at henter
  split at henter
  · cases henter
  · split at henter
    · rename_i hdirectory
      rw [FileTree.text?, hdirectory] at htext
      cases htext
    · cases henter
    · cases henter

/-- A file that is named from a path on stands below the directory that the path leads to, or in
place of it. -/
theorem below_of_slot (hw : w.WellFormed) {base : Path} {names : List String} {l : Location}
    {content : String} (hup : ".." ∉ names)
    (hslot : w.slot { base with components := base.components ++ names } = .ok (some l))
    (htext : w.tree.text? l = some content) :
    (names ≠ [] ∧ ∃ root, w.LeadsTo base root ∧ w.tree.get? root = some .directory ∧
        l = root ++ names) ∨
      (names = [] ∧ ∀ root, ¬w.LeadsTo base root) := by
  by_cases hnames : names = []
  · rw [hnames, List.append_nil] at hslot
    exact .inr ⟨hnames, not_leadsTo_of_text? hslot htext⟩
  · obtain ⟨root, hroot, hl⟩ := exists_leadsTo_of_slot hnames hup hslot
    exact .inl ⟨hnames, root, hroot, hroot.get?_eq hw, hl⟩

end Workspace

/-! ## Writing -/

/-- **Relative outputs stay below the output root, if they name anything.** Take a relative path
text without a double dot, and suppose that a declaration is written for it. The path that is
returned is the output root with the components of the text, and the declaration stands in a file
where it leads. If there are components, then the output root leads to a directory, and the file is
below that directory, where the components say. If there are none, the output root leads to no
directory: the file is what stands there. -/
theorem write_below_root {w : Workspace} (hw : w.WellFormed) {d : Declaration} {config : Config}
    {text : String} {form : Form} {p : Path}
    (hrelative : (Path.ofString text).isAbsolute = false)
    (hup : ".." ∉ (Path.ofString text).components)
    (h : (d.write w config (Path.ofString text) form).outcome = .ok p) :
    let names := (Path.ofString text).components
    let after := (d.write w config (Path.ofString text) form).workspace
    p = { config.outputRoot with components := config.outputRoot.components ++ names } ∧
      ∃ (l : Location) (content : String), after.location? p = some l ∧
        d.render config form = .ok content ∧ after.tree.text? l = some content ∧
        ((names ≠ [] ∧ ∃ root, after.LeadsTo config.outputRoot root ∧
            after.tree.get? root = some .directory ∧ l = root ++ names) ∨
          (names = [] ∧ ∀ root, ¬after.LeadsTo config.outputRoot root)) := by
  intro names after
  have hdestination : config.destination (Path.ofString text) =
      { config.outputRoot with components := config.outputRoot.components ++ names } := by
    rw [Config.destination, Path.join, if_neg (by rw [hrelative]; exact Bool.false_ne_true)]
  obtain ⟨content, l, hrender, hending, hslot, hfollows⟩ | ⟨e, herror, -⟩ :=
    d.write_spec hw config (Path.ofString text) form
  · obtain ⟨rfl, hcontent⟩ :=
      RawText.ending_eq_ok_iff.mp (mapError_eq_ok_iff.mp (hending.symm.trans h))
    have htext := hfollows.text?_written
    have hlocation := Workspace.location?_of_slot hslot
    rw [hdestination] at hslot
    exact ⟨hdestination, l, content.stored, hlocation, hcontent ▸ hrender, htext,
      Workspace.below_of_slot hfollows.wellFormed hup hslot htext⟩
  · cases h.symm.trans herror

/-- An output root that is missing at first: a path below it makes it a directory, a single dot
makes it a file. -/
theorem write_below_root_of_missing :
    let home : Workspace := { directory := ["home"], tree := .directory "home" .empty .empty }
    let config : Config := { maxArity := 0, outputRoot := ⟨.root, ["home", "out"]⟩ }
    let d : Declaration := { kind := "partial", target := "flow", maxArity := 0, separator := "" }
    let below := d.write home config (Path.ofString "a//./b") .bare
    let dot := d.write home config (Path.ofString ".") .bare
    (below.outcome = .ok ⟨.root, ["home", "out", "a", "b"]⟩ ∧
      ∃ root, below.workspace.LeadsTo config.outputRoot root ∧
        below.workspace.tree.text? (root ++ ["a", "b"]) = some "\n") ∧
      dot.outcome = .ok config.outputRoot ∧
        ∀ root, ¬dot.workspace.LeadsTo config.outputRoot root := by
  intro home config d below dot
  have hhome : home.WellFormed := by decide
  have hbelow : below.outcome = .ok ⟨.root, ["home", "out", "a", "b"]⟩ := by decide +kernel
  have hdot : dot.outcome = .ok config.outputRoot := by decide +kernel
  have hnames : (Path.ofString "a//./b").components = ["a", "b"] := by decide +kernel
  have hnone : (Path.ofString ".").components = [] := by decide +kernel
  have hrender : d.render config .bare = .ok "\n" := by decide +kernel
  constructor
  · have hup : ".." ∉ (Path.ofString "a//./b").components := by
      rw [hnames]
      decide
    obtain ⟨-, l, content, -, hcontent, htext, ⟨-, root, hroot, -, rfl⟩ | ⟨hempty, -⟩⟩ :=
      write_below_root hhome (by decide +kernel) hup hbelow
    · obtain rfl : "\n" = content :=
        RawText.ofString_inj (Except.ok.inj (hrender.symm.trans hcontent))
      rw [hnames] at htext
      exact ⟨hbelow, root, hroot, htext⟩
    · cases hnames.symm.trans hempty
  · have hup : ".." ∉ (Path.ofString ".").components := by
      rw [hnone]
      exact List.not_mem_nil
    obtain ⟨-, l, -, -, -, -, ⟨hsome, -⟩ | ⟨-, hleads⟩⟩ :=
      write_below_root hhome (by decide +kernel) hup hdot
    · exact absurd hnone hsome
    · exact ⟨hdot, hleads⟩

end PerArity
