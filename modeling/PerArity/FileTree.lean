/-!
# File trees

A tree holds the entries of a directory: files with their texts and directories with trees of their
own. A location is the list of names on the way down from the root, which is itself a directory and
has no entry. Because every entry stands in the tree of some directory, whatever stands below the
root stands in a directory (`get?_dropLast`). What the type does not demand is that the names in a
directory differ; `FileTree.WellFormed` says so, and then no place is both a file and a directory.

`get?` is the view of a tree: two trees with the same view are the same tree for every purpose, and
`get?_insert` describes the one way in which a tree changes.
-/

namespace PerArity

/-- A place in a tree: the names on the way down from the root. -/
abbrev Location := List String

/-- What stands at a place. -/
inductive Entry where
  /-- A directory. -/
  | directory
  /-- A file and the text in it. -/
  | file (content : String)
  deriving DecidableEq

/-- The entries of a directory, one after the other. -/
inductive FileTree where
  /-- No entries. -/
  | empty
  /-- A file with its text, and the other entries. -/
  | file (name content : String) (rest : FileTree)
  /-- A directory with what is in it, and the other entries. -/
  | directory (name : String) (inside rest : FileTree)
  deriving DecidableEq

namespace FileTree

/-! ## Looking up -/

/-- What stands at a location, if anything does. -/
def get? : FileTree → Location → Option Entry
  | _, [] => some .directory
  | empty, _ :: _ => none
  | file name content rest, first :: l =>
    if name = first then (if l = [] then some (.file content) else none)
    else rest.get? (first :: l)
  | directory name inside rest, first :: l =>
    if name = first then inside.get? l else rest.get? (first :: l)

/-- The entries of the directory at a location, if there is one. -/
def inside? : FileTree → Location → Option FileTree
  | t, [] => some t
  | empty, _ :: _ => none
  | file name _ rest, first :: l => if name = first then none else rest.inside? (first :: l)
  | directory name inside rest, first :: l =>
    if name = first then inside.inside? l else rest.inside? (first :: l)

@[simp] theorem get?_root (t : FileTree) : t.get? [] = some .directory := by cases t <;> rfl

/-- Whatever stands below the root stands in a directory. -/
theorem get?_dropLast {t : FileTree} {l : Location} (h : t.get? l ≠ none) :
    t.get? l.dropLast = some .directory := by
  induction t generalizing l with
  | empty =>
    cases l with
    | nil => simp
    | cons first l => simp [get?] at h
  | file name content rest ih =>
    rcases l with - | ⟨first, - | ⟨second, l⟩⟩
    · simp
    · simp
    · by_cases hn : name = first
      · simp [get?, hn] at h
      · rw [get?, if_neg hn] at h
        rw [List.dropLast_cons_cons, get?, if_neg hn]
        exact ih h
  | directory name inside rest ihInside ihRest =>
    rcases l with - | ⟨first, - | ⟨second, l⟩⟩
    · simp
    · simp
    · by_cases hn : name = first
      · rw [get?, if_pos hn] at h
        rw [List.dropLast_cons_cons, get?, if_pos hn]
        exact ihInside h
      · rw [get?, if_neg hn] at h
        rw [List.dropLast_cons_cons, get?, if_neg hn]
        exact ihRest h

/-! ## Changing -/

/-- The entries of a directory with one more, which is an empty directory or a file. -/
def cons (name : String) : Entry → FileTree → FileTree
  | .directory, rest => directory name empty rest
  | .file content, rest => file name content rest

/-- The tree with an entry put at a location, in place of the one that stood there. Nothing changes
if what is above the location is no directory. -/
def insert : FileTree → Location → Entry → FileTree
  | t, [], _ => t
  | empty, first :: l, e => if l = [] then cons first e empty else empty
  | file name content rest, first :: l, e =>
    if name = first then (if l = [] then cons name e rest else file name content rest)
    else file name content (rest.insert (first :: l) e)
  | directory name inside rest, first :: l, e =>
    if name = first then
      (if l = [] then cons name e rest else directory name (inside.insert l e) rest)
    else directory name inside (rest.insert (first :: l) e)

private theorem get?_cons (name : String) (e : Entry) (rest : FileTree) (first : String)
    (l : Location) :
    (cons name e rest).get? (first :: l) =
      if name = first then (if l = [] then some e else none) else rest.get? (first :: l) := by
  cases e with
  | directory => cases l <;> simp [cons, get?]
  | file content => simp [cons, get?]

private theorem get?_file_of_ne {name first : String} (h : name ≠ first) (content : String)
    (rest : FileTree) (l : Location) :
    (file name content rest).get? (first :: l).dropLast = rest.get? (first :: l).dropLast := by
  cases l with
  | nil => simp
  | cons second l => rw [List.dropLast_cons_cons, get?, if_neg h]

private theorem get?_directory_of_ne {name first : String} (h : name ≠ first)
    (inside rest : FileTree) (l : Location) :
    (directory name inside rest).get? (first :: l).dropLast =
      rest.get? (first :: l).dropLast := by
  cases l with
  | nil => simp
  | cons second l => rw [List.dropLast_cons_cons, get?, if_neg h]

/-- An entry put into a directory, where no directory stood, stands there, and nothing else
changes. -/
theorem get?_insert {t : FileTree} {l l' : Location} {e : Entry}
    (hparent : t.get? l.dropLast = some .directory) (hfree : t.get? l ≠ some .directory) :
    (t.insert l e).get? l' = if l' = l then some e else t.get? l' := by
  induction t generalizing l l' with
  | empty =>
    rcases l with - | ⟨first, - | ⟨second, l⟩⟩
    · simp at hfree
    · rcases l' with - | ⟨first', l'⟩
      · simp
      · by_cases hn : first = first'
        · simp [insert, get?_cons, get?, hn]
        · simp [insert, get?_cons, get?, hn, Ne.symm hn]
    · simp [get?] at hparent
  | file name content rest ih =>
    rcases l with - | ⟨first, l⟩
    · simp at hfree
    rcases l' with - | ⟨first', l'⟩
    · simp
    by_cases hn : name = first
    · subst hn
      rcases l with - | ⟨second, l⟩
      · by_cases hn' : name = first'
        · cases l' <;> simp [insert, get?_cons, get?, hn']
        · simp [insert, get?_cons, get?, hn', Ne.symm hn']
      · rw [List.dropLast_cons_cons, get?, if_pos rfl] at hparent
        split at hparent <;> simp at hparent
    · rw [get?_file_of_ne hn] at hparent
      rw [get?, if_neg hn] at hfree
      rw [insert, if_neg hn, get?, get?]
      by_cases hn' : name = first'
      · have hne : first' :: l' ≠ first :: l := fun h ↦ hn (hn'.trans (List.cons.inj h).1)
        rw [if_pos hn', if_pos hn', if_neg hne]
      · rw [if_neg hn', if_neg hn', ih hparent hfree]
  | directory name inside rest ihInside ihRest =>
    rcases l with - | ⟨first, l⟩
    · simp at hfree
    rcases l' with - | ⟨first', l'⟩
    · simp
    by_cases hn : name = first
    · subst hn
      rcases l with - | ⟨second, l⟩
      · simp [get?] at hfree
      · rw [List.dropLast_cons_cons, get?, if_pos rfl] at hparent
        rw [get?, if_pos rfl] at hfree
        rw [insert, if_pos rfl, if_neg (List.cons_ne_nil second l), get?, get?]
        by_cases hn' : name = first'
        · rw [if_pos hn', if_pos hn', ihInside hparent hfree]
          simp [hn']
        · have hne : first' :: l' ≠ name :: second :: l := fun h ↦ hn' (List.cons.inj h).1.symm
          rw [if_neg hn', if_neg hn', if_neg hne]
    · rw [get?_directory_of_ne hn] at hparent
      rw [get?, if_neg hn] at hfree
      rw [insert, if_neg hn, get?, get?]
      by_cases hn' : name = first'
      · have hne : first' :: l' ≠ first :: l := fun h ↦ hn (hn'.trans (List.cons.inj h).1)
        rw [if_pos hn', if_pos hn', if_neg hne]
      · rw [if_neg hn', if_neg hn', ihRest hparent hfree]

/-! ## Well-formed trees -/

/-- The names in a directory. -/
def names : FileTree → List String
  | empty => []
  | file name _ rest => name :: rest.names
  | directory name _ rest => name :: rest.names

/-- No name stands twice in a directory. -/
def WellFormed : FileTree → Prop
  | empty => True
  | file name _ rest => name ∉ rest.names ∧ rest.WellFormed
  | directory name inside rest => name ∉ rest.names ∧ inside.WellFormed ∧ rest.WellFormed

private theorem names_cons (name : String) (e : Entry) (rest : FileTree) :
    (cons name e rest).names = name :: rest.names := by cases e <;> rfl

private theorem wellFormed_cons {name : String} {e : Entry} {rest : FileTree}
    (hname : name ∉ rest.names) (hrest : rest.WellFormed) : (cons name e rest).WellFormed := by
  cases e with
  | directory => exact ⟨hname, trivial, hrest⟩
  | file content => exact ⟨hname, hrest⟩

private theorem mem_names_insert {t : FileTree} {first name : String} {l : Location} {e : Entry}
    (h : name ∈ (t.insert (first :: l) e).names) : name ∈ t.names ∨ name = first := by
  induction t with
  | empty =>
    rw [insert] at h
    split at h
    · rw [names_cons] at h
      exact .inr (by simpa [names] using h)
    · exact .inl h
  | file n content rest ih =>
    rw [insert] at h
    split at h
    · split at h
      · exact .inl (by simpa [names_cons, names] using h)
      · exact .inl h
    · rcases List.mem_cons.mp h with rfl | h
      · exact .inl (by simp [names])
      · exact (ih h).imp (List.mem_cons_of_mem n) id
  | directory n inside rest _ ih =>
    rw [insert] at h
    split at h
    · split at h
      · exact .inl (by simpa [names_cons, names] using h)
      · exact .inl h
    · rcases List.mem_cons.mp h with rfl | h
      · exact .inl (by simp [names])
      · exact (ih h).imp (List.mem_cons_of_mem n) id

theorem WellFormed.insert {t : FileTree} (h : t.WellFormed) (l : Location) (e : Entry) :
    (t.insert l e).WellFormed := by
  induction t generalizing l with
  | empty =>
    cases l with
    | nil => exact h
    | cons first l =>
      rw [FileTree.insert]
      split
      · exact wellFormed_cons List.not_mem_nil h
      · exact h
  | file name content rest ih =>
    cases l with
    | nil => exact h
    | cons first l =>
      obtain ⟨hname, hrest⟩ := h
      rw [FileTree.insert]
      split
      · split
        · exact wellFormed_cons hname hrest
        · exact ⟨hname, hrest⟩
      · rename_i hn
        exact ⟨fun hm ↦ (mem_names_insert hm).elim hname hn, ih hrest _⟩
  | directory name inside rest ihInside ihRest =>
    cases l with
    | nil => exact h
    | cons first l =>
      obtain ⟨hname, hinside, hrest⟩ := h
      rw [FileTree.insert]
      split
      · split
        · exact wellFormed_cons hname hrest
        · exact ⟨hname, ihInside hinside _, hrest⟩
      · rename_i hn
        exact ⟨fun hm ↦ (mem_names_insert hm).elim hname hn, hinside, ihRest hrest _⟩

/-! ## Listing -/

/-- All entries with their locations. -/
def entries : FileTree → List (Location × Entry)
  | empty => []
  | file name content rest => ([name], .file content) :: rest.entries
  | directory name inside rest =>
    ([name], .directory) :: inside.entries.map (fun (l, e) ↦ (name :: l, e)) ++ rest.entries

/-- An entry with its written path. The path of a directory ends in a slash and comes without a
text. -/
def written : Location × Entry → String × Option String
  | (l, .directory) => ("/".intercalate l ++ "/", none)
  | (l, .file content) => ("/".intercalate l, some content)

/-- The entries below a location, in the order of their written paths. -/
def listing (t : FileTree) (below : Location) : List (String × Option String) :=
  match t.inside? below with
  | none => []
  | some inside => (inside.entries.map written).mergeSort fun a b ↦ a.1 ≤ b.1

end FileTree

end PerArity
