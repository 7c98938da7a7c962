import PerArity.Workspace

/-!
# What stands in a tree

A tree is read in two ways: by looking a location up, and by listing all its entries. In a
well-formed tree the two agree (`FileTree.mem_entries_iff`), so no location is listed both as a file
and as a directory, and the directory above an entry is listed with it or is the root. `text?` keeps
of a look-up what matters for files.
-/

namespace PerArity

/-- The text of a file; a directory has none. -/
def Entry.text? : Entry → Option String
  | directory => none
  | file content => some content

namespace FileTree

/-! ## Files -/

/-- The text of the file at a location, if there is one. -/
def text? (t : FileTree) (l : Location) : Option String := (t.get? l).bind Entry.text?

theorem text?_eq_none_iff {t : FileTree} {l : Location} :
    t.text? l = none ↔ t.get? l = none ∨ t.get? l = some .directory := by
  rw [text?]
  rcases t.get? l with - | - | content <;> simp [Entry.text?]

/-- Where no file stands, a directory is there or can be put there. -/
theorem get?_or_directory {t : FileTree} {l : Location} (h : t.text? l = none) :
    (t.get? l).or (some .directory) = some .directory := by
  rcases text?_eq_none_iff.mp h with hget | hget
  · rw [hget, Option.none_or]
  · rw [hget, Option.some_or]

theorem text?_insert {t : FileTree} {l : Location} {e : Entry}
    (hparent : t.get? l.dropLast = some .directory) (hfree : t.get? l ≠ some .directory)
    (l' : Location) :
    (t.insert l e).text? l' = if l' = l then e.text? else t.text? l' := by
  rw [text?, text?, get?_insert hparent hfree]
  split <;> rfl

/-! ## Entries -/

private theorem get?_of_notMem_names {t : FileTree} {name : String} (h : name ∉ t.names)
    (l : Location) : t.get? (name :: l) = none := by
  induction t with
  | empty => rfl
  | file n content rest ih =>
    obtain ⟨hne, hrest⟩ := List.ne_and_not_mem_of_not_mem_cons h
    rw [get?, if_neg (Ne.symm hne), ih hrest]
  | directory n inside rest _ ih =>
    obtain ⟨hne, hrest⟩ := List.ne_and_not_mem_of_not_mem_cons h
    rw [get?, if_neg (Ne.symm hne), ih hrest]

/-- The entries of a well-formed tree are what stands in it below the root. -/
theorem mem_entries_iff {t : FileTree} (ht : t.WellFormed) {l : Location} {e : Entry} :
    (l, e) ∈ t.entries ↔ l ≠ [] ∧ t.get? l = some e := by
  induction t generalizing l e with
  | empty => cases l <;> simp [entries, get?]
  | file name content rest ih =>
    obtain ⟨hname, hrest⟩ := ht
    rw [entries, List.mem_cons, ih hrest, Prod.mk.injEq]
    rcases l with - | ⟨first, l⟩
    · simp
    by_cases hn : name = first
    · -- the name occurs nowhere else, so the other entries say nothing about it
      subst hn
      rw [get?_of_notMem_names hname, get?, if_pos rfl]
      cases l <;> simp [eq_comm]
    · simp [get?, hn, Ne.symm hn]
  | directory name inside rest ihInside ihRest =>
    obtain ⟨hname, hinside, hrest⟩ := ht
    have hmap : ∀ f : Location × Entry → Location × Entry, (∀ l e, f (l, e) = (name :: l, e)) →
        ((l, e) ∈ inside.entries.map f ↔
          ∃ l₀, l = name :: l₀ ∧ l₀ ≠ [] ∧ inside.get? l₀ = some e) := by
      intro f hf
      rw [List.mem_map]
      constructor
      · rintro ⟨⟨l₀, e₀⟩, hmem, heq⟩
        obtain ⟨rfl, rfl⟩ := Prod.mk.inj ((hf l₀ e₀).symm.trans heq)
        exact ⟨l₀, rfl, (ihInside hinside).mp hmem⟩
      · rintro ⟨l₀, rfl, hmem⟩
        exact ⟨(l₀, e), (ihInside hinside).mpr hmem, hf l₀ e⟩
    rw [entries, List.cons_append, List.mem_cons, List.mem_append, hmap _ fun _ _ ↦ rfl,
      ihRest hrest, Prod.mk.injEq]
    rcases l with - | ⟨first, l⟩
    · simp
    by_cases hn : name = first
    · subst hn
      rw [get?_of_notMem_names hname, get?, if_pos rfl]
      cases l <;> simp [eq_comm]
    · simp [get?, hn, Ne.symm hn]

end FileTree

end PerArity
