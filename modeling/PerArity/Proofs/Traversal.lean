import PerArity.IndexRange

/-!
# How a traversal ends

A traversal runs a failing action on one item after the other. It succeeds exactly when the action
succeeds on every item, and otherwise its failure is that of the first item on which the action
fails, whatever the later items would do. Both facts are stated for lists and then for ranges of
indices, which also split at any index between their ends. Two computations after each other succeed
exactly when both do.
-/

namespace PerArity

variable {ε α β : Type}

/-! ## Two computations -/

theorem bind_eq_ok_iff {x : Except ε α} {f : α → Except ε β} {b : β} :
    x >>= f = .ok b ↔ ∃ a, x = .ok a ∧ f a = .ok b := by
  cases x <;> simp [bind, Except.bind]

theorem map_eq_ok_iff {x : Except ε α} {f : α → β} {b : β} :
    x.map f = .ok b ↔ ∃ a, x = .ok a ∧ f a = b := by
  cases x <;> simp [Except.map]

theorem map_eq_error_iff {x : Except ε α} {f : α → β} {e : ε} :
    x.map f = .error e ↔ x = .error e := by
  cases x <;> simp [Except.map]

theorem exists_of_isOk {x : Except ε α} (h : x.isOk = true) : ∃ a, x = .ok a := by
  cases x with
  | error e => cases h
  | ok a => exact ⟨a, rfl⟩

theorem map_bind {γ : Type} (x : Except ε α) (f : α → Except ε β) (g : β → γ) :
    (x >>= f).map g = x >>= fun a ↦ (f a).map g := by
  cases x <;> rfl

theorem mapError_eq_ok_iff {x : Except ε α} {f : ε → β} {a : α} :
    x.mapError f = .ok a ↔ x = .ok a := by
  cases x with
  | error e => exact ⟨nofun, nofun⟩
  | ok b => exact ⟨fun h ↦ congrArg _ (Except.ok.inj h), fun h ↦ congrArg _ (Except.ok.inj h)⟩

/-! ## Lists -/

theorem mapM_eq_ok_iff {f : α → Except ε β} {l : List α} {bs : List β} :
    l.mapM f = .ok bs ↔ l.map f = bs.map .ok := by
  induction l generalizing bs with
  | nil => cases bs <;> simp [pure, Except.pure]
  | cons a l ih =>
    rw [List.mapM_cons, bind_eq_ok_iff, List.map_cons]
    constructor
    · rintro ⟨b, hb, htail⟩
      obtain ⟨rest, hrest, hbs⟩ := bind_eq_ok_iff.mp htail
      obtain rfl := Except.ok.inj hbs
      rw [List.map_cons, hb, ih.mp hrest]
    · intro h
      obtain ⟨b, rest, rfl, hb, hrest⟩ := List.map_eq_cons_iff.mp h.symm
      exact ⟨b, hb.symm, bind_eq_ok_iff.mpr ⟨rest, ih.mpr hrest.symm, rfl⟩⟩

theorem length_of_mapM {f : α → Except ε β} {l : List α} {bs : List β} (h : l.mapM f = .ok bs) :
    bs.length = l.length := by
  have hlength := congrArg List.length (mapM_eq_ok_iff.mp h)
  rw [List.length_map, List.length_map] at hlength
  exact hlength.symm

theorem exists_of_mem_mapM {f : α → Except ε β} {l : List α} {bs : List β} {b : β}
    (h : l.mapM f = .ok bs) (hb : b ∈ bs) : ∃ a ∈ l, f a = .ok b := by
  rw [mapM_eq_ok_iff] at h
  have hmem : Except.ok b ∈ l.map f := by
    rw [h]
    exact List.mem_map_of_mem hb
  exact List.mem_map.mp hmem

theorem exists_mem_of_mapM {f : α → Except ε β} {l : List α} {bs : List β} {a : α}
    (h : l.mapM f = .ok bs) (ha : a ∈ l) : ∃ b ∈ bs, f a = .ok b := by
  rw [mapM_eq_ok_iff] at h
  have hmem : f a ∈ bs.map Except.ok := by
    rw [← h]
    exact List.mem_map_of_mem ha
  obtain ⟨b, hb, heq⟩ := List.mem_map.mp hmem
  exact ⟨b, hb, heq.symm⟩

theorem mapM_eq_ok_map {f : α → Except ε β} {g : α → β} {l : List α}
    (h : ∀ a ∈ l, f a = .ok (g a)) : l.mapM f = .ok (l.map g) := by
  rw [mapM_eq_ok_iff, List.map_map]
  exact List.map_congr_left h

theorem exists_mapM_eq_ok {f : α → Except ε β} {l : List α} (h : ∀ a ∈ l, ∃ b, f a = .ok b) :
    ∃ bs, l.mapM f = .ok bs ∧ bs.length = l.length := by
  induction l with
  | nil => exact ⟨[], rfl, rfl⟩
  | cons a l ih =>
    obtain ⟨b, hb⟩ := h a List.mem_cons_self
    obtain ⟨bs, hbs, hlength⟩ := ih fun c hc ↦ h c (List.mem_cons_of_mem a hc)
    refine ⟨b :: bs, ?_, by rw [List.length_cons, List.length_cons, hlength]⟩
    rw [List.mapM_cons, hb, hbs]
    rfl

/-- Where the results of one action are those of another one under a map, so are the results of the
traversals. -/
theorem mapM_map_results {γ : Type} {f : α → Except ε β} {f' : α → Except ε γ} {g : β → γ}
    {l : List α} (h : ∀ a ∈ l, f' a = (f a).map g) : l.mapM f' = (l.mapM f).map (List.map g) := by
  induction l with
  | nil => rfl
  | cons a l ih =>
    rw [List.mapM_cons, List.mapM_cons, h a List.mem_cons_self,
      ih fun b hb ↦ h b (List.mem_cons_of_mem a hb)]
    cases f a with
    | error e => rfl
    | ok b => cases l.mapM f <;> rfl

/-- The failure of a traversal is that of the first item on which the action fails. -/
theorem mapM_eq_error {f : α → Except ε β} {before after : List α} {a : α} {e : ε}
    (hbefore : ∀ b ∈ before, ∃ c, f b = .ok c) (ha : f a = .error e) :
    (before ++ a :: after).mapM f = .error e := by
  induction before with
  | nil =>
    rw [List.nil_append, List.mapM_cons, ha]
    rfl
  | cons b before ih =>
    obtain ⟨c, hc⟩ := hbefore b List.mem_cons_self
    rw [List.cons_append, List.mapM_cons, hc,
      ih fun d hd ↦ hbefore d (List.mem_cons_of_mem b hd)]
    rfl

namespace IndexRange

/-! ## Ranges -/

theorem toList_eq_nil {start stop : Int} (h : stop ≤ start) : (mk start stop).toList = [] := by
  rw [← List.length_eq_zero_iff, length_toList]
  exact Int.toNat_of_nonpos (Int.sub_nonpos_of_le h)

theorem toList_append {start middle stop : Int} (h : start ≤ middle) (h' : middle ≤ stop) :
    (mk start middle).toList ++ (mk middle stop).toList = (mk start stop).toList := by
  have hsize : (stop - start).toNat = (middle - start).toNat + (stop - middle).toNat := by omega
  simp only [toList, size]
  rw [hsize, List.range_add, List.map_append, List.map_map]
  congr 1
  refine List.map_congr_left fun k _ ↦ ?_
  rw [Function.comp_apply]
  omega

theorem toList_eq_cons {start stop : Int} (h : start < stop) :
    (mk start stop).toList = start :: (mk (start + 1) stop).toList := by
  have hone : (mk start (start + 1)).toList = [start] := by
    simp only [toList, size]
    rw [show (start + 1 - start).toNat = 1 by omega]
    simp
  have hsplit := toList_append (show start ≤ start + 1 by omega) (show start + 1 ≤ stop by omega)
  rw [← hsplit, hone, List.singleton_append]

theorem pairwise_toList (r : IndexRange) : r.toList.Pairwise (· < ·) := by
  rw [toList, List.pairwise_map]
  exact List.pairwise_lt_range.imp fun h ↦ Int.add_lt_add_left (Int.ofNat_lt.mpr h) r.start

theorem getElem?_toList {start stop : Int} {k : Nat} (h : start + k < stop) :
    (mk start stop).toList[k]? = some (start + k) := by
  have hk : k < (stop - start).toNat := by omega
  rw [toList, List.getElem?_map, size, List.getElem?_range hk]
  rfl

variable {f : Int → Except ε α}

theorem exists_traverse_eq_ok {r : IndexRange}
    (h : ∀ i, r.start ≤ i → i < r.stop → ∃ a, f i = .ok a) :
    ∃ as, r.traverse f = .ok as ∧ as.length = r.size := by
  rw [traverse_eq_mapM, ← length_toList]
  apply exists_mapM_eq_ok
  intro i hi
  obtain ⟨hstart, hstop⟩ := mem_toList.mp hi
  exact h i hstart hstop

/-- Running along a range fails like the least index at which the action fails. -/
theorem traverse_eq_error {r : IndexRange} {k : Int} {e : ε} (hk : r.start ≤ k) (hk' : k < r.stop)
    (hbefore : ∀ i, r.start ≤ i → i < k → ∃ a, f i = .ok a) (hf : f k = .error e) :
    r.traverse f = .error e := by
  rw [traverse_eq_mapM, ← toList_append hk (Int.le_of_lt hk'), toList_eq_cons hk']
  refine mapM_eq_error ?_ hf
  intro i hi
  obtain ⟨hstart, hstop⟩ := mem_toList.mp hi
  exact hbefore i hstart hstop

end IndexRange

end PerArity
