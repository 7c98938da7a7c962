/-!
# Half-open ranges of indices

The range from `start` to `stop` holds the integers `i` with `start ≤ i < stop`, in ascending order;
it is empty when `stop ≤ start`, wherever the two lie.

## Traversal

`traverse` runs a failing action along a range and stops at the first failure, without building the
list of indices: a range may be far longer than the stretch of it on which the action succeeds.
`traverse_eq_mapM` says that nothing else distinguishes it from `List.mapM` over `toList`.
-/

namespace PerArity

/-- The integers from `start` up to, but not including, `stop`. -/
structure IndexRange where
  /-- The least index, if there is one. -/
  start : Int
  /-- The bound that all indices stay below. -/
  stop : Int
  deriving DecidableEq

namespace IndexRange

/-- The number of indices. -/
def size (r : IndexRange) : Nat := (r.stop - r.start).toNat

/-- The indices in ascending order. -/
def toList (r : IndexRange) : List Int := (List.range r.size).map fun (k : Nat) ↦ r.start + k

@[simp] theorem length_toList (r : IndexRange) : r.toList.length = r.size := by simp [toList]

theorem mem_toList {r : IndexRange} {i : Int} : i ∈ r.toList ↔ r.start ≤ i ∧ i < r.stop := by
  simp only [toList, size, List.mem_map, List.mem_range]
  constructor
  · rintro ⟨k, hk, rfl⟩
    omega
  · rintro ⟨h1, h2⟩
    exact ⟨(i - r.start).toNat, by omega, by omega⟩

variable {ε α : Type}

/-- Runs `f` on `count` successive indices from `i` on, up to the first failure. -/
def traverseFrom (f : Int → Except ε α) (i : Int) : Nat → Except ε (List α)
  | 0 => .ok []
  | count + 1 => do
    let a ← f i
    let as ← traverseFrom f (i + 1) count
    return a :: as

/-- Runs `f` on the indices in ascending order, up to the first failure. -/
def traverse (r : IndexRange) (f : Int → Except ε α) : Except ε (List α) :=
  traverseFrom f r.start r.size

private theorem traverseFrom_eq_mapM (f : Int → Except ε α) (i : Int) (count : Nat) :
    traverseFrom f i count = ((List.range count).map fun (k : Nat) ↦ i + k).mapM f := by
  induction count generalizing i with
  | zero => rfl
  | succ count ih =>
    rw [traverseFrom, ih, List.range_succ_eq_map, List.map_cons, List.mapM_cons, List.map_map]
    simp only [Int.natCast_zero, Int.add_zero]
    congr 3
    funext a
    congr 3
    funext k
    simp only [Function.comp_apply, Nat.succ_eq_add_one, Int.natCast_add, Int.natCast_one]
    omega

theorem traverse_eq_mapM (r : IndexRange) (f : Int → Except ε α) :
    r.traverse f = r.toList.mapM f :=
  traverseFrom_eq_mapM f r.start r.size

end IndexRange

end PerArity
