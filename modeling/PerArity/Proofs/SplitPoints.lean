import Mathlib.Data.List.Sort
import Mathlib.Data.Prod.Lex
import Mathlib.Tactic.Ring
import PerArity.Proofs.Traversal
import PerArity.SplitPoint

/-!
# The split points below a bound

The list of split points is a triangle: the row of an arity has one point for each number of
arguments from one up to the arity, and the rows stand one below the other. So the points of a
smaller bound are a first part of the points of a larger one, and `points_eq_append` says which
point comes next.

The points stand in lexicographic order. Two lists in a strict order that have the same points are
the same list, so a row can be described by its points alone: it is what the triangle has of its
arity, and it is the row that is found by counting down, read backwards. The place of a point in the
triangle is the number of points in the rows above it plus its place in its own row.
-/

namespace PerArity.SplitPoint

/-- The rows of the arities from zero up to a bound. -/
def points (maxArity : Int) : List SplitPoint := (IndexRange.mk 0 maxArity).toList.flatMap ofArity

theorem below_eq_ok {n : Int} (h : 0 ≤ n) : below n = .ok (points n) := by
  rw [below, aritiesBelow, if_neg (Int.not_lt.mpr h)]
  rfl

theorem below_eq_error {n : Int} (h : n < 0) :
    below n = .error (.about n (.invalidArity n)) := by
  rw [below, aritiesBelow, if_pos h]
  rfl

theorem of_below {n : Int} {ps : List SplitPoint} (h : below n = .ok ps) :
    0 ≤ n ∧ ps = points n := by
  rcases Int.lt_or_le n 0 with hneg | hpos
  · rw [below_eq_error hneg] at h
    cases h
  · rw [below_eq_ok hpos] at h
    exact ⟨hpos, (Except.ok.inj h).symm⟩

theorem mem_ofArity {a : Int} {p : SplitPoint} :
    p ∈ ofArity a ↔ p.arity = a ∧ 1 ≤ p.bound ∧ p.bound ≤ a := by
  rw [ofArity, List.mem_map]
  constructor
  · rintro ⟨b, hb, rfl⟩
    obtain ⟨h1, h2⟩ := IndexRange.mem_toList.mp hb
    exact ⟨rfl, h1, Int.lt_add_one_iff.mp h2⟩
  · rintro ⟨rfl, h1, h2⟩
    exact ⟨p.bound, IndexRange.mem_toList.mpr ⟨h1, Int.lt_add_one_iff.mpr h2⟩, rfl⟩

theorem mem_points {n : Int} {p : SplitPoint} :
    p ∈ points n ↔ 1 ≤ p.bound ∧ p.bound ≤ p.arity ∧ p.arity < n := by
  rw [points, List.mem_flatMap]
  constructor
  · rintro ⟨a, ha, hp⟩
    obtain ⟨-, hlt⟩ := IndexRange.mem_toList.mp ha
    obtain ⟨rfl, h1, h2⟩ := mem_ofArity.mp hp
    exact ⟨h1, h2, hlt⟩
  · rintro ⟨h1, h2, h3⟩
    have h0 : 0 ≤ p.arity := by omega
    exact ⟨p.arity, IndexRange.mem_toList.mpr ⟨h0, h3⟩, mem_ofArity.mpr ⟨rfl, h1, h2⟩⟩

/-! ## Growing the bound -/

theorem points_add_one {n : Int} (h : 0 ≤ n) : points (n + 1) = points n ++ ofArity n := by
  have hlast : (IndexRange.mk n (n + 1)).toList = [n] := by
    rw [IndexRange.toList_eq_cons (by omega), IndexRange.toList_eq_nil (by omega)]
  rw [points, ← IndexRange.toList_append h (by omega), List.flatMap_append, hlast,
    List.flatMap_singleton, points]

/-- After the rows above it stands the row of an arity. -/
theorem points_eq_append_row {a n : Int} (h : 0 ≤ a) (h' : a < n) :
    ∃ rest, points n = points a ++ (ofArity a ++ rest) := by
  rw [points, ← IndexRange.toList_append h (Int.le_of_lt h'), List.flatMap_append,
    IndexRange.toList_eq_cons h', List.flatMap_cons]
  exact ⟨_, rfl⟩

/-- After the points below `k` the next one is the first of the arity `k`. -/
theorem points_eq_append {k n : Int} (hk : 1 ≤ k) (hn : k < n) :
    ∃ rest, points n = points k ++ ⟨k, 1⟩ :: rest := by
  have hrow : ofArity k = ⟨k, 1⟩ :: (IndexRange.mk 2 (k + 1)).toList.map (⟨k, ·⟩) := by
    rw [ofArity, IndexRange.toList_eq_cons (by omega)]
    rfl
  obtain ⟨rest, hrest⟩ := points_eq_append_row (Int.le_trans Int.one_nonneg hk) hn
  rw [hrest, hrow, List.cons_append]
  exact ⟨_, rfl⟩

theorem length_ofArity (n : Nat) : (ofArity n).length = n := by
  rw [ofArity, List.length_map, IndexRange.length_toList]
  simp [IndexRange.size]

theorem length_points {n : Int} (h : 0 ≤ n) : ((points n).length : Int) = n * (n - 1) / 2 := by
  obtain ⟨n, rfl⟩ := Int.eq_ofNat_of_zero_le h
  -- twice the number of points grows by twice a row, which needs no division
  have hdouble : 2 * ((points n).length : Int) = n * (n - 1) := by
    induction n with
    | zero => rfl
    | succ n ih =>
      rw [Int.natCast_add, Int.natCast_one, points_add_one (Int.natCast_nonneg n),
        List.length_append, length_ofArity, Int.natCast_add, mul_add, ih (Int.natCast_nonneg n)]
      ring
  omega

/-! ## The order of the points -/

/-- The order in which points are listed: by arity, and within an arity by the number of parameters
given up front. -/
def Precedes (p q : SplitPoint) : Prop := toLex (p.arity, p.bound) < toLex (q.arity, q.bound)

instance : Std.Irrefl Precedes := ⟨fun _ ↦ lt_irrefl _⟩

instance : Std.Antisymm Precedes := ⟨fun _ _ h h' ↦ absurd h' (lt_asymm h)⟩

theorem precedes_of_arity_lt {p q : SplitPoint} (h : p.arity < q.arity) : Precedes p q :=
  Prod.Lex.toLex_lt_toLex.mpr (.inl h)

theorem precedes_of_bound_lt {a b b' : Int} (h : b < b') : Precedes ⟨a, b⟩ ⟨a, b'⟩ :=
  Prod.Lex.toLex_lt_toLex.mpr (.inr ⟨rfl, h⟩)

theorem pairwise_ofArity (a : Int) : (ofArity a).Pairwise Precedes := by
  rw [ofArity, List.pairwise_map]
  exact (IndexRange.pairwise_toList _).imp precedes_of_bound_lt

theorem pairwise_points (n : Int) : (points n).Pairwise Precedes := by
  rw [points, List.pairwise_flatMap]
  constructor
  · intro a _
    exact pairwise_ofArity a
  · refine (IndexRange.pairwise_toList _).imp fun hlt p hp q hq ↦ precedes_of_arity_lt ?_
    rwa [(mem_ofArity.mp hp).1, (mem_ofArity.mp hq).1]

theorem ofArity_eq_filter {a n : Int} (h : a < n) :
    ofArity a = (points n).filter (·.arity = a) := by
  refine (pairwise_ofArity a).eq_of_mem_iff ((pairwise_points n).filter _) fun p ↦ ?_
  rw [List.mem_filter, mem_points, mem_ofArity, decide_eq_true_iff]
  omega

/-- Counting the arguments given down from all of them gives a row from its end. -/
theorem ofArity_eq_reverse (a : Int) :
    ofArity a = ((IndexRange.mk 0 a).toList.map fun k ↦ ⟨a, a - k⟩).reverse := by
  refine (pairwise_ofArity a).eq_of_mem_iff ?_ fun p ↦ ?_
  · rw [List.pairwise_reverse, List.pairwise_map]
    exact (IndexRange.pairwise_toList _).imp fun h ↦ precedes_of_bound_lt (Int.sub_lt_sub_left h a)
  · rw [List.mem_reverse, List.mem_map, mem_ofArity]
    constructor
    · rintro ⟨rfl, hpos, hle⟩
      have hrange : 0 ≤ p.arity - p.bound ∧ p.arity - p.bound < p.arity := by omega
      exact ⟨_, IndexRange.mem_toList.mpr hrange, by rw [Int.sub_sub_self]⟩
    · rintro ⟨k, hk, rfl⟩
      obtain ⟨hstart, hstop⟩ : 0 ≤ k ∧ k < a := IndexRange.mem_toList.mp hk
      exact ⟨rfl, show 1 ≤ a - k by omega, show a - k ≤ a by omega⟩

theorem ofArity_eq_nil_iff {a : Int} : ofArity a = [] ↔ a ≤ 0 := by
  rw [ofArity, List.map_eq_nil_iff, ← List.length_eq_zero_iff, IndexRange.length_toList]
  change (a + 1 - 1).toNat = 0 ↔ a ≤ 0
  omega

/-! ## The places of the points -/

theorem getElem?_ofArity {a : Int} {k : Nat} (h : k < a) : (ofArity a)[k]? = some ⟨a, 1 + k⟩ := by
  rw [ofArity, List.getElem?_map, IndexRange.getElem?_toList (by omega)]
  rfl

/-- Every point has a place: the rows of the smaller arities stand before it, and of its own row the
points with fewer arguments given. -/
theorem exists_place {n : Int} {p : SplitPoint} (hp : p ∈ points n) :
    ∃ i : Nat, (i : Int) = p.arity * (p.arity - 1) / 2 + p.bound - 1 ∧
      (points n)[i]? = some p := by
  obtain ⟨hpos, hle, hlt⟩ := mem_points.mp hp
  have harity : 0 ≤ p.arity := by omega
  obtain ⟨k, hk⟩ := Int.eq_ofNat_of_zero_le (show 0 ≤ p.bound - 1 by omega)
  refine ⟨(points p.arity).length + k, ?_, ?_⟩
  · rw [Int.natCast_add, length_points harity, ← hk, Int.add_sub_assoc]
  · obtain ⟨rest, hrest⟩ := points_eq_append_row harity hlt
    have hrow : (ofArity p.arity)[k]? = some p := by
      rw [getElem?_ofArity (by omega), ← hk, add_sub_cancel]
    have hsize : k < (ofArity p.arity).length := (List.getElem?_eq_some_iff.mp hrow).1
    rw [hrest, List.getElem?_append_right (Nat.le_add_right _ _), Nat.add_sub_cancel_left,
      List.getElem?_append_left hsize, hrow]

theorem getElem?_points_iff {n : Int} {p : SplitPoint} (hp : p ∈ points n) {i : Nat} :
    (points n)[i]? = some p ↔ (i : Int) = p.arity * (p.arity - 1) / 2 + p.bound - 1 := by
  obtain ⟨j, hj, hpoint⟩ := exists_place hp
  have hlt : j < (points n).length := (List.getElem?_eq_some_iff.mp hpoint).1
  constructor
  · intro hi
    -- no point is listed twice, so a place of the point is the one that is known
    obtain rfl := (List.getElem?_inj hlt (pairwise_points n).nodup).mp (hpoint.trans hi.symm)
    exact hj
  · intro hi
    obtain rfl : i = j := by omega
    exact hpoint

/-! ## The enumeration -/

example : below 4 = .ok [⟨1, 1⟩, ⟨2, 1⟩, ⟨2, 2⟩, ⟨3, 1⟩, ⟨3, 2⟩, ⟨3, 3⟩] := rfl

end PerArity.SplitPoint
