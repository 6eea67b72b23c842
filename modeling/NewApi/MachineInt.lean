import Mathlib.Algebra.Order.BigOperators.Group.List
import Mathlib.Data.List.Nodup
import Mathlib.Tactic.Ring

/-!
The 64 bit integers of Go, and the weighted draw over them: a walk over weighted items takes
the weight of each off a drawn number and stops at the first item that brings it below a limit.
While the weights sum to an int64 no step wraps around. Then the limit 0 gives every item the
share of its weight, and the limit 1 gives the first item one draw more.
-/

namespace NewApi

open List

/-- Two's complement reading of a Go `int64` result. -/
def int64 (value : Int) : Int := Int.bmod value (2 ^ 64)

def maxInt64 : Int := 2 ^ 63 - 1

theorem int64_of_mem {value : Int} (low : -2 ^ 63 ≤ value) (high : value ≤ maxInt64) :
    int64 value = value := by
  unfold maxInt64 at high
  unfold int64
  rw [Int.bmod_def]
  split <;> omega

theorem int64_le (value : Int) : int64 value ≤ maxInt64 := by
  have := @Int.bmod_lt value (2 ^ 64) (by decide)
  unfold int64 maxInt64
  omega

namespace WeightedDraw

variable {Item : Type}

def walk (weight : Item → Int) (limit : Int) : List Item → Int → Option Item
  | [], _ => none
  | item :: rest, drawn =>
      let left := int64 (drawn - weight item)
      if left < limit then some item else walk weight limit rest left

/-- The range of the draw for weights without a bound. -/
def total (weight : Item → Nat) (items : List Item) : Nat := (items.map weight).sum

theorem total_cons (weight : Item → Nat) (item : Item) (rest : List Item) :
    total weight (item :: rest) = weight item + total weight rest := by
  simp [total]

theorem weight_le_total {weight : Item → Nat} {items : List Item} {item : Item}
    (member : item ∈ items) : weight item ≤ total weight items :=
  List.single_le_sum (by simp) _ (mem_map_of_mem member)

theorem sum_eq_total {weight : Item → Nat} {value : Item → Int} {items : List Item}
    (agree : ∀ item ∈ items, value item = weight item) :
    (items.map value).sum = total weight items := by
  induction items with
  | nil => rfl
  | cons item rest ih =>
      obtain ⟨here, later⟩ := forall_mem_cons.1 agree
      rw [map_cons, sum_cons, ih later, here, total_cons, Nat.cast_add]

theorem walk_congr {weight other : Item → Int} {limit : Int} {items : List Item}
    (agree : ∀ item ∈ items, weight item = other item) (drawn : Int) :
    walk weight limit items drawn = walk other limit items drawn := by
  induction items generalizing drawn with
  | nil => rfl
  | cons item rest ih =>
      obtain ⟨here, later⟩ := forall_mem_cons.1 agree
      simp only [walk, here, ih later]

theorem mem_of_walk {weight : Item → Int} {limit drawn : Int} {items : List Item} {item : Item}
    (chosen : walk weight limit items drawn = some item) : item ∈ items := by
  induction items generalizing drawn with
  | nil => cases chosen
  | cons first rest ih =>
      simp only [walk] at chosen
      split at chosen
      · cases chosen
        exact mem_cons_self
      · exact mem_cons_of_mem first (ih chosen)

variable {weight : Item → Nat} {limit : Int}

theorem walk_cons {item : Item} {drawn : Int} (rest : List Item) (fits : weight item ≤ maxInt64)
    (low : 0 ≤ drawn) (high : drawn ≤ maxInt64) :
    walk (fun item => weight item) limit (item :: rest) drawn =
      if drawn - weight item < limit then some item
      else walk (fun item => weight item) limit rest (drawn - weight item) := by
  have exact : int64 (drawn - weight item) = drawn - weight item := by
    unfold maxInt64 at fits high
    exact int64_of_mem (by omega) (by unfold maxInt64; omega)
  simp only [walk, exact]

/-- A number below the total of the weights selects an item. -/
theorem walk_found (items : List Item) (drawn : Int) (stops : 0 ≤ limit) (low : 0 ≤ drawn)
    (below : drawn < total weight items) (fits : total weight items ≤ maxInt64) :
    ∃ item ∈ items, walk (fun item => weight item) limit items drawn = some item := by
  induction items generalizing drawn with
  | nil =>
      simp only [total, map_nil, sum_nil] at below
      omega
  | cons item rest ih =>
      rw [total_cons, Nat.cast_add] at below fits
      rw [walk_cons rest (by omega) low (by omega)]
      split
      · exact ⟨item, mem_cons_self, rfl⟩
      · obtain ⟨other, member, found⟩ := ih (drawn - weight item) (by omega) (by omega) (by omega)
        exact ⟨other, mem_cons_of_mem item member, found⟩

variable [DecidableEq Item]

/-- With the limit 0 an item is selected by as many numbers as it has weight, for each time it
is listed. -/
theorem countP_walk (items : List Item) (item : Item) (fits : total weight items ≤ maxInt64) :
    (List.range (total weight items)).countP
        (fun drawn => walk (fun item => weight item) 0 items (drawn : Nat) = some item) =
      items.count item * weight item := by
  induction items with
  | nil => simp [total]
  | cons first rest ih =>
      rw [total_cons, Nat.cast_add] at fits
      rw [total_cons, range_add, countP_append, countP_map, count_cons, Nat.add_mul, Nat.add_comm]
      congr 1
      · rw [← ih (by omega)]
        apply countP_congr
        intro drawn below
        have := mem_range.1 below
        have step : walk (fun item => weight item) 0 (first :: rest)
            ((weight first + drawn : Nat) : Int) =
              walk (fun item => weight item) 0 rest (drawn : Nat) := by
          rw [walk_cons rest (by omega) (by omega) (by omega), if_neg (by omega)]
          congr 1
          omega
        simp only [Function.comp_apply, step]
      · have here : ∀ drawn ∈ List.range (weight first),
            walk (fun item => weight item) 0 (first :: rest) (drawn : Nat) = some first := by
          intro drawn below
          have := mem_range.1 below
          rw [walk_cons rest (by omega) (by omega) (by omega), if_pos (by omega)]
        by_cases same : first = item
        · rw [countP_eq_length.2 fun drawn below => by simpa [same] using here drawn below]
          simp [same]
        · rw [countP_eq_zero.2 fun drawn below => by simp [here drawn below, same]]
          simp [same]

/-- Distinct outcomes share the draws. -/
theorem sum_count_le_length {outcomes : List Item} (distinct : outcomes.Nodup) (draws : List Item) :
    (outcomes.map fun outcome => draws.count outcome).sum ≤ draws.length := by
  induction draws with
  | nil => simp
  | cons draw rest ih =>
      have once := nodup_iff_count_le_one.1 distinct draw
      have split : (outcomes.map fun outcome => (draw :: rest).count outcome).sum =
          (outcomes.map fun outcome => rest.count outcome).sum + outcomes.count draw := by
        clear once distinct ih
        induction outcomes with
        | nil => rfl
        | cons outcome others step =>
            rw [map_cons, sum_cons, step, map_cons, sum_cons, count_cons, count_cons]
            by_cases same : draw = outcome
            · subst same
              simp only [beq_self_eq_true, if_true]
              omega
            · simp only [beq_iff_eq, same, Ne.symm same, if_false]
              omega
      rw [split, length_cons]
      omega

/-- With the limit 1 the first of several items is selected by one number too many. -/
theorem countP_walk_first {first : Item} {rest : List Item} (only : first ∉ rest)
    (room : 0 < total weight rest) (fits : total weight (first :: rest) ≤ maxInt64) :
    (List.range (total weight (first :: rest))).countP
        (fun drawn => walk (fun item => weight item) 1 (first :: rest) (drawn : Nat) =
          some first) = weight first + 1 := by
  rw [total_cons, Nat.cast_add] at fits
  have split : total weight (first :: rest) = (weight first + 1) + (total weight rest - 1) := by
    rw [total_cons]
    omega
  rw [split, range_add, countP_append, countP_map, countP_eq_length.2, length_range,
    countP_eq_zero.2]
  · intro drawn below
    have := mem_range.1 below
    rw [Function.comp_apply, walk_cons rest (by omega) (by omega) (by omega), if_neg (by omega),
      decide_eq_true_eq]
    exact fun chosen => only (mem_of_walk chosen)
  · intro drawn below
    have := mem_range.1 below
    rw [walk_cons rest (by omega) (by omega) (by omega), if_pos (by omega)]
    exact decide_eq_true rfl

end WeightedDraw

end NewApi
