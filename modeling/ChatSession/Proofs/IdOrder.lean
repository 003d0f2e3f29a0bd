import ChatSession.Proofs.ThreadOrder

/-!
Ordering ids by their first position in a declared order.

`compareIds` ranks an id by its first position in the order, `-1` when it is
absent (`rank`), and answers the sign of the difference of two ranks, the
greater rank first (`compareIds_eq_sign`). So it is a consistent comparator:
swapping its arguments negates it, and the comparison it drives orders ids
totally, ties allowed.

Sorting stably by a number attached to each item, largest first, puts the
items of each number together in the order they came in
(`mergeSort_keyGE_eq_flatMap`). Sorting ids with `compareIds` is such a sort:
for each position from the last to the first, the ids whose first position it
is, then the absent ids, each in the order they came in (`sortIds_eq_buckets`).
Main statement: `compareIds_orders_by_rank`.
-/

namespace ChatSession

variable {α : Type}

/-- Sorting by a number attached to each item, largest first, puts the items of
each number together in the order they came in: those of `n - 1` first, down to
those of `0`. -/
theorem mergeSort_keyGE_eq_flatMap (f : α → Nat) :
    ∀ (n : Nat) (l : List α), (∀ a ∈ l, f a < n) →
      l.mergeSort (fun a b => decide (f b ≤ f a)) =
        (List.range n).reverse.flatMap fun i => l.filter (f · == i)
  | 0, l, hl => by
    have hnil : l = [] := List.eq_nil_iff_forall_not_mem.mpr fun a ha => by
      simpa using hl a ha
    simp [hnil]
  | n + 1, l, hl => by
    have hpre : TotalPreorder fun a b : α => decide (f b ≤ f a) :=
      { trans := fun a b c hab hbc => by simp only [decide_eq_true_eq] at *; omega
        total := fun a b => by simp only [Bool.or_eq_true, decide_eq_true_eq]; omega }
    -- the items of the largest number `n` lead the sorted list
    have hlead : (l.mergeSort fun a b => decide (f b ≤ f a)).Pairwise
        (fun a b => (f b == n) = true → (f a == n) = true) := by
      refine (List.pairwise_mergeSort hpre.trans hpre.total l).imp_of_mem ?_
      intro a b ha _ hab hb
      have hbound := hl a ((List.mergeSort_perm l _).mem_iff.mp ha)
      simp only [decide_eq_true_eq, beq_iff_eq] at hab hb ⊢
      omega
    have htied : ∀ a ∈ l, ∀ b ∈ l, (f a == n) = true → (f b == n) = true →
        decide (f b ≤ f a) = true := by
      intro a _ b _ ha hb
      simp only [beq_iff_eq] at ha hb
      simp [ha, hb]
    have hbelow : ∀ a ∈ l.filter (fun a => !(f a == n)), f a < n := by
      intro a ha
      simp only [List.mem_filter, Bool.not_eq_eq_eq_not, Bool.not_true, beq_eq_false_iff_ne] at ha
      have := hl a ha.1
      omega
    rw [eq_filter_append_of_pairwise hlead, filter_mergeSort_of_tied hpre htied,
      filter_mergeSort hpre, mergeSort_keyGE_eq_flatMap f n _ hbelow, List.range_succ,
      List.reverse_append, List.reverse_singleton, List.singleton_append, List.flatMap_cons]
    congr 1
    -- below `n`, leaving out the items of `n` first changes no class
    refine List.flatMap_congr fun i hi => ?_
    have hin : i < n := List.mem_range.mp (List.mem_reverse.mp hi)
    rw [List.filter_filter]
    refine List.filter_congr fun a _ => ?_
    by_cases ha : f a = i
    · simp [ha, Nat.ne_of_lt hin]
    · simp [ha]

namespace Thread

/-- The comparator answers the sign of the difference of the ranks: `-1` when
the first id has the greater rank, `1` when the second has, `0` on a tie. -/
theorem compareIds_eq_sign (order : List String) (a b : String) :
    compareIds order a b = Int.sign (rank order b - rank order a) := by
  simp only [compareIds, rank_eq]
  rcases Int.lt_trichotomy (rank order a) (rank order b) with h | h | h
  · have hpos : 0 < rank order b - rank order a := by omega
    simp [Int.sign_eq_one_of_pos hpos, h, Int.not_lt.mpr (Int.le_of_lt h)]
  · simp [h]
  · have hneg : rank order b - rank order a < 0 := by omega
    simp [Int.sign_eq_neg_one_of_neg hneg, h]

/-- Swapping the ids negates the comparison. -/
theorem compareIds_swap (order : List String) (a b : String) :
    compareIds order b a = -compareIds order a b := by
  rw [compareIds_eq_sign, compareIds_eq_sign, ← Int.sign_neg, Int.neg_sub]

theorem compareIds_totalPreorder (order : List String) :
    TotalPreorder fun a b => decide (compareIds order a b ≤ 0) := by
  have hrank := keyGE_totalPreorder (rank order)
  exact { trans := fun a b c => by simpa only [compareIds_le_zero] using hrank.trans a b c
          total := fun a b => by simpa only [compareIds_le_zero] using hrank.total a b }

/-- The comparator sorts by one more than the first position of an id, `0`
for an absent id, largest first. -/
theorem compareIds_le_zero_key (order : List String) (a b : String) :
    decide (compareIds order a b ≤ 0) =
      decide ((if b ∈ order then order.idxOf b + 1 else 0) ≤
        (if a ∈ order then order.idxOf a + 1 else 0)) := by
  rw [compareIds_le_zero]
  by_cases ha : a ∈ order <;> by_cases hb : b ∈ order <;> simp [rank, ha, hb]
  omega

/-- Sorting ids with the comparator: for each position from the last to the
first, the ids whose first position it is, then the absent ids, each in the
order they came in. -/
theorem sortIds_eq_buckets (order xs : List String) :
    sortIds order xs =
      ((List.range order.length).reverse.flatMap fun i => xs.filter (order.idxOf · == i)) ++
        xs.filter (· ∉ order) := by
  let key : String → Nat := fun x => if x ∈ order then order.idxOf x + 1 else 0
  have hbound : ∀ x ∈ xs, key x < order.length + 1 := by
    intro x _
    by_cases hx : x ∈ order
    · have := List.idxOf_lt_length_iff.mpr hx
      simp only [key, hx, if_true]
      omega
    · simp [key, hx]
  have hsort : sortIds order xs = xs.mergeSort fun a b => decide (key b ≤ key a) :=
    mergeSort_congr fun a _ b _ => compareIds_le_zero_key order a b
  rw [hsort, mergeSort_keyGE_eq_flatMap key _ xs hbound, List.range_succ_eq_map,
    List.reverse_cons, ← List.map_reverse, List.flatMap_append, List.flatMap_map,
    List.flatMap_singleton]
  congr 1
  · -- the number `i + 1` belongs to the ids first at position `i`
    refine List.flatMap_congr fun i hi => List.filter_congr fun x _ => ?_
    have hin : i < order.length := List.mem_range.mp (List.mem_reverse.mp hi)
    by_cases hx : x ∈ order
    · simp [key, hx]
    · simp [key, hx, Nat.ne_of_gt hin]
  · refine List.filter_congr fun x _ => ?_
    by_cases hx : x ∈ order <;> simp [key, hx]

/-- The comparator of ids by first position: it answers `-1`, `0` or `1` as the
first id's rank (its first position, `-1` when absent) is greater than, equal to
or less than the second's; the comparison it drives is a total preorder; and a
stable sort with it lists the ids of the order by decreasing first position,
ids at one position in the order they came in, then the absent ids in the order
they came in. -/
theorem compareIds_orders_by_rank (order : List String) :
    (∀ a b, compareIds order a b = Int.sign (rank order b - rank order a)) ∧
    TotalPreorder (fun a b => decide (compareIds order a b ≤ 0)) ∧
    ∀ xs, sortIds order xs =
      ((List.range order.length).reverse.flatMap fun i => xs.filter (order.idxOf · == i)) ++
        xs.filter (· ∉ order) :=
  ⟨compareIds_eq_sign order, compareIds_totalPreorder order, sortIds_eq_buckets order⟩

end Thread

end ChatSession
