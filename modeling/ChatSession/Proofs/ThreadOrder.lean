import Mathlib.Data.List.Nodup
import ChatSession.Thread.Group
import ChatSession.Proofs.StableSort

/-!
The order of a channel's threads.

`groupThreads` sorts the roots oldest first and then, stably, by the first
position of their id in the declared order, absent ids last; two stable sorts
make one, so the roots come by position with ties in time
(`groupThreads_roots`). A root's group holds the replies whose root id is its
id, oldest first (`groupThreads_children`); the orphans are the replies in no
group (`mem_orphanReplies`); and with distinct post ids every post of the
thread stands exactly once as a root, in a group, or as an orphan
(`groupThreads_partition`).

`readingOrder` sorts the same groups by decreasing position instead, absent
ids still last. Both are the listed groups followed by the unlisted ones in
the same order of time; the listed groups run by increasing position in one
and by decreasing position in the other, and groups whose roots share an id
keep one order in both. With distinct root ids the reading order is the
listed part of `groupThreads` reversed.

Main statements: `groupThreads_declared_order`, `readingOrder_reverses_listed`.
-/

namespace ChatSession

namespace Thread

/-- The declared order of posts: by the first position of the id in `order`,
absent ids last, and posts at one position in time. -/
def declaredLE (order : List String) (p q : Post) : Bool :=
  order.idxOf p.id < order.idxOf q.id || (order.idxOf p.id == order.idxOf q.id && timeLE p q)

/-- The roots of a thread, in the order of its posts. -/
def roots (t : PostThread) : List Post := t.postList.filter Post.isRoot

/-- The replies of a thread, in the order of its posts. -/
def replies (t : PostThread) : List Post := t.postList.filter (!·.isRoot)

/-- A reply to `r`: a post whose root id is not empty and is `r`'s id. -/
def replyTo (r p : Post) : Bool := p.rootId != "" && p.rootId == r.id

/-- What `readingOrder` compares ids by: the first position in `order`, and
`-1` for an id that is absent. -/
def rank (order : List String) (id : String) : Int := if id ∈ order then order.idxOf id else -1

/-! ### The comparisons -/

theorem timeLE_totalPreorder : TotalPreorder timeLE where
  trans p q r hpq hqr := by
    simp only [timeLE, Bool.or_eq_true, decide_eq_true_eq, Bool.and_eq_true, beq_iff_eq] at *
    rcases hpq with h₁ | ⟨h₁, h₂⟩ <;> rcases hqr with h₃ | ⟨h₃, h₄⟩
    · exact Or.inl (Int.lt_trans h₁ h₃)
    · exact Or.inl (by omega)
    · exact Or.inl (by omega)
    · exact Or.inr ⟨h₁.trans h₃, String.le_trans h₂ h₄⟩
  total p q := by
    simp only [timeLE, Bool.or_eq_true, decide_eq_true_eq, Bool.and_eq_true, beq_iff_eq]
    rcases Int.lt_trichotomy p.createAt q.createAt with h | h | h
    · simp [h]
    · rcases String.le_total p.id q.id with h' | h' <;> simp [h, h']
    · simp [h]

/-- Comparing items by a number attached to each orders them totally. -/
theorem keyLE_totalPreorder {α : Type} (f : α → Nat) :
    TotalPreorder fun a b => decide (f a ≤ f b) where
  trans a b c hab hbc := by simp only [decide_eq_true_eq] at *; omega
  total a b := by simp only [Bool.or_eq_true, decide_eq_true_eq]; omega

/-- Comparing items by a number attached to each, largest first, orders them totally. -/
theorem keyGE_totalPreorder {α : Type} (f : α → Int) :
    TotalPreorder fun a b => decide (f b ≤ f a) where
  trans a b c hab hbc := by simp only [decide_eq_true_eq] at *; omega
  total a b := by simp only [Bool.or_eq_true, decide_eq_true_eq]; omega

theorem position_getD (order : List String) (id : String) :
    (position? order id).getD order.length = order.idxOf id := by
  unfold position?
  induction order with
  | nil => rfl
  | cons x xs ih =>
    by_cases hx : x = id
    · simp [List.idxOf?_cons, hx]
    · simp [List.idxOf?_cons, hx, ← ih, Option.getD_map]

theorem rank_eq (order : List String) (id : String) :
    ((position? order id).map Int.ofNat).getD (-1) = rank order id := by
  by_cases h : id ∈ order
  · obtain ⟨i, hi⟩ := Option.isSome_iff_exists.mp (List.isSome_idxOf?.mpr h)
    have hidx : i = order.idxOf id := by simpa [position?, hi] using position_getD order id
    simp [rank, h, position?, hi, hidx]
  · simp [rank, h, position?, List.idxOf?_eq_none_iff.mpr h]

theorem compareIds_le_zero (order : List String) (a b : String) :
    decide (compareIds order a b ≤ 0) = decide (rank order b ≤ rank order a) := by
  simp only [compareIds, rank_eq]
  split_ifs with hafter hbefore
  · simp only [decide_eq_decide]
    omega
  · simp only [decide_eq_decide]
    omega
  · simp only [decide_eq_decide]
    omega

theorem rank_of_mem {order : List String} {id : String} (h : id ∈ order) :
    rank order id = order.idxOf id := by
  simp [rank, h]

/-! ### The groups -/

theorem grouped_eq (t : PostThread) :
    grouped t = (byTime (roots t)).map fun r =>
      ⟨r, (byTime (replies t)).filter (·.rootId == r.id)⟩ := by
  simp [grouped, split, roots, replies, Function.comp_def]

theorem grouped_map_root (t : PostThread) : (grouped t).map (·.root) = byTime (roots t) := by
  simp [grouped_eq, Function.comp_def]

theorem groupThreads_eq (t : PostThread) :
    groupThreads (some t) = (grouped t).mergeSort fun g h =>
      decide (t.order.idxOf g.root.id ≤ t.order.idxOf h.root.id) := by
  simp only [groupThreads, position_getD]

theorem readingOrder_eq (t : PostThread) :
    readingOrder (some t) = (grouped t).mergeSort fun g h =>
      decide (rank t.order h.root.id ≤ rank t.order g.root.id) := by
  simp only [readingOrder, compareIds_le_zero]

/-- The replies of a root, taken from the replies oldest first, are its replies oldest first. -/
theorem children_eq (t : PostThread) (r : Post) :
    (byTime (replies t)).filter (·.rootId == r.id) = byTime (t.postList.filter (replyTo r)) := by
  unfold byTime replies
  rw [filter_mergeSort timeLE_totalPreorder, List.filter_filter]
  congr 1
  apply List.filter_congr
  intro p _
  by_cases hp : p.rootId = ""
  · simp [replyTo, Post.isRoot, hp]
  · simp [replyTo, Post.isRoot, hp, String.isEmpty_eq_false_iff.mpr hp, Bool.and_comm]

/-! ### Groups in the declared order -/

/-- The roots come by position in the declared order, ties in time: the sort by
position after the sort in time is one sort by both. -/
theorem groupThreads_roots (t : PostThread) :
    (groupThreads (some t)).map (·.root) = (roots t).mergeSort (declaredLE t.order) := by
  have hmap : ((grouped t).mergeSort fun g h =>
      decide (t.order.idxOf g.root.id ≤ t.order.idxOf h.root.id)).map (·.root) =
      ((grouped t).map (·.root)).mergeSort fun p q =>
        decide (t.order.idxOf p.id ≤ t.order.idxOf q.id) :=
    List.map_mergeSort fun _ _ _ _ => rfl
  rw [groupThreads_eq, hmap, grouped_map_root, byTime,
    mergeSort_mergeSort (keyLE_totalPreorder _) timeLE_totalPreorder]
  apply mergeSort_congr
  intro p _ q _
  rcases Nat.lt_trichotomy (t.order.idxOf p.id) (t.order.idxOf q.id) with h | h | h
  · simp [thenBy, declaredLE, h, Nat.le_of_lt h, Nat.not_le_of_lt h]
  · simp [thenBy, declaredLE, h]
  · have hne : t.order.idxOf p.id ≠ t.order.idxOf q.id := by omega
    simp [thenBy, declaredLE, hne, Nat.not_le_of_lt h, Nat.not_lt_of_lt h]

/-- Each group holds the replies to its root, oldest first. -/
theorem groupThreads_children {t : PostThread} {g : ThreadGroup} (hg : g ∈ groupThreads (some t)) :
    g.children = byTime (t.postList.filter (replyTo g.root)) := by
  rw [groupThreads_eq, List.mem_mergeSort, grouped_eq, List.mem_map] at hg
  obtain ⟨r, -, rfl⟩ := hg
  exact children_eq t r

/-- The groups run by increasing position of their root ids. -/
theorem groupThreads_pairwise (t : PostThread) :
    (groupThreads (some t)).Pairwise fun g h => t.order.idxOf g.root.id ≤ t.order.idxOf h.root.id := by
  rw [groupThreads_eq]
  exact (List.pairwise_mergeSort (keyLE_totalPreorder _).trans (keyLE_totalPreorder _).total _).imp
    fun h => by simpa using h

/-- No group whose root id is absent from the declared order comes before one whose id is in it. -/
theorem groupThreads_listed_first (t : PostThread) :
    (groupThreads (some t)).Pairwise fun g h => h.root.id ∈ t.order → g.root.id ∈ t.order := by
  refine (groupThreads_pairwise t).imp fun hle hh => ?_
  exact List.idxOf_lt_length_iff.mp (Nat.lt_of_le_of_lt hle (List.idxOf_lt_length_iff.mpr hh))

/-- A root is the root of a group exactly when it is a root of the thread. -/
theorem mem_groupThreads_root {t : PostThread} {r : Post} :
    (∃ g ∈ groupThreads (some t), g.root = r) ↔ r ∈ t.postList ∧ r.isRoot := by
  have h := congrArg (r ∈ ·) (groupThreads_roots t)
  simpa [roots] using h

/-- The orphans are the replies, oldest first, whose root id is the id of no root. -/
theorem orphanReplies_eq (t : PostThread) :
    orphanReplies t = byTime ((replies t).filter fun p => !(roots t).any (·.id == p.rootId)) := by
  simp only [orphanReplies, split, roots, replies, List.partition_eq_filter_filter, Function.comp_def]

/-- The orphans are the replies that belong to no group. -/
theorem mem_orphanReplies {t : PostThread} {p : Post} :
    p ∈ orphanReplies t ↔ p ∈ t.postList ∧ p.isRoot = false ∧ ∀ g ∈ groupThreads (some t), p ∉ g.children := by
  -- a reply lies in a group exactly when its root id is the group's root id
  have hin : ∀ g ∈ groupThreads (some t), p ∈ g.children ↔ p ∈ t.postList ∧ replyTo g.root p := by
    intro g hg
    rw [groupThreads_children hg, byTime, List.mem_mergeSort, List.mem_filter]
  rw [orphanReplies_eq, byTime, List.mem_mergeSort, List.mem_filter, replies, List.mem_filter]
  constructor
  · rintro ⟨⟨hp, hreply⟩, hnone⟩
    simp only [Bool.not_eq_true', List.any_eq_false, roots, List.mem_filter, beq_iff_eq] at hreply hnone
    refine ⟨hp, hreply, fun g hg hpg => ?_⟩
    obtain ⟨r, hr, rfl⟩ : ∃ r, (r ∈ t.postList ∧ r.isRoot) ∧ g.root = r :=
      ⟨g.root, mem_groupThreads_root.mp ⟨g, hg, rfl⟩, rfl⟩
    have hreply := ((hin g hg).mp hpg).2
    simp only [replyTo, Bool.and_eq_true, beq_iff_eq] at hreply
    exact hnone g.root hr hreply.2.symm
  · rintro ⟨hp, hreply, hnone⟩
    simp only [Bool.not_eq_true', List.any_eq_false, roots, List.mem_filter, beq_iff_eq]
    refine ⟨⟨hp, by simpa using hreply⟩, fun r hr hid => ?_⟩
    obtain ⟨g, hg, rfl⟩ := mem_groupThreads_root.mpr hr
    have hrootId : p.rootId ≠ "" := String.isEmpty_eq_false_iff.mp hreply
    exact hnone g hg ((hin g hg).mpr ⟨hp, by simp [replyTo, hrootId, hid]⟩)

/-! ### Every post once -/

/-- Keeping the items of either of two predicates that never hold together keeps
the items of one, then those of the other. -/
theorem filter_or_perm {α : Type} {p q : α → Bool} :
    ∀ {l : List α}, (∀ x ∈ l, p x → q x → False) →
      (l.filter fun x => p x || q x).Perm (l.filter p ++ l.filter q)
  | [], _ => .nil
  | x :: l, h => by
    have ih := filter_or_perm fun y hy => h y (List.mem_cons_of_mem x hy)
    cases hp : p x <;> cases hq : q x
    · simpa [List.filter_cons, hp, hq] using ih
    · simpa [List.filter_cons, hp, hq] using (ih.cons x).trans List.perm_middle.symm
    · simpa [List.filter_cons, hp, hq] using ih.cons x
    · exact absurd (h x List.mem_cons_self hp hq) id

/-- Attaching a list to each item and putting each item in front of its list
gives the items, then the lists, up to order. -/
theorem flatMap_cons_perm {α β : Type} (f : α → β) (g : α → List β) :
    ∀ l : List α, (l.flatMap fun x => f x :: g x).Perm (l.map f ++ l.flatMap g)
  | [] => .nil
  | x :: l => by
    simp only [List.flatMap_cons, List.map_cons, List.cons_append]
    exact (((flatMap_cons_perm f g l).append_left (g x)).trans
      (List.perm_append_comm_assoc _ _ _)).cons (f x)

/-- The replies bucketed under roots with distinct ids are the replies to one of them. -/
theorem flatMap_buckets_perm (ps : List Post) :
    ∀ {rs : List Post}, (rs.map (·.id)).Nodup →
      (rs.flatMap fun r => ps.filter (·.rootId == r.id)).Perm
        (ps.filter fun p => rs.any (·.id == p.rootId))
  | [], _ => by simp
  | r :: rs, hnd => by
    obtain ⟨hr, hnd'⟩ := List.nodup_cons.mp hnd
    rw [List.flatMap_cons]
    refine ((flatMap_buckets_perm ps hnd').append_left _).trans ?_
    have hsplit : (ps.filter fun p => (r :: rs).any (·.id == p.rootId)) =
        ps.filter fun p => (p.rootId == r.id) || rs.any (·.id == p.rootId) :=
      List.filter_congr fun p _ => by simp [List.any_cons, BEq.comm]
    rw [hsplit]
    -- no reply is a reply to `r` and to another root, since their ids differ
    refine (filter_or_perm fun p _ hpr hrs => ?_).symm
    obtain ⟨r', hr', hid⟩ := List.any_eq_true.mp hrs
    simp only [beq_iff_eq] at hpr hid
    exact hr (List.mem_map.mpr ⟨r', hr', hid.trans hpr⟩)

open scoped List in
/-- With distinct post ids, every post of the thread stands exactly once as a
root, as a reply in a group, or as an orphan. -/
theorem groupThreads_partition {t : PostThread} (hids : (t.postList.map (·.id)).Nodup) :
    (((groupThreads (some t)).flatMap fun g => g.root :: g.children) ++ orphanReplies t).Perm
      t.postList := by
  have hroots : byTime (roots t) ~ roots t := List.mergeSort_perm _ _
  have hrootIds : ((byTime (roots t)).map (·.id)).Nodup :=
    (hroots.map _).nodup_iff.mpr (hids.sublist (List.filter_sublist.map _))
  have hany : ∀ p : Post, (byTime (roots t)).any (·.id == p.rootId) = (roots t).any (·.id == p.rootId) :=
    fun p => Bool.eq_iff_iff.mpr (by simp only [List.any_eq_true, hroots.mem_iff])
  have hreplies : ((byTime (replies t)).filter fun p => (byTime (roots t)).any (·.id == p.rootId)) ~
      (replies t).filter fun p => (roots t).any (·.id == p.rootId) := by
    rw [List.filter_congr fun p _ => hany p]
    exact (List.mergeSort_perm _ _).filter _
  have horphans : orphanReplies t ~ (replies t).filter fun p => !(roots t).any (·.id == p.rootId) := by
    rw [orphanReplies_eq]
    exact List.mergeSort_perm _ _
  have hgroups : groupThreads (some t) ~ grouped t := by
    rw [groupThreads_eq]
    exact List.mergeSort_perm _ _
  calc ((groupThreads (some t)).flatMap fun g => g.root :: g.children) ++ orphanReplies t
      _ ~ ((grouped t).flatMap fun g => g.root :: g.children) ++ orphanReplies t :=
        (hgroups.flatMap_right _).append_right _
      _ = ((byTime (roots t)).flatMap fun r =>
            r :: (byTime (replies t)).filter (·.rootId == r.id)) ++ orphanReplies t := by
        rw [grouped_eq, List.flatMap_map]
      _ ~ (byTime (roots t) ++ (byTime (roots t)).flatMap fun r =>
            (byTime (replies t)).filter (·.rootId == r.id)) ++ orphanReplies t := by
        have h := flatMap_cons_perm (fun r : Post => r)
          (fun r => (byTime (replies t)).filter (·.rootId == r.id)) (byTime (roots t))
        rw [List.map_id'] at h
        exact h.append_right _
      _ ~ (roots t ++ (replies t).filter fun p => (roots t).any (·.id == p.rootId)) ++
            (replies t).filter fun p => !(roots t).any (·.id == p.rootId) :=
        (hroots.append ((flatMap_buckets_perm _ hrootIds).trans hreplies)).append horphans
      _ ~ roots t ++ replies t := by
        rw [List.append_assoc]
        exact (List.filter_append_perm _ _).append_left _
      _ ~ t.postList := List.filter_append_perm _ _

/-! ### The reading order -/

/-- A group is listed when the id of its root occurs in the declared order. -/
def listed (order : List String) (g : ThreadGroup) : Bool := g.root.id ∈ order

theorem mem_of_mem_filter_listed {order : List String} {gs : List ThreadGroup} {g : ThreadGroup}
    (hg : g ∈ gs.filter (listed order)) : g.root.id ∈ order := by
  simpa [listed] using (List.mem_filter.mp hg).2

/-- Groups with no unlisted group before a listed one are their listed part,
then their unlisted part. -/
theorem eq_listed_append {order : List String} {gs : List ThreadGroup}
    (h : gs.Pairwise fun g h => h.root.id ∈ order → g.root.id ∈ order) :
    gs = gs.filter (listed order) ++ gs.filter (!listed order ·) :=
  eq_filter_append_of_pairwise (h.imp fun hlisted hh => by
    simpa [listed] using hlisted (by simpa [listed] using hh))

theorem readingOrder_pairwise (t : PostThread) :
    (readingOrder (some t)).Pairwise fun g h => rank t.order h.root.id ≤ rank t.order g.root.id := by
  rw [readingOrder_eq]
  exact (List.pairwise_mergeSort (keyGE_totalPreorder _).trans (keyGE_totalPreorder _).total _).imp
    fun h => by simpa using h

/-- The reading order too puts the listed groups first: an absent id ranks below every listed one. -/
theorem readingOrder_listed_first (t : PostThread) :
    (readingOrder (some t)).Pairwise fun g h => h.root.id ∈ t.order → g.root.id ∈ t.order := by
  refine (readingOrder_pairwise t).imp fun {g h} hle hh => ?_
  by_contra hg
  have : rank t.order g.root.id = -1 := by simp [rank, hg]
  have : 0 ≤ rank t.order h.root.id := by simp [rank, hh]
  omega

theorem readingOrder_perm (t : PostThread) : (readingOrder (some t)).Perm (groupThreads (some t)) := by
  rw [readingOrder_eq, groupThreads_eq]
  exact (List.mergeSort_perm _ _).trans (List.mergeSort_perm _ _).symm

/-- Groups whose roots share an id tie in the declared order: they keep their order in time. -/
theorem groupThreads_filter_id (t : PostThread) (id : String) :
    (groupThreads (some t)).filter (·.root.id == id) = (grouped t).filter (·.root.id == id) := by
  rw [groupThreads_eq]
  refine filter_mergeSort_of_tied (keyLE_totalPreorder _) fun g _ h _ hg hh => ?_
  simp_all

/-- Groups whose roots share an id tie in the reading order too. -/
theorem readingOrder_filter_id (t : PostThread) (id : String) :
    (readingOrder (some t)).filter (·.root.id == id) = (grouped t).filter (·.root.id == id) := by
  rw [readingOrder_eq]
  refine filter_mergeSort_of_tied (keyGE_totalPreorder _) fun g _ h _ hg hh => ?_
  simp_all

/-- The unlisted groups all stand at the end of the declared order: they keep their order in time. -/
theorem groupThreads_filter_unlisted (t : PostThread) :
    (groupThreads (some t)).filter (!listed t.order ·) = (grouped t).filter (!listed t.order ·) := by
  rw [groupThreads_eq]
  refine filter_mergeSort_of_tied (keyLE_totalPreorder _) fun g _ h _ hg hh => ?_
  simp only [listed, Bool.not_eq_true', decide_eq_false_iff_not] at hg hh
  simp [List.idxOf_eq_length hg, List.idxOf_eq_length hh]

/-- The unlisted groups all rank `-1` in the reading order. -/
theorem readingOrder_filter_unlisted (t : PostThread) :
    (readingOrder (some t)).filter (!listed t.order ·) = (grouped t).filter (!listed t.order ·) := by
  rw [readingOrder_eq]
  refine filter_mergeSort_of_tied (keyGE_totalPreorder _) fun g _ h _ hg hh => ?_
  simp only [listed, Bool.not_eq_true', decide_eq_false_iff_not] at hg hh
  simp [rank, hg, hh]

/-- Groups picked by their roots come in the time order of those roots. -/
theorem grouped_filter_map_root (t : PostThread) (q : Post → Bool) :
    ((grouped t).filter (q ·.root)).map (·.root) = byTime ((roots t).filter q) := by
  have h := congrArg (List.filter q) (grouped_map_root t)
  rw [List.filter_map, byTime, filter_mergeSort timeLE_totalPreorder] at h
  exact h

/-- Among the listed groups the reading order runs by decreasing position. -/
theorem readingOrder_filter_listed_pairwise (t : PostThread) :
    ((readingOrder (some t)).filter (listed t.order)).Pairwise fun g h =>
      t.order.idxOf h.root.id ≤ t.order.idxOf g.root.id := by
  refine ((readingOrder_pairwise t).filter _).imp_of_mem fun {g h} hg hh hle => ?_
  rw [rank_of_mem (mem_of_mem_filter_listed hg), rank_of_mem (mem_of_mem_filter_listed hh)] at hle
  exact_mod_cast hle

open scoped List in
/-- With distinct root ids, the listed groups of the reading order are those of
`groupThreads` reversed. -/
theorem readingOrder_listed_reverse {t : PostThread}
    (hnd : ((groupThreads (some t)).map (·.root.id)).Nodup) :
    (readingOrder (some t)).filter (listed t.order) =
      ((groupThreads (some t)).filter (listed t.order)).reverse := by
  have hperm := readingOrder_perm t
  have hgt : ((groupThreads (some t)).filter (listed t.order)).reverse.Pairwise fun g h =>
      t.order.idxOf h.root.id ≤ t.order.idxOf g.root.id :=
    List.pairwise_reverse.mpr ((groupThreads_pairwise t).filter _)
  refine List.Perm.eq_of_pairwise ?_ (readingOrder_filter_listed_pairwise t) hgt
    ((hperm.filter _).trans (List.reverse_perm _).symm)
  -- two listed groups at one position share their root id, hence are one group
  intro g h hg hh hhg hgh
  have hid : g.root.id = h.root.id :=
    (List.idxOf_inj (mem_of_mem_filter_listed hg)).mp (Nat.le_antisymm hgh hhg)
  have hgmem : g ∈ groupThreads (some t) := hperm.subset (List.mem_filter.mp hg).1
  have hhmem : h ∈ groupThreads (some t) := (List.mem_filter.mp (List.mem_reverse.mp hh)).1
  exact List.inj_on_of_nodup_map hnd hgmem hhmem hid

/-- `groupThreads` is its listed groups, then its unlisted ones. -/
theorem groupThreads_split (t : PostThread) :
    groupThreads (some t) =
      (groupThreads (some t)).filter (listed t.order) ++
        (groupThreads (some t)).filter (!listed t.order ·) :=
  eq_listed_append (groupThreads_listed_first t)

/-- The reading order is its listed groups, then the unlisted groups of `groupThreads`. -/
theorem readingOrder_split (t : PostThread) :
    readingOrder (some t) =
      (readingOrder (some t)).filter (listed t.order) ++
        (groupThreads (some t)).filter (!listed t.order ·) := by
  rw [groupThreads_filter_unlisted, ← readingOrder_filter_unlisted]
  exact eq_listed_append (readingOrder_listed_first t)

/-- The groups of one root id come in the time order of their roots. -/
theorem groupThreads_filter_id_roots (t : PostThread) (id : String) :
    ((groupThreads (some t)).filter (·.root.id == id)).map (·.root) =
      byTime ((roots t).filter (·.id == id)) := by
  rw [groupThreads_filter_id]
  exact grouped_filter_map_root t (·.id == id)

/-- The unlisted groups come in the time order of their roots. -/
theorem groupThreads_unlisted_roots (t : PostThread) :
    ((groupThreads (some t)).filter (!listed t.order ·)).map (·.root) =
      byTime ((roots t).filter (·.id ∉ t.order)) := by
  rw [groupThreads_filter_unlisted]
  simpa [listed] using grouped_filter_map_root t (·.id ∉ t.order)

/-! ### Main statements -/

/-- `groupThreads` is the grouping it describes. Its roots are the thread's
roots stably sorted by position in the declared order, absent ids last, then by
time; each root holds exactly its replies, oldest first; the orphans are the
replies whose root id is the id of no root, oldest first, which are the replies
in no group. So listed roots lead, no time overrides a position, and with
distinct post ids every post stands once as a root, a reply in a group, or an
orphan. -/
theorem groupThreads_declared_order (t : PostThread) :
    (groupThreads (some t)).map (·.root) = (roots t).mergeSort (declaredLE t.order) ∧
    (∀ g ∈ groupThreads (some t), g.children = byTime (t.postList.filter (replyTo g.root))) ∧
    orphanReplies t = byTime ((replies t).filter fun p => !(roots t).any (·.id == p.rootId)) ∧
    (∀ p, p ∈ orphanReplies t ↔
      p ∈ t.postList ∧ p.isRoot = false ∧ ∀ g ∈ groupThreads (some t), p ∉ g.children) ∧
    (groupThreads (some t)).Pairwise (fun g h => h.root.id ∈ t.order → g.root.id ∈ t.order) ∧
    (groupThreads (some t)).Pairwise
      (fun g h => t.order.idxOf g.root.id ≤ t.order.idxOf h.root.id) ∧
    ((t.postList.map (·.id)).Nodup →
      (((groupThreads (some t)).flatMap fun g => g.root :: g.children) ++ orphanReplies t).Perm
        t.postList) :=
  ⟨groupThreads_roots t, fun _ hg => groupThreads_children hg, orphanReplies_eq t,
    fun _ => mem_orphanReplies, groupThreads_listed_first t, groupThreads_pairwise t,
    groupThreads_partition⟩

/-- The reading order holds the groups of `groupThreads`: the listed ones first,
by decreasing position where `groupThreads` has them by increasing position,
then the unlisted ones exactly as `groupThreads` has them, in time order. Groups
whose roots share an id come in one time order in both. With distinct root ids
the reading order is the listed part of `groupThreads` reversed, then the rest. -/
theorem readingOrder_reverses_listed (t : PostThread) :
    (readingOrder (some t)).Perm (groupThreads (some t)) ∧
    groupThreads (some t) =
      (groupThreads (some t)).filter (listed t.order) ++
        (groupThreads (some t)).filter (!listed t.order ·) ∧
    readingOrder (some t) =
      (readingOrder (some t)).filter (listed t.order) ++
        (groupThreads (some t)).filter (!listed t.order ·) ∧
    ((groupThreads (some t)).filter (listed t.order)).Pairwise
      (fun g h => t.order.idxOf g.root.id ≤ t.order.idxOf h.root.id) ∧
    ((readingOrder (some t)).filter (listed t.order)).Pairwise
      (fun g h => t.order.idxOf h.root.id ≤ t.order.idxOf g.root.id) ∧
    (∀ id, (readingOrder (some t)).filter (·.root.id == id) =
        (groupThreads (some t)).filter (·.root.id == id) ∧
      ((groupThreads (some t)).filter (·.root.id == id)).map (·.root) =
        byTime ((roots t).filter (·.id == id))) ∧
    ((groupThreads (some t)).filter (!listed t.order ·)).map (·.root) =
      byTime ((roots t).filter (·.id ∉ t.order)) ∧
    (((groupThreads (some t)).map (·.root.id)).Nodup →
      readingOrder (some t) =
        ((groupThreads (some t)).filter (listed t.order)).reverse ++
          (groupThreads (some t)).filter (!listed t.order ·)) := by
  refine ⟨readingOrder_perm t, groupThreads_split t, readingOrder_split t,
    (groupThreads_pairwise t).filter _, readingOrder_filter_listed_pairwise t,
    fun id => ⟨(readingOrder_filter_id t id).trans (groupThreads_filter_id t id).symm,
      groupThreads_filter_id_roots t id⟩,
    groupThreads_unlisted_roots t, fun hnd => ?_⟩
  have hsplit := readingOrder_split t
  rwa [readingOrder_listed_reverse hnd] at hsplit

end Thread

end ChatSession
