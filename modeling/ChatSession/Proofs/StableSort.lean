/-!
Stable sorting.

`List.mergeSort` is stable: items that tie under the comparison keep the order
they came in. For a comparison that orders totally, ties allowed
(`TotalPreorder`), a sorted list is pinned down by three things: it holds the
input's items, it is sorted, and each class of tied items comes in input order
(`eq_of_perm_of_tied`). From this: a class of tied items passes through the
sort unchanged (`filter_mergeSort_of_tied`); keeping the items of a predicate
commutes with sorting (`filter_mergeSort`); and sorting twice is sorting once
by the second comparison with its ties broken by the first
(`mergeSort_mergeSort`).
-/

namespace ChatSession

variable {α : Type}

/-- A comparison that orders items totally, ties allowed: what a stable sort takes. -/
structure TotalPreorder (le : α → α → Bool) : Prop where
  trans : ∀ a b c, le a b → le b c → le a c
  total : ∀ a b, le a b || le b a

/-- Two items tie when each is below the other. -/
def tied (le : α → α → Bool) (a b : α) : Bool := le a b && le b a

/-- Order by `r`, and the items that tie under `r` by `s`. -/
def thenBy (r s : α → α → Bool) (a b : α) : Bool := r a b && (!r b a || s a b)

namespace TotalPreorder

variable {le r s : α → α → Bool}

theorem refl (h : TotalPreorder le) (a : α) : le a a := by
  simpa using h.total a a

/-- Two items that tie with a third are ordered both ways. -/
theorem le_of_tied (h : TotalPreorder le) {c a b : α} (ha : tied le c a) (hb : tied le c b) :
    le a b := by
  simp only [tied, Bool.and_eq_true] at ha hb
  exact h.trans a c b ha.2 hb.1

theorem thenBy (hr : TotalPreorder r) (hs : TotalPreorder s) : TotalPreorder (thenBy r s) where
  trans a b c hab hbc := by
    simp only [ChatSession.thenBy, Bool.and_eq_true, Bool.or_eq_true, Bool.not_eq_true'] at hab hbc ⊢
    refine ⟨hr.trans a b c hab.1 hbc.1, ?_⟩
    by_cases hca : r c a
    · -- `c` below `a` closes a cycle: all three tie under `r`, so `s` decides
      have hcb : r c b := hr.trans c a b hca hab.1
      have hba : r b a := hr.trans b c a hbc.1 hca
      have hsab : s a b := hab.2.resolve_left (by simp [hba])
      have hsbc : s b c := hbc.2.resolve_left (by simp [hcb])
      exact Or.inr (hs.trans a b c hsab hsbc)
    · exact Or.inl (by simpa using hca)
  total a b := by
    have hrab := hr.total a b
    have hsab := hs.total a b
    unfold ChatSession.thenBy
    cases hab : r a b <;> cases hba : r b a <;> simp_all

end TotalPreorder

/-- A sort depends only on how the comparison orders the items sorted. -/
theorem mergeSort_congr {r s : α → α → Bool} {l : List α}
    (hl : ∀ a ∈ l, ∀ b ∈ l, r a b = s a b) : l.mergeSort r = l.mergeSort s := by
  simpa using @List.map_mergeSort α α r s id l hl

variable {le : α → α → Bool}

/-- A sorted list in which no item outside `q` comes before an item of `q` is its
items of `q`, then the others. -/
theorem eq_filter_append_of_pairwise {q : α → Bool} :
    ∀ {m : List α}, m.Pairwise (fun a b => q b → q a) → m = m.filter q ++ m.filter (!q ·)
  | [], _ => rfl
  | a :: m, hm => by
    obtain ⟨hhead, htail⟩ := List.pairwise_cons.mp hm
    by_cases ha : q a
    · simpa [ha] using eq_filter_append_of_pairwise htail
    · -- nothing of `q` follows an item outside it
      have hnone : m.filter q = [] :=
        List.filter_eq_nil_iff.mpr fun b hb hqb => ha (hhead b hb hqb)
      have hall : m.filter (!q ·) = m :=
        List.filter_eq_self.mpr fun b hb => by simpa using fun hqb => ha (hhead b hb hqb)
      simp [ha, hnone, hall]

/-- Items that all tie keep their order through the sort. -/
theorem filter_mergeSort_of_tied (h : TotalPreorder le) {p : α → Bool} {l : List α}
    (hp : ∀ a ∈ l, ∀ b ∈ l, p a → p b → le a b) :
    (l.mergeSort le).filter p = l.filter p := by
  have hsorted : (l.filter p).Pairwise (fun a b => le a b) :=
    List.pairwise_of_forall_mem_list fun a ha b hb => by
      simp only [List.mem_filter] at ha hb
      exact hp a ha.1 b hb.1 ha.2 hb.2
  have hsub : List.Sublist (l.filter p) ((l.mergeSort le).filter p) := by
    simpa using (List.sublist_mergeSort h.trans h.total hsorted List.filter_sublist).filter p
  have hlen : (l.filter p).length = ((l.mergeSort le).filter p).length :=
    ((List.mergeSort_perm l le).filter p).length_eq.symm
  exact (hsub.eq_of_length hlen).symm

/-- Two sorted lists with the same items, each class of tied items in the same
order, are equal. -/
theorem eq_of_perm_of_tied (h : TotalPreorder le) :
    ∀ {m₁ m₂ : List α}, m₁.Pairwise (fun a b => le a b) → m₂.Pairwise (fun a b => le a b) →
      m₁.Perm m₂ → (∀ c, m₁.filter (tied le c) = m₂.filter (tied le c)) → m₁ = m₂
  | [], _, _, _, hp, _ => hp.nil_eq
  | _ :: _, [], _, _, hp, _ => absurd hp.length_eq (by simp)
  | a :: m₁, b :: m₂, h₁, h₂, hp, htied => by
    -- each head is below every item of both lists, so the heads tie and lead `a`'s class
    have hab : le a b := by
      rcases List.mem_cons.mp (hp.symm.subset List.mem_cons_self) with hba | hb
      · simpa [hba] using h.refl a
      · exact (List.pairwise_cons.mp h₁).1 b hb
    have hba : le b a := by
      rcases List.mem_cons.mp (hp.subset List.mem_cons_self) with hab | ha
      · simpa [hab] using h.refl b
      · exact (List.pairwise_cons.mp h₂).1 a ha
    have hheads := htied a
    simp only [List.filter_cons, tied, h.refl a, hab, hba, Bool.and_self, if_true,
      List.cons.injEq] at hheads
    obtain ⟨rfl, -⟩ := hheads
    congr 1
    refine eq_of_perm_of_tied h (List.pairwise_cons.mp h₁).2 (List.pairwise_cons.mp h₂).2
      hp.cons_inv fun c => ?_
    have hc := htied c
    by_cases hca : tied le c a <;> simpa [List.filter_cons, hca] using hc

/-- Keeping the items of a predicate commutes with a stable sort. -/
theorem filter_mergeSort (h : TotalPreorder le) (p : α → Bool) (l : List α) :
    (l.mergeSort le).filter p = (l.filter p).mergeSort le := by
  apply eq_of_perm_of_tied h
  · exact (List.pairwise_mergeSort h.trans h.total l).filter p
  · exact List.pairwise_mergeSort h.trans h.total _
  · exact ((List.mergeSort_perm l le).filter p).trans (List.mergeSort_perm _ le).symm
  · -- both sides keep the class of `c` in input order
    intro c
    have hclass : ∀ {m : List α}, ∀ a ∈ m, ∀ b ∈ m, tied le c a → tied le c b → le a b :=
      fun _ _ _ _ ha hb => h.le_of_tied ha hb
    calc ((l.mergeSort le).filter p).filter (tied le c)
        = ((l.mergeSort le).filter (tied le c)).filter p := by
          simp only [List.filter_filter, Bool.and_comm]
      _ = (l.filter (tied le c)).filter p := by rw [filter_mergeSort_of_tied h hclass]
      _ = (l.filter p).filter (tied le c) := by simp only [List.filter_filter, Bool.and_comm]
      _ = ((l.filter p).mergeSort le).filter (tied le c) := (filter_mergeSort_of_tied h hclass).symm

/-- Sorting by `s` and then by `r` sorts by `r` with ties broken by `s`. -/
theorem mergeSort_mergeSort {r s : α → α → Bool} (hr : TotalPreorder r) (hs : TotalPreorder s)
    (l : List α) : (l.mergeSort s).mergeSort r = l.mergeSort (thenBy r s) := by
  have hrs := hr.thenBy hs
  apply eq_of_perm_of_tied hr
  · exact List.pairwise_mergeSort hr.trans hr.total _
  · refine (List.pairwise_mergeSort hrs.trans hrs.total l).imp fun hab => ?_
    simp only [thenBy, Bool.and_eq_true] at hab
    exact hab.1
  · exact (List.mergeSort_perm _ r).trans ((List.mergeSort_perm l s).trans (List.mergeSort_perm l _).symm)
  · -- within a class of `r` both sides are sorted by `s`
    intro c
    rw [filter_mergeSort_of_tied hr (fun _ _ _ _ ha hb => hr.le_of_tied ha hb),
      filter_mergeSort hs, filter_mergeSort hrs]
    apply mergeSort_congr
    intro a ha b hb
    have hab : r a b := hr.le_of_tied (List.mem_filter.mp ha).2 (List.mem_filter.mp hb).2
    have hba : r b a := hr.le_of_tied (List.mem_filter.mp hb).2 (List.mem_filter.mp ha).2
    simp [thenBy, hab, hba]

end ChatSession
