import Mathlib.Data.List.Induction
import ChatSession.Proofs.Uniqueness

/-!
Keeping the first membership of each (team, user) pair.

`uniqueMembers` reads the memberships once, from the front, and keeps a
membership when no membership kept so far has its pair. Read from the back
instead, one membership at a time (`uniqueMembers_append_singleton`), the kept
memberships always have the same pairs as the memberships read
(`any_key_uniqueMembers`), so a membership is kept exactly when no membership
before it in the input has its pair. That is `firstOfPairs`, the subsequence of
the input made of the first membership with each pair
(`uniqueMembers_eq_firstOfPairs`). A list whose pairs are distinct is kept
whole (`uniqueMembers_of_nodup`), so keeping the first memberships twice is
keeping them once. Main statement: `uniqueMembers_keeps_first`.
-/

namespace ChatSession

/-- The memberships that come first with their pair: the membership at
position `i` stays when no membership before it has its pair. -/
def firstOfPairs (ms : List TeamMember) : List TeamMember :=
  (ms.zipIdx.filter fun p => (ms.take p.2).all (·.key != p.1.key)).map (·.1)

/-- Reading one more membership from the back: it is kept when no kept
membership has its pair. -/
theorem uniqueMembers_append_singleton (ms : List TeamMember) (m : TeamMember) :
    uniqueMembers (ms ++ [m]) =
      if (uniqueMembers ms).any (·.key == m.key) then uniqueMembers ms
      else uniqueMembers ms ++ [m] := by
  unfold uniqueMembers
  rw [List.foldl_append]
  rfl

/-- The kept memberships have exactly the pairs of the memberships read. -/
theorem any_key_uniqueMembers (ms : List TeamMember) (k : String × String) :
    (uniqueMembers ms).any (·.key == k) = ms.any (·.key == k) := by
  induction ms using List.reverseRecOn with
  | nil => rfl
  | append_singleton ms m ih =>
    rw [uniqueMembers_append_singleton, List.any_append]
    by_cases hkept : (uniqueMembers ms).any (·.key == m.key)
    · -- `m`'s pair is already kept, so it adds no pair
      rw [if_pos hkept, ← ih]
      by_cases hk : m.key = k
      · subst hk
        simp [hkept]
      · simp [hk]
    · rw [if_neg hkept, List.any_append, ih]

/-- Reading one more membership from the back: it is a first one exactly when
no membership before it has its pair. -/
theorem firstOfPairs_append_singleton (ms : List TeamMember) (m : TeamMember) :
    firstOfPairs (ms ++ [m]) =
      firstOfPairs ms ++ if ms.all (·.key != m.key) then [m] else [] := by
  -- the positions of `ms` see only `ms` before them
  have hearlier : ∀ p ∈ ms.zipIdx, (ms ++ [m]).take p.2 = ms.take p.2 := by
    intro p hp
    have hlt : p.2 < ms.length := by
      have := (List.mem_zipIdx (x := p.1) (i := p.2) (by simpa using hp)).2.1
      omega
    exact List.take_append_of_le_length (Nat.le_of_lt hlt)
  unfold firstOfPairs
  rw [List.zipIdx_append, List.filter_append, List.map_append,
    List.filter_congr fun p hp => by rw [hearlier p hp]]
  congr 1
  by_cases hfirst : ms.all (·.key != m.key) <;>
    simp [List.take_left', hfirst]

/-- Keeping the first membership of each pair, read from the front with the
pairs kept so far, is the subsequence of the first memberships. -/
theorem uniqueMembers_eq_firstOfPairs (ms : List TeamMember) :
    uniqueMembers ms = firstOfPairs ms := by
  induction ms using List.reverseRecOn with
  | nil => rfl
  | append_singleton ms m ih =>
    rw [uniqueMembers_append_singleton, firstOfPairs_append_singleton, ← ih,
      any_key_uniqueMembers]
    by_cases hseen : ms.any (·.key == m.key)
    · have hnot : ms.all (·.key != m.key) = false := by
        simpa [List.all_eq_not_any_not] using hseen
      simp [hseen, hnot]
    · have hall : ms.all (·.key != m.key) = true := by
        simpa [List.all_eq_not_any_not] using hseen
      simp [hseen, hall]

/-- Memberships whose pairs are already distinct are all kept. -/
theorem uniqueMembers_of_nodup {ms : List TeamMember} (h : (ms.map TeamMember.key).Nodup) :
    uniqueMembers ms = ms := by
  induction ms using List.reverseRecOn with
  | nil => rfl
  | append_singleton ms m ih =>
    rw [List.map_append, List.nodup_append] at h
    obtain ⟨hms, -, hnew⟩ := h
    have hunseen : (uniqueMembers ms).any (·.key == m.key) = false := by
      rw [any_key_uniqueMembers, List.any_eq_false]
      intro a ha hkey
      exact hnew a.key (List.mem_map_of_mem ha) m.key (by simp) (by simpa using hkey)
    rw [uniqueMembers_append_singleton, if_neg (by simp [hunseen]), ih hms]

/-- Keeping the first membership of each (team, user) pair: the result is the
subsequence of the input made of the first membership with each pair, in
input order; its pairs are distinct; every pair of the input is kept; and
keeping the first memberships again changes nothing. -/
theorem uniqueMembers_keeps_first (ms : List TeamMember) :
    uniqueMembers ms = firstOfPairs ms ∧
      (uniqueMembers ms).Sublist ms ∧
      ((uniqueMembers ms).map TeamMember.key).Nodup ∧
      (∀ m ∈ ms, ∃ m' ∈ uniqueMembers ms, m'.key = m.key) ∧
      uniqueMembers (uniqueMembers ms) = uniqueMembers ms := by
  have hfirst := uniqueMembers_eq_firstOfPairs ms
  refine ⟨hfirst, ?_, uniqueMembers_nodup ms, ?_, uniqueMembers_of_nodup (uniqueMembers_nodup ms)⟩
  · -- the first memberships are picked from the positions of the input
    rw [hfirst, firstOfPairs]
    simpa [List.zipIdx_map_fst] using (List.filter_sublist (l := ms.zipIdx)).map (·.1)
  · intro m hm
    have hkept : (uniqueMembers ms).any (·.key == m.key) = true := by
      rw [any_key_uniqueMembers, List.any_eq_true]
      exact ⟨m, hm, beq_self_eq_true _⟩
    obtain ⟨m', hm', hkey⟩ := List.any_eq_true.mp hkept
    exact ⟨m', hm', by simpa using hkey⟩

end ChatSession
