import Mathlib.Data.List.Basic
import ChatSession.Proofs.Frames
import ChatSession.Proofs.RoundTrip

/-!
Reading the user directory page by page.

The directory is read one page after the other, from page `0` on, every page
asked for with the same page size. Paging stops at the first page whose answer
is an error or holds fewer users than a full page, and at the last page the
settings allow (`lastPage`). The pages read make the directory (`directoryOf`):
every distinct user id in the order it first occurs, with the last user that
carries it; adding the users of a page one by one builds exactly that
(`foldl_addToDirectory`). A read of the directory left alone asks for exactly
those pages, answers with the directory or with the error that stopped it,
and changes nothing (`directory_paged_until_short`).
-/

namespace ChatSession

open Orchestrator

/-! ### The directory of a list of users -/

/-- The directory of users listed in order: each distinct id, in the order of
its first occurrence, with the last user that carries it. -/
def directoryOf (us : List User) : List (String × User) :=
  (us.map User.userId).eraseDups.filterMap fun k => (us.reverse.find? (·.userId == k)).map (k, ·)

/-- The last user carrying an id that occurs. -/
theorem exists_last_of_mem {us : List User} {k : String} (hk : k ∈ us.map User.userId) :
    ∃ u, us.reverse.find? (·.userId == k) = some u := by
  obtain ⟨u, hu, rfl⟩ := List.mem_map.1 hk
  have hsome : (us.reverse.find? (·.userId == u.userId)).isSome :=
    List.find?_isSome.2 ⟨u, List.mem_reverse.2 hu, by simp⟩
  exact Option.isSome_iff_exists.1 hsome

/-- The keys of the directory are the distinct ids, in the order they first occur. -/
theorem directoryOf_keys (us : List User) :
    (directoryOf us).map Prod.fst = (us.map User.userId).eraseDups := by
  rw [directoryOf, List.map_filterMap]
  conv_rhs => rw [← List.filterMap_some (l := (us.map User.userId).eraseDups)]
  apply List.filterMap_congr
  intro k hk
  obtain ⟨u, hu⟩ := exists_last_of_mem (List.mem_eraseDups.1 hk)
  simp [hu]

/-- Looking a key up among keys paired with what `g` finds for them. -/
theorem lookup_filterMap_pairs (g : String → Option User) (k : String) (ks : List String) :
    (ks.filterMap fun k' => (g k').map (k', ·)).lookup k = if k ∈ ks then g k else none := by
  induction ks with
  | nil => rfl
  | cons k' ks ih =>
    by_cases hk : k = k'
    · subst hk
      cases hg : g k <;> simp [hg, ih]
    · have hne : (k == k') = false := beq_eq_false_iff_ne.2 hk
      cases hg : g k' <;> simp [hg, ih, hk, hne, List.lookup_cons]

/-- Each key of the directory holds the last user carrying it. -/
theorem directoryOf_lookup (us : List User) (k : String) :
    (directoryOf us).lookup k = us.reverse.find? (·.userId == k) := by
  rw [directoryOf, lookup_filterMap_pairs]
  split
  · rfl
  · rename_i hk
    refine (List.find?_eq_none.2 fun u hu hid => hk (List.mem_eraseDups.2 ?_)).symm
    exact List.mem_map.2 ⟨u, List.mem_reverse.1 hu, by simpa using hid⟩

/-- Adding a user to the directory of a list is the directory of the longer list. -/
theorem addToDirectory_directoryOf (pre : List User) (u : User) :
    addToDirectory (directoryOf pre) u = directoryOf (pre ++ [u]) := by
  -- with `u` last, the last user of its id is `u`, and of every other id as before
  have hlonger : directoryOf (pre ++ [u]) =
      ((pre.map User.userId).eraseDups ++ ([u.userId].removeAll (pre.map User.userId)).eraseDups).filterMap
        fun k => if u.userId == k then some (k, u) else (pre.reverse.find? (·.userId == k)).map (k, ·) := by
    rw [directoryOf, List.map_append, List.eraseDups_append]
    refine List.filterMap_congr fun k _ => ?_
    by_cases h : u.userId == k <;> simp [h]
  have hkey : u.userId ∈ (directoryOf pre).map Prod.fst ↔ u.userId ∈ pre.map User.userId := by
    rw [directoryOf_keys, List.mem_eraseDups]
  by_cases hu : u.userId ∈ pre.map User.userId
  · -- a known id keeps its place and takes the new user
    have hany : (directoryOf pre).any (·.1 == u.userId) = true := by
      obtain ⟨e, he, hek⟩ := List.mem_map.1 (hkey.2 hu)
      exact List.any_eq_true.2 ⟨e, he, by simp [hek]⟩
    have hgone : [u.userId].removeAll (pre.map User.userId) = [] := by
      simpa [List.removeAll] using List.mem_map.1 hu
    rw [addToDirectory, if_pos hany, hlonger, hgone, List.eraseDups_nil, List.append_nil, directoryOf,
      List.map_filterMap]
    refine List.filterMap_congr fun k hk => ?_
    obtain ⟨v, hv⟩ := exists_last_of_mem (List.mem_eraseDups.1 hk)
    by_cases h : k = u.userId
    · subst h
      rw [hv]
      simp
    · have hne : (u.userId == k) = false := beq_eq_false_iff_ne.2 (Ne.symm h)
      simp [hv, h, hne]
  · -- a new id goes last
    have hany : (directoryOf pre).any (·.1 == u.userId) = false := by
      rw [Bool.eq_false_iff]
      intro h
      obtain ⟨e, he, hek⟩ := List.any_eq_true.1 h
      exact hu (hkey.1 (List.mem_map.2 ⟨e, he, by simpa using hek⟩))
    have hkept : [u.userId].removeAll (pre.map User.userId) = [u.userId] := by
      simpa [List.removeAll] using hu
    rw [addToDirectory, if_neg (by simp [hany]), hlonger, hkept, List.filterMap_append, directoryOf]
    congr 1
    · refine List.filterMap_congr fun k hk => ?_
      have hne : (u.userId == k) = false := by
        rw [beq_eq_false_iff_ne]
        rintro rfl
        exact hu (List.mem_eraseDups.1 hk)
      simp [hne]
    · simp [List.eraseDups_cons]

/-- Adding the users of a list one by one to the directory of another gives the
directory of both, one after the other. -/
theorem foldl_addToDirectory (pre us : List User) :
    us.foldl addToDirectory (directoryOf pre) = directoryOf (pre ++ us) := by
  induction us generalizing pre with
  | nil => simp
  | cons u us ih =>
    rw [List.foldl_cons, addToDirectory_directoryOf, ih]
    simp

/-! ### Paging -/

/-- The answer to the users command for page `i` of `perPage` users, as the
directory read takes it: the page's users, or the call's error. Only a
rejection that cannot be read at all is no answer. -/
def usersAnswer (b : Backend) (perPage i : Nat) : Except ReadFault (Except CallError (List User)) :=
  (readAnswer (b (usersRequest i perPage))).map
    (callOutcome "users" (Projection.listOf "User" User.check))

/-- An answer that ends the paging: an error, or fewer users than a full page. -/
def stopsPaging (perPage : Nat) : Except CallError (List User) → Bool
  | .error _ => true
  | .ok us => us.length < perPage

/-- The users of an answered page; an error has none. -/
def pageUsers : Except CallError (List User) → List User
  | .error _ => []
  | .ok us => us

/-- The last page asked for: the first page below `maxPages` whose answer ends
the paging, or the last page allowed when there is none. -/
def lastPage (perPage maxPages : Nat) (ans : Nat → Except CallError (List User)) : Nat :=
  ((List.range maxPages).find? fun i => stopsPaging perPage (ans i)).getD (maxPages - 1)

/-- The users of pages `0` to `k - 1`, one page after the other. -/
def usersBefore (ans : Nat → Except CallError (List User)) (k : Nat) : List User :=
  (List.range k).flatMap fun i => pageUsers (ans i)

/-- What reading pages `0` to `k` gives: the error of page `k`, or the directory
of the users of all of them. -/
def pagesRead (ans : Nat → Except CallError (List User)) (k : Nat) :
    Except CallError (List (String × User)) :=
  match ans k with
  | .error e => .error e
  | .ok _ => .ok (directoryOf (usersBefore ans (k + 1)))

section lastPage

variable {perPage maxPages i : Nat} {ans : Nat → Except CallError (List User)}

theorem lastPage_lt (perPage : Nat) (ans : Nat → Except CallError (List User)) (hm : 0 < maxPages) :
    lastPage perPage maxPages ans < maxPages := by
  rw [lastPage]
  cases hf : (List.range maxPages).find? fun i => stopsPaging perPage (ans i) with
  | none => simp only [Option.getD_none]; omega
  | some j => simpa using List.mem_range.1 (List.mem_of_find?_eq_some hf)

/-- Every page before the last one is a full page. -/
theorem stopsPaging_of_lt_lastPage (hi : i < lastPage perPage maxPages ans) :
    stopsPaging perPage (ans i) = false := by
  rw [lastPage] at hi
  cases hf : (List.range maxPages).find? fun i => stopsPaging perPage (ans i) with
  | none =>
    rw [hf, Option.getD_none] at hi
    simpa using List.find?_eq_none.1 hf i (List.mem_range.2 (by omega))
  | some j =>
    rw [hf, Option.getD_some] at hi
    obtain ⟨-, k, hk, hkj, hbefore⟩ := List.find?_eq_some_iff_getElem.1 hf
    simp only [List.getElem_range] at hkj
    subst hkj
    simpa using hbefore i hi

/-- The last page ends the paging, or is the last page allowed. -/
theorem lastPage_stops (perPage : Nat) (ans : Nat → Except CallError (List User)) (hm : 0 < maxPages) :
    stopsPaging perPage (ans (lastPage perPage maxPages ans)) = true ∨
      lastPage perPage maxPages ans + 1 = maxPages := by
  rw [lastPage]
  cases hf : (List.range maxPages).find? fun i => stopsPaging perPage (ans i) with
  | none => right; simp only [Option.getD_none]; omega
  | some j => left; simpa using List.find?_some hf

/-- Users at the last page end the paging: the page is short, or no page is
allowed after it. -/
theorem lastPage_short_or_final (perPage : Nat) (ans : Nat → Except CallError (List User))
    (hm : 0 < maxPages) {users : List User} (hk : ans (lastPage perPage maxPages ans) = .ok users) :
    users.length < perPage ∨ maxPages ≤ lastPage perPage maxPages ans + 1 := by
  rcases lastPage_stops perPage ans hm with h | h
  · rw [hk] at h
    exact Or.inl (by simpa [stopsPaging] using h)
  · exact Or.inr (Nat.le_of_eq h.symm)

/-- A page before the last one holds a full page of users, and another page is
allowed after it. -/
theorem full_of_lt_lastPage (hm : 0 < maxPages) (hi : i < lastPage perPage maxPages ans) :
    ∃ users, ans i = .ok users ∧ ¬(users.length < perPage ∨ maxPages ≤ i + 1) := by
  have hfull := stopsPaging_of_lt_lastPage hi
  have hlt := lastPage_lt perPage ans hm
  rcases hk : ans i with e | users
  · rw [hk] at hfull
    simp [stopsPaging] at hfull
  · rw [hk] at hfull
    simp only [stopsPaging, decide_eq_false_iff_not] at hfull
    exact ⟨users, rfl, by omega⟩

end lastPage

theorem usersBefore_succ (ans : Nat → Except CallError (List User)) (k : Nat) :
    usersBefore ans (k + 1) = usersBefore ans k ++ pageUsers (ans k) := by
  simp [usersBefore, List.range_succ]

section paging

variable {b : Backend} {s : Session} {ans : Nat → Except CallError (List User)}

/-- Taking the answer to page `j`: an error or a last page hands the directory
over, a full page with more allowed asks for the next page. -/
theorem resume_page {j : Nat} (hj : usersAnswer b s.config.usersPerPage j = .ok (ans j))
    (dir : List (String × User)) (use : DirectoryUse) :
    (resume (.page j dir use) (b (usersRequest j s.config.usersPerPage))).run s =
      match ans j with
      | .error e => (directoryDone use (.error e)).run s
      | .ok users =>
        if users.length < s.config.usersPerPage ∨ s.config.usersMaxPages ≤ j + 1 then
          (directoryDone use (.ok (users.foldl addToDirectory dir))).run s
        else
          (.ask (usersRequest (j + 1) s.config.usersPerPage)
            (.page (j + 1) (users.foldl addToDirectory dir) use), s) := by
  rcases hr : readAnswer (b (usersRequest j s.config.usersPerPage)) with f | r
  · simp [usersAnswer, hr, Except.map] at hj
  · have hout : callOutcome "users" (Projection.listOf "User" User.check) r = ans j := by
      simpa [usersAnswer, hr, Except.map] using hj
    rw [resume_run, hr]
    refine (resumePage_run j dir use r s).trans ?_
    rcases hans : ans j with e | users
    · rw [hans] at hout
      simp only [hout]
    · rw [hans] at hout
      simp only [hout]

/-- A read of the directory left alone from page `j` on, `j` at most the last
page, asks for pages `j` to the last one and then hands over what reading the
pages gives. -/
theorem Alone.readPages (use : DirectoryUse)
    (hans : ∀ i < s.config.usersMaxPages, usersAnswer b s.config.usersPerPage i = .ok (ans i)) :
    ∀ j, j ≤ lastPage s.config.usersPerPage s.config.usersMaxPages ans →
      Alone b (.ask (usersRequest j s.config.usersPerPage)
          (.page j (directoryOf (usersBefore ans j)) use), s)
        ((List.range' j (lastPage s.config.usersPerPage s.config.usersMaxPages ans + 1 - j)).map
          (usersRequest · s.config.usersPerPage))
        ((directoryDone use
          (pagesRead ans (lastPage s.config.usersPerPage s.config.usersMaxPages ans))).run s) := by
  have hlast := lastPage_lt s.config.usersPerPage ans s.config.usersMaxPages_pos
  -- induction on the number of pages still to ask for after page `j`
  suffices h : ∀ d j, lastPage s.config.usersPerPage s.config.usersMaxPages ans = j + d →
      Alone b (.ask (usersRequest j s.config.usersPerPage)
          (.page j (directoryOf (usersBefore ans j)) use), s)
        ((List.range' j (d + 1)).map (usersRequest · s.config.usersPerPage))
        ((directoryDone use (pagesRead ans (j + d))).run s) by
    intro j hj
    obtain ⟨d, hd⟩ := Nat.exists_eq_add_of_le hj
    rw [hd, show j + d + 1 - j = d + 1 by omega]
    exact h d j hd
  intro d
  induction d with
  | zero =>
    intro j hj
    refine .ask ?_
    rw [resume_page (hans j (by omega)), pagesRead]
    rcases hk : ans j with e | users
    · exact .refl _
    · -- the last page ends the paging
      dsimp only
      have hlastPage : ans (lastPage s.config.usersPerPage s.config.usersMaxPages ans) = .ok users := by
        rw [hj, Nat.add_zero, hk]
      have hstop := lastPage_short_or_final s.config.usersPerPage ans s.config.usersMaxPages_pos hlastPage
      rw [hj, Nat.add_zero] at hstop
      rw [if_pos hstop, foldl_addToDirectory, usersBefore_succ, hk]
      exact .refl _
  | succ d ih =>
    intro j hj
    -- page `j` comes before the last one: it is full and another page is allowed
    obtain ⟨users, hk, hmore⟩ := full_of_lt_lastPage s.config.usersMaxPages_pos
      (show j < lastPage s.config.usersPerPage s.config.usersMaxPages ans by omega)
    rw [List.range'_succ, List.map_cons]
    refine .ask ?_
    rw [resume_page (hans j (by omega)), hk]
    dsimp only
    rw [if_neg hmore, foldl_addToDirectory]
    have hnext := ih (j + 1) (by omega)
    rw [usersBefore_succ, hk, show j + 1 + d = j + (d + 1) by omega] at hnext
    exact hnext

end paging

/-- The user directory is read page by page until a short page. Left alone and
answered page by page as `ans` says, a read of the directory asks for pages `0`
to `lastPage` and for nothing else, and answers with the error of the last page
or with the directory of all the pages read; the session is left as it was. -/
theorem directory_paged_until_short (s : Session) (b : Backend)
    (ans : Nat → Except CallError (List User))
    (hans : ∀ i < s.config.usersMaxPages, usersAnswer b s.config.usersPerPage i = .ok (ans i))
    (calls : List Request) (o : Outcome) (s' : Session) :
    Operation.fetchDirectory.EndsAlone b s calls o s' ↔
      calls = (List.range (lastPage s.config.usersPerPage s.config.usersMaxPages ans + 1)).map
          (usersRequest · s.config.usersPerPage) ∧
        o = .answer ((pagesRead ans (lastPage s.config.usersPerPage s.config.usersMaxPages ans)).map
          .directory) ∧
        s' = s := by
  have hread := Alone.readPages (b := b) (s := s) .reply hans 0 (Nat.zero_le _)
  rw [Nat.sub_zero, ← List.range_eq_range'] at hread
  constructor
  · intro h
    obtain ⟨hcalls, hend⟩ := Alone.ended_unique h hread rfl rfl
    cases hend
    exact ⟨hcalls, rfl, rfl⟩
  · rintro ⟨rfl, rfl, rfl⟩
    exact hread

/-! ### Reading a directory served page by page -/

/-- A backend that answers the users command for page `n` with the `n`-th page
given, a page being its users or a timeout, and with no users past them. -/
def pagedBackend (pages : List (Option (List User))) : Backend := fun req =>
  match req.args with
  | ("page", .int n) :: _ =>
    match pages.getD n.toNat (some []) with
    | some us => .ok (.list (us.map User.toValue))
    | none => .error (.object "TimeoutError" (some "timed out"))
  | _ => .ok (.list [])

/-- How a page of `pagedBackend` is answered. -/
def pageOutcome : Option (List User) → Except CallError (List User)
  | some us => .ok us
  | none => .error (.text "timed out")

theorem usersAnswer_pagedBackend (pages : List (Option (List User))) (perPage i : Nat) :
    usersAnswer (pagedBackend pages) perPage i = .ok (pageOutcome (pages.getD i (some []))) := by
  have hpage : pagedBackend pages (usersRequest i perPage) =
      match pages.getD i (some []) with
      | some us => .ok (.list (us.map User.toValue))
      | none => .error (.object "TimeoutError" (some "timed out")) := by
    simp only [pagedBackend, usersRequest, Int.toNat_natCast]
  rw [usersAnswer, hpage]
  cases pages.getD i (some []) with
  | none => rfl
  | some us => simp only [readAnswer, Except.map, callOutcome, listOf_map User.check_toValue, pageOutcome]

def annRenamed : User := { userId := "u1", username := "ann.b" }
def dee : User := { userId := "u4", username := "dee" }

/-- Three pages of two users: two full pages, the second with `ann`'s id again,
and a short one. -/
def threePages : List (Option (List User)) := [some [ann, bob], some [annRenamed, cy], some [dee]]

/-- A full page, then a page that times out. -/
def timeoutPages : List (Option (List User)) := [some [ann, bob], none]

/-- A session reading pages of two users, from page `0` to page `last` at most. -/
def pagesOfTwoUpTo (last : Nat) : Session :=
  { (default : Session) with
    config := { usersPerPage := 2, usersMaxPages := last + 1, usersPerPage_pos := Nat.zero_lt_two,
                usersMaxPages_pos := Nat.succ_pos last } }

/-- The three ways a directory read ends. Full pages are read on until a short
page, and the directory keeps each id where it first occurs with the last user
carrying it; a page that fails ends the read with its error; and the last page
allowed ends it even when full. -/
theorem directory_short_error_and_cap_pages :
    ((∀ i < (pagesOfTwoUpTo 3).config.usersMaxPages,
        usersAnswer (pagedBackend threePages) (pagesOfTwoUpTo 3).config.usersPerPage i =
          .ok (pageOutcome (threePages.getD i (some [])))) ∧
      Operation.fetchDirectory.EndsAlone (pagedBackend threePages) (pagesOfTwoUpTo 3)
        [usersRequest 0 2, usersRequest 1 2, usersRequest 2 2]
        (.answer (.ok (.directory [("u1", annRenamed), ("u2", bob), ("u3", cy), ("u4", dee)])))
        (pagesOfTwoUpTo 3)) ∧
    ((∀ i < (pagesOfTwoUpTo 3).config.usersMaxPages,
        usersAnswer (pagedBackend timeoutPages) (pagesOfTwoUpTo 3).config.usersPerPage i =
          .ok (pageOutcome (timeoutPages.getD i (some [])))) ∧
      Operation.fetchDirectory.EndsAlone (pagedBackend timeoutPages) (pagesOfTwoUpTo 3)
        [usersRequest 0 2, usersRequest 1 2] (.answer (.error (.text "timed out")))
        (pagesOfTwoUpTo 3)) ∧
    ((∀ i < (pagesOfTwoUpTo 1).config.usersMaxPages,
        usersAnswer (pagedBackend threePages) (pagesOfTwoUpTo 1).config.usersPerPage i =
          .ok (pageOutcome (threePages.getD i (some [])))) ∧
      Operation.fetchDirectory.EndsAlone (pagedBackend threePages) (pagesOfTwoUpTo 1)
        [usersRequest 0 2, usersRequest 1 2]
        (.answer (.ok (.directory [("u1", annRenamed), ("u2", bob), ("u3", cy)])))
        (pagesOfTwoUpTo 1)) := by
  have hshort := fun i (_ : i < 4) => usersAnswer_pagedBackend threePages 2 i
  have htimeout := fun i (_ : i < 4) => usersAnswer_pagedBackend timeoutPages 2 i
  have hcap := fun i (_ : i < 2) => usersAnswer_pagedBackend threePages 2 i
  refine ⟨⟨hshort, (directory_paged_until_short _ _ _ hshort _ _ _).2 ⟨?_, ?_, rfl⟩⟩,
    ⟨htimeout, (directory_paged_until_short _ _ _ htimeout _ _ _).2 ⟨?_, ?_, rfl⟩⟩,
    ⟨hcap, (directory_paged_until_short _ _ _ hcap _ _ _).2 ⟨?_, ?_, rfl⟩⟩⟩
  all_goals rfl

end ChatSession
