import ChatSession.Proofs.Stretch
import ChatSession.Proofs.RoundTrip

/-!
A refresh left alone.

An operation is left alone when nothing else happens to its session: each of
its stretches runs on the answer to the call the last one ended with.
`Alone b r calls r'` says that, answered by the backend `b`, an operation
standing at `r` makes the calls `calls` and comes to `r'`.

A refresh left alone rebuilds the snapshot step by step, best effort.
`RefreshStep.alone` reads it in sequence: a step it does not pass over makes its
calls (the users step one a page, as `directoryFrom` pages the directory) and
writes its fields when its answer is good; a failed step keeps them and adds its
error to the refresh's list, written at the end. `rebuilt` says the same field
by field. The main statement is that a refresh started and left alone ends as
`rebuilt` says, for every backend whose answers can all be read: a rejection
whose text nests too deep to be read stops the refresh where it stands.
-/

namespace ChatSession

open Orchestrator

/-- Left alone and answered by `b`, an operation standing at `r` makes the calls
`calls` and comes to `r'`: each answer goes to the call the last stretch ended
with. -/
inductive Alone (b : Backend) : Next × Session → List Request → Next × Session → Prop
  | refl (r : Next × Session) : Alone b r [] r
  | ask {req : Request} {k : Pending} {s : Session} {calls : List Request} {r : Next × Session} :
      Alone b ((resume k (b req)).run s) calls r → Alone b (.ask req k, s) (req :: calls) r

namespace Alone

theorem trans {b : Backend} {r r' r'' : Next × Session} {calls calls' : List Request}
    (h : Alone b r calls r') (h' : Alone b r' calls' r'') : Alone b r (calls ++ calls') r'' := by
  induction h with
  | refl => exact h'
  | ask _ ih => exact .ask (ih h')

/-- One more answer, at the end of a run. -/
theorem snoc {b : Backend} {r : Next × Session} {calls : List Request} {req : Request}
    {k : Pending} {s : Session} (h : Alone b r calls (.ask req k, s)) :
    Alone b r (calls ++ [req]) ((resume k (b req)).run s) :=
  h.trans (.ask (.refl _))

end Alone

/-- The user directory paged alone from page `n` on, `left` more pages allowed
after it, the answers read as `read` says: the directory grown from `dir`, or the
error that ended the paging, and the pages asked for. Paging stops at an error,
at a page shorter than `perPage` and at the last page allowed. -/
def directoryFrom (read : Request → Except CallError Value) (perPage : Nat) :
    Nat → Nat → List (String × User) → Except CallError (List (String × User)) × List Request
  | left, n, dir =>
    match callOutcome "users" (Projection.listOf "User" User.check) (read (usersRequest n perPage)) with
    | .error e => (.error e, [usersRequest n perPage])
    | .ok users =>
      match left with
      | 0 => (.ok (users.foldl addToDirectory dir), [usersRequest n perPage])
      | left + 1 =>
        if users.length < perPage then
          (.ok (users.foldl addToDirectory dir), [usersRequest n perPage])
        else
          ((directoryFrom read perPage left (n + 1) (users.foldl addToDirectory dir)).1,
            usersRequest n perPage ::
              (directoryFrom read perPage left (n + 1) (users.foldl addToDirectory dir)).2)

/-- The directory is paged from page `n` on, one page after the other, at most
`left + 1` pages. -/
theorem directoryFrom_pages (read : Request → Except CallError Value) (perPage : Nat) :
    ∀ (left n : Nat) (dir : List (String × User)), ∃ k, k ≤ left ∧
      (directoryFrom read perPage left n dir).2 =
        (List.range' n (k + 1)).map fun m => usersRequest m perPage := by
  intro left
  induction left with
  | zero =>
      intro n dir
      refine ⟨0, Nat.le_refl 0, ?_⟩
      rw [directoryFrom]
      split
      · simp
      · simp
  | succ left ih =>
      intro n dir
      rw [directoryFrom]
      rcases callOutcome "users" (Projection.listOf "User" User.check)
          (read (usersRequest n perPage)) with e | users
      · exact ⟨0, Nat.zero_le _, by simp⟩
      · by_cases hshort : users.length < perPage
        · exact ⟨0, Nat.zero_le _, by simp [hshort]⟩
        · obtain ⟨k, hk, hpages⟩ := ih (n + 1) (users.foldl addToDirectory dir)
          refine ⟨k + 1, by omega, ?_⟩
          simp only [hshort, if_false, hpages, List.range'_succ]
          simp

/-- A step's answer when the refresh is left alone: its outcome and its calls.
The users step pages the directory; every other step makes its one call. -/
def RefreshStep.answer (read : Request → Except CallError Value) (cfg : ClientConfig)
    (s : PageState) (req : Request) : RefreshStep → Except CallError (List Change) × List Request
  | .users =>
    ((directoryFrom read cfg.usersPerPage (cfg.usersMaxPages - 1) 0 []).1.map fun d => [.users d],
      (directoryFrom read cfg.usersPerPage (cfg.usersMaxPages - 1) 0 []).2)
  | st => (st.outcome s (read req), [req])

/-- A refresh left alone, read in sequence: from the steps it still has to run,
the snapshot `s` and its errors so far, the calls it makes and the snapshot it
leaves. A step it does not pass over makes its calls, and writes its fields when
its answer is good; a failed step keeps them and adds its error. The errors are
written last. -/
def RefreshStep.alone (read : Request → Except CallError Value) (cfg : ClientConfig)
    (user : Option User) : List RefreshStep → PageState → List CallError → List Request × PageState
  | [], s, errs => ([], s.update [.errors errs])
  | st :: rest, s, errs =>
    match st.request cfg.usersPerPage s.currentChannel user with
    | none => RefreshStep.alone read cfg user rest s errs
    | some req =>
      if st.authenticated && user.isNone then RefreshStep.alone read cfg user rest s errs
      else
        match (st.answer read cfg s req).1 with
        | .ok cs =>
          ((st.answer read cfg s req).2 ++ (RefreshStep.alone read cfg user rest (s.update cs) errs).1,
            (RefreshStep.alone read cfg user rest (s.update cs) errs).2)
        | .error e =>
          ((st.answer read cfg s req).2 ++ (RefreshStep.alone read cfg user rest s (errs ++ [e])).1,
            (RefreshStep.alone read cfg user rest s (errs ++ [e])).2)

namespace RefreshStep

variable {read : Request → Except CallError Value} {cfg : ClientConfig} {user : Option User}
  {st : RefreshStep} {rest : List RefreshStep} {s : PageState} {errs : List CallError}

@[simp] theorem alone_nil : alone read cfg user [] s errs = ([], s.update [.errors errs]) := rfl

theorem alone_pass (hp : st.passes cfg.usersPerPage s.currentChannel user = true) :
    alone read cfg user (st :: rest) s errs = alone read cfg user rest s errs := by
  rw [alone]
  split
  · rfl
  · rename_i req hreq
    have hauth : (st.authenticated && user.isNone) = true := by simpa [passes, hreq] using hp
    simp [hauth]

theorem alone_ask (hp : st.passes cfg.usersPerPage s.currentChannel user = false) {req : Request}
    (hreq : st.request cfg.usersPerPage s.currentChannel user = some req) :
    alone read cfg user (st :: rest) s errs =
      match (st.answer read cfg s req).1 with
      | .ok cs => ((st.answer read cfg s req).2 ++ (alone read cfg user rest (s.update cs) errs).1,
          (alone read cfg user rest (s.update cs) errs).2)
      | .error e => ((st.answer read cfg s req).2 ++ (alone read cfg user rest s (errs ++ [e])).1,
          (alone read cfg user rest s (errs ++ [e])).2) := by
  have hauth : (st.authenticated && user.isNone) = false := by simpa [passes, hreq] using hp
  rw [alone, hreq]
  simp only [hauth, Bool.false_eq_true, if_false]

theorem answer_of_ne_users (h : st ≠ .users) (req : Request) :
    st.answer read cfg s req = (st.outcome s (read req), [req]) := by
  cases st <;> simp_all [answer]

theorem waiting_of_ne_users (h : st ≠ .users) (run : RefreshRun) (after : AfterRefresh) (t : Nat) :
    st.waiting run after rest t = .step run st rest (if st = .unread then some t else none) after := by
  cases st <;> simp_all [waiting]

end RefreshStep

/-- The error of a failed call, as a list: empty for a good answer. -/
def failure {α : Type} : Except CallError α → List CallError
  | .ok _ => []
  | .error e => [e]

@[simp] theorem failure_ok {α : Type} (a : α) : failure (.ok a : Except CallError α) = [] := rfl

@[simp] theorem Except.toOption_getD_ok {ε α : Type} (a d : α) :
    (Except.ok a : Except ε α).toOption.getD d = a := rfl

@[simp] theorem failure_map {α β : Type} (r : Except CallError α) (f : α → β) :
    failure (r.map f) = failure r := by
  cases r <;> rfl

namespace PageState

/-! What a step's changes do to the snapshot, field by field: written when the
step's answer is good, nothing when it failed. -/

variable {ε α : Type} (s : PageState)

@[simp] theorem update_teams (r : Except ε (List Team)) :
    s.update ((r.map fun ts => [Change.teams ts]).toOption.getD []) =
      { s with teams := r.toOption.getD s.teams } := by
  cases r <;> rfl

@[simp] theorem update_teamMembers (r : Except ε α) (f : α → List TeamMember) :
    s.update ((r.map fun a => [Change.teamMembers (f a)]).toOption.getD []) =
      { s with teamMembers := (r.map f).toOption.getD s.teamMembers } := by
  cases r <;> rfl

@[simp] theorem update_channels (r : Except ε (List Channel)) :
    s.update ((r.map fun cs => [Change.channels cs, .currentChannel cs.head?]).toOption.getD []) =
      { s with
        channels := r.toOption.getD s.channels
        currentChannel := (r.map List.head?).toOption.getD s.currentChannel } := by
  cases r <;> rfl

@[simp] theorem update_users (r : Except ε (List (String × User))) :
    s.update ((r.map fun d => [Change.users d]).toOption.getD []) =
      { s with users := r.toOption.getD s.users } := by
  cases r <;> rfl

@[simp] theorem update_thread (st : PageState) (r : Except ε PostThread) :
    s.update ((r.map (threadChanges st)).toOption.getD []) =
      { s with
        channelPosts :=
          (r.map fun t => some (Thread.tagSystemPosts st.users t)).toOption.getD s.channelPosts } := by
  cases r <;> rfl

@[simp] theorem update_servers (r : Except ε (List Server)) :
    s.update ((r.map fun ss => [Change.servers ss]).toOption.getD []) =
      { s with servers := r.toOption.getD s.servers } := by
  cases r <;> rfl

@[simp] theorem update_currentServer (r : Except ε Server) :
    s.update ((r.map fun c => [Change.currentServer c]).toOption.getD []) =
      { s with currentServer := r.toOption.getD s.currentServer } := by
  cases r <;> rfl

@[simp] theorem update_errors (es : List CallError) :
    s.update [.errors es] = { s with errors := es } := rfl

end PageState

/-- The sequential reading of a step that asks, with its answer's writes and
error taken as lists: nothing to split on. -/
theorem RefreshStep.alone_answer {read : Request → Except CallError Value} {cfg : ClientConfig}
    {user : Option User} {st : RefreshStep} {rest : List RefreshStep} {s : PageState}
    {errs : List CallError} (hp : st.passes cfg.usersPerPage s.currentChannel user = false)
    {req : Request} (hreq : st.request cfg.usersPerPage s.currentChannel user = some req) :
    alone read cfg user (st :: rest) s errs =
      ((st.answer read cfg s req).2 ++ (alone read cfg user rest
          (s.update ((st.answer read cfg s req).1.toOption.getD []))
          (errs ++ failure (st.answer read cfg s req).1)).1,
        (alone read cfg user rest (s.update ((st.answer read cfg s req).1.toOption.getD []))
          (errs ++ failure (st.answer read cfg s req).1)).2) := by
  rw [alone_ask hp hreq]
  rcases (st.answer read cfg s req).1 with e | cs
  · -- an error is recorded and nothing is written
    simp [failure, Except.toOption, PageState.update]
  · simp [failure, Except.toOption]

/-! ### A refresh left alone runs as its sequential reading -/

@[simp] theorem Store.value_merge (st : Store) (cs : List Change) :
    (st.merge cs).value = st.value.update cs := rfl

/-- Where a refresh left alone from session `s` ends: done, with the snapshot
`v`, and the session's settings and reactions as they were. -/
structure RefreshEnd (s : Session) (after : AfterRefresh) (v : PageState) (r : Next × Session) :
    Prop where
  done : ∃ o, r.1 = .done o ∧ (after = .reply → o = .state v)
  snapshot : r.2.store.value = v
  config : r.2.config = s.config
  reactions : r.2.reactions = s.reactions
  scheduled : r.2.scheduled = s.scheduled

/-- Only the settings and the reactions of the session a refresh goes on from matter. -/
theorem RefreshEnd.of_settings {s s' : Session} {after : AfterRefresh} {v : PageState}
    {r : Next × Session} (h : RefreshEnd s' after v r) (hc : s'.config = s.config)
    (hr : s'.reactions = s.reactions) (hs : s'.scheduled = s.scheduled) : RefreshEnd s after v r :=
  ⟨h.done, h.snapshot, h.config.trans hc, h.reactions.trans hr, h.scheduled.trans hs⟩

namespace Orchestrator

open Session

theorem takeOutcome_of_admits {run : RefreshRun} {tt : Option Nat} {s : Session}
    (h : s.admits run tt = true) (o : Except CallError (List Change)) :
    takeOutcome run tt o s =
      match o with
      | .ok cs => (run, { s with store := s.store.merge cs })
      | .error e => ({ run with errors := run.errors ++ [e] }, s) := by
  unfold takeOutcome
  rw [if_pos h]
  rcases o with e | cs
  · rfl
  · rfl

theorem finishRefresh_current {run : RefreshRun} {s : Session} (h : s.refreshGen = run.token)
    (after : AfterRefresh) :
    (finishRefresh run after).run s =
      (.done (match after with
          | .reply => .state (s.store.value.update [.errors run.errors])
          | .switched r => .answer (.ok (.switch r))),
        { s with store := s.store.merge [.errors run.errors] }) := by
  rw [finishRefresh_run, if_pos h]
  cases after with
  | reply => rfl
  | switched sw => rfl

end Orchestrator

/-- Every answer of the backend reads as `read` says. -/
theorem resume_read {b : Backend} {read : Request → Except CallError Value}
    (hread : ∀ req, readAnswer (b req) = .ok (read req)) (k : Pending) (req : Request) (s : Session) :
    (resume k (b req)).run s = (resumeWith k (read req)).run s := by
  simp only [resume_run, hread]

theorem Alone.pages {b : Backend} {read : Request → Except CallError Value}
    (hread : ∀ req, readAnswer (b req) = .ok (read req)) (use : DirectoryUse)
    {calls : List Request} {r : Next × Session} :
    ∀ (left n : Nat) (dir : List (String × User)) (s : Session),
      s.config.usersMaxPages - (n + 1) = left →
      Alone b ((directoryDone use (directoryFrom read s.config.usersPerPage left n dir).1).run s)
        calls r →
      Alone b (.ask (usersRequest n s.config.usersPerPage) (.page n dir use), s)
        ((directoryFrom read s.config.usersPerPage left n dir).2 ++ calls) r := by
  intro left
  induction left with
  | zero =>
      intro n dir s hleft h
      have hlast : s.config.usersMaxPages ≤ n + 1 := by omega
      rcases hr : callOutcome "users" (Projection.listOf "User" User.check)
          (read (usersRequest n s.config.usersPerPage)) with e | users
      all_goals
        simp only [directoryFrom, hr] at h ⊢
        refine .ask ?_
        rw [resume_read hread]
        show Alone b ((resumePage n dir use _).run s) _ r
        simpa [resumePage_run, hr, hlast] using h
  | succ left ih =>
      intro n dir s hleft h
      have hmore : ¬ s.config.usersMaxPages ≤ n + 1 := by omega
      rcases hr : callOutcome "users" (Projection.listOf "User" User.check)
          (read (usersRequest n s.config.usersPerPage)) with e | users
      · rw [directoryFrom, hr] at h ⊢
        refine .ask ?_
        rw [resume_read hread]
        show Alone b ((resumePage n dir use _).run s) _ r
        simpa [resumePage_run, hr] using h
      · by_cases hshort : users.length < s.config.usersPerPage
        · rw [directoryFrom, hr] at h ⊢
          simp only [hshort, if_true] at h ⊢
          refine .ask ?_
          rw [resume_read hread]
          show Alone b ((resumePage n dir use _).run s) _ r
          simpa [resumePage_run, hr, hshort] using h
        · rw [directoryFrom, hr] at h ⊢
          simp only [hshort, if_false] at h ⊢
          refine .ask ?_
          rw [resume_read hread]
          show Alone b ((resumePage n dir use _).run s) _ r
          simp only [resumePage_run, hr, hshort, hmore, or_self, if_false]
          exact ih (n + 1) _ s (by omega) h

/-- A current refresh left alone from its remaining steps makes the calls of
`RefreshStep.alone` and ends with its snapshot. -/
theorem alone_continueRefresh {b : Backend} {read : Request → Except CallError Value}
    (hread : ∀ req, readAnswer (b req) = .ok (read req)) (after : AfterRefresh) :
    ∀ (steps : List RefreshStep) (run : RefreshRun) (s : Session), s.refreshGen = run.token →
      ∃ r, Alone b ((continueRefresh run after steps).run s)
          (RefreshStep.alone read s.config run.user steps s.store.value run.errors).1 r ∧
        RefreshEnd s after (RefreshStep.alone read s.config run.user steps s.store.value run.errors).2 r := by
  intro steps
  induction steps with
  | nil =>
      intro run s hcur
      refine ⟨_, .refl _, ?_⟩
      rw [continueRefresh, finishRefresh_current hcur]
      constructor
      · exact ⟨_, rfl, fun h => by subst h; rfl⟩
      all_goals rfl
  | cons st rest ih =>
      intro run s hcur
      by_cases hp : st.passes s.config.usersPerPage s.store.value.currentChannel run.user
      · rw [continueRefresh_pass hcur hp, RefreshStep.alone_pass hp]
        exact ih run s hcur
      have hp' : st.passes s.config.usersPerPage s.store.value.currentChannel run.user = false := by
        simpa using hp
      obtain ⟨req, hreq⟩ : ∃ req, st.request s.config.usersPerPage s.store.value.currentChannel
          run.user = some req := by
        cases h : st.request s.config.usersPerPage s.store.value.currentChannel run.user with
        | none => simp [RefreshStep.passes, h] at hp'
        | some req => exact ⟨req, rfl⟩
      have hask := continueRefresh_ask hcur hp' hreq after rest
      rw [RefreshStep.alone_ask hp' hreq]
      by_cases hst : st = .users
      · subst hst
        have hreq' : req = usersRequest 0 s.config.usersPerPage := by
          simpa [RefreshStep.request] using hreq.symm
        subst hreq'
        rw [hask]
        simp only [RefreshStep.answer, RefreshStep.waiting, reduceCtorEq, if_false]
        obtain ⟨r, hr, hend⟩ := ih
          (takeOutcome run none ((directoryFrom read s.config.usersPerPage
            (s.config.usersMaxPages - 1) 0 []).1.map fun d => [.users d]) s).1
          (takeOutcome run none ((directoryFrom read s.config.usersPerPage
            (s.config.usersMaxPages - 1) 0 []).1.map fun d => [.users d]) s).2 (by simp [hcur])
        have hpages := Alone.pages hread (.refresh run rest after) (s.config.usersMaxPages - 1) 0 [] s
          (by omega) (by rw [directoryDone_refresh_run]; exact hr)
        have hallowed : s.admits run none = true := by simp [Session.admits, hcur]
        rw [takeOutcome_of_admits hallowed] at hpages hend
        rcases hd : (directoryFrom read s.config.usersPerPage (s.config.usersMaxPages - 1) 0 []).1
          with e | dir
        · simp only [hd, Except.map] at hpages hend ⊢
          exact ⟨r, hpages, hend.of_settings rfl rfl rfl⟩
        · simp only [hd, Except.map] at hpages hend ⊢
          exact ⟨r, hpages, hend.of_settings rfl rfl rfl⟩
      · -- the step's call carries a thread token only for the unread step, which took it
        obtain ⟨s1, tt, hs1, hallowed, hstore, hcfg, hreact, hsched⟩ : ∃ s1 tt,
            (continueRefresh run after (st :: rest)).run s = (.ask req (.step run st rest tt after), s1) ∧
              s1.admits run tt = true ∧ s1.store = s.store ∧ s1.config = s.config ∧
              s1.reactions = s.reactions ∧ s1.scheduled = s.scheduled := by
          rw [hask, RefreshStep.waiting_of_ne_users hst]
          by_cases hu : st = .unread
          · simp only [hu, if_true]
            exact ⟨_, _, rfl, by simp [Session.admits, hcur], rfl, rfl, rfl, rfl⟩
          · simp only [hu, if_false]
            exact ⟨_, _, rfl, by simp [Session.admits, hcur], rfl, rfl, rfl, rfl⟩
        rw [hs1, RefreshStep.answer_of_ne_users hst]
        obtain ⟨r, hr, hend⟩ := ih (takeOutcome run tt (st.outcome s.store.value (read req)) s1).1
          (takeOutcome run tt (st.outcome s.store.value (read req)) s1).2
          (by simp [Session.admits] at hallowed; simp [hallowed.1])
        have hanswer : ∀ calls, Alone b ((resumeStep run st rest tt after (read req)).run s1) calls r →
            Alone b (.ask req (.step run st rest tt after), s1) (req :: calls) r :=
          fun calls h => .ask (by rw [resume_read hread]; exact h)
        rw [resumeStep_run, hstore, takeOutcome_of_admits hallowed] at hanswer
        rw [takeOutcome_of_admits hallowed] at hr hend
        rcases ho : st.outcome s.store.value (read req) with e | cs
        · -- an error is recorded in the refresh
          simp only [ho, hstore, hcfg] at hanswer hr hend ⊢
          exact ⟨r, hanswer _ hr, hend.of_settings hcfg hreact hsched⟩
        · simp only [ho, hstore, hcfg, Store.value_merge] at hanswer hr hend ⊢
          exact ⟨r, hanswer _ hr, hend.of_settings rfl hreact hsched⟩

/-- A refresh left alone, field by field, the answers read as `read` says: the
calls it makes, in order, and the snapshot it leaves. With nobody logged in it
asks for the servers and the current server only. Logged in, it asks for the
teams, the memberships (the first of each team and user kept), the channels
(the first of them selected, or none), the directory page by page, the unread
posts of the channel then selected, for the user logged in, tagged by the
directory then held, and the servers. Each field takes its step's answer when
the call succeeds and keeps its value when it fails; the errors are those of
the failed calls, in order. -/
def rebuilt (read : Request → Except CallError Value) (cfg : ClientConfig) (s : PageState) :
    List Request × PageState :=
  let servers := callOutcome "get_all_servers" (Projection.listOf "Server" Server.check)
    (read ⟨"get_all_servers", []⟩)
  let current := callOutcome "get_current_server" (Projection.record "Server" Server.check)
    (read ⟨"get_current_server", []⟩)
  match s.user with
  | none =>
    ([⟨"get_all_servers", []⟩, ⟨"get_current_server", []⟩],
      { s with
        servers := servers.toOption.getD s.servers
        currentServer := current.toOption.getD s.currentServer
        errors := failure servers ++ failure current })
  | some u =>
    let teams := callOutcome "my_teams" (Projection.listOf "Team" Team.check)
      (read ⟨"my_teams", []⟩)
    let members := callOutcome "my_team_members"
      (Projection.listOf "TeamMember" TeamMember.check) (read ⟨"my_team_members", []⟩)
    let channels := callOutcome "my_channels" (Projection.listOf "Channel" Channel.check)
      (read ⟨"my_channels", []⟩)
    let channel := (channels.map List.head?).toOption.getD s.currentChannel
    let directory := directoryFrom read cfg.usersPerPage (cfg.usersMaxPages - 1) 0 []
    let users := directory.1.toOption.getD s.users
    let posts : Except CallError (Option PostThread) :=
      match channel with
      | some c =>
        (callOutcome "user_unread" (Projection.record "PostThread" PostThread.check)
          (read (unreadRequest c u))).map fun t => some (Thread.tagSystemPosts users t)
      | none => .ok s.channelPosts
    ([⟨"my_teams", []⟩, ⟨"my_team_members", []⟩, ⟨"my_channels", []⟩] ++ directory.2 ++
        (channel.map fun c => unreadRequest c u).toList ++
        [⟨"get_all_servers", []⟩, ⟨"get_current_server", []⟩],
      { s with
        teams := teams.toOption.getD s.teams
        teamMembers := (members.map uniqueMembers).toOption.getD s.teamMembers
        channels := channels.toOption.getD s.channels
        currentChannel := channel
        users := users
        channelPosts := posts.toOption.getD s.channelPosts
        servers := servers.toOption.getD s.servers
        currentServer := current.toOption.getD s.currentServer
        errors := failure teams ++ failure members ++ failure channels ++ failure directory.1 ++
          failure posts ++ failure servers ++ failure current })

/-- The sequential reading of a whole refresh is `rebuilt`. -/
theorem alone_all (read : Request → Except CallError Value) (cfg : ClientConfig) (s : PageState) :
    RefreshStep.alone read cfg s.user RefreshStep.all s [] = rebuilt read cfg s := by
  rcases hu : s.user with _ | u
  · simp [RefreshStep.all, RefreshStep.alone_pass, RefreshStep.alone_answer, RefreshStep.passes,
      RefreshStep.request, RefreshStep.authenticated, RefreshStep.spec, RefreshStep.answer,
      RefreshStep.outcome, rebuilt, hu]
  · -- the unread step asks for the channel the channels step leaves selected
    rcases hc : ((callOutcome "my_channels" (Projection.listOf "Channel" Channel.check)
        (read ⟨"my_channels", []⟩)).map List.head?).toOption.getD s.currentChannel with _ | c
    · simp [RefreshStep.all, RefreshStep.alone_pass, RefreshStep.alone_answer, RefreshStep.passes,
        RefreshStep.request, RefreshStep.authenticated, RefreshStep.spec, RefreshStep.answer,
        RefreshStep.outcome, rebuilt, hu, hc]
    · simp [RefreshStep.all, RefreshStep.alone_answer, RefreshStep.passes,
        RefreshStep.request, RefreshStep.authenticated, RefreshStep.spec, RefreshStep.answer,
        RefreshStep.outcome, rebuilt, hu, hc]

/-- A refresh started and left alone, for a backend whose answers can all be read,
makes the calls of `rebuilt` and answers the snapshot it leaves, which is the
one of `rebuilt`; the client reacts once when nobody is logged in, and not
otherwise; and the directory is asked for page by page, pages `0` to `k` for
some `k` below the page limit. -/
theorem refresh_alone_rebuilds (s0 : Session) (reaction : Reaction) (b : Backend)
    (read : Request → Except CallError Value) (hread : ∀ req, readAnswer (b req) = .ok (read req)) :
    ∃ s', Alone b ((start (.refresh reaction)).run s0) (rebuilt read s0.config s0.store.value).1
        (.done (.state (rebuilt read s0.config s0.store.value).2), s') ∧
      s'.store.value = (rebuilt read s0.config s0.store.value).2 ∧
      s'.reactions =
        (if s0.store.value.user.isNone then ((Session.react reaction).run s0).2 else s0).reactions ∧
      s'.scheduled =
        (if s0.store.value.user.isNone then ((Session.react reaction).run s0).2 else s0).scheduled ∧
      ∃ k, k < s0.config.usersMaxPages ∧
        (directoryFrom read s0.config.usersPerPage (s0.config.usersMaxPages - 1) 0 []).2 =
          (List.range' 0 (k + 1)).map fun n => usersRequest n s0.config.usersPerPage := by
  rw [show (start (.refresh reaction)).run s0 = _ from startRefresh_eq reaction .reply s0]
  -- the session the refresh goes on in: a new token, and a reaction when nobody is
  -- logged in, which touches neither the settings nor the snapshot
  have hreact := react_session reaction { s0 with refreshGen := s0.refreshGen + 1 }
  have hreacted : ∀ s1, s1 = (if s0.store.value.user.isNone then
      ((Session.react reaction).run { s0 with refreshGen := s0.refreshGen + 1 }).2
      else { s0 with refreshGen := s0.refreshGen + 1 }) →
      s1.reactions = (if s0.store.value.user.isNone then ((Session.react reaction).run s0).2
        else s0).reactions ∧
      s1.scheduled = (if s0.store.value.user.isNone then ((Session.react reaction).run s0).2
        else s0).scheduled := by
    rintro s1 rfl
    by_cases hnone : s0.store.value.user.isNone
    · rw [if_pos hnone, if_pos hnone]
      exact react_reactions reaction s0 (s0.refreshGen + 1)
    · rw [if_neg hnone, if_neg hnone]
      exact ⟨rfl, rfl⟩
  generalize hs1 : (if s0.store.value.user.isNone then
      ((Session.react reaction).run { s0 with refreshGen := s0.refreshGen + 1 }).2
    else { s0 with refreshGen := s0.refreshGen + 1 }) = s1
  have hstore : s1.store = s0.store := by
    rw [← hs1, apply_ite Session.store, hreact.2.2.2, ite_self]
  have hcfg : s1.config = s0.config := by
    rw [← hs1, apply_ite Session.config, hreact.2.2.1, ite_self]
  have hgen : s1.refreshGen = s0.refreshGen + 1 := by
    rw [← hs1, apply_ite Session.refreshGen, hreact.1, ite_self]
  obtain ⟨r, hrun, hend⟩ := alone_continueRefresh hread .reply RefreshStep.all
    { token := s0.refreshGen + 1, user := s0.store.value.user } s1 hgen
  simp only [hstore, hcfg] at hrun hend
  rw [alone_all] at hrun hend
  obtain ⟨o, ho, hreply⟩ := hend.done
  obtain ⟨next, s'⟩ := r
  simp only at ho
  subst ho
  have hstate := hreply rfl
  subst hstate
  obtain ⟨hr, hs⟩ := hreacted s1 hs1.symm
  obtain ⟨k, hk, hpages⟩ := directoryFrom_pages read s0.config.usersPerPage
    (s0.config.usersMaxPages - 1) 0 []
  exact ⟨s', hrun, hend.snapshot, hend.reactions.trans hr, hend.scheduled.trans hs,
    k, by have := s0.config.usersMaxPages_pos; omega, hpages⟩

/-- A backend that answers every call with an empty list. -/
def emptyBackend : Backend := fun _ => .ok (.list [])

/-- A session with a user logged in and nothing else. -/
def loggedInSession : Session :=
  { (default : Session) with store := { value := { user := some default } } }

/-! ### A refresh of a busy session -/

section Projections

variable {α : Type} {title : String} {c : Check α} {f : α → Value}

theorem each_record_map (h : ∀ a, c (f a) = .ok a) (xs : List α) :
    Projection.each (Projection.record title c) (xs.map f) = .ok xs := by
  induction xs with
  | nil => rfl
  | cons a xs ih =>
    have ha : Projection.record title c (f a) = .ok a := by simp [Projection.record, h a]
    rw [List.map_cons, Projection.each, ha, ih]
    rfl

/-- Records dumped as a list are read back as they were. -/
theorem listOf_map (h : ∀ a, c (f a) = .ok a) (xs : List α) :
    Projection.listOf title c (.list (xs.map f)) = .ok xs := by
  cases xs with
  | nil => rfl
  | cons a xs =>
    have hitems : Projection.items (.list ((a :: xs).map f)) = .ok ((a :: xs).map f) := by
      simp [Projection.items, Value.truthy]
    rw [Projection.listOf, hitems]
    exact each_record_map h (a :: xs)

theorem callOutcome_listOf (command : String) (h : ∀ a, c (f a) = .ok a) (xs : List α) :
    callOutcome command (Projection.listOf title c) (.ok (.list (xs.map f))) = .ok xs := by
  simp only [callOutcome, listOf_map h xs]

theorem callOutcome_record (command : String) {v : Value} {a : α} (h : c v = .ok a) :
    callOutcome command (Projection.record title c) (.ok v) = .ok a := by
  simp only [callOutcome, Projection.record, h]

end Projections

/-- A backend that answers as `read` says: an error comes as a timeout carrying
its text, or as the prebuilt error. -/
def asBackend (read : Request → Except CallError Value) : Backend := fun req =>
  match read req with
  | .ok v => .ok v
  | .error (.text s) => .error (.object "TimeoutError" (some s))
  | .error (.api e) => .error (.apiError e)

theorem readAnswer_asBackend (read : Request → Except CallError Value) (req : Request) :
    readAnswer (asBackend read req) = .ok (read req) := by
  unfold asBackend
  rcases read req with (e | e) | v
  · rfl
  · rfl
  · rfl

def ann : User := { userId := "u1", username := "ann" }
def bob : User := { userId := "u2", username := "bob" }
def cy : User := { userId := "u3", username := "cy", roles := "system_user" }
def coreTeam : Team := { id := "t1", name := "core" }
def town : Channel := { id := "c1", name := "town" }
def lobby : Channel := { id := "c2", name := "lobby" }
def home : Server := { name := "home", url := "https://home" }
def hello : Post := { id := "p1", channelId := "c1", userId := "u2", message := "hi" }
def joined : Post := { id := "p2", channelId := "c1", userId := "u3", type := "system_join_channel" }
def townUnread : PostThread := { order := ["p2", "p1"], posts := [("p1", hello), ("p2", joined)] }

/-- A backend with a team, two channels, a directory of a full page and a short
one, an unread thread in the first channel with a post by a system user, one
server, and memberships that time out. -/
def busyRead : Request → Except CallError Value := fun req =>
  match req.command with
  | "my_teams" => .ok (.list ([coreTeam].map Team.toValue))
  | "my_team_members" => .error (.text "timed out")
  | "my_channels" => .ok (.list ([town, lobby].map Channel.toValue))
  | "users" =>
    match req.args with
    | ("page", .int 0) :: _ => .ok (.list ([ann, bob].map User.toValue))
    | ("page", .int 1) :: _ => .ok (.list ([cy].map User.toValue))
    | _ => .ok (.list [])
  | "user_unread" => .ok townUnread.toValue
  | "get_all_servers" => .ok (.list ([home].map Server.toValue))
  | "get_current_server" => .ok home.toValue
  | _ => .ok .null

/-- `ann` logged in, reading the directory two users a page. -/
def busySession : Session :=
  { (default : Session) with
    store := { value := { user := some ann } }
    config := { (default : Session).config with usersPerPage := 2, usersPerPage_pos := Nat.zero_lt_two } }

theorem tagSystemPosts_townUnread :
    Thread.tagSystemPosts [("u1", ann), ("u2", bob), ("u3", cy)] townUnread =
      { townUnread with posts := [("p1", hello), ("p2", { joined with isSystem := true })] } := by
  have hjoined : Thread.isSystemPost [("u1", ann), ("u2", bob), ("u3", cy)] joined = true := by
    simp [Thread.isSystemPost, Thread.author?, joined, cy, Thread.occursIn]
  have hhello : Thread.isSystemPost [("u1", ann), ("u2", bob), ("u3", cy)] hello = false := by
    decide
  simp only [Thread.tagSystemPosts, townUnread, List.map_cons, List.map_nil, Thread.tagPost,
    hjoined, hhello]
  rfl

/-- The refresh of `busySession` read in sequence: every step is asked for, the
directory over two pages, the unread posts of the first channel; the failed
memberships keep their field and leave their error. -/
theorem rebuilt_busySession : rebuilt busyRead busySession.config busySession.store.value =
    ([⟨"my_teams", []⟩, ⟨"my_team_members", []⟩, ⟨"my_channels", []⟩, usersRequest 0 2,
      usersRequest 1 2, unreadRequest town ann, ⟨"get_all_servers", []⟩, ⟨"get_current_server", []⟩],
      { user := some ann, teams := [coreTeam], channels := [town, lobby], currentChannel := some town,
        users := [("u1", ann), ("u2", bob), ("u3", cy)],
        channelPosts := some { townUnread with
          posts := [("p1", hello), ("p2", { joined with isSystem := true })] },
        servers := [home], currentServer := home, errors := [.text "timed out"] }) := by
  have hteams : callOutcome "my_teams" (Projection.listOf "Team" Team.check)
      (busyRead ⟨"my_teams", []⟩) = .ok [coreTeam] :=
    callOutcome_listOf "my_teams" Team.check_toValue [coreTeam]
  have hchannels : callOutcome "my_channels" (Projection.listOf "Channel" Channel.check)
      (busyRead ⟨"my_channels", []⟩) = .ok [town, lobby] :=
    callOutcome_listOf "my_channels" Channel.check_toValue [town, lobby]
  have hpage0 : callOutcome "users" (Projection.listOf "User" User.check)
      (busyRead (usersRequest 0 2)) = .ok [ann, bob] :=
    callOutcome_listOf "users" User.check_toValue [ann, bob]
  have hpage1 : callOutcome "users" (Projection.listOf "User" User.check)
      (busyRead (usersRequest 1 2)) = .ok [cy] :=
    callOutcome_listOf "users" User.check_toValue [cy]
  have hdirectory : directoryFrom busyRead 2 9 0 [] =
      (.ok [("u1", ann), ("u2", bob), ("u3", cy)], [usersRequest 0 2, usersRequest 1 2]) := by
    rw [directoryFrom, hpage0]
    simp only [List.length_cons, List.length_nil]
    rw [directoryFrom, hpage1]
    rfl
  have hcanonical : townUnread.Canonical := by
    refine ⟨by decide, fun e he => ?_⟩
    simp only [townUnread, List.mem_cons, List.not_mem_nil, or_false] at he
    rcases he with rfl | rfl
    · exact ⟨List.nodup_nil, nofun⟩
    · exact ⟨List.nodup_nil, nofun⟩
  have hunread : callOutcome "user_unread" (Projection.record "PostThread" PostThread.check)
      (busyRead (unreadRequest town ann)) = .ok townUnread :=
    callOutcome_record "user_unread" (PostThread.check_toValue hcanonical)
  have hservers : callOutcome "get_all_servers" (Projection.listOf "Server" Server.check)
      (busyRead ⟨"get_all_servers", []⟩) = .ok [home] :=
    callOutcome_listOf "get_all_servers" Server.check_toValue [home]
  have hcurrent : callOutcome "get_current_server" (Projection.record "Server" Server.check)
      (busyRead ⟨"get_current_server", []⟩) = .ok home :=
    callOutcome_record "get_current_server" (Server.check_toValue home)
  have hmembers : busyRead ⟨"my_team_members", []⟩ = .error (.text "timed out") := rfl
  have hpages : (default : Session).config.usersMaxPages - 1 = 9 := rfl
  simp only [rebuilt, busySession, hpages, hteams, hchannels, hdirectory, hservers, hcurrent, hmembers]
  simp only [Except.map, Except.toOption, Option.getD_some, List.head?_cons, Option.map_some]
  simp only [hunread, tagSystemPosts_townUnread, Option.getD_some]
  simp only [callOutcome, failure, List.nil_append, List.append_nil, List.cons_append,
    Option.toList_some]
  rfl

theorem refresh_rebuilds_busySession :
    (∀ req, readAnswer (asBackend busyRead req) = .ok (busyRead req)) ∧
    (∃ s', Alone (asBackend busyRead) ((start (.refresh .immediate)).run busySession)
        (rebuilt busyRead busySession.config busySession.store.value).1
        (.done (.state (rebuilt busyRead busySession.config busySession.store.value).2), s') ∧
      s'.store.value = (rebuilt busyRead busySession.config busySession.store.value).2 ∧
      s'.reactions = (if busySession.store.value.user.isNone then
          ((Session.react .immediate).run busySession).2 else busySession).reactions ∧
      s'.scheduled = (if busySession.store.value.user.isNone then
          ((Session.react .immediate).run busySession).2 else busySession).scheduled ∧
      ∃ k, k < busySession.config.usersMaxPages ∧
        (directoryFrom busyRead busySession.config.usersPerPage
            (busySession.config.usersMaxPages - 1) 0 []).2 =
          (List.range' 0 (k + 1)).map fun n => usersRequest n busySession.config.usersPerPage) ∧
    rebuilt busyRead busySession.config busySession.store.value =
      ([⟨"my_teams", []⟩, ⟨"my_team_members", []⟩, ⟨"my_channels", []⟩, usersRequest 0 2,
        usersRequest 1 2, unreadRequest town ann, ⟨"get_all_servers", []⟩, ⟨"get_current_server", []⟩],
        { user := some ann, teams := [coreTeam], channels := [town, lobby], currentChannel := some town,
          users := [("u1", ann), ("u2", bob), ("u3", cy)],
          channelPosts := some { townUnread with
            posts := [("p1", hello), ("p2", { joined with isSystem := true })] },
          servers := [home], currentServer := home, errors := [.text "timed out"] }) :=
  ⟨readAnswer_asBackend busyRead,
    refresh_alone_rebuilds busySession .immediate (asBackend busyRead) busyRead
      (readAnswer_asBackend busyRead),
    rebuilt_busySession⟩

end ChatSession
