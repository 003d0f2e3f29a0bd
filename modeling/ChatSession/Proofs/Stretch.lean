import ChatSession.Proofs.Interleaving

/-!
What one stretch of an operation does to the session.

The functions of the orchestrator are read here through equations for their
runs: a refresh step takes its outcome only when its refresh (and, for the
unread step, its thread load) is still current; a refresh goes on with the
first step it does not pass over, or ends by writing its errors; and answers
that cannot be read stop an operation where it stands.
-/

namespace ChatSession

namespace RefreshStep

/-- The request a step sends, given the page size, the selected channel and the
user; the unread step sends one only for a selected channel and a user. -/
def request (perPage : Nat) (channel : Option Channel) (user : Option User) :
    RefreshStep → Option Request
  | .teams => some ⟨"my_teams", []⟩
  | .teamMembers => some ⟨"my_team_members", []⟩
  | .channels => some ⟨"my_channels", []⟩
  | .users => some (usersRequest 0 perPage)
  | .unread =>
    match channel, user with
    | some c, some u => some (unreadRequest c u)
    | _, _ => none
  | .servers => some ⟨"get_all_servers", []⟩
  | .currentServer => some ⟨"get_current_server", []⟩

/-- A refresh passes over a step that needs a login when nobody is logged in,
and over a step with nothing to ask. -/
def passes (perPage : Nat) (channel : Option Channel) (user : Option User)
    (st : RefreshStep) : Bool :=
  st.authenticated && user.isNone || (st.request perPage channel user).isNone

/-- The continuation a step's call waits on; the unread step carries its thread token. -/
def waiting (run : RefreshRun) (after : AfterRefresh) (rest : List RefreshStep) (token : Nat) :
    RefreshStep → Pending
  | .users => .page 0 [] (.refresh run rest after)
  | .unread => .step run .unread rest (some token) after
  | st => .step run st rest none after

/-- What a step makes of its answer: the changes it writes, given the snapshot
at that moment, or its error. -/
def outcome (s : PageState) (raw : Except CallError Value) :
    RefreshStep → Except CallError (List Change)
  | .teams =>
    (callOutcome "my_teams" (Projection.listOf "Team" Team.check) raw).map fun ts => [.teams ts]
  | .teamMembers =>
    (callOutcome "my_team_members" (Projection.listOf "TeamMember" TeamMember.check) raw).map
      fun ms => [.teamMembers (uniqueMembers ms)]
  | .channels =>
    (callOutcome "my_channels" (Projection.listOf "Channel" Channel.check) raw).map
      fun cs => [.channels cs, .currentChannel cs.head?]
  | .users =>
    (callOutcome "users" (Projection.listOf "User" User.check) raw).map
      fun us => [.users (us.foldl addToDirectory [])]
  | .unread =>
    (callOutcome "user_unread" (Projection.record "PostThread" PostThread.check) raw).map
      (threadChanges s)
  | .servers =>
    (callOutcome "get_all_servers" (Projection.listOf "Server" Server.check) raw).map
      fun ss => [.servers ss]
  | .currentServer =>
    (callOutcome "get_current_server" (Projection.record "Server" Server.check) raw).map
      fun c => [.currentServer c]

end RefreshStep

/-- A refresh's continuation has left exactly steps that follow its own in
`RefreshStep.all`, and only the unread step carries a thread token. -/
def Pending.WellShaped : Pending → Prop
  | .step _ st rest tt _ => (st :: rest) <:+ RefreshStep.all ∧ (tt.isSome ↔ st = .unread)
  | .page _ _ (.refresh _ rest _) => (.users :: rest) <:+ RefreshStep.all
  | _ => True

/-- The stretch ends with a call for a thread load. -/
def Next.asksThreadLoad : Next → Bool
  | .ask _ k => k.isThreadLoad
  | _ => false

namespace RefreshStep

variable (run : RefreshRun) (after : AfterRefresh) (rest : List RefreshStep) (token : Nat)

@[simp] theorem waiting_refreshRun (st : RefreshStep) :
    (st.waiting run after rest token).refreshRun? = some run := by
  cases st <;> rfl

@[simp] theorem waiting_isThreadLoad (st : RefreshStep) :
    (st.waiting run after rest token).isThreadLoad = (st == .unread) := by
  cases st <;> rfl

theorem waiting_threadToken {st : RefreshStep} (h : (st.waiting run after rest token).isThreadLoad) :
    (st.waiting run after rest token).threadToken? = some token := by
  cases st <;> simp_all [waiting, Pending.isThreadLoad, Pending.threadToken?]

theorem waiting_wellShaped {st : RefreshStep} (h : (st :: rest) <:+ RefreshStep.all) :
    (st.waiting run after rest token).WellShaped := by
  cases st <;> simp_all [waiting, Pending.WellShaped]

end RefreshStep

/-- The session lets a refresh's step write: the refresh is the newest, and so is
the thread load when the step carries a thread token. -/
def Session.admits (s : Session) (run : RefreshRun) (tt : Option Nat) : Bool :=
  s.refreshGen == run.token && (match tt with | some t => s.threadGen == t | none => true)

theorem Store.write_update (s : Store) (f : PageState → List Change) :
    s.write (fun st => st.update (f st)) = s.merge (f s.value) := rfl

namespace Orchestrator

open Session

/-- A refresh's bookkeeping and session after it takes a step's outcome: the
changes are written, or the error recorded, only when the session admits the step. -/
def takeOutcome (run : RefreshRun) (tt : Option Nat) (o : Except CallError (List Change))
    (s : Session) : RefreshRun × Session :=
  if s.admits run tt then
    match o with
    | .error e => ({ run with errors := run.errors ++ [e] }, s)
    | .ok cs => (run, { s with store := s.store.merge cs })
  else (run, s)

theorem takeOutcome_of_not_admits {run : RefreshRun} {tt : Option Nat} {s : Session}
    (h : s.admits run tt = false) (o : Except CallError (List Change)) :
    takeOutcome run tt o s = (run, s) := by
  simp [takeOutcome, h]

theorem applyStep_run {α : Type} (run : RefreshRun) (tt : Option Nat) (r : Except CallError α)
    (changes : PageState → α → List Change) (s : Session) :
    (applyStep run tt r changes).run s = takeOutcome run tt (r.map (changes s.store.value)) s := by
  by_cases hcur : s.refreshGen = run.token
  · cases tt with
    | none =>
        cases r with
        | error e =>
            simp [applyStep, takeOutcome, Session.admits, refreshCurrent, hcur, Except.map]
            rfl
        | ok a =>
            simp [applyStep, takeOutcome, Session.admits, refreshCurrent, writeWith, hcur,
              Store.write_update, Except.map]
            rfl
    | some t =>
        by_cases hthread : s.threadGen = t
        · subst hthread
          cases r with
          | error e =>
              simp [applyStep, takeOutcome, Session.admits, refreshCurrent, threadCurrent, hcur,
                Except.map]
              rfl
          | ok a =>
              simp [applyStep, takeOutcome, Session.admits, refreshCurrent, threadCurrent,
                writeWith, hcur, Store.write_update, Except.map]
              rfl
        · simp [applyStep, takeOutcome, Session.admits, refreshCurrent, threadCurrent, hcur, hthread]
          rfl
  · cases tt with
    | none =>
        simp [applyStep, takeOutcome, Session.admits, refreshCurrent, hcur]
        rfl
    | some t =>
        simp [applyStep, takeOutcome, Session.admits, refreshCurrent, threadCurrent, hcur]
        rfl

@[simp] theorem pure_fst {α β : Type} (a : α) (b : β) : (pure (a, b) : Id (α × β)).1 = a := rfl
@[simp] theorem pure_snd {α β : Type} (a : α) (b : β) : (pure (a, b) : Id (α × β)).2 = b := rfl

/-- Ending a refresh writes its errors, if it is the newest, and answers with
the snapshot or with the switch it followed. -/
theorem finishRefresh_run (run : RefreshRun) (after : AfterRefresh) (s : Session) :
    (finishRefresh run after).run s =
      let s' := if s.refreshGen = run.token then
        { s with store := s.store.merge [.errors run.errors] } else s
      (match after with
        | .reply => .done (.state s'.store.value)
        | .switched sw => .done (.answer (.ok (.switch sw))), s') := by
  by_cases hcur : s.refreshGen = run.token
  · cases after with
    | reply =>
        simp [finishRefresh, refreshCurrent, snapshot, merge, writeWith, hcur, Store.write_update]
        rfl
    | switched sw =>
        simp [finishRefresh, refreshCurrent, snapshot, merge, writeWith, hcur, Store.write_update]
        rfl
  · cases after with
    | reply =>
        simp [finishRefresh, refreshCurrent, snapshot, hcur]
        rfl
    | switched sw =>
        simp [finishRefresh, refreshCurrent, snapshot, hcur]
        rfl

theorem finishRefresh_session (run : RefreshRun) (after : AfterRefresh) (s : Session) :
    ((finishRefresh run after).run s).2 =
      if s.refreshGen = run.token then { s with store := s.store.merge [.errors run.errors] }
      else s := by
  rw [finishRefresh_run]

theorem finishRefresh_done (run : RefreshRun) (after : AfterRefresh) (s : Session) :
    ∃ o, ((finishRefresh run after).run s).1 = .done o := by
  rw [finishRefresh_run]
  cases after with
  | reply => exact ⟨_, rfl⟩
  | switched sw => exact ⟨_, rfl⟩

theorem continueRefresh_stale {run : RefreshRun} {s : Session} (h : s.refreshGen ≠ run.token)
    (after : AfterRefresh) (steps : List RefreshStep) :
    ((continueRefresh run after steps).run s).2 = s ∧
      ∃ o, ((continueRefresh run after steps).run s).1 = .done o := by
  cases steps with
  | nil =>
      exact ⟨by simp [continueRefresh, finishRefresh_session, h], finishRefresh_done run after s⟩
  | cons st rest =>
      have hrun : (continueRefresh run after (st :: rest)).run s = (finishRefresh run after).run s := by
        simp [continueRefresh, refreshCurrent, h]
      rw [hrun]
      exact ⟨by simp [finishRefresh_session, h], finishRefresh_done run after s⟩

theorem continueRefresh_pass {run : RefreshRun} {s : Session} (h : s.refreshGen = run.token)
    {st : RefreshStep} (hp : st.passes s.config.usersPerPage s.store.value.currentChannel run.user)
    (after : AfterRefresh) (rest : List RefreshStep) :
    (continueRefresh run after (st :: rest)).run s = (continueRefresh run after rest).run s := by
  cases st with
  | unread =>
      rcases hu : run.user with _ | u
      · simp [continueRefresh, refreshCurrent, h, hu, RefreshStep.authenticated, RefreshStep.spec]
      · rcases hc : s.store.value.currentChannel with _ | c
        · simp [continueRefresh, refreshCurrent, snapshot, h, hc, hu, RefreshStep.authenticated,
            RefreshStep.spec]
        · simp [RefreshStep.passes, RefreshStep.request, RefreshStep.authenticated,
            RefreshStep.spec, hc, hu] at hp
  | _ =>
      simp only [RefreshStep.passes, RefreshStep.request, Option.isNone_some, Bool.or_false] at hp
      simp [continueRefresh, refreshCurrent, h, hp]

theorem continueRefresh_ask {run : RefreshRun} {s : Session} (h : s.refreshGen = run.token)
    {st : RefreshStep} (hp : st.passes s.config.usersPerPage s.store.value.currentChannel run.user = false)
    {req : Request} (hreq : st.request s.config.usersPerPage s.store.value.currentChannel run.user = some req)
    (after : AfterRefresh) (rest : List RefreshStep) :
    (continueRefresh run after (st :: rest)).run s =
      (.ask req (st.waiting run after rest (s.threadGen + 1)),
        if st = .unread then { s with threadGen := s.threadGen + 1 } else s) := by
  -- the step is not passed over: no login it needs is missing
  have hgo : (st.authenticated && run.user.isNone) = false := by
    simp only [RefreshStep.passes, Bool.or_eq_false_iff] at hp
    exact hp.1
  cases st with
  | unread =>
      rcases hc : s.store.value.currentChannel with _ | c
      · simp [hc, RefreshStep.request] at hreq
      · rcases hu : run.user with _ | u
        · simp [hc, hu, RefreshStep.request] at hreq
        · simp_all [continueRefresh, refreshCurrent, snapshot, nextThread, RefreshStep.request,
            RefreshStep.waiting]
          rfl
  | _ =>
      simp only [RefreshStep.request, Option.some.injEq] at hreq
      subst hreq
      simp [continueRefresh, refreshCurrent, h, hgo, RefreshStep.waiting]
      rfl


theorem resumeStep_run (run : RefreshRun) (st : RefreshStep) (rest : List RefreshStep)
    (tt : Option Nat) (after : AfterRefresh) (raw : Except CallError Value) (s : Session) :
    (resumeStep run st rest tt after raw).run s =
      (continueRefresh (takeOutcome run tt (st.outcome s.store.value raw) s).1 after rest).run
        (takeOutcome run tt (st.outcome s.store.value raw) s).2 := by
  cases st with
  | teams | teamMembers | channels | users | unread | servers | currentServer =>
      simp [resumeStep, applyStep_run, RefreshStep.outcome]
      rfl

theorem directoryDone_refresh_run (run : RefreshRun) (rest : List RefreshStep)
    (after : AfterRefresh) (r : Except CallError (List (String × User))) (s : Session) :
    (directoryDone (.refresh run rest after) r).run s =
      (continueRefresh (takeOutcome run none (r.map fun d => [.users d]) s).1 after rest).run
        (takeOutcome run none (r.map fun d => [.users d]) s).2 := by
  simp [directoryDone, applyStep_run]
  rfl

theorem resume_run (k : Pending) (raw : Except Payload Value) (s : Session) :
    (resume k raw).run s =
      match readAnswer raw with
      | .ok r => (resumeWith k r).run s
      | .error f => (.fault f, s) := by
  rcases raw with p | v
  · simp only [resume, readAnswer]
    rcases CallError.ofPayload Payload.nestingInSession p with f | e <;> rfl
  · rfl


/-- Taking an outcome changes at most the refresh's errors. -/
theorem takeOutcome_run_errors (run : RefreshRun) (tt : Option Nat)
    (o : Except CallError (List Change)) (s : Session) :
    ∃ errors, (takeOutcome run tt o s).1 = { run with errors } := by
  unfold takeOutcome
  split
  · rcases o with e | cs
    · exact ⟨_, rfl⟩
    · exact ⟨run.errors, rfl⟩
  · exact ⟨run.errors, rfl⟩

@[simp] theorem takeOutcome_token (run : RefreshRun) (tt : Option Nat)
    (o : Except CallError (List Change)) (s : Session) :
    (takeOutcome run tt o s).1.token = run.token := by
  obtain ⟨errors, h⟩ := takeOutcome_run_errors run tt o s
  rw [h]

@[simp] theorem takeOutcome_user (run : RefreshRun) (tt : Option Nat)
    (o : Except CallError (List Change)) (s : Session) :
    (takeOutcome run tt o s).1.user = run.user := by
  obtain ⟨errors, h⟩ := takeOutcome_run_errors run tt o s
  rw [h]

/-- Taking an outcome writes its changes when the session admits the step, and
touches nothing else of the session. -/
theorem takeOutcome_session (run : RefreshRun) (tt : Option Nat)
    (o : Except CallError (List Change)) (s : Session) :
    (takeOutcome run tt o s).2 =
      match o with
      | .ok cs => if s.admits run tt then { s with store := s.store.merge cs } else s
      | .error _ => s := by
  unfold takeOutcome
  rcases o with e | cs
  · -- an error is recorded in the refresh, never written
    rw [apply_ite Prod.snd]
    exact ite_self s
  · exact apply_ite Prod.snd _ _ _

theorem takeOutcome_store_only (run : RefreshRun) (tt : Option Nat)
    (o : Except CallError (List Change)) (s : Session) :
    ∃ store, (takeOutcome run tt o s).2 = { s with store } := by
  rw [takeOutcome_session]
  rcases o with e | cs
  · exact ⟨s.store, rfl⟩
  · dsimp only
    split
    · exact ⟨_, rfl⟩
    · exact ⟨s.store, rfl⟩

@[simp] theorem takeOutcome_refreshGen (run : RefreshRun) (tt : Option Nat)
    (o : Except CallError (List Change)) (s : Session) :
    (takeOutcome run tt o s).2.refreshGen = s.refreshGen := by
  obtain ⟨store, h⟩ := takeOutcome_store_only run tt o s
  rw [h]

@[simp] theorem takeOutcome_threadGen (run : RefreshRun) (tt : Option Nat)
    (o : Except CallError (List Change)) (s : Session) :
    (takeOutcome run tt o s).2.threadGen = s.threadGen := by
  obtain ⟨store, h⟩ := takeOutcome_store_only run tt o s
  rw [h]

@[simp] theorem takeOutcome_config (run : RefreshRun) (tt : Option Nat)
    (o : Except CallError (List Change)) (s : Session) :
    (takeOutcome run tt o s).2.config = s.config := by
  obtain ⟨store, h⟩ := takeOutcome_store_only run tt o s
  rw [h]

/-- A current refresh either ends, writing its errors, or asks for the first
step it has left that it does not pass over. -/
theorem continueRefresh_current {run : RefreshRun} {s : Session} (h : s.refreshGen = run.token)
    (after : AfterRefresh) (steps : List RefreshStep) :
    (∃ o, (continueRefresh run after steps).run s =
        (.done o, { s with store := s.store.merge [.errors run.errors] })) ∨
    ∃ st rest req, (st :: rest) <:+ steps ∧
      st.passes s.config.usersPerPage s.store.value.currentChannel run.user = false ∧
      st.request s.config.usersPerPage s.store.value.currentChannel run.user = some req ∧
      (continueRefresh run after steps).run s =
        (.ask req (st.waiting run after rest (s.threadGen + 1)),
          if st = .unread then { s with threadGen := s.threadGen + 1 } else s) := by
  induction steps with
  | nil =>
      left
      obtain ⟨o, ho⟩ := finishRefresh_done run after s
      refine ⟨o, Prod.ext ho ?_⟩
      simp [continueRefresh, finishRefresh_session, h]
  | cons st rest ih =>
      by_cases hp : st.passes s.config.usersPerPage s.store.value.currentChannel run.user
      · rw [continueRefresh_pass h hp]
        rcases ih with hdone | ⟨st', rest', req, hsuf, hp', hreq, hrun⟩
        · exact Or.inl hdone
        · exact Or.inr ⟨st', rest', req, hsuf.trans (List.suffix_cons st rest), hp', hreq, hrun⟩
      · have hp' : st.passes s.config.usersPerPage s.store.value.currentChannel run.user = false := by
          simpa using hp
        cases hreq : st.request s.config.usersPerPage s.store.value.currentChannel run.user with
        | none => simp [RefreshStep.passes, hreq] at hp'
        | some req =>
            exact Or.inr ⟨st, rest, req, List.suffix_refl _, hp', hreq,
              continueRefresh_ask h hp' hreq after rest⟩

/-- What a refresh going on from its remaining steps does to the session and to
the call it ends with: it asks only for its own steps, and takes a thread token
exactly when it asks for the unread step. -/
theorem continueRefresh_facts (run : RefreshRun) (after : AfterRefresh) (steps : List RefreshStep)
    (s : Session) (hsteps : steps <:+ RefreshStep.all) :
    ((continueRefresh run after steps).run s).2.refreshGen = s.refreshGen ∧
    ((continueRefresh run after steps).run s).2.config = s.config ∧
    ((continueRefresh run after steps).run s).2.threadGen =
      s.threadGen + (if ((continueRefresh run after steps).run s).1.asksThreadLoad then 1 else 0) ∧
    ∀ req k, ((continueRefresh run after steps).run s).1 = .ask req k →
      k.refreshRun? = some run ∧ k.WellShaped ∧
        (k.isThreadLoad → k.threadToken? = some ((continueRefresh run after steps).run s).2.threadGen) := by
  by_cases hcur : s.refreshGen = run.token
  · rcases continueRefresh_current hcur after steps with ⟨o, hrun⟩ | ⟨st, rest, req, hsuf, -, -, hrun⟩
    · simp [hrun, Next.asksThreadLoad]
    · rw [hrun]
      have hshape := RefreshStep.waiting_wellShaped run after rest (s.threadGen + 1) (hsuf.trans hsteps)
      refine ⟨(apply_ite Session.refreshGen _ _ _).trans (ite_self _),
        (apply_ite Session.config _ _ _).trans (ite_self _), ?_, ?_⟩
      · by_cases hst : st = .unread
        · simp [hst, Next.asksThreadLoad]
        · simp [hst, Next.asksThreadLoad]
      · intro req' k hk
        simp only [Next.ask.injEq] at hk
        obtain ⟨-, rfl⟩ := hk
        refine ⟨by simp, hshape, fun hthread => ?_⟩
        rw [RefreshStep.waiting_threadToken run after rest _ hthread]
        by_cases hst : st = .unread
        · simp [hst]
        · simp [hst] at hthread
  · obtain ⟨hs, o, hdone⟩ := continueRefresh_stale hcur after steps
    simp [hs, hdone, Next.asksThreadLoad]

/-- After the unread step a refresh writes nothing until the servers answer. -/
theorem continueRefresh_servers_session (run : RefreshRun) (after : AfterRefresh) (s : Session) :
    ((continueRefresh run after [.servers, .currentServer]).run s).2 = s := by
  by_cases hcur : s.refreshGen = run.token
  · have hreq : RefreshStep.servers.request s.config.usersPerPage s.store.value.currentChannel
        run.user = some ⟨"get_all_servers", []⟩ := rfl
    rw [continueRefresh_ask hcur (by simp [RefreshStep.passes, hreq, RefreshStep.authenticated,
      RefreshStep.spec]) hreq]
    simp
  · exact (continueRefresh_stale hcur after _).1

/-- After the unread step a refresh asks for no thread load. -/
theorem continueRefresh_servers_asks (run : RefreshRun) (after : AfterRefresh) (s : Session) :
    ((continueRefresh run after [.servers, .currentServer]).run s).1.asksThreadLoad =
      false := by
  by_cases hcur : s.refreshGen = run.token
  · have hreq : RefreshStep.servers.request s.config.usersPerPage s.store.value.currentChannel
        run.user = some ⟨"get_all_servers", []⟩ := rfl
    rw [continueRefresh_ask hcur (by simp [RefreshStep.passes, hreq,
      RefreshStep.authenticated, RefreshStep.spec]) hreq]
    rfl
  · obtain ⟨-, o, ho⟩ := continueRefresh_stale hcur after [.servers, .currentServer]
    rw [ho]
    rfl

/-- A directory page stops the paging at an error, at a short page and at the
last page allowed; otherwise it asks for the next page. -/
theorem resumePage_run (n : Nat) (dir : List (String × User)) (use : DirectoryUse)
    (raw : Except CallError Value) (s : Session) :
    (resumePage n dir use raw).run s =
      match callOutcome "users" (Projection.listOf "User" User.check) raw with
      | .error e => (directoryDone use (.error e)).run s
      | .ok users =>
        if users.length < s.config.usersPerPage ∨ s.config.usersMaxPages ≤ n + 1 then
          (directoryDone use (.ok (users.foldl addToDirectory dir))).run s
        else
          (.ask (usersRequest (n + 1) s.config.usersPerPage)
            (.page (n + 1) (users.foldl addToDirectory dir) use), s) := by
  rcases h : callOutcome "users" (Projection.listOf "User" User.check) raw with e | users
  · simp [resumePage, h]
  · by_cases hstop : users.length < s.config.usersPerPage ∨ s.config.usersMaxPages ≤ n + 1
    · simp [resumePage, h, hstop]
    · simp [resumePage, h, hstop]
      rfl

/-! The answers that end an operation: each writes at most once, and only on a success. -/

theorem resumeWith_login_run (r : Except CallError Value) (s : Session) :
    (resumeWith .login r).run s =
      match callOutcome "login" (Projection.record "User" User.check) r with
      | .ok u => (.done (.answer (.ok (.user u))), { s with store := s.store.merge [.user (some u)] })
      | .error e => (.done (.answer (.error e)), s) := by
  rcases h : callOutcome "login" (Projection.record "User" User.check) r with e | u
  · simp [resumeWith, h, Except.map]
    rfl
  · simp [resumeWith, h, Except.map, merge, writeWith, Store.write_update]
    rfl

theorem resumeWith_logout_run (r : Except CallError Value) (s : Session) :
    (resumeWith .logout r).run s =
      match r with
      | .ok _ => (.done (.answer (.ok .nothing)),
          { s with refreshGen := s.refreshGen + 1, threadGen := s.threadGen + 1,
                   store := s.store.resetSession })
      | .error e => (.done (.answer (.error e)), s) := by
  rcases r with e | v
  · simp [resumeWith, callOutcome, Except.map, Except.toBool]
    rfl
  · simp [resumeWith, callOutcome, Projection.nothing, Except.map, Except.toBool, resetSession]
    rfl

theorem resumeWith_addServer_run (r : Except CallError Value) (s : Session) :
    (resumeWith .addServer r).run s =
      match callOutcome "add_server" (Projection.record "Server" Server.check) r with
      | .ok sv => (.done (.answer (.ok (.server sv))),
          { s with store := s.store.merge [.servers (withServer s.store.value.servers sv),
                                            .currentServer sv] })
      | .error e => (.done (.answer (.error e)), s) := by
  rcases h : callOutcome "add_server" (Projection.record "Server" Server.check) r with e | sv
  · simp [resumeWith, h, Except.map]
    rfl
  · simp [resumeWith, h, Except.map, writeWith, Store.write_update]
    rfl

/-- A thread load's answer is written only while the load is the newest. -/
theorem resumeWith_thread_run (token : Nat) (command : String) (r : Except CallError Value)
    (s : Session) :
    (resumeWith (.thread token command) r).run s =
      match callOutcome command (Projection.record "PostThread" PostThread.check) r with
      | .ok t => (.done (.answer (.ok (.thread t))),
          if s.threadGen = token then
            { s with store := s.store.merge (threadChanges s.store.value t) }
          else s)
      | .error e => (.done (.answer (.error e)), s) := by
  rcases h : callOutcome command (Projection.record "PostThread" PostThread.check) r with e | t
  · simp [resumeWith, threadCurrent, h, Except.map]
    rfl
  · by_cases hcur : s.threadGen = token
    · simp [resumeWith, threadCurrent, h, hcur, Except.map, writeWith, Store.write_update]
      rfl
    · simp [resumeWith, threadCurrent, h, hcur, Except.map]
      rfl

/-- A switch's answer asks to log out of the old server, keeping the switch. -/
theorem resumeWith_switch_run (reaction : Reaction) (r : Except CallError Value) (s : Session) :
    (resumeWith (.switch reaction) r).run s =
      match callOutcome "change_server" (Projection.record "ChangeServerResult" Switch.check) r with
      | .ok sw => (.ask ⟨"logout", []⟩ (.switchLogout sw reaction), s)
      | .error e => (.done (.answer (.error e)), s) := by
  rcases h : callOutcome "change_server" (Projection.record "ChangeServerResult" Switch.check) r
    with e | sw
  · simp [resumeWith, h]
    rfl
  · simp [resumeWith, h]
    rfl

theorem loadThread_run (req : Request) (s : Session) :
    (loadThread req).run s =
      (.ask req (.thread (s.threadGen + 1) req.command), { s with threadGen := s.threadGen + 1 }) :=
  rfl

/-- Selecting a channel writes it first, then loads its unread posts for the
user logged in. -/
theorem start_selectChannel_run (c : Channel) (s : Session) :
    (start (.selectChannel c)).run s =
      match s.store.value.user with
      | none => (.done (.answer (.error (.text "Not logged in"))),
          { s with store := s.store.merge [.currentChannel (some c)] })
      | some u => (loadThread (unreadRequest c u)).run
          { s with store := s.store.merge [.currentChannel (some c)] } := by
  have hkeep : (s.store.value.update [.currentChannel (some c)]).user = s.store.value.user := rfl
  show (match (s.store.value.update [.currentChannel (some c)]).user with
      | none => pure (Next.done (.answer (.error (.text "Not logged in"))))
      | some u => loadThread (unreadRequest c u)).run
        { s with store := s.store.merge [.currentChannel (some c)] } = _
  rw [hkeep]
  rcases s.store.value.user with _ | u
  · rfl
  · rfl

theorem react_session (reaction : Reaction) (s : Session) :
    ((react reaction).run s).2.refreshGen = s.refreshGen ∧
    ((react reaction).run s).2.threadGen = s.threadGen ∧
    ((react reaction).run s).2.config = s.config ∧
    ((react reaction).run s).2.store = s.store := by
  cases reaction <;> simp [react]

/-- A reaction counts or queues itself whatever the refresh counter. -/
theorem react_reactions (reaction : Reaction) (s : Session) (n : Nat) :
    ((react reaction).run { s with refreshGen := n }).2.reactions = ((react reaction).run s).2.reactions ∧
    ((react reaction).run { s with refreshGen := n }).2.scheduled = ((react reaction).run s).2.scheduled := by
  cases reaction <;> exact ⟨rfl, rfl⟩

/-- Starting a refresh takes a new refresh token, reacts when nobody is logged
in, and goes on from all the steps with the user logged in at that moment. -/
theorem startRefresh_eq (reaction : Reaction) (after : AfterRefresh) (s : Session) :
    (startRefresh reaction after).run s =
      (continueRefresh { token := s.refreshGen + 1, user := s.store.value.user } after
        RefreshStep.all).run
        (if s.store.value.user.isNone then
          ((react reaction).run { s with refreshGen := s.refreshGen + 1 }).2
        else { s with refreshGen := s.refreshGen + 1 }) := by
  rcases hu : s.store.value.user with _ | u
  · -- the reaction's run is bound in the identity monad
    simp [startRefresh, snapshot, nextRefresh, hu]
    rfl
  · simp [startRefresh, snapshot, nextRefresh, hu]

/-- Starting a refresh takes a new refresh token and goes on from all the steps,
with the user logged in at that moment. -/
theorem startRefresh_run (reaction : Reaction) (after : AfterRefresh) (s : Session) :
    ∃ s', s'.refreshGen = s.refreshGen + 1 ∧ s'.threadGen = s.threadGen ∧ s'.config = s.config ∧
      s'.store = s.store ∧
      (startRefresh reaction after).run s =
        (continueRefresh { token := s.refreshGen + 1, user := s.store.value.user } after
          RefreshStep.all).run s' := by
  by_cases hnone : s.store.value.user.isNone
  · -- the reaction runs, and touches none of these
    obtain ⟨h1, h2, h3, h4⟩ := react_session reaction { s with refreshGen := s.refreshGen + 1 }
    exact ⟨_, h1, h2, h3, h4, by rw [startRefresh_eq, if_pos hnone]⟩
  · exact ⟨{ s with refreshGen := s.refreshGen + 1 }, rfl, rfl, rfl, rfl,
      by rw [startRefresh_eq, if_neg hnone]⟩

end Orchestrator

/-- Only the servers and the current server follow the unread step. -/
theorem RefreshStep.rest_of_unread {rest : List RefreshStep}
    (h : (RefreshStep.unread :: rest) <:+ RefreshStep.all) : rest = [.servers, .currentServer] := by
  simpa [RefreshStep.all, List.suffix_cons_iff] using h

end ChatSession
