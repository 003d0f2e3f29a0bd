import ChatSession.Proofs.Selection

/-!
A successful logout as a barrier for the session fields.

The reset renews both generation counters and puts the session fields back to
their defaults. Every refresh and every thread load waiting at that moment
carries an older token, so its answers change nothing from then on
(`resume_stale_refresh`, `resume_stale_thread`). The other calls that may be
waiting write no session field, with two exceptions that carry no token at all:
a login writes the user, and a read of the user directory for the store writes
the directory. A server switch resets and refreshes again, so it is left out.

`World.Barrier fs` is what holds after the reset while only answers come: the
fields `fs` are at their defaults and every waiting call outlives the reset
without writing one of them. The main statement is `reset_is_barrier`; the
login that completes after the reset is `login_completes_after_reset`.
-/

namespace ChatSession

/-- The event answers a waiting call; it starts nothing. -/
def Event.isAnswer : Event → Bool
  | .answer _ _ => true
  | .start _ => false

namespace Pending

/-- The continuation waits past a reset without writing a session field through
a token: a refresh or a thread load holds a token older than the session's, and
no server switch is waiting. -/
def Outlives (s : Session) : Pending → Prop
  | .step run _ _ _ _ => run.token < s.refreshGen
  | .page _ _ (.refresh run _ _) => run.token < s.refreshGen
  | .thread t _ => t < s.threadGen
  | .switch _ | .switchLogout _ _ => False
  | _ => True

/-- A login waiting for its answer. -/
def isLogin : Pending → Bool
  | .login => true
  | _ => false

/-- A read of the user directory whose result goes to the store. -/
def readsForStore : Pending → Bool
  | .page _ _ .store => true
  | _ => false

/-- A server switch, at either of its calls. -/
def isSwitch : Pending → Bool
  | .switch _ | .switchLogout _ _ => true
  | _ => false

theorem Outlives.mono {s s' : Session} {k : Pending} (h : k.Outlives s)
    (hr : s.refreshGen ≤ s'.refreshGen) (ht : s.threadGen ≤ s'.threadGen) : k.Outlives s' := by
  cases k with
  | step run _ _ _ _ => exact Nat.lt_of_lt_of_le h hr
  | page n dir use =>
      cases use with
      | refresh run _ _ => exact Nat.lt_of_lt_of_le h hr
      | _ => trivial
  | thread t _ => exact Nat.lt_of_lt_of_le h ht
  | switch _ => exact h.elim
  | switchLogout _ _ => exact h.elim
  | _ => trivial

/-- Whether a page of a directory read outlives a reset depends on the read alone. -/
theorem outlives_page {s : Session} {n m : Nat} {dir dir' : List (String × User)}
    {use : DirectoryUse} (h : (Pending.page n dir use).Outlives s) :
    (Pending.page m dir' use).Outlives s := by
  cases use <;> exact h

end Pending

/-- A reset puts the session fields back to their defaults and keeps the others. -/
theorem PageState.read_resetSession (s : PageState) (f : StateField) :
    s.resetSession.read f = if f ∈ StateField.session then Change.reset f else s.read f := by
  cases f <;> rfl

namespace Orchestrator

open Session

/-- A logout answered with data succeeds: both counters are renewed and the
session fields are cleared. -/
theorem resume_logout_ok (v : Value) (s : Session) :
    (resume .logout (.ok v)).run s =
      (.done (.answer (.ok .nothing)),
        { s with
          refreshGen := s.refreshGen + 1
          threadGen := s.threadGen + 1
          store := s.store.resetSession }) := rfl

/-- A login answered with a user writes that user. -/
theorem resume_login_ok {v : Value} {u : User}
    (h : callOutcome "login" (Projection.record "User" User.check) (.ok v) = .ok u) (s : Session) :
    (resume .login (.ok v)).run s =
      (.done (.answer (.ok (.user u))), { s with store := s.store.merge [.user (some u)] }) := by
  show (resumeWith .login (.ok v)).run s = _
  rw [resumeWith_login_run, h]

/-- Outside a refresh and a server switch, an operation asks at most for the next
page of the directory it reads. -/
theorem resume_asks_next_page {k : Pending} (hrun : k.refreshRun? = none)
    (hsw : k.isSwitch = false) (raw : Except Payload Value) (s : Session) {req : Request}
    {k' : Pending} (hask : ((resume k raw).run s).1 = .ask req k') :
    ∃ n dir use dir', k = .page n dir use ∧ k' = .page (n + 1) dir' use := by
  by_cases hthread : ∃ t command, k = .thread t command
  · obtain ⟨t, command, rfl⟩ := hthread
    exact absurd hask (World.resume_thread_ended t command raw s)
  rw [resume_run] at hask
  rcases hread : readAnswer raw with f | r
  · -- an answer that cannot be read ends the operation
    simp [hread] at hask
  simp only [hread] at hask
  cases k with
  | page n dir use =>
      have hdone : ∀ d, ((directoryDone use d).run s).1 ≠ .ask req k' := by
        intro d
        cases use with
        | reply => simp [directoryDone]
        | store =>
            rcases d with e | d
            · simp [directoryDone]
            · simp [directoryDone, merge, writeWith]
        | refresh => simp [Pending.refreshRun?] at hrun
      rw [show (resumeWith (.page n dir use) r).run s = _ from resumePage_run n dir use r s] at hask
      split at hask
      · exact absurd hask (hdone _)
      · split at hask
        · exact absurd hask (hdone _)
        · simp only [Next.ask.injEq] at hask
          exact ⟨n, dir, use, _, rfl, hask.2.symm⟩
  | step => simp [Pending.refreshRun?] at hrun
  | switch => simp [Pending.isSwitch] at hsw
  | switchLogout => simp [Pending.isSwitch] at hsw
  | thread t command => exact absurd ⟨t, command, rfl⟩ hthread
  | login =>
      rw [resumeWith_login_run] at hask
      split at hask
      · cases hask
      · cases hask
  | logout =>
      rw [resumeWith_logout_run] at hask
      split at hask
      · cases hask
      · cases hask
  | addServer =>
      rw [resumeWith_addServer_run] at hask
      split at hask
      · cases hask
      · cases hask
  | postThread => simp [resumeWith] at hask
  | command spec => simp [resumeWith] at hask

end Orchestrator

open Orchestrator

section Barrier

variable {fs : List StateField}

/-- After the reset, taking an answer keeps every field of `fs` at its default:
stale refreshes and thread loads change nothing, a logout clears the session
fields again, and every other operation writes outside `fs`. -/
theorem resume_keeps_cleared (hfs : ∀ f ∈ fs, f ∈ StateField.session) {k : Pending}
    (hk : k.WellShaped) {s : Session} (hout : k.Outlives s)
    (hlogin : StateField.user ∈ fs → k.isLogin = false)
    (hstore : StateField.users ∈ fs → k.readsForStore = false)
    (hcleared : ∀ f ∈ fs, s.store.value.read f = Change.reset f) (raw : Except Payload Value) :
    ∀ f ∈ fs, ((resume k raw).run s).2.store.value.read f = Change.reset f := by
  intro f hf
  -- an operation that writes only `ws`, none of them in `fs`, keeps `f`
  have hkeeps : ∀ ws : List StateField, k.writes = ws → k.resets raw = false → f ∉ ws →
      ((resume k raw).run s).2.store.value.read f = Change.reset f := by
    intro ws hws hreset hnot
    rw [resume_keeps hk (hws ▸ hnot) hreset s]
    exact hcleared f hf
  have hsess := hfs f hf
  cases k with
  | step run st rest tt after =>
      have hstale : s.refreshGen ≠ run.token := Nat.ne_of_gt hout
      rw [(resume_stale_refresh hk rfl hstale raw).1]
      exact hcleared f hf
  | page n dir use =>
      cases use with
      | reply => exact hkeeps [] rfl rfl (List.not_mem_nil)
      | store =>
          have hne : f ≠ .users := by
            rintro rfl
            simp [Pending.readsForStore] at hstore
            exact hstore hf
          exact hkeeps [.users] rfl rfl (by simpa using hne)
      | refresh run rest after =>
          have hstale : s.refreshGen ≠ run.token := Nat.ne_of_gt hout
          rw [(resume_stale_refresh hk rfl hstale raw).1]
          exact hcleared f hf
  | login =>
      have hne : f ≠ .user := by
        rintro rfl
        simp [Pending.isLogin] at hlogin
        exact hlogin hf
      exact hkeeps [.user] rfl rfl (by simpa using hne)
  | logout =>
      rw [resume_run]
      rcases readAnswer raw with e | r
      · exact hcleared f hf
      rcases r with e | v
      · simpa [resumeWith, callOutcome, Except.toBool] using hcleared f hf
      · show ((resume .logout (.ok v)).run s).2.store.value.read f = _
        rw [resume_logout_ok]
        simp [Store.resetSession, Store.write, PageState.read_resetSession, hsess]
  | addServer =>
      have hnot : f ∉ [StateField.servers, .currentServer] := by
        intro h
        simp at h
        rcases h with rfl | rfl <;> simp [StateField.session] at hsess
      exact hkeeps _ rfl rfl hnot
  | postThread => exact hkeeps [] rfl rfl List.not_mem_nil
  | thread t command =>
      have hstale : s.threadGen ≠ t := Nat.ne_of_gt hout
      rw [resume_stale_thread hk rfl rfl hstale raw]
      exact hcleared f hf
  | switch => exact hout.elim
  | switchLogout => exact hout.elim
  | command spec => exact hkeeps [] rfl rfl List.not_mem_nil

/-- After the reset, taking an answer asks at most for the next page of a
directory read. -/
theorem resume_outlives_asks {k : Pending} (hk : k.WellShaped) {s : Session} (hout : k.Outlives s)
    (raw : Except Payload Value) {req : Request} {k' : Pending}
    (hask : ((resume k raw).run s).1 = .ask req k') :
    ∃ n dir use dir', k = .page n dir use ∧ k' = .page (n + 1) dir' use := by
  rcases hrun : k.refreshRun? with _ | run
  · have hsw : k.isSwitch = false := by
      cases k with
      | switch _ | switchLogout _ _ => exact hout.elim
      | _ => rfl
    exact resume_asks_next_page hrun hsw raw s hask
  · have hstale : s.refreshGen ≠ run.token := by
      cases k with
      | step run' _ _ _ _ =>
          cases hrun
          exact Nat.ne_of_gt hout
      | page n dir use =>
          rcases use with _ | _ | ⟨run', rest, after⟩ <;> simp [Pending.refreshRun?] at hrun
          cases hrun
          exact Nat.ne_of_gt hout
      | _ => simp [Pending.refreshRun?] at hrun
    exact (resume_stale_refresh hk hrun hstale raw).2 req k' hask

end Barrier

namespace World

/-- What holds after a reset while only answers come: the fields `fs` are at
their defaults, every waiting call outlives the reset, and no waiting call that
carries no token writes one of them. -/
structure Barrier (fs : List StateField) (w : World) : Prop where
  cleared : ∀ f ∈ fs, w.snapshot.read f = Change.reset f
  outlives : ∀ c ∈ w.calls, c.k.Outlives w.session
  noLogin : StateField.user ∈ fs → ∀ c ∈ w.calls, c.k.isLogin = false
  noStoreRead : StateField.users ∈ fs → ∀ c ∈ w.calls, c.k.readsForStore = false

variable {fs : List StateField}

/-- Answering a waiting call keeps the barrier: the answered operation keeps the
fields of `fs`, the counters only grow, and the one call it may make next is the
next page of a directory read it was already doing. -/
theorem Barrier.answer (hfs : ∀ f ∈ fs, f ∈ StateField.session) {w : World}
    (hb : w.Barrier fs) (hcoh : w.Coherent) (i : Nat) (raw : Except Payload Value) :
    (w.step (.answer i raw)).Barrier fs := by
  rcases hc : w.calls[i]? with _ | c
  · rw [step_answer_none hc raw]
    exact hb
  have hcmem : c ∈ w.calls := List.mem_of_getElem? hc
  have hk := hcoh.shaped c hcmem
  have hout := hb.outlives c hcmem
  have hadv := resume_advances hk raw w.session
  have hr : w.session.refreshGen ≤ ((resume c.k raw).run w.session).2.refreshGen := by
    rw [hadv.refreshGen]
    omega
  have ht : w.session.threadGen ≤ ((resume c.k raw).run w.session).2.threadGen := by
    rw [hadv.threadGen]
    omega
  -- a call waiting after the answer was waiting before, or is the next page of `c`'s read
  have hcalls : ∀ d ∈ (w.step (.answer i raw)).calls, d ∈ w.calls ∨
      ∃ n dir use dir', c.k = .page n dir use ∧ d.k = .page (n + 1) dir' use := by
    intro d hd
    rw [step_answer hc raw, mem_settle_calls] at hd
    rcases hd with hd | ⟨req, k', hask, rfl⟩
    · exact Or.inl (List.mem_of_mem_eraseIdx hd)
    · exact Or.inr (resume_outlives_asks hk hout raw hask)
  rw [step_answer hc raw]
  refine ⟨?_, ?_, ?_, ?_⟩
  · intro f hf
    rw [settle_snapshot]
    exact resume_keeps_cleared hfs hk hout (fun h => hb.noLogin h c hcmem)
      (fun h => hb.noStoreRead h c hcmem) hb.cleared raw f hf
  · intro d hd
    rw [settle_session]
    rcases hcalls d (by rwa [step_answer hc raw]) with hd | ⟨n, dir, use, dir', hck, hdk⟩
    · exact (hb.outlives d hd).mono hr ht
    · rw [hck] at hout
      rw [hdk]
      exact (Pending.outlives_page hout).mono hr ht
  · intro hu d hd
    rcases hcalls d (by rwa [step_answer hc raw]) with hd | ⟨n, dir, use, dir', -, hdk⟩
    · exact hb.noLogin hu d hd
    · rw [hdk]
      rfl
  · intro hu d hd
    rcases hcalls d (by rwa [step_answer hc raw]) with hd | ⟨n, dir, use, dir', hck, hdk⟩
    · exact hb.noStoreRead hu d hd
    · have hstore := hb.noStoreRead hu c hcmem
      rw [hck] at hstore
      rw [hdk]
      cases use <;> simp_all [Pending.readsForStore]

/-- The barrier holds along every run of answers. -/
theorem Barrier.runAll (hfs : ∀ f ∈ fs, f ∈ StateField.session) {w : World}
    (hb : w.Barrier fs) (hcoh : w.Coherent) (evs : List Event) (hans : ∀ e ∈ evs, e.isAnswer) :
    (w.runAll evs).Barrier fs := by
  induction evs generalizing w with
  | nil => exact hb
  | cons e evs ih =>
      cases e with
      | start op => simp [Event.isAnswer] at hans
      | answer i raw =>
          exact ih (hb.answer hfs hcoh i raw) (hcoh.step _)
            (fun e he => hans e (List.mem_cons_of_mem _ he))

/-- A logout that succeeds sets up the barrier for any session fields `fs` that
no waiting login or store read of the directory writes, when no server switch
is waiting. -/
theorem Barrier.of_logout (hfs : ∀ f ∈ fs, f ∈ StateField.session) {w : World}
    (hcoh : w.Coherent) {i : Nat} {c : Call} (hc : w.calls[i]? = some c)
    (hlogout : c.k = .logout) (v : Value) (hswitch : ∀ d ∈ w.calls, d.k.isSwitch = false)
    (hlogin : StateField.user ∈ fs → ∀ d ∈ w.calls, d.k.isLogin = false)
    (hstore : StateField.users ∈ fs → ∀ d ∈ w.calls, d.k.readsForStore = false) :
    (w.step (.answer i (.ok v))).Barrier fs := by
  have hstep : w.step (.answer i (.ok v)) =
      ({ w with calls := w.calls.eraseIdx i, threadWrites := w.threadWrites } : World).settle
        c.origin false true
        (.done (.answer (.ok .nothing)),
          { w.session with
            refreshGen := w.session.refreshGen + 1
            threadGen := w.session.threadGen + 1
            store := w.session.store.resetSession }) := by
    rw [step_answer hc, hlogout, Orchestrator.resume_logout_ok]
    rfl
  have hsub : ∀ d ∈ (w.step (.answer i (.ok v))).calls, d ∈ w.calls := by
    intro d hd
    rw [hstep, mem_settle_calls] at hd
    rcases hd with hd | ⟨req, k, hask, -⟩
    · exact List.mem_of_mem_eraseIdx hd
    · simp at hask
  refine ⟨?_, ?_, fun hu d hd => hlogin hu d (hsub d hd),
    fun hu d hd => hstore hu d (hsub d hd)⟩
  · intro f hf
    rw [hstep, settle_snapshot]
    simp [Store.resetSession, Store.write, PageState.read_resetSession, hfs f hf]
  · -- every token held by a waiting call is at most the counter it was taken from
    intro d hd
    have hdmem := hsub d hd
    rw [hstep, settle_session]
    cases hdk : d.k with
    | step run st rest tt after =>
        have hle := (hcoh.refreshToken d hdmem run (by simp [hdk, Pending.refreshRun?])).1
        exact Nat.lt_succ_of_le hle
    | page n dir use =>
        cases use with
        | refresh run rest after =>
            have hle := (hcoh.refreshToken d hdmem run (by simp [hdk, Pending.refreshRun?])).1
            exact Nat.lt_succ_of_le hle
        | _ => trivial
    | thread t command =>
        obtain ⟨t', ht', hle, -⟩ := hcoh.threadToken d hdmem (by simp [hdk, Pending.isThreadLoad])
        simp only [hdk, Pending.threadToken?, Option.some.injEq] at ht'
        subst ht'
        exact Nat.lt_succ_of_le hle
    | switch => exact absurd (hswitch d hdmem) (by simp [hdk, Pending.isSwitch])
    | switchLogout => exact absurd (hswitch d hdmem) (by simp [hdk, Pending.isSwitch])
    | _ => trivial

end World

open World

/-- A successful logout is a barrier for the session fields: from its answer on,
while only answers come, every session field stays at its default, with two
exceptions written by operations that carry no generation token: the user, by a
login waiting at the reset, and the directory, by a read of it for the store
waiting then. No server switch may be waiting at the reset. -/
theorem reset_is_barrier (s : Session) (evs evs' : List Event) {i : Nat} {c : Call} (v : Value)
    (hc : ((init s).runAll evs).calls[i]? = some c) (hlogout : c.k = .logout)
    (hswitch : ∀ d ∈ ((init s).runAll evs).calls, d.k.isSwitch = false)
    (hans : ∀ e ∈ evs', e.isAnswer) :
    (∀ f ∈ StateField.session, f ≠ .user → f ≠ .users →
      ((init s).runAll (evs ++ .answer i (.ok v) :: evs')).snapshot.read f = Change.reset f) ∧
    ((∀ d ∈ ((init s).runAll evs).calls, d.k.isLogin = false) →
      ((init s).runAll (evs ++ .answer i (.ok v) :: evs')).snapshot.user = none) ∧
    ((∀ d ∈ ((init s).runAll evs).calls, d.k.readsForStore = false) →
      ((init s).runAll (evs ++ .answer i (.ok v) :: evs')).snapshot.users = []) := by
  have hcoh := coherent_runAll s evs
  have hrun : (init s).runAll (evs ++ .answer i (.ok v) :: evs') =
      (((init s).runAll evs).step (.answer i (.ok v))).runAll evs' := by
    rw [runAll_append, runAll_cons]
  -- the barrier for the fields `fs`, from the reset to the end of the run
  have hbarrier : ∀ fs : List StateField, (∀ f ∈ fs, f ∈ StateField.session) →
      (StateField.user ∈ fs → ∀ d ∈ ((init s).runAll evs).calls, d.k.isLogin = false) →
      (StateField.users ∈ fs → ∀ d ∈ ((init s).runAll evs).calls, d.k.readsForStore = false) →
      ((((init s).runAll evs).step (.answer i (.ok v))).runAll evs').Barrier fs :=
    fun fs hfs hlogin hstore =>
      (Barrier.of_logout hfs hcoh hc hlogout v hswitch hlogin hstore).runAll hfs
        (hcoh.step _) evs' hans
  rw [hrun]
  refine ⟨?_, ?_, ?_⟩
  · intro f hf hu hus
    exact (hbarrier [f] (by simpa using hf) (by simp [Ne.symm hu])
      (by simp [Ne.symm hus])).cleared f (by simp)
  · intro hlogin
    have hread := (hbarrier [.user] (by simp [StateField.session]) (fun _ => hlogin)
      (by simp)).cleared .user (by simp)
    simpa [PageState.read, Change.reset] using hread
  · intro hstore
    have hread := (hbarrier [.users] (by simp [StateField.session]) (by simp)
      (fun _ => hstore)).cleared .users (by simp)
    simpa [PageState.read, Change.reset] using hread

/-- A login, then a logout, started one after the other. -/
def loginThenLogout : List Event :=
  [.start (.login (.str "admin") (.str "pw")), .start .logout]

/-- The answer to the login: the user `u1`. -/
def loginAnswer : Value := .dict [(.str "user_id", .str "u1")]

/-- The answer reads as the user `u1`. -/
theorem loginAnswer_reads :
    callOutcome "login" (Projection.record "User" User.check) (.ok loginAnswer) =
      .ok { userId := "u1" } := by
  simp [callOutcome, Projection.record, User.check, Check.fields, Value.field?, Value.lookup,
    Value.eqv, Check.field, Check.str, Checked.under, loginAnswer]
  rfl

/-- `ann` logged in, with teams, channels, a selected channel and a directory. -/
def busyLoggedIn : Session :=
  { (default : Session) with
    store := { value :=
      { user := some ann, teams := [coreTeam], channels := [town, lobby],
        currentChannel := some town, users := [("u1", ann), ("u2", bob)] } } }

/-- A refresh and a load of the channel's posts start, then a logout. -/
def refreshLoadLogout : List Event :=
  [.start (.refresh .ignore), .start (.loadChannelPosts town), .start .logout]

/-- The refresh's first step and the thread load are answered after the reset. -/
def lateAnswers : List Event := [.answer 0 (.ok (.list [])), .answer 0 (.ok (.dict []))]

/-- The logout succeeds while a refresh step and a thread load wait, and both are
answered afterwards: every session field is back at its default, the user and
the directory included, since no login and no read of the directory waited. -/
theorem barrier_with_refresh_and_load_waiting :
    ((init busyLoggedIn).runAll refreshLoadLogout).calls[2]? =
        some ⟨2, 2, ⟨"logout", []⟩, .logout⟩ ∧
    (∀ d ∈ ((init busyLoggedIn).runAll refreshLoadLogout).calls, d.k.isSwitch = false) ∧
    (∀ e ∈ lateAnswers, e.isAnswer) ∧
    (∀ d ∈ ((init busyLoggedIn).runAll refreshLoadLogout).calls, d.k.isLogin = false) ∧
    (∀ d ∈ ((init busyLoggedIn).runAll refreshLoadLogout).calls, d.k.readsForStore = false) ∧
    ((∀ f ∈ StateField.session, f ≠ .user → f ≠ .users →
      ((init busyLoggedIn).runAll (refreshLoadLogout ++ .answer 2 (.ok .null) ::
        lateAnswers)).snapshot.read f = Change.reset f) ∧
    ((∀ d ∈ ((init busyLoggedIn).runAll refreshLoadLogout).calls, d.k.isLogin = false) →
      ((init busyLoggedIn).runAll (refreshLoadLogout ++ .answer 2 (.ok .null) ::
        lateAnswers)).snapshot.user = none) ∧
    ((∀ d ∈ ((init busyLoggedIn).runAll refreshLoadLogout).calls, d.k.readsForStore = false) →
      ((init busyLoggedIn).runAll (refreshLoadLogout ++ .answer 2 (.ok .null) ::
        lateAnswers)).snapshot.users = [])) := by
  have hc : ((init busyLoggedIn).runAll refreshLoadLogout).calls[2]? =
      some ⟨2, 2, ⟨"logout", []⟩, .logout⟩ := rfl
  have hswitch : ∀ d ∈ ((init busyLoggedIn).runAll refreshLoadLogout).calls,
      d.k.isSwitch = false := by
    decide
  have hans : ∀ e ∈ lateAnswers, e.isAnswer := by simp [lateAnswers, Event.isAnswer]
  have hlogin : ∀ d ∈ ((init busyLoggedIn).runAll refreshLoadLogout).calls,
      d.k.isLogin = false := by
    decide
  have hstore : ∀ d ∈ ((init busyLoggedIn).runAll refreshLoadLogout).calls,
      d.k.readsForStore = false := by
    decide
  exact ⟨hc, hswitch, hans, hlogin, hstore,
    reset_is_barrier busyLoggedIn refreshLoadLogout lateAnswers .null hc rfl hswitch hans⟩

/-- A login that waits while a logout succeeds still writes its user once it is
answered: with every operation ended and nothing started after the reset, the
user is not at its default. -/
theorem login_completes_after_reset :
    ((init {}).runAll (loginThenLogout ++ .answer 1 (.ok .null) ::
      [.answer 0 (.ok loginAnswer)])).calls = [] ∧
    ((init {}).runAll (loginThenLogout ++ .answer 1 (.ok .null) ::
      [.answer 0 (.ok loginAnswer)])).snapshot.user = some { userId := "u1" } := by
  have hc : (((init {}).runAll loginThenLogout).step (.answer 1 (.ok .null))).calls[0]? =
      some ⟨0, 0, ⟨"login", [("login", .str "admin"), ("password", .str "pw")]⟩, .login⟩ := rfl
  rw [runAll_append, runAll_cons, runAll_cons, runAll_nil, step_answer hc,
    Orchestrator.resume_login_ok loginAnswer_reads]
  exact ⟨rfl, rfl⟩

end ChatSession
