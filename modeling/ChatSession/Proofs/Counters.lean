import ChatSession.Proofs.Stretch

/-!
How one stretch moves the generation counters.

Every stretch, whichever operation it belongs to, is summed up by `Advances`:
the refresh counter goes up once when a refresh begins and once when the
session is reset; the thread counter goes up once at a reset and once when the
stretch ends with a call for a thread load; and the call it ends with carries
either the token of the refresh that just began, or the token of the refresh
the answered call was part of. Then come the stretches of work that has been
superseded: a refresh that is not the newest, and a thread load that is not
the newest, change nothing.
-/

namespace ChatSession

open Orchestrator Session

/-- How a stretch moves the counters, and what the call it ends with carries. -/
structure Advances (s : Session) (began reset : Bool) (parent : Option RefreshRun)
    (r : Next × Session) : Prop where
  refreshGen : r.2.refreshGen = s.refreshGen + (if began then 1 else 0) + (if reset then 1 else 0)
  threadGen : r.2.threadGen =
    s.threadGen + (if reset then 1 else 0) + (if r.1.asksThreadLoad then 1 else 0)
  config : r.2.config = s.config
  shaped : ∀ req k, r.1 = .ask req k → k.WellShaped
  refresh : ∀ req k run, r.1 = .ask req k → k.refreshRun? = some run →
    (began = true ∧ run.token = r.2.refreshGen) ∨
      (began = false ∧ ∃ p, parent = some p ∧ run.token = p.token)
  thread : ∀ req k, r.1 = .ask req k → k.isThreadLoad → k.threadToken? = some r.2.threadGen

namespace Advances

/-- A stretch that ends its operation and leaves both counters alone. -/
theorem of_done {s : Session} {parent : Option RefreshRun} {r : Next × Session}
    (hdone : ∃ o, r.1 = .done o) (hr : r.2.refreshGen = s.refreshGen)
    (ht : r.2.threadGen = s.threadGen) (hc : r.2.config = s.config) :
    Advances s false false parent r := by
  obtain ⟨o, ho⟩ := hdone
  have hno : ∀ req k, r.1 ≠ .ask req k := by simp [ho]
  exact ⟨by simp [hr], by simp [ht, ho, Next.asksThreadLoad], hc,
    fun req k h => absurd h (hno req k), fun req k _ h => absurd h (hno req k),
    fun req k h => absurd h (hno req k)⟩

/-- A logout that succeeds: both counters go up once, and the logout ends. -/
theorem of_reset {s : Session} {parent : Option RefreshRun} {o : Outcome} {st : Store} :
    Advances s false true parent
      (.done o, { s with refreshGen := s.refreshGen + 1, threadGen := s.threadGen + 1,
                         store := st }) where
  refreshGen := by simp
  threadGen := by simp [Next.asksThreadLoad]
  config := rfl
  shaped := by simp
  refresh := by simp
  thread := by simp

theorem of_fault {s : Session} {parent : Option RefreshRun} (f : ReadFault) :
    Advances s false false parent (.fault f, s) where
  refreshGen := by simp
  threadGen := by simp [Next.asksThreadLoad]
  config := rfl
  shaped := by simp
  refresh := by simp
  thread := by simp

/-- A refresh going on from a session whose counters and settings are those of `s`. -/
theorem of_continueRefresh {s s' : Session} {run : RefreshRun} {parent : RefreshRun}
    (htoken : run.token = parent.token) (hr : s'.refreshGen = s.refreshGen)
    (ht : s'.threadGen = s.threadGen) (hc : s'.config = s.config) (after : AfterRefresh)
    {steps : List RefreshStep} (hsteps : steps <:+ RefreshStep.all) :
    Advances s false false (some parent) ((continueRefresh run after steps).run s') := by
  obtain ⟨hgen, hcfg, hthread, hnext⟩ := continueRefresh_facts run after steps s' hsteps
  refine ⟨by simp [hgen, hr], by simp [hthread, ht], hcfg.trans hc, ?_, ?_, ?_⟩
  · intro req k hk
    exact (hnext req k hk).2.1
  · intro req k run' hk hrun
    obtain ⟨hk', -⟩ := hnext req k hk
    rw [hk'] at hrun
    cases hrun
    exact Or.inr ⟨rfl, parent, rfl, htoken⟩
  · intro req k hk hthr
    exact (hnext req k hk).2.2 hthr

/-- A stretch that leaves the session as it is and waits on a call of the same
refresh as before, or of none. -/
theorem of_ask {s : Session} {parent : Option RefreshRun} {req : Request} {k : Pending}
    (hk : k.WellShaped) (hrun : ∀ run, k.refreshRun? = some run → ∃ p, parent = some p ∧ run.token = p.token)
    (ht : k.isThreadLoad = false) :
    Advances s false false parent (.ask req k, s) where
  refreshGen := by simp
  threadGen := by simp [Next.asksThreadLoad, ht]
  config := rfl
  shaped := by
    rintro req' k' ⟨-, rfl⟩
    exact hk
  refresh := by
    rintro req' k' run ⟨-, rfl⟩ hk'
    exact Or.inr ⟨rfl, hrun run hk'⟩
  thread := by
    rintro req' k' ⟨-, rfl⟩ hk'
    simp [ht] at hk'

/-- Only the counters and the settings of the session a stretch starts from matter. -/
theorem of_counters {s s₁ : Session} {began reset : Bool} {parent : Option RefreshRun}
    {r : Next × Session} (h : Advances s₁ began reset parent r)
    (hr : s₁.refreshGen = s.refreshGen) (ht : s₁.threadGen = s.threadGen)
    (hc : s₁.config = s.config) : Advances s began reset parent r :=
  ⟨by rw [h.refreshGen, hr], by rw [h.threadGen, ht], h.config.trans hc, h.shaped, h.refresh,
    h.thread⟩

theorem of_loadThread (s : Session) (req : Request) :
    Advances s false false none ((loadThread req).run s) := by
  rw [loadThread_run]
  refine ⟨rfl, rfl, rfl, ?_, ?_, ?_⟩
  · rintro req' k ⟨-, rfl⟩
    trivial
  · rintro req' k run ⟨-, rfl⟩ hrun
    simp [Pending.refreshRun?] at hrun
  · rintro req' k ⟨-, rfl⟩ -
    rfl

end Advances

theorem readAnswer_toBool {raw : Except Payload Value} {r : Except CallError Value}
    (h : readAnswer raw = .ok r) : raw.toBool = r.toBool := by
  rcases raw with p | v
  · simp only [readAnswer] at h
    rcases he : CallError.ofPayload Payload.nestingInSession p with f | e
    · simp [he, Except.map] at h
    · -- a rejection that reads as an error is taken as that error
      simp only [he, Except.map, Except.ok.injEq] at h
      subst h
      rfl
  · simp only [readAnswer, Except.ok.injEq] at h
    subst h
    rfl

theorem readable_of_readAnswer {raw : Except Payload Value} {r : Except CallError Value}
    (h : readAnswer raw = .ok r) : readable raw = true := by
  simp [readable, h, Except.toBool]

theorem directoryDone_advances {n : Nat} {dir : List (String × User)} {use : DirectoryUse}
    (hk : (Pending.page n dir use).WellShaped) (d : Except CallError (List (String × User)))
    (s : Session) :
    Advances s false false (Pending.page n dir use).refreshRun? ((directoryDone use d).run s) := by
  cases use with
  | reply => exact Advances.of_done ⟨_, rfl⟩ rfl rfl rfl
  | store =>
      rcases d with e | d
      · exact Advances.of_done ⟨_, rfl⟩ rfl rfl rfl
      · exact Advances.of_done ⟨_, rfl⟩ rfl rfl rfl
  | refresh run rest after =>
      have hsteps : (RefreshStep.users :: rest) <:+ RefreshStep.all := hk
      rw [directoryDone_refresh_run]
      exact Advances.of_continueRefresh (by simp) (by simp) (by simp) (by simp) after
        ((List.suffix_cons .users rest).trans hsteps)

theorem resumeWith_advances {k : Pending} (hk : k.WellShaped) {raw : Except Payload Value}
    {r : Except CallError Value} (hread : readAnswer raw = .ok r) (s : Session) :
    Advances s (k.beginsRefresh raw) (k.resets raw) k.refreshRun? ((resumeWith k r).run s) := by
  cases k with
  | step run st rest tt after =>
      rw [show (resumeWith (.step run st rest tt after) r).run s = _ from resumeStep_run run st rest tt after r s]
      exact Advances.of_continueRefresh (by simp) (by simp) (by simp) (by simp) after
        ((List.suffix_cons st rest).trans hk.1)
  | page n dir use =>
      rw [show (resumeWith (.page n dir use) r).run s = _ from resumePage_run n dir use r s]
      rcases callOutcome "users" (Projection.listOf "User" User.check) r with e | users
      · exact directoryDone_advances hk _ s
      · dsimp only
        split
        · exact directoryDone_advances hk _ s
        · -- the next page keeps the directory's use, and with it the refresh it serves
          cases use with
          | refresh run rest after => exact Advances.of_ask hk (fun run' h => ⟨run', h, rfl⟩) rfl
          | reply | store => exact Advances.of_ask trivial (by simp [Pending.refreshRun?]) rfl
  | login =>
      rw [resumeWith_login_run]
      split
      · exact Advances.of_done ⟨_, rfl⟩ rfl rfl rfl
      · exact Advances.of_done ⟨_, rfl⟩ rfl rfl rfl
  | logout =>
      have hreset : Pending.resets .logout raw = r.toBool := readAnswer_toBool hread
      rw [hreset, resumeWith_logout_run]
      rcases r with e | v
      · exact Advances.of_done ⟨_, rfl⟩ rfl rfl rfl
      · exact Advances.of_reset
  | addServer =>
      rw [resumeWith_addServer_run]
      split
      · exact Advances.of_done ⟨_, rfl⟩ rfl rfl rfl
      · exact Advances.of_done ⟨_, rfl⟩ rfl rfl rfl
  | postThread => exact Advances.of_done ⟨_, rfl⟩ rfl rfl rfl
  | thread token command =>
      rw [resumeWith_thread_run]
      split
      · -- the thread is written only while the load is the newest; the counters stay
        split
        · exact Advances.of_done ⟨_, rfl⟩ rfl rfl rfl
        · exact Advances.of_done ⟨_, rfl⟩ rfl rfl rfl
      · exact Advances.of_done ⟨_, rfl⟩ rfl rfl rfl
  | switch reaction =>
      rw [resumeWith_switch_run]
      split
      · exact Advances.of_ask trivial (by simp [Pending.refreshRun?]) rfl
      · exact Advances.of_done ⟨_, rfl⟩ rfl rfl rfl
  | switchLogout sw reaction =>
      have hb : Pending.beginsRefresh (.switchLogout sw reaction) raw = true :=
        readable_of_readAnswer hread
      have hr : Pending.resets (.switchLogout sw reaction) raw = true := readable_of_readAnswer hread
      rw [hb, hr]
      let s₁ : Session := (((resetSession : SessionM Unit) *>
        merge [.currentServer sw.current, .servers sw.servers]).run s).2
      have hrun : (resumeWith (.switchLogout sw reaction) r).run s =
          (startRefresh reaction (.switched sw)).run s₁ := rfl
      obtain ⟨s', hgen', hthread', hcfg', -, hs'⟩ := startRefresh_run reaction (.switched sw) s₁
      obtain ⟨hgen, hcfg, hthread, hnext⟩ :=
        continueRefresh_facts { token := s₁.refreshGen + 1, user := s₁.store.value.user }
          (.switched sw) RefreshStep.all s' (List.suffix_refl _)
      have h₁ : s₁.refreshGen = s.refreshGen + 1 ∧ s₁.threadGen = s.threadGen + 1 ∧
          s₁.config = s.config := ⟨rfl, rfl, rfl⟩
      rw [hrun, hs']
      refine ⟨by rw [hgen, hgen', h₁.1]; simp, by rw [hthread, hthread', h₁.2.1]; simp,
        by rw [hcfg, hcfg', h₁.2.2], fun req k hk => (hnext req k hk).2.1, ?_, ?_⟩
      · intro req k run hk hrun'
        obtain ⟨hk', -⟩ := hnext req k hk
        rw [hk'] at hrun'
        cases hrun'
        exact Or.inl ⟨rfl, by rw [hgen, hgen']⟩
      · intro req k hk hthr
        exact (hnext req k hk).2.2 hthr
  | command spec => exact Advances.of_done ⟨_, rfl⟩ rfl rfl rfl

theorem readAnswer_error {raw : Except Payload Value} {f : ReadFault}
    (h : readAnswer raw = .error f) : raw.toBool = false ∧ readable raw = false := by
  rcases raw with p | v
  · simp [readable, h, Except.toBool]
  · simp [readAnswer] at h

theorem resume_advances {k : Pending} (hk : k.WellShaped) (raw : Except Payload Value)
    (s : Session) :
    Advances s (k.beginsRefresh raw) (k.resets raw) k.refreshRun? ((resume k raw).run s) := by
  rw [resume_run]
  rcases hread : readAnswer raw with f | r
  · obtain ⟨hbool, hread'⟩ := readAnswer_error hread
    have hb : k.beginsRefresh raw = false := by cases k <;> simp [Pending.beginsRefresh, hread']
    have hr : k.resets raw = false := by cases k <;> simp [Pending.resets, hbool, hread']
    rw [hb, hr]
    exact Advances.of_fault f
  · exact resumeWith_advances hk hread s

theorem start_advances (op : Operation) (s : Session) :
    Advances s op.beginsRefresh false none ((start op).run s) := by
  cases op with
  | refresh reaction =>
      obtain ⟨s', hgen', hthread', hcfg', -, hs'⟩ := startRefresh_run reaction .reply s
      obtain ⟨hgen, hcfg, hthread, hnext⟩ :=
        continueRefresh_facts { token := s.refreshGen + 1, user := s.store.value.user }
          .reply RefreshStep.all s' (List.suffix_refl _)
      rw [show (start (.refresh reaction)).run s = _ from hs']
      refine ⟨by rw [hgen, hgen']; rfl, by rw [hthread, hthread']; simp, by rw [hcfg, hcfg'],
        fun req k hk => (hnext req k hk).2.1, ?_, fun req k hk hthr => (hnext req k hk).2.2 hthr⟩
      intro req k run hk hrun
      obtain ⟨hk', -⟩ := hnext req k hk
      rw [hk'] at hrun
      cases hrun
      exact Or.inl ⟨rfl, by rw [hgen, hgen']⟩
  | selectChannel c =>
      rw [start_selectChannel_run]
      rcases s.store.value.user with _ | u
      · exact Advances.of_done ⟨_, rfl⟩ rfl rfl rfl
      · exact (Advances.of_loadThread _ _).of_counters rfl rfl rfl
  | loadChannelPosts c => exact Advances.of_loadThread s _
  | userUnread u c => exact Advances.of_loadThread s _
  | _ => exact Advances.of_ask trivial (by simp [Pending.refreshRun?]) rfl

/-- A stretch of a refresh that is no longer the newest changes nothing and
starts no step: at most it asks for the next page of the directory it is reading. -/
theorem resume_stale_refresh {k : Pending} (hk : k.WellShaped) {run : RefreshRun}
    (hrun : k.refreshRun? = some run) {s : Session} (hstale : s.refreshGen ≠ run.token)
    (raw : Except Payload Value) :
    ((resume k raw).run s).2 = s ∧
      ∀ req k', ((resume k raw).run s).1 = .ask req k' →
        ∃ n dir use dir', k = .page n dir use ∧ k' = .page (n + 1) dir' use := by
  have hrefused : ∀ tt, s.admits run tt = false := by
    intro tt
    simp [Session.admits, hstale]
  rw [resume_run]
  rcases readAnswer raw with f | r
  · simp
  dsimp only
  cases k with
  | step run' st rest tt after =>
      cases hrun
      rw [show (resumeWith (.step run st rest tt after) r).run s = _ from resumeStep_run run st rest tt after r s,
        takeOutcome_of_not_admits (hrefused tt)]
      obtain ⟨hs, o, ho⟩ := continueRefresh_stale hstale after rest
      exact ⟨hs, by simp [ho]⟩
  | page n dir use =>
      rcases use with _ | _ | ⟨run', rest, after⟩ <;> simp [Pending.refreshRun?] at hrun
      subst hrun
      rw [show (resumeWith (.page n dir (.refresh run' rest after)) r).run s = _ from
        resumePage_run n dir _ r s]
      rcases callOutcome "users" (Projection.listOf "User" User.check) r with e | users
      · dsimp only
        rw [directoryDone_refresh_run, takeOutcome_of_not_admits (hrefused none)]
        obtain ⟨hs, o, ho⟩ := continueRefresh_stale hstale after rest
        exact ⟨hs, by simp [ho]⟩
      · dsimp only
        split
        · rw [directoryDone_refresh_run, takeOutcome_of_not_admits (hrefused none)]
          obtain ⟨hs, o, ho⟩ := continueRefresh_stale hstale after rest
          exact ⟨hs, by simp [ho]⟩
        · refine ⟨rfl, ?_⟩
          rintro req k' ⟨-, rfl⟩
          exact ⟨n, dir, _, _, rfl, rfl⟩
  | _ => simp [Pending.refreshRun?] at hrun

/-- The answer to a thread load that is no longer the newest changes nothing. -/
theorem resume_stale_thread {k : Pending} (hk : k.WellShaped) {t : Nat}
    (htok : k.threadToken? = some t) (hthr : k.isThreadLoad = true) {s : Session}
    (hstale : s.threadGen ≠ t) (raw : Except Payload Value) :
    ((resume k raw).run s).2 = s := by
  rw [resume_run]
  rcases readAnswer raw with f | r
  · rfl
  dsimp only
  cases k with
  | step run st rest tt after =>
      cases st <;> simp [Pending.isThreadLoad] at hthr
      have hrest := RefreshStep.rest_of_unread hk.1
      simp only [Pending.threadToken?] at htok
      subst htok hrest
      have hrefused : s.admits run (some t) = false := by simp [Session.admits, hstale]
      rw [show (resumeWith (.step run .unread _ (some t) after) r).run s = _ from
          resumeStep_run run .unread _ (some t) after r s,
        takeOutcome_of_not_admits hrefused]
      exact continueRefresh_servers_session run after s
  | thread token command =>
      simp only [Pending.threadToken?, Option.some.injEq] at htok
      subst htok
      rw [resumeWith_thread_run]
      split
      · exact if_neg hstale
      · rfl
  | _ => simp [Pending.isThreadLoad] at hthr

/-- Taking a thread load's answer asks for no further thread load. -/
theorem resume_thread_asks {k : Pending} (hk : k.WellShaped) (hthr : k.isThreadLoad = true)
    (raw : Except Payload Value) (s : Session) :
    ((resume k raw).run s).1.asksThreadLoad = false := by
  rw [resume_run]
  rcases readAnswer raw with f | r
  · rfl
  dsimp only
  cases k with
  | step run st rest tt after =>
      cases st <;> simp [Pending.isThreadLoad] at hthr
      rw [RefreshStep.rest_of_unread hk.1]
      rw [show (resumeWith (.step run .unread _ tt after) r).run s = _ from
        resumeStep_run run .unread _ tt after r s]
      exact continueRefresh_servers_asks _ after _
  | thread token command =>
      rw [resumeWith_thread_run]
      split
      · rfl
      · rfl
  | _ => simp [Pending.isThreadLoad] at hthr

end ChatSession
