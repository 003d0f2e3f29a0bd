import ChatSession.Proofs.Reset

/-!
What each operation writes when it is left alone.

An operation left alone (`Operation.EndsAlone`) has each of its calls answered by
the backend while nothing else happens to the session. An operation that
answers with the result of its own command writes to the store only when that
command succeeds, and then only its own fields: a login the user, a logout the
session fields (back to their defaults), an added server the server list and the
current server, a thread load the channel's posts, a directory read for the
store the directory. When the command fails the store is as it was, down to the
count of published writes. Reading a post's thread never writes; selecting a
channel always writes it, and answers at once when nobody is logged in; a server
switch that fails calls nothing more, and one that succeeds resets the session,
takes the new servers and goes on as a refresh. The main statement is
`operations_write_own_fields`.
-/

namespace ChatSession

open Orchestrator

/-- The operation, started on `s` and left alone against `b`, makes the calls
`calls` and ends with the outcome `o` at `s'`. -/
def Operation.EndsAlone (b : Backend) (s : Session) (op : Operation) (calls : List Request)
    (o : Outcome) (s' : Session) : Prop :=
  Alone b ((start op).run s) calls (.done o, s')

/-- The operations that answer with the result of their own command. -/
def Operation.answersCommand : Operation → Bool
  | .refresh _ | .selectChannel _ => false
  | _ => true

/-- The continuation takes the answer to the last call of its operation. -/
def Pending.lastCall : Pending → Bool
  | .login | .logout | .addServer | .postThread | .thread _ _ | .command _ => true
  | _ => false

/-- How the refresh a continuation belongs to answers once it ends. -/
def Pending.after? : Pending → Option AfterRefresh
  | .step _ _ _ _ after => some after
  | .page _ _ (.refresh _ _ after) => some after
  | _ => none

namespace Alone

variable {b : Backend}

/-- An operation waiting on its last call ends with the stretch that takes its answer. -/
theorem last_call {k : Pending} (hend : ∀ raw s, ((resume k raw).run s).1.asked = [])
    {req : Request} {s : Session} {calls : List Request} {o : Outcome} {s' : Session}
    (h : Alone b (.ask req k, s) calls (.done o, s')) :
    calls = [req] ∧ (resume k (b req)).run s = (.done o, s') := by
  rcases h.cases_ask with ⟨-, hr⟩ | ⟨calls', hcalls, hrest⟩
  · simp at hr
  · obtain ⟨rfl, hr⟩ := hrest.of_ended (hend _ s)
    exact ⟨hcalls, hr.symm⟩

/-- An operation stopped by an answer it cannot read ends there. -/
theorem not_done_of_fault {f : ReadFault} {s : Session} {calls : List Request} {o : Outcome}
    {s' : Session} (h : Alone b (.fault f, s) calls (.done o, s')) : False := by
  obtain ⟨-, h⟩ := h.of_ended rfl
  simp at h

end Alone

/-! ### One stretch -/

/-- The last call of an operation ends it. -/
theorem resume_ends_of_lastCall {k : Pending} (hk : k.lastCall = true)
    (raw : Except Payload Value) (s : Session) : ((resume k raw).run s).1.asked = [] := by
  cases hnext : ((resume k raw).run s).1 with
  | ask req k' =>
    have hrun : k.refreshRun? = none := by cases k <;> simp_all [Pending.lastCall, Pending.refreshRun?]
    have hsw : k.isSwitch = false := by cases k <;> simp_all [Pending.lastCall, Pending.isSwitch]
    obtain ⟨n, dir, use, dir', rfl, -⟩ := resume_asks_next_page hrun hsw raw s hnext
    simp [Pending.lastCall] at hk
  | done o => rfl
  | fault f => rfl

/-- A stretch that ends its operation has read the answer it took. -/
theorem resume_done_read {k : Pending} {raw : Except Payload Value} {s s' : Session} {o : Outcome}
    (h : (resume k raw).run s = (.done o, s')) :
    ∃ r, readAnswer raw = .ok r ∧ (resumeWith k r).run s = (.done o, s') := by
  rw [resume_run] at h
  rcases hread : readAnswer raw with f | r
  · -- an answer that cannot be read ends with a fault
    rw [hread] at h
    cases h
  · rw [hread] at h
    exact ⟨r, rfl, h⟩

/-- An answer to a login writes the user it reads, and only it; an error writes nothing. -/
theorem resume_login_effect {raw : Except Payload Value} {s s' : Session} {o : Outcome}
    (h : (resume .login raw).run s = (.done o, s')) :
    (∀ e, o = .answer (.error e) → s'.store = s.store) ∧
    ∀ a, o = .answer (.ok a) → ∃ u, a = .user u ∧ s'.store = s.store.merge [.user (some u)] := by
  obtain ⟨r, -, h⟩ := resume_done_read h
  rw [resumeWith_login_run] at h
  split at h
  · cases h
    simp
  · cases h
    simp

/-- A logout that succeeds resets the session, and only then writes. -/
theorem resume_logout_effect {raw : Except Payload Value} {s s' : Session} {o : Outcome}
    (h : (resume .logout raw).run s = (.done o, s')) :
    (∀ e, o = .answer (.error e) → s'.store = s.store) ∧
    ∀ a, o = .answer (.ok a) → s'.store = s.store.resetSession := by
  obtain ⟨r, -, h⟩ := resume_done_read h
  rw [resumeWith_logout_run] at h
  split at h
  · cases h
    simp
  · cases h
    simp

/-- An added server replaces the servers of its name, goes last and becomes the
current server. -/
theorem resume_addServer_effect {raw : Except Payload Value} {s s' : Session} {o : Outcome}
    (h : (resume .addServer raw).run s = (.done o, s')) :
    (∀ e, o = .answer (.error e) → s'.store = s.store) ∧
    ∀ a, o = .answer (.ok a) → ∃ sv, a = .server sv ∧
      s'.store = s.store.merge [.servers (withServer s.store.value.servers sv), .currentServer sv] := by
  obtain ⟨r, -, h⟩ := resume_done_read h
  rw [resumeWith_addServer_run] at h
  split at h
  · cases h
    simp
  · cases h
    simp

/-- A thread load that is still the newest writes the thread it gets, tagged with
the directory of that moment. -/
theorem resume_thread_effect {raw : Except Payload Value} {s s' : Session} {o : Outcome}
    {command : String} (h : (resume (.thread s.threadGen command) raw).run s = (.done o, s')) :
    (∀ e, o = .answer (.error e) → s'.store = s.store) ∧
    ∀ a, o = .answer (.ok a) → ∃ t, a = .thread t ∧
      s'.store = s.store.merge (threadChanges s.store.value t) := by
  obtain ⟨r, -, h⟩ := resume_done_read h
  rw [resumeWith_thread_run] at h
  split at h
  · -- the load is the newest, so its thread is written
    rw [if_pos rfl] at h
    cases h
    simp
  · cases h
    simp

/-- Reading a post's thread, or a bare command, leaves the session as it is. -/
theorem resume_reads_only {k : Pending} (hk : (∃ spec, k = .command spec) ∨ k = .postThread)
    (raw : Except Payload Value) (s : Session) : ((resume k raw).run s).2 = s := by
  rw [resume_run]
  rcases readAnswer raw with f | r
  · rfl
  · rcases hk with ⟨spec, rfl⟩ | rfl
    · rfl
    · rfl

/-- A directory read for the caller or for the store ends once paging stops. -/
theorem directoryDone_ends {use : DirectoryUse} (huse : ∀ run rest after, use ≠ .refresh run rest after)
    (r : Except CallError (List (String × User))) (s : Session) :
    ((directoryDone use r).run s).1.asked = [] := by
  cases use with
  | reply => rfl
  | store => rcases r with e | d <;> rfl
  | refresh run rest after => exact absurd rfl (huse run rest after)

/-- A directory read left alone ends as paging does: with what `directoryDone`
makes of the directory read, or of the error that stopped it, on the session it
began with. -/
theorem Alone.directory {b : Backend} {use : DirectoryUse}
    (huse : ∀ run rest after, use ≠ .refresh run rest after) :
    ∀ (calls : List Request) {n : Nat} {dir : List (String × User)} {req : Request} {s : Session}
      {o : Outcome} {s' : Session}, Alone b (.ask req (.page n dir use), s) calls (.done o, s') →
      ∃ r, (directoryDone use r).run s = (.done o, s') := by
  intro calls
  induction calls with
  | nil =>
      intro n dir req s o s' h
      rcases h.cases_ask with ⟨-, hr⟩ | ⟨calls', hcalls, -⟩
      · cases hr
      · cases hcalls
  | cons c calls ih =>
      intro n dir req s o s' h
      rcases h.cases_ask with ⟨hcalls, -⟩ | ⟨calls', hcalls, hrest⟩
      · cases hcalls
      obtain ⟨-, rfl⟩ := List.cons.inj hcalls
      rw [resume_run] at hrest
      rcases hread : readAnswer (b req) with f | r <;> rw [hread] at hrest
      · exact hrest.not_done_of_fault.elim
      dsimp only at hrest
      rw [show (resumeWith (.page n dir use) r).run s = _ from resumePage_run n dir use r s] at hrest
      have hstop : ∀ d, Alone b ((directoryDone use d).run s) calls (.done o, s') →
          ∃ r, (directoryDone use r).run s = (.done o, s') := by
        intro d hd
        obtain ⟨-, hd⟩ := hd.of_ended (directoryDone_ends huse d s)
        exact ⟨d, hd.symm⟩
      split at hrest
      · exact hstop _ hrest
      · split at hrest
        · exact hstop _ hrest
        · exact ih hrest

/-! ### A server switch -/

/-- The refresh of a server switch ends with the switch's answer, and waits only
on steps of a refresh that will answer so. -/
def AnswersSwitch (sw : Switch) (r : Next × Session) : Prop :=
  (∀ req k, r.1 = .ask req k → k.after? = some (.switched sw)) ∧
    ∀ o, r.1 = .done o → o = .answer (.ok (.switch sw))

@[simp] theorem RefreshStep.waiting_after (st : RefreshStep) (run : RefreshRun)
    (after : AfterRefresh) (rest : List RefreshStep) (t : Nat) :
    (st.waiting run after rest t).after? = some after := by
  cases st <;> rfl

theorem finishRefresh_switched (run : RefreshRun) (sw : Switch) (s : Session) :
    ((finishRefresh run (.switched sw)).run s).1 = .done (.answer (.ok (.switch sw))) := by
  rw [finishRefresh_run]

/-- Going on with the refresh of a switch, step by step. -/
theorem continueRefresh_switched (run : RefreshRun) (sw : Switch) :
    ∀ (steps : List RefreshStep) (s : Session),
      AnswersSwitch sw ((continueRefresh run (.switched sw) steps).run s) := by
  intro steps
  induction steps with
  | nil =>
      intro s
      have hfin : ((continueRefresh run (.switched sw) []).run s).1 =
          .done (.answer (.ok (.switch sw))) := finishRefresh_switched run sw s
      refine ⟨fun req k h => ?_, fun o h => ?_⟩
      · rw [hfin] at h
        cases h
      · rw [hfin] at h
        cases h
        rfl
  | cons st rest ih =>
      intro s
      by_cases hcur : s.refreshGen = run.token
      · by_cases hp : st.passes s.config.usersPerPage s.store.value.currentChannel run.user
        · rw [continueRefresh_pass hcur hp]
          exact ih s
        · cases hreq : st.request s.config.usersPerPage s.store.value.currentChannel run.user with
          | none => simp [RefreshStep.passes, hreq] at hp
          | some req =>
              rw [continueRefresh_ask hcur (by simpa using hp) hreq]
              refine ⟨?_, fun o h => by cases h⟩
              rintro req' k ⟨-, rfl⟩
              simp
      · -- a refresh no longer the newest ends at once
        have hfin : (continueRefresh run (.switched sw) (st :: rest)).run s =
            (finishRefresh run (.switched sw)).run s := by
          simp [continueRefresh, Session.refreshCurrent, hcur]
        rw [hfin]
        have h := finishRefresh_switched run sw s
        refine ⟨fun req k hk => ?_, fun o ho => ?_⟩
        · rw [h] at hk
          cases hk
        · rw [h] at ho
          cases ho
          rfl

/-- Taking an answer for the refresh of a switch keeps it one. -/
theorem resume_switched {k : Pending} {sw : Switch} (hk : k.after? = some (.switched sw))
    (raw : Except Payload Value) (s : Session) : AnswersSwitch sw ((resume k raw).run s) := by
  rw [resume_run]
  rcases readAnswer raw with f | r
  · exact ⟨fun req k h => (by cases h), fun o h => (by cases h)⟩
  dsimp only
  cases k with
  | step run st rest tt after =>
      simp only [Pending.after?, Option.some.injEq] at hk
      subst hk
      rw [show (resumeWith (.step run st rest tt _) r).run s = _ from
        resumeStep_run run st rest tt _ r s]
      exact continueRefresh_switched _ sw rest _
  | page n dir use =>
      -- only the directory read of a refresh serves a switch
      cases use with
      | reply => simp [Pending.after?] at hk
      | store => simp [Pending.after?] at hk
      | refresh run rest after =>
          simp only [Pending.after?, Option.some.injEq] at hk
          subst hk
          rw [show (resumeWith (.page n dir (.refresh run rest _)) r).run s = _ from
            resumePage_run n dir _ r s]
          split
          · rw [directoryDone_refresh_run]
            exact continueRefresh_switched _ sw rest _
          · split
            · rw [directoryDone_refresh_run]
              exact continueRefresh_switched _ sw rest _
            · refine ⟨?_, fun o h => by cases h⟩
              rintro req k ⟨-, rfl⟩
              rfl
  | _ => simp [Pending.after?] at hk

theorem Alone.answersSwitch {b : Backend} {sw : Switch} {r r' : Next × Session}
    {calls : List Request} (h : Alone b r calls r') (hr : AnswersSwitch sw r) :
    AnswersSwitch sw r' := by
  induction h with
  | refl => exact hr
  | @ask req k s calls r hrest ih => exact ih (resume_switched (hr.1 req k rfl) (b req) s)

/-- After the switch and the logout from the old server: the session reset, the
new current server and server list written, a refresh begins. -/
theorem resume_switchLogout (sw : Switch) (reaction : Reaction) (r : Except CallError Value)
    (s : Session) :
    (resumeWith (.switchLogout sw reaction) r).run s =
      (startRefresh reaction (.switched sw)).run
        { s with
          refreshGen := s.refreshGen + 1
          threadGen := s.threadGen + 1
          store := s.store.resetSession.merge [.currentServer sw.current, .servers sw.servers] } :=
  rfl

theorem startRefresh_switched (reaction : Reaction) (sw : Switch) (s : Session) :
    AnswersSwitch sw ((startRefresh reaction (.switched sw)).run s) := by
  obtain ⟨s', -, -, -, -, hs'⟩ := startRefresh_run reaction (.switched sw) s
  rw [hs']
  exact continueRefresh_switched _ sw _ _

/-! ### Operations left alone -/

section Operations

variable {b : Backend} {s s' : Session} {calls : List Request} {o : Outcome}

/-- A directory read for the store writes the directory it read, and nothing on an error. -/
theorem directoryDone_store_effect {r : Except CallError (List (String × User))}
    (h : (directoryDone .store r).run s = (.done o, s')) :
    (∀ e, o = .answer (.error e) → s'.store = s.store) ∧
    ∀ a, o = .answer (.ok a) → ∃ d, a = .directory d ∧ s'.store = s.store.merge [.users d] := by
  rcases r with e | d
  · cases h
    simp [Except.map]
  · simp only [directoryDone, Session.merge, Session.writeWith, Store.write_update] at h
    cases h
    simp [Except.map]

theorem login_alone {l p : Value} (h : (Operation.login l p).EndsAlone b s calls o s') :
    (∀ e, o = .answer (.error e) → s'.store = s.store) ∧
    ∀ a, o = .answer (.ok a) → ∃ u, a = .user u ∧ s'.store = s.store.merge [.user (some u)] :=
  resume_login_effect (Alone.last_call (resume_ends_of_lastCall rfl) h).2

theorem logout_alone (h : Operation.logout.EndsAlone b s calls o s') :
    (∀ e, o = .answer (.error e) → s'.store = s.store) ∧
    ∀ a, o = .answer (.ok a) → s'.store = s.store.resetSession :=
  resume_logout_effect (Alone.last_call (resume_ends_of_lastCall rfl) h).2

theorem addServer_alone {name url : Value} (h : (Operation.addServer name url).EndsAlone b s calls o s') :
    (∀ e, o = .answer (.error e) → s'.store = s.store) ∧
    ∀ a, o = .answer (.ok a) → ∃ sv, a = .server sv ∧
      s'.store = s.store.merge [.servers (withServer s.store.value.servers sv), .currentServer sv] :=
  resume_addServer_effect (Alone.last_call (resume_ends_of_lastCall rfl) h).2

/-- A thread load left alone is the newest when its answer comes. -/
theorem loadThread_alone {req : Request} (h : Alone b ((loadThread req).run s) calls (.done o, s')) :
    (∀ e, o = .answer (.error e) → s'.store = s.store) ∧
    ∀ a, o = .answer (.ok a) → ∃ t, a = .thread t ∧
      s'.store = s.store.merge (threadChanges s.store.value t) := by
  rw [loadThread_run] at h
  exact @resume_thread_effect _ { s with threadGen := s.threadGen + 1 } _ _ _
    (Alone.last_call (resume_ends_of_lastCall rfl) h).2

theorem postThread_alone {pid : Value} (h : (Operation.postThread pid).EndsAlone b s calls o s') :
    s' = s := by
  have hrun := (Alone.last_call (resume_ends_of_lastCall rfl) h).2
  have hs := resume_reads_only (.inr rfl) (b ⟨"post_threads", [("postId", pid)]⟩) s
  rw [hrun] at hs
  exact hs

theorem command_alone {spec : CommandSpec} {req : Request}
    (h : (Operation.command spec req).EndsAlone b s calls o s') : s' = s := by
  have hrun := (Alone.last_call (resume_ends_of_lastCall rfl) h).2
  have hs := resume_reads_only (.inl ⟨spec, rfl⟩) (b req) s
  rw [hrun] at hs
  exact hs

theorem updateUsers_alone (h : Operation.updateUsers.EndsAlone b s calls o s') :
    (∀ e, o = .answer (.error e) → s'.store = s.store) ∧
    ∀ a, o = .answer (.ok a) → ∃ d, a = .directory d ∧ s'.store = s.store.merge [.users d] := by
  obtain ⟨r, hr⟩ := Alone.directory (by simp) calls h
  exact directoryDone_store_effect hr

theorem fetchDirectory_alone (h : Operation.fetchDirectory.EndsAlone b s calls o s') : s' = s := by
  obtain ⟨r, hr⟩ := Alone.directory (by simp) calls h
  cases hr
  rfl

/-- Selecting a channel writes it first; the thread load after it writes only the
channel's posts. -/
theorem selectChannel_alone {c : Channel} (h : (Operation.selectChannel c).EndsAlone b s calls o s') :
    s'.store.value.currentChannel = some c ∧
      (s.store.value.user = none → calls = [] ∧ o = .answer (.error (.text "Not logged in")) ∧
        s'.store = s.store.merge [.currentChannel (some c)]) := by
  unfold Operation.EndsAlone at h
  rw [start_selectChannel_run] at h
  rcases hu : s.store.value.user with _ | u
  · -- nobody logged in: the selection is written and refused
    rw [hu] at h
    dsimp only at h
    obtain ⟨rfl, h⟩ := h.of_ended rfl
    cases h
    exact ⟨rfl, fun _ => ⟨rfl, rfl, rfl⟩⟩
  · rw [hu] at h
    dsimp only at h
    refine ⟨?_, fun h => by cases h⟩
    rw [loadThread_run] at h
    obtain ⟨-, hrun⟩ := Alone.last_call (resume_ends_of_lastCall rfl) h
    change (resume (.thread (s.threadGen + 1) "user_unread") (b (unreadRequest c u))).run
      { s with store := s.store.merge [.currentChannel (some c)], threadGen := s.threadGen + 1 } =
      (.done o, s') at hrun
    have hkeep := @resume_keeps (.thread (s.threadGen + 1) "user_unread") trivial
      .currentChannel (by simp [Pending.writes]) (b (unreadRequest c u)) rfl
      { s with store := s.store.merge [.currentChannel (some c)], threadGen := s.threadGen + 1 }
    rw [hrun] at hkeep
    exact World.currentChannel_of_read hkeep

/-- A server switch left alone: when the switch fails nothing more is called and
the store is as it was; when it succeeds the logout follows, then the session is
reset, the switch's current server and server list written, and the switch goes
on as a refresh from there, ending with the switch's answer. -/
theorem changeServer_alone {name : Value} {reaction : Reaction}
    (h : (Operation.changeServer name reaction).EndsAlone b s calls o s') :
    (∀ e, o = .answer (.error e) →
      calls = [⟨"change_server", [("serverName", name)]⟩] ∧ s'.store = s.store) ∧
    ∀ a, o = .answer (.ok a) → ∃ r sw rest,
      readAnswer (b ⟨"change_server", [("serverName", name)]⟩) = .ok r ∧
      callOutcome "change_server" (Projection.record "ChangeServerResult" Switch.check) r = .ok sw ∧
      a = .switch sw ∧ calls = ⟨"change_server", [("serverName", name)]⟩ :: ⟨"logout", []⟩ :: rest ∧
      Alone b ((startRefresh reaction (.switched sw)).run
        { s with
          refreshGen := s.refreshGen + 1
          threadGen := s.threadGen + 1
          store := s.store.resetSession.merge [.currentServer sw.current, .servers sw.servers] })
        rest (.done o, s') := by
  rcases Alone.cases_ask h with ⟨-, hr⟩ | ⟨calls', hcalls, hrest⟩
  · cases hr
  rw [resume_run] at hrest
  rcases hread : readAnswer (b ⟨"change_server", [("serverName", name)]⟩) with f | r
  · -- an answer that cannot be read ends with a fault, not an outcome
    rw [hread] at hrest
    exact hrest.not_done_of_fault.elim
  rw [hread] at hrest
  dsimp only at hrest
  rcases hsw : callOutcome "change_server" (Projection.record "ChangeServerResult" Switch.check) r
    with e | sw
  · -- the switch failed: its answer ends the operation
    simp only [resumeWith, hsw] at hrest
    obtain ⟨rfl, hend⟩ := hrest.of_ended rfl
    cases hend
    exact ⟨fun _ _ => ⟨hcalls, rfl⟩, fun a ha => by cases ha⟩
  · simp only [resumeWith, hsw] at hrest
    rcases hrest.cases_ask with ⟨-, hr⟩ | ⟨calls'', hcalls', hlogout⟩
    · cases hr
    rw [resume_run] at hlogout
    rcases hread' : readAnswer (b ⟨"logout", []⟩) with f | r'
    · rw [hread'] at hlogout
      exact hlogout.not_done_of_fault.elim
    rw [hread'] at hlogout
    dsimp only at hlogout
    rw [resume_switchLogout] at hlogout
    have ho := (hlogout.answersSwitch (startRefresh_switched reaction sw _)).2 o rfl
    subst ho
    refine ⟨fun e he => ?_, fun a ha => ?_⟩
    · cases he
    cases ha
    exact ⟨r, sw, calls'', rfl, hsw, rfl, by rw [hcalls, hcalls'], hlogout⟩

/-- An operation that answers with its own command's result leaves the store as
it was, published writes included, when that result is an error. -/
theorem error_keeps_store {op : Operation} (hop : op.answersCommand = true) {e : CallError}
    (h : op.EndsAlone b s calls (.answer (.error e)) s') : s'.store = s.store := by
  cases op with
  | refresh => simp [Operation.answersCommand] at hop
  | selectChannel => simp [Operation.answersCommand] at hop
  | login => exact (login_alone h).1 e rfl
  | logout => exact (logout_alone h).1 e rfl
  | changeServer => exact ((changeServer_alone h).1 e rfl).2
  | addServer => exact (addServer_alone h).1 e rfl
  | loadChannelPosts => exact (loadThread_alone h).1 e rfl
  | userUnread => exact (loadThread_alone h).1 e rfl
  | postThread => rw [postThread_alone h]
  | updateUsers => exact (updateUsers_alone h).1 e rfl
  | fetchDirectory => rw [fetchDirectory_alone h]
  | command => rw [command_alone h]

end Operations

/-- Every operation left alone writes only the fields it owns, and an error
leaves the store untouched. An operation that answers with its own command's
result changes nothing on an error (a failed switch calls nothing more), and a
post's thread is read without writing. On success a login writes the user, a
logout resets exactly the session fields, an added server replaces the servers of
its name at the end of the list and becomes the current server, a thread load
writes the channel's posts tagged with the directory, and a directory read for
the store writes the directory, each in one write. Selecting a channel always
writes it, and answers at once when nobody is logged in. A switch that succeeds
logs out, resets the session, writes the new current server and servers, and
goes on as a refresh from there. -/
theorem operations_write_own_fields (b : Backend) (s s' : Session) (calls : List Request) :
    (∀ (op : Operation) e, op.answersCommand = true →
      op.EndsAlone b s calls (.answer (.error e)) s' → s'.store = s.store) ∧
    (∀ name reaction e,
      (Operation.changeServer name reaction).EndsAlone b s calls (.answer (.error e)) s' →
      calls = [⟨"change_server", [("serverName", name)]⟩]) ∧
    (∀ pid o, (Operation.postThread pid).EndsAlone b s calls o s' → s'.store = s.store) ∧
    (∀ l p a, (Operation.login l p).EndsAlone b s calls (.answer (.ok a)) s' →
      ∃ u, a = .user u ∧ s'.store = s.store.merge [.user (some u)]) ∧
    (∀ a, Operation.logout.EndsAlone b s calls (.answer (.ok a)) s' →
      s'.store = s.store.resetSession ∧ ∀ f, s'.store.value.read f =
        if f ∈ StateField.session then Change.reset f else s.store.value.read f) ∧
    (∀ name url a, (Operation.addServer name url).EndsAlone b s calls (.answer (.ok a)) s' →
      ∃ sv, a = .server sv ∧ s'.store = s.store.merge
        [.servers (s.store.value.servers.filter (·.name != sv.name) ++ [sv]), .currentServer sv]) ∧
    (∀ u c a, (Operation.userUnread u c).EndsAlone b s calls (.answer (.ok a)) s' →
      ∃ t, a = .thread t ∧ s'.store =
        s.store.merge [.channelPosts (some (Thread.tagSystemPosts s.store.value.users t))]) ∧
    (∀ c a, (Operation.loadChannelPosts c).EndsAlone b s calls (.answer (.ok a)) s' →
      ∃ t, a = .thread t ∧ s'.store =
        s.store.merge [.channelPosts (some (Thread.tagSystemPosts s.store.value.users t))]) ∧
    (∀ a, Operation.updateUsers.EndsAlone b s calls (.answer (.ok a)) s' →
      ∃ d, a = .directory d ∧ s'.store = s.store.merge [.users d]) ∧
    (∀ c o, (Operation.selectChannel c).EndsAlone b s calls o s' →
      s'.store.value.currentChannel = some c ∧
      (s.store.value.user = none → calls = [] ∧ o = .answer (.error (.text "Not logged in")) ∧
        s'.store = s.store.merge [.currentChannel (some c)])) ∧
    (∀ name reaction a,
      (Operation.changeServer name reaction).EndsAlone b s calls (.answer (.ok a)) s' →
      ∃ r sw rest,
        readAnswer (b ⟨"change_server", [("serverName", name)]⟩) = .ok r ∧
        callOutcome "change_server" (Projection.record "ChangeServerResult" Switch.check) r =
          .ok sw ∧
        a = .switch sw ∧ calls = ⟨"change_server", [("serverName", name)]⟩ :: ⟨"logout", []⟩ :: rest ∧
        Alone b ((startRefresh reaction (.switched sw)).run
          { s with
            refreshGen := s.refreshGen + 1
            threadGen := s.threadGen + 1
            store := s.store.resetSession.merge [.currentServer sw.current, .servers sw.servers] })
          rest (.done (.answer (.ok a)), s')) := by
  refine ⟨fun op e hop h => error_keeps_store hop h,
    fun name reaction e h => ((changeServer_alone h).1 e rfl).1,
    fun pid o h => by rw [postThread_alone h],
    fun l p a h => (login_alone h).2 a rfl, fun a h => ?_,
    fun name url a h => (addServer_alone h).2 a rfl,
    fun u c a h => (loadThread_alone h).2 a rfl,
    fun c a h => (loadThread_alone h).2 a rfl,
    fun a h => (updateUsers_alone h).2 a rfl,
    fun c o h => selectChannel_alone h,
    fun name reaction a h => (changeServer_alone h).2 a rfl⟩
  have hreset := (logout_alone h).2 a rfl
  refine ⟨hreset, fun f => ?_⟩
  rw [hreset]
  exact PageState.read_resetSession s.store.value f

/-- A login left alone against a backend that answers the user `u1`: one call,
and the user written in one write. -/
theorem login_alone_writes_user :
    (Operation.login (.str "admin") (.str "pw")).EndsAlone (fun _ => .ok loginAnswer) {}
      [⟨"login", [("login", .str "admin"), ("password", .str "pw")]⟩]
      (.answer (.ok (.user { userId := "u1" })))
      { store := ({} : Store).merge [.user (some { userId := "u1" })] } ∧
    ∃ u, Answer.user { userId := "u1" } = .user u ∧
      ({ store := ({} : Store).merge [.user (some { userId := "u1" })] } : Session).store =
        ({} : Session).store.merge [.user (some u)] := by
  have hends : (Operation.login (.str "admin") (.str "pw")).EndsAlone (fun _ => .ok loginAnswer) {}
      [⟨"login", [("login", .str "admin"), ("password", .str "pw")]⟩]
      (.answer (.ok (.user { userId := "u1" })))
      { store := ({} : Store).merge [.user (some { userId := "u1" })] } := by
    refine .ask ?_
    show Alone _ ((resume .login (.ok loginAnswer)).run {}) _ _
    rw [resume_login_ok loginAnswer_reads]
    exact .refl _
  exact ⟨hends, (operations_write_own_fields _ _ _ _).2.2.2.1 _ _ _ hends⟩

end ChatSession
