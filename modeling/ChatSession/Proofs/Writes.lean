import ChatSession.Proofs.Counters

/-!
Which fields of the snapshot a stretch can write.

A snapshot is read field by field through `PageState.read`, which gives each
field's value as the change that would write it; writing changes keeps every
field they do not name. Each continuation and each operation then comes with
the fields its stretch can write: a refresh step its own fields and the errors,
a thread load the channel's posts, a selection the current channel. Only a
reset, by a logout or a server switch, writes beyond these. Last, a thread load
that is still the newest writes the thread it gets.
-/

namespace ChatSession

namespace PageState

/-- A field's value, as the change that writes it. -/
def read (s : PageState) : StateField → Change
  | .currentServer => .currentServer s.currentServer
  | .user => .user s.user
  | .users => .users s.users
  | .teams => .teams s.teams
  | .teamMembers => .teamMembers s.teamMembers
  | .channels => .channels s.channels
  | .currentChannel => .currentChannel s.currentChannel
  | .channelPosts => .channelPosts s.channelPosts
  | .servers => .servers s.servers
  | .errors => .errors s.errors

@[simp] theorem read_apply (s : PageState) (c : Change) (f : StateField) :
    (s.apply c).read f = if c.field = f then c else s.read f := by
  cases c <;> cases f <;> rfl

theorem read_update_of_forall_ne {cs : List Change} {f : StateField} (h : ∀ c ∈ cs, c.field ≠ f)
    (s : PageState) : (s.update cs).read f = s.read f := by
  induction cs generalizing s with
  | nil => rfl
  | cons c cs ih =>
      have hc : c.field ≠ f := h c List.mem_cons_self
      show ((s.apply c).update cs).read f = s.read f
      rw [ih (fun c' hc' => h c' (List.mem_cons_of_mem c hc'))]
      simp [hc]

end PageState

/-- The fields a step's answer can write. -/
def RefreshStep.fields : RefreshStep → List StateField
  | .teams => [.teams]
  | .teamMembers => [.teamMembers]
  | .channels => [.channels, .currentChannel]
  | .users => [.users]
  | .unread => [.channelPosts]
  | .servers => [.servers]
  | .currentServer => [.currentServer]

/-- The fields that taking an answer can write, unless it resets the session. -/
def Pending.writes : Pending → List StateField
  | .step _ st _ _ _ => .errors :: st.fields
  | .page _ _ .reply => []
  | .page _ _ .store => [.users]
  | .page _ _ (.refresh _ _ _) => [.users, .errors]
  | .login => [.user]
  | .addServer => [.servers, .currentServer]
  | .thread _ _ => [.channelPosts]
  | _ => []

/-- The fields that starting an operation can write. -/
def Operation.writes : Operation → List StateField
  | .refresh _ => [.errors]
  | .selectChannel _ => [.currentChannel]
  | _ => []

theorem Except.map_eq_ok {ε α β : Type} {f : α → β} {x : Except ε α} {b : β}
    (h : x.map f = .ok b) : ∃ a, x = .ok a ∧ f a = b := by
  rcases x with e | a
  · simp [Except.map] at h
  · simpa [Except.map] using h

theorem RefreshStep.outcome_fields {st : RefreshStep} {s : PageState} {raw : Except CallError Value}
    {cs : List Change} (h : st.outcome s raw = .ok cs) : ∀ c ∈ cs, c.field ∈ st.fields := by
  cases st with
  | unread =>
      obtain ⟨t, -, rfl⟩ := Except.map_eq_ok h
      simp [Change.field, RefreshStep.fields, threadChanges]
  | teams | teamMembers | channels | users | servers | currentServer =>
      obtain ⟨a, -, rfl⟩ := Except.map_eq_ok h
      simp [Change.field, RefreshStep.fields]

namespace Orchestrator

open Session

/-- Writing changes keeps the fields they do not name. -/
theorem merge_read {cs : List Change} {f : StateField} (h : ∀ c ∈ cs, c.field ≠ f) (st : Store) :
    (st.merge cs).value.read f = st.value.read f :=
  PageState.read_update_of_forall_ne h st.value

theorem takeOutcome_keeps {o : Except CallError (List Change)} {f : StateField}
    (h : ∀ cs, o = .ok cs → ∀ c ∈ cs, c.field ≠ f) (run : RefreshRun) (tt : Option Nat)
    (s : Session) : (takeOutcome run tt o s).2.store.value.read f = s.store.value.read f := by
  rw [takeOutcome_session]
  rcases o with e | cs
  · rfl
  · dsimp only
    split
    · exact merge_read (h cs rfl) s.store
    · rfl

/-- Going on with a refresh writes at most its errors. -/
theorem continueRefresh_keeps {f : StateField} (hf : f ≠ .errors) (run : RefreshRun)
    (after : AfterRefresh) (steps : List RefreshStep) (s : Session) :
    ((continueRefresh run after steps).run s).2.store.value.read f = s.store.value.read f := by
  by_cases hcur : s.refreshGen = run.token
  · rcases continueRefresh_current hcur after steps with ⟨o, hrun⟩ | ⟨st, rest, req, -, -, -, hrun⟩
    · rw [hrun]
      exact merge_read (by simp [Change.field, Ne.symm hf]) s.store
    · rw [hrun]
      split <;> rfl
  · rw [(continueRefresh_stale hcur after steps).1]

theorem directoryDone_keeps {n : Nat} {dir : List (String × User)} {use : DirectoryUse}
    {f : StateField} (hf : f ∉ (Pending.page n dir use).writes)
    (d : Except CallError (List (String × User))) (s : Session) :
    ((directoryDone use d).run s).2.store.value.read f = s.store.value.read f := by
  cases use with
  | reply => rfl
  | store =>
      have hu : StateField.users ≠ f := by simpa [Pending.writes, eq_comm] using hf
      rcases d with e | d
      · rfl
      · exact merge_read (by simpa [Change.field] using hu) s.store
  | refresh run rest after =>
      simp only [Pending.writes, List.mem_cons, List.not_mem_nil, or_false, not_or] at hf
      rw [directoryDone_refresh_run, continueRefresh_keeps hf.2]
      refine takeOutcome_keeps ?_ run none s
      intro cs hcs c hc
      rcases d with e | d <;> simp [Except.map] at hcs
      subst hcs
      simp at hc
      subst hc
      exact Ne.symm hf.1

theorem resume_ok (k : Pending) (v : Value) : resume k (.ok v) = resumeWith k (.ok v) := rfl

end Orchestrator

open Orchestrator Session

/-- Taking an answer that does not reset the session keeps every field outside
what the continuation can write. -/
theorem resumeWith_keeps {k : Pending} (hk : k.WellShaped) {f : StateField} (hf : f ∉ k.writes)
    {raw : Except Payload Value} {r : Except CallError Value} (hread : readAnswer raw = .ok r)
    (hreset : k.resets raw = false) (s : Session) :
    ((resumeWith k r).run s).2.store.value.read f = s.store.value.read f := by
  cases k with
  | step run st rest tt after =>
      simp only [Pending.writes, List.mem_cons, not_or] at hf
      rw [show (resumeWith (.step run st rest tt after) r).run s = _ from
        resumeStep_run run st rest tt after r s, continueRefresh_keeps hf.1]
      refine takeOutcome_keeps ?_ run tt s
      intro cs hcs c hc hcf
      exact hf.2 (hcf ▸ RefreshStep.outcome_fields hcs c hc)
  | page n dir use =>
      rw [show (resumeWith (.page n dir use) r).run s = _ from resumePage_run n dir use r s]
      rcases callOutcome "users" (Projection.listOf "User" User.check) r with e | users
      · exact directoryDone_keeps hf _ s
      · dsimp only
        split
        · exact directoryDone_keeps hf _ s
        · rfl
  | login =>
      have hu : StateField.user ≠ f := by simpa [Pending.writes, eq_comm] using hf
      rw [resumeWith_login_run]
      rcases callOutcome "login" (Projection.record "User" User.check) r with e | u
      · rfl
      · exact merge_read (by simpa [Change.field] using hu) s.store
  | logout =>
      -- only a logout that fails leaves the session, and it writes nothing
      have hok : r.toBool = false := (readAnswer_toBool hread).symm.trans hreset
      rcases r with e | v
      · rw [resumeWith_logout_run]
      · simp [Except.toBool] at hok
  | addServer =>
      have hs : StateField.servers ≠ f ∧ StateField.currentServer ≠ f := by
        simpa [Pending.writes, eq_comm] using hf
      rw [resumeWith_addServer_run]
      rcases callOutcome "add_server" (Projection.record "Server" Server.check) r with e | sv
      · rfl
      · exact merge_read (by simpa [Change.field] using hs) s.store
  | postThread => rfl
  | thread token command =>
      have hp : StateField.channelPosts ≠ f := by simpa [Pending.writes, eq_comm] using hf
      rw [resumeWith_thread_run]
      rcases callOutcome command (Projection.record "PostThread" PostThread.check) r with e | t
      · rfl
      · dsimp only
        split
        · exact merge_read (by simpa [threadChanges, Change.field] using hp) s.store
        · rfl
  | switch reaction =>
      rw [resumeWith_switch_run]
      rcases callOutcome "change_server" (Projection.record "ChangeServerResult" Switch.check) r
        with e | sw
      · rfl
      · rfl
  | switchLogout sw reaction =>
      have : readable raw = false := hreset
      simp [readable_of_readAnswer hread] at this
  | command spec => rfl

theorem resume_keeps {k : Pending} (hk : k.WellShaped) {f : StateField} (hf : f ∉ k.writes)
    {raw : Except Payload Value} (hreset : k.resets raw = false) (s : Session) :
    ((resume k raw).run s).2.store.value.read f = s.store.value.read f := by
  rw [resume_run]
  rcases hread : readAnswer raw with e | r
  · rfl
  · exact resumeWith_keeps hk hf hread hreset s

/-- Starting an operation writes at most the selected channel or, for a refresh,
its errors. -/
theorem start_keeps {op : Operation} {f : StateField} (hf : f ∉ op.writes) (s : Session) :
    ((start op).run s).2.store.value.read f = s.store.value.read f := by
  cases op with
  | refresh reaction =>
      obtain ⟨s', -, -, -, hstore, hs'⟩ := startRefresh_run reaction .reply s
      have he : f ≠ .errors := by simpa [Operation.writes] using hf
      rw [show (start (.refresh reaction)).run s = _ from hs', continueRefresh_keeps he, hstore]
  | selectChannel c =>
      have hc : StateField.currentChannel ≠ f := by simpa [Operation.writes, eq_comm] using hf
      have hcs : ∀ c' ∈ [Change.currentChannel (some c)], c'.field ≠ f := by
        simpa [Change.field] using hc
      have hmerge := merge_read hcs s.store
      rw [start_selectChannel_run]
      rcases s.store.value.user with _ | u
      · exact hmerge
      · exact hmerge
  | _ => rfl

theorem Pending.channelPosts_not_mem_writes {k : Pending} (h : k.isThreadLoad = false) :
    StateField.channelPosts ∉ k.writes := by
  cases k with
  | step run st rest tt after => cases st <;> simp_all [Pending.writes, RefreshStep.fields, Pending.isThreadLoad]
  | page n dir use => cases use <;> simp [Pending.writes]
  | _ => simp_all [Pending.writes, Pending.isThreadLoad]

theorem Operation.channelPosts_not_mem_writes (op : Operation) :
    StateField.channelPosts ∉ op.writes := by
  cases op <;> simp [Operation.writes]

/-- The answer is data that reads as the thread `t`. -/
def ReadsAsThread (raw : Except Payload Value) (t : PostThread) : Prop :=
  ∃ v, raw = .ok v ∧ Projection.record "PostThread" PostThread.check v = .ok t

/-- A thread load that is still the newest, and whose refresh (for the unread
step) is too, writes the thread it gets as the channel's posts, tagged with the
user directory of that moment. -/
theorem resume_thread_write {k : Pending} (hk : k.WellShaped) (hthr : k.isThreadLoad = true)
    {s : Session} (htok : k.threadToken? = some s.threadGen)
    (hrun : ∀ run, k.refreshRun? = some run → s.refreshGen = run.token)
    {raw : Except Payload Value} {t : PostThread} (ht : ReadsAsThread raw t) :
    ((resume k raw).run s).2.store.value.channelPosts =
      some (Thread.tagSystemPosts s.store.value.users t) := by
  obtain ⟨v, rfl, hv⟩ := ht
  have hout : ∀ command, callOutcome command (Projection.record "PostThread" PostThread.check)
      (.ok v) = .ok t := by
    intro command
    simp [callOutcome, hv]
  rw [resume_ok]
  cases k with
  | step run st rest tt after =>
      cases st <;> simp [Pending.isThreadLoad] at hthr
      have hrest := RefreshStep.rest_of_unread hk.1
      simp only [Pending.threadToken?] at htok
      subst htok hrest
      have hadmits : s.admits run (some s.threadGen) = true := by
        simp [Session.admits, hrun run rfl]
      rw [show (resumeWith (.step run .unread _ (some s.threadGen) after) (.ok v)).run s = _ from
        resumeStep_run run .unread _ _ after (.ok v) s, continueRefresh_servers_session,
        takeOutcome_session]
      simp [RefreshStep.outcome, hout, Except.map, hadmits, Store.merge, Store.write,
        PageState.update, PageState.apply, threadChanges]
  | thread token command =>
      simp only [Pending.threadToken?, Option.some.injEq] at htok
      subst htok
      simp [resumeWith, hout, threadCurrent, writeWith, Store.write, PageState.update,
        PageState.apply, threadChanges]
  | _ => simp [Pending.isThreadLoad] at hthr

end ChatSession
