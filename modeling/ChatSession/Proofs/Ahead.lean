import ChatSession.Proofs.SamePoint
import ChatSession.Proofs.Alone

/-!
What a refresh may still write.

A refresh waiting on a call may still write the fields of the step it waits on
and of the steps after it, and its errors, which it writes when it ends: these
are the fields `ahead` of it. Taking an answer, a refresh writes nothing that is
still ahead of it after (`resume_goesOn`), and it writes nothing that is no
longer ahead (`resume_keeps`). So along a refresh left alone a field that is no
longer ahead keeps its value to the end (`Alone.keeps`), and a field still ahead
has kept its value since the start (`Alone.ahead_back`).

`Fits b v r` says that each field of the snapshot `v` is the field at the point
`r` of a refresh left alone, or the value that refresh later writes to it for
good. A snapshot keeps fitting a refresh that takes the same answer and moves
alike (`Fits.step`); it fits every earlier point of the refresh (`Fits.back`);
and once the refresh has ended, it is that refresh's snapshot (`Fits.eq_of_ended`).
-/

namespace ChatSession

open Orchestrator Session

/-- The fields a refresh waiting on this call may still write: those of the step
it waits on and of the steps after it, and its errors, written at its end. -/
def Pending.ahead : Pending → List StateField
  | .step _ st rest _ _ => .errors :: (st :: rest).flatMap RefreshStep.fields
  | .page _ _ (.refresh _ rest _) => .errors :: (RefreshStep.users :: rest).flatMap RefreshStep.fields
  | _ => []

/-- The fields a refresh standing here may still write: none once it has ended. -/
def Next.ahead : Next → List StateField
  | .ask _ k => k.ahead
  | _ => []

/-- The call a stretch ends with, if any. -/
def Next.asked : Next → List Request
  | .ask req _ => [req]
  | _ => []

/-- A refresh standing at `r` has ended, or waits on a call for one of its steps
that carries the session's tokens. -/
def Refreshing (r : Next × Session) : Prop :=
  ∀ req k, r.1 = .ask req k → k.WellShaped ∧ (∃ run, k.refreshRun? = some run) ∧ k.Current r.2

namespace RefreshStep

theorem errors_not_mem_fields (st : RefreshStep) : StateField.errors ∉ st.fields := by
  cases st <;> simp [RefreshStep.fields]

/-- No step writes a field that a later step writes. -/
theorem fields_not_mem_rest {st : RefreshStep} {rest : List RefreshStep}
    (h : (st :: rest) <:+ RefreshStep.all) {f : StateField} (hf : f ∈ st.fields) :
    f ∉ rest.flatMap RefreshStep.fields := by
  -- the steps write distinct fields, so a step's and those of the steps after it are apart
  have hall : (RefreshStep.all.flatMap RefreshStep.fields).Nodup := by decide
  obtain ⟨pre, hpre⟩ := h
  rw [← hpre, List.flatMap_append, List.nodup_append, List.flatMap_cons, List.nodup_append] at hall
  exact fun hmem => hall.2.1.2.2 f hf f hmem rfl

@[simp] theorem waiting_ahead (run : RefreshRun) (after : AfterRefresh) (rest : List RefreshStep)
    (t : Nat) (st : RefreshStep) :
    (st.waiting run after rest t).ahead = .errors :: (st :: rest).flatMap RefreshStep.fields := by
  cases st <;> rfl

end RefreshStep

namespace Pending

/-- What taking a refresh's answer can write, the refresh may still write. -/
theorem writes_subset_ahead {k : Pending} (hrun : ∃ run, k.refreshRun? = some run)
    {f : StateField} (hf : f ∈ k.writes) : f ∈ k.ahead := by
  obtain ⟨run, hrun⟩ := hrun
  cases k with
  | step run st rest tt after =>
      simp only [Pending.writes, List.mem_cons] at hf
      simp only [Pending.ahead, List.flatMap_cons, List.mem_cons, List.mem_append]
      rcases hf with hf | hf
      · exact Or.inl hf
      · exact Or.inr (Or.inl hf)
  | page n dir use =>
      cases use with
      | refresh run rest after =>
          simp only [Pending.writes, List.mem_cons, List.not_mem_nil, or_false] at hf
          rcases hf with rfl | rfl <;> simp [Pending.ahead, RefreshStep.fields]
      | _ => simp [Pending.refreshRun?] at hrun
  | _ => simp [Pending.refreshRun?] at hrun

/-- What a stretch reads from the snapshot is written by no step still ahead. -/
theorem reads_not_ahead {k : Pending} (hk : k.WellShaped) {f : StateField}
    (hf : f ∈ k.reads) : f ∉ k.ahead := by
  cases k with
  | step run st rest tt after =>
      cases st with
      | users =>
          simp only [Pending.reads, List.mem_singleton] at hf
          subst hf
          have hrest : rest = [.unread, .servers, .currentServer] := by
            simpa [RefreshStep.all, List.suffix_cons_iff] using hk.1
          simp [Pending.ahead, RefreshStep.fields, hrest]
      | unread =>
          simp only [Pending.reads, List.mem_singleton] at hf
          subst hf
          simp [Pending.ahead, RefreshStep.fields, RefreshStep.rest_of_unread hk.1]
      | _ => simp [Pending.reads] at hf
  | page n dir use =>
      cases use with
      | refresh run rest after =>
          simp only [Pending.reads, List.mem_singleton] at hf
          subst hf
          have hsh : (RefreshStep.users :: rest) <:+ RefreshStep.all := hk
          have hrest : rest = [.unread, .servers, .currentServer] := by
            simpa [RefreshStep.all, List.suffix_cons_iff] using hsh
          simp [Pending.ahead, RefreshStep.fields, hrest]
      | _ => simp [Pending.reads] at hf
  | _ => simp [Pending.reads] at hf

/-- No refresh writes the user. -/
theorem user_not_mem_ahead (k : Pending) : StateField.user ∉ k.ahead := by
  have hsteps : ∀ steps : List RefreshStep, StateField.user ∉ steps.flatMap RefreshStep.fields := by
    intro steps hmem
    obtain ⟨st, -, hst⟩ := List.mem_flatMap.1 hmem
    cases st <;> simp [RefreshStep.fields] at hst
  cases k with
  | step run st rest tt after => simpa [Pending.ahead] using hsteps (st :: rest)
  | page n dir use =>
      cases use with
      | refresh run rest after => simpa [Pending.ahead] using hsteps (.users :: rest)
      | _ => simp [Pending.ahead]
  | _ => simp [Pending.ahead]

/-- Continuations at the same point read the same fields. -/
theorem Same.reads_eq {k k' : Pending} (h : k.Same k') : k.reads = k'.reads := by
  cases k with
  | step run st rest tt after =>
      cases k' with
      | step run' st' rest' tt' after' =>
          obtain ⟨-, rfl, -⟩ := h
          cases st <;> rfl
      | _ => exact h.elim
  | page n dir use =>
      cases k' with
      | page n' dir' use' =>
          cases use with
          | refresh run rest after =>
              cases use' with
              | refresh run' rest' after' => rfl
              | _ => exact h.elim
          | reply =>
              cases use' with
              | reply => rfl
              | _ => exact h.elim
          | store =>
              cases use' with
              | store => rfl
              | _ => exact h.elim
      | _ => cases use <;> exact h.elim
  | _ => exact h.elim

theorem resets_of_refreshRun {k : Pending} {run : RefreshRun} (h : k.refreshRun? = some run)
    (raw : Except Payload Value) : k.resets raw = false := by
  cases k <;> simp_all [Pending.refreshRun?, Pending.resets]

theorem beginsRefresh_of_refreshRun {k : Pending} {run : RefreshRun} (h : k.refreshRun? = some run)
    (raw : Except Payload Value) : k.beginsRefresh raw = false := by
  cases k <;> simp_all [Pending.refreshRun?, Pending.beginsRefresh]

/-- Only a thread load carries a thread token. -/
theorem isThreadLoad_of_threadToken {k : Pending} (hk : k.WellShaped) {t : Nat}
    (h : k.threadToken? = some t) : k.isThreadLoad = true := by
  cases k with
  | step run st rest tt after =>
      have hst : st = .unread := hk.2.1 (by simp [Pending.threadToken?] at h; simp [h])
      subst hst
      rfl
  | thread token command => rfl
  | _ => simp [Pending.threadToken?] at h

end Pending

/-- Stretches that end alike make the same call. -/
theorem Next.Same.asked_eq {n n' : Next} (h : n.Same n') : n.asked = n'.asked := by
  cases n with
  | ask req k =>
      cases n' with
      | ask req' k' => simp [Next.asked, h.1]
      | _ => exact h.elim
  | _ =>
      cases n' with
      | ask req' k' => exact h.elim
      | _ => rfl

theorem Next.Same.ask_left {req : Request} {k : Pending} {n : Next} (h : Next.Same (.ask req k) n) :
    ∃ k', n = .ask req k' ∧ k.Same k' := by
  cases n with
  | ask req' k' =>
      obtain ⟨rfl, hk⟩ := h
      exact ⟨k', rfl, hk⟩
  | _ => exact h.elim

/-- From `s` a refresh for `user` comes to `r` without writing a field it may
still write, every such field among `fs`. If it waits, it waits on a step of a
refresh for the same user; and a thread load it waits on is the unread step's,
for the channel selected at `r`. -/
structure GoesOn (fs : List StateField) (user : Option User) (s : Session) (r : Next × Session) :
    Prop where
  refresh : ∀ req k, r.1 = .ask req k → ∃ run, k.refreshRun? = some run ∧ run.user = user
  thread : ∀ req k, r.1 = .ask req k → k.isThreadLoad = true →
    ∃ ch u, r.2.store.value.currentChannel = some ch ∧ user = some u ∧ req = unreadRequest ch u
  ahead : ∀ f ∈ r.1.ahead, f ∈ fs ∧ r.2.store.value.read f = s.store.value.read f

theorem GoesOn.of_ended {fs : List StateField} {user : Option User} {s : Session}
    {r : Next × Session} (h : ∀ req k, r.1 ≠ .ask req k) : GoesOn fs user s r where
  refresh req k hr := absurd hr (h req k)
  thread req k hr := absurd hr (h req k)
  ahead f hf := by
    rcases r with ⟨_ | _ | _, _⟩
    · exact absurd rfl (h _ _)
    all_goals simp [Next.ahead] at hf

namespace Orchestrator

/-- A refresh going on from `steps` may afterwards write only fields of those
steps and its errors, and has written none of them yet. -/
theorem continueRefresh_goesOn (run : RefreshRun) (after : AfterRefresh)
    (steps : List RefreshStep) (s : Session) :
    GoesOn (.errors :: steps.flatMap RefreshStep.fields) run.user s
      ((continueRefresh run after steps).run s) := by
  by_cases hcur : s.refreshGen = run.token
  · rcases continueRefresh_current hcur after steps with ⟨o, hrun⟩ | ⟨st, rest, req, hsuf, -, hreq, hrun⟩
    · rw [hrun]
      exact GoesOn.of_ended (by simp)
    · rw [hrun]
      have hstore : (if st = .unread then { s with threadGen := s.threadGen + 1 } else s).store =
          s.store := by
        split <;> rfl
      refine ⟨?_, ?_, ?_⟩
      · rintro req' k ⟨-, rfl⟩
        exact ⟨run, by simp, rfl⟩
      · rintro req' k ⟨rfl, rfl⟩ hthr
        have hst : st = .unread := by simpa using hthr
        subst hst
        rw [hstore]
        simp only [RefreshStep.request] at hreq
        split at hreq
        · rename_i ch u hch hu
          exact ⟨ch, u, hch, hu, (Option.some.inj hreq).symm⟩
        · cases hreq
      · intro f hf
        simp only [Next.ahead, RefreshStep.waiting_ahead, List.mem_cons] at hf
        refine ⟨?_, by rw [hstore]⟩
        rcases hf with rfl | hf
        · exact List.mem_cons_self
        · obtain ⟨x, hx, hfx⟩ := List.mem_flatMap.1 hf
          exact List.mem_cons_of_mem _ (List.mem_flatMap.2 ⟨x, hsuf.subset hx, hfx⟩)
  · obtain ⟨-, o, hdone⟩ := continueRefresh_stale hcur after steps
    exact GoesOn.of_ended (by simp [hdone])

/-- After a step's outcome, the rest of the refresh writes nothing of the steps
from that one on until it asks again. -/
theorem outcome_goesOn {run : RefreshRun} {tt : Option Nat} {st : RefreshStep}
    {rest : List RefreshStep} (hsuf : (st :: rest) <:+ RefreshStep.all)
    {o : Except CallError (List Change)} (ho : ∀ cs, o = .ok cs → ∀ c ∈ cs, c.field ∈ st.fields)
    (after : AfterRefresh) (s : Session) :
    GoesOn (.errors :: (st :: rest).flatMap RefreshStep.fields) run.user s
      ((continueRefresh (takeOutcome run tt o s).1 after rest).run (takeOutcome run tt o s).2) := by
  have hgo := continueRefresh_goesOn (takeOutcome run tt o s).1 after rest (takeOutcome run tt o s).2
  rw [takeOutcome_user] at hgo
  refine ⟨hgo.refresh, hgo.thread, fun f hf => ?_⟩
  obtain ⟨hmem, hkeep⟩ := hgo.ahead f hf
  have hnot : f ∉ st.fields := by
    rcases List.mem_cons.1 hmem with rfl | hmem
    · exact RefreshStep.errors_not_mem_fields st
    · exact fun h => RefreshStep.fields_not_mem_rest hsuf h hmem
  have hout : ∀ cs, o = .ok cs → ∀ c ∈ cs, c.field ≠ f :=
    fun cs hcs c hc hcf => hnot (hcf ▸ ho cs hcs c hc)
  refine ⟨?_, hkeep.trans (takeOutcome_keeps hout run tt s)⟩
  rcases List.mem_cons.1 hmem with rfl | hmem
  · exact List.mem_cons_self
  · simp [hmem]

theorem users_outcome_fields (d : Except CallError (List (String × User))) :
    ∀ cs, d.map (fun d => [Change.users d]) = .ok cs → ∀ c ∈ cs, c.field ∈ RefreshStep.users.fields := by
  intro cs hcs c hc
  rcases d with e | d <;> simp [Except.map] at hcs
  subst hcs
  simp at hc
  simp [hc, Change.field, RefreshStep.fields]

/-- A refresh that takes an answer writes nothing it may still write after,
and waits, if at all, on a step of the same refresh. -/
theorem resume_goesOn {k : Pending} (hk : k.WellShaped) {run : RefreshRun}
    (hrun : k.refreshRun? = some run) (raw : Except Payload Value) (s : Session) :
    GoesOn k.ahead run.user s ((resume k raw).run s) := by
  rw [resume_run]
  rcases readAnswer raw with e | r
  · exact GoesOn.of_ended (by simp)
  dsimp only
  cases k with
  | step run' st rest tt after =>
      cases hrun
      rw [show (resumeWith (.step run st rest tt after) r).run s = _ from
        resumeStep_run run st rest tt after r s]
      exact outcome_goesOn hk.1 (fun cs hcs c hc => RefreshStep.outcome_fields hcs c hc) after s
  | page n dir use =>
      cases use with
      | refresh run' rest after =>
          cases hrun
          have hsh : (RefreshStep.users :: rest) <:+ RefreshStep.all := hk
          rw [show (resumeWith (.page n dir (.refresh run rest after)) r).run s = _ from
            resumePage_run n dir _ r s]
          rcases callOutcome "users" (Projection.listOf "User" User.check) r with e | users
          · dsimp only
            rw [directoryDone_refresh_run]
            exact outcome_goesOn hsh (users_outcome_fields _) after s
          · dsimp only
            by_cases hstop : users.length < s.config.usersPerPage ∨ s.config.usersMaxPages ≤ n + 1
            · rw [if_pos hstop, directoryDone_refresh_run]
              exact outcome_goesOn hsh (users_outcome_fields _) after s
            · rw [if_neg hstop]
              refine ⟨?_, ?_, fun f hf => ⟨hf, rfl⟩⟩
              · rintro req k ⟨-, rfl⟩
                exact ⟨run, rfl, rfl⟩
              · rintro req k ⟨-, rfl⟩ hthr
                simp [Pending.isThreadLoad] at hthr
      | _ => simp [Pending.refreshRun?] at hrun
  | _ => simp [Pending.refreshRun?] at hrun

/-- A refresh that takes an answer with current tokens goes on with current tokens. -/
theorem resume_refreshing {req : Request} {k : Pending} {s : Session}
    (h : Refreshing (.ask req k, s)) (raw : Except Payload Value) :
    Refreshing ((resume k raw).run s) := by
  obtain ⟨hk, ⟨run, hrun⟩, hcur⟩ := h req k rfl
  have hadv := resume_advances hk raw s
  rw [Pending.beginsRefresh_of_refreshRun hrun, Pending.resets_of_refreshRun hrun] at hadv
  intro req' k' hnext
  have hshape := hadv.shaped req' k' hnext
  refine ⟨hshape, ((resume_goesOn hk hrun raw s).refresh req' k' hnext).imp fun _ h => h.1, ?_, ?_⟩
  · intro run' hrun'
    rcases hadv.refresh req' k' run' hnext hrun' with ⟨hbegan, -⟩ | ⟨-, p, hp, htoken⟩
    · cases hbegan
    · rw [hrun, Option.some.injEq] at hp
      subst hp
      rw [htoken, hcur.1 run hrun, hadv.refreshGen]
      rfl
  · intro t ht
    have hthread := hadv.thread req' k' hnext (Pending.isThreadLoad_of_threadToken hshape ht)
    rw [ht, Option.some.injEq] at hthread
    exact hthread

/-- A refresh starts with current tokens. -/
theorem start_refreshing (reaction : Reaction) (s : Session) :
    Refreshing ((start (.refresh reaction)).run s) := by
  have hadv := start_advances (.refresh reaction) s
  obtain ⟨s', -, -, -, -, hs'⟩ := startRefresh_run reaction .reply s
  obtain ⟨-, -, -, hnext⟩ := continueRefresh_facts { token := s.refreshGen + 1, user := s.store.value.user }
    .reply RefreshStep.all s' (List.suffix_refl _)
  intro req k hk
  have hk' : ((continueRefresh { token := s.refreshGen + 1, user := s.store.value.user } .reply
      RefreshStep.all).run s').1 = .ask req k := by
    rw [← show (start (.refresh reaction)).run s = _ from hs']
    exact hk
  refine ⟨hadv.shaped req k hk, ⟨_, (hnext req k hk').1⟩, ?_, ?_⟩
  · intro run hrun
    rcases hadv.refresh req k run hk hrun with ⟨-, htoken⟩ | ⟨hbegan, -⟩
    · exact htoken
    · cases hbegan
  · intro t ht
    have hthread := hadv.thread req k hk (Pending.isThreadLoad_of_threadToken (hadv.shaped req k hk) ht)
    rw [ht, Option.some.injEq] at hthread
    exact hthread

end Orchestrator

namespace Alone

variable {b : Backend}

/-- Left alone at a call, an operation stays there, or takes the backend's answer. -/
theorem cases_ask {req : Request} {k : Pending} {s : Session} {calls : List Request}
    {r : Next × Session} (h : Alone b (.ask req k, s) calls r) :
    (calls = [] ∧ r = (.ask req k, s)) ∨
      ∃ calls', calls = req :: calls' ∧ Alone b ((resume k (b req)).run s) calls' r := by
  cases h with
  | refl => exact Or.inl ⟨rfl, rfl⟩
  | ask h => exact Or.inr ⟨_, rfl, h⟩

/-- An operation that has ended makes no more calls. -/
theorem of_ended {r r' : Next × Session} {calls : List Request} (h : Alone b r calls r')
    (hend : r.1.asked = []) : calls = [] ∧ r' = r := by
  cases h with
  | refl => exact ⟨rfl, rfl⟩
  | ask h => simp [Next.asked] at hend

/-- An operation left alone ends at most one way: with the same calls and at the
same point. -/
theorem ended_unique {r r₁ r₂ : Next × Session} {calls₁ calls₂ : List Request}
    (h₁ : Alone b r calls₁ r₁) (h₂ : Alone b r calls₂ r₂) (hend₁ : r₁.1.asked = [])
    (hend₂ : r₂.1.asked = []) : calls₁ = calls₂ ∧ r₁ = r₂ := by
  induction h₁ generalizing calls₂ with
  | refl r =>
      obtain ⟨rfl, rfl⟩ := h₂.of_ended hend₁
      exact ⟨rfl, rfl⟩
  | ask _ ih =>
      cases h₂ with
      | refl => simp [Next.asked] at hend₂
      | ask h₂ =>
          obtain ⟨rfl, rfl⟩ := ih h₂ hend₁
          exact ⟨rfl, rfl⟩

theorem refreshing {r r' : Next × Session} {calls : List Request} (h : Alone b r calls r')
    (hr : Refreshing r) : Refreshing r' := by
  induction h with
  | refl => exact hr
  | ask _ ih => exact ih (resume_refreshing hr _)

/-- A refresh left alone keeps the session's settings. -/
theorem config_eq {r r' : Next × Session} {calls : List Request} (h : Alone b r calls r')
    (hr : Refreshing r) : r'.2.config = r.2.config := by
  induction h with
  | refl => rfl
  | @ask req k s calls r hrest ih =>
      obtain ⟨hk, -⟩ := hr req k rfl
      exact (ih (resume_refreshing hr _)).trans (resume_advances hk (b req) s).config

/-- A refresh left alone never writes a field it may no longer write. -/
theorem keeps {r r' : Next × Session} {calls : List Request} (h : Alone b r calls r')
    (hr : Refreshing r) {f : StateField} (hf : f ∉ r.1.ahead) :
    r'.2.store.value.read f = r.2.store.value.read f ∧ f ∉ r'.1.ahead := by
  induction h with
  | refl => exact ⟨rfl, hf⟩
  | @ask req k s calls r hrest ih =>
      obtain ⟨hk, ⟨run, hrun⟩, -⟩ := hr req k rfl
      have hgo := resume_goesOn hk hrun (b req) s
      have hkeep := resume_keeps hk (fun hw => hf (Pending.writes_subset_ahead ⟨run, hrun⟩ hw))
        (Pending.resets_of_refreshRun hrun (b req)) s
      have hnot : f ∉ ((resume k (b req)).run s).1.ahead := fun h => hf (hgo.ahead f h).1
      obtain ⟨hread, hafter⟩ := ih (resume_refreshing hr _) hnot
      exact ⟨hread.trans hkeep, hafter⟩

/-- A field a refresh left alone may still write was ahead all along, and has
not been written. -/
theorem ahead_back {r r' : Next × Session} {calls : List Request} (h : Alone b r calls r')
    (hr : Refreshing r) {f : StateField} (hf : f ∈ r'.1.ahead) :
    r'.2.store.value.read f = r.2.store.value.read f ∧ f ∈ r.1.ahead := by
  induction h with
  | refl => exact ⟨rfl, hf⟩
  | @ask req k s calls r hrest ih =>
      obtain ⟨hk, ⟨run, hrun⟩, -⟩ := hr req k rfl
      obtain ⟨hread, hmid⟩ := ih (resume_refreshing hr _) hf
      obtain ⟨hmem, hkeep⟩ := (resume_goesOn hk hrun (b req) s).ahead f hmid
      exact ⟨hread.trans hkeep, hmem⟩

end Alone

/-- Two snapshots that read alike field by field are equal. -/
theorem PageState.ext_read {s t : PageState} (h : ∀ f, s.read f = t.read f) : s = t := by
  have hcs := h .currentServer
  have hu := h .user
  have hus := h .users
  have ht := h .teams
  have htm := h .teamMembers
  have hch := h .channels
  have hcc := h .currentChannel
  have hp := h .channelPosts
  have hsv := h .servers
  have he := h .errors
  simp only [PageState.read, Change.currentServer.injEq, Change.user.injEq, Change.users.injEq,
    Change.teams.injEq, Change.teamMembers.injEq, Change.channels.injEq,
    Change.currentChannel.injEq, Change.channelPosts.injEq, Change.servers.injEq,
    Change.errors.injEq] at hcs hu hus ht htm hch hcc hp hsv he
  cases s
  cases t
  simp_all

/-- Each field of `v` is the field at `r`, or the value a refresh left alone from
`r` writes to it for good. -/
def Fits (b : Backend) (v : PageState) (r : Next × Session) : Prop :=
  ∀ f, v.read f = r.2.store.value.read f ∨
    ∃ calls r', Alone b r calls r' ∧ f ∉ r'.1.ahead ∧ v.read f = r'.2.store.value.read f

namespace Fits

variable {b : Backend}

/-- What fits a point of a refresh left alone fits every earlier point. -/
theorem back {r0 r : Next × Session} {calls : List Request} (hr0 : Refreshing r0)
    (h : Alone b r0 calls r) {v : PageState} (hv : Fits b v r) : Fits b v r0 := by
  intro f
  rcases hv f with hnow | ⟨calls', r', hr', hnot, hlater⟩
  · by_cases hf : f ∈ r.1.ahead
    · -- a field still ahead has kept its value since the start
      exact Or.inl (hnow.trans (h.ahead_back hr0 hf).1)
    · exact Or.inr ⟨calls, r, h, hf, hnow⟩
  · exact Or.inr ⟨calls ++ calls', r', h.trans hr', hnot, hlater⟩

/-- A snapshot that moved alike with `r` from the same snapshot fits `r`. -/
theorem of_tracks {r : Next × Session} {t v : PageState} (h : Tracks t v t r.2.store.value) :
    Fits b v r := by
  intro f
  rcases h f with hnow | ⟨hv, ht⟩
  · exact Or.inl hnow
  · exact Or.inl (hv.trans ht.symm)

/-- A snapshot that moved only to the fields at `r` still fits `r`. -/
theorem restart {r : Next × Session} {v v' t : PageState} (hv : Fits b v r)
    (h : Tracks v v' t r.2.store.value) : Fits b v' r := by
  intro f
  rcases h f with hnow | ⟨hkept, -⟩
  · exact Or.inl hnow
  · rw [hkept]
    exact hv f

/-- A snapshot that moves alike with a refresh left alone as it takes the
backend's answer fits where the refresh goes. -/
theorem step {req : Request} {k : Pending} {s : Session} {v v' : PageState}
    (hv : Fits b v (.ask req k, s))
    (h : Tracks v v' s.store.value ((resume k (b req)).run s).2.store.value) :
    Fits b v' ((resume k (b req)).run s) := by
  intro f
  rcases h f with hnow | ⟨hkept, hsame⟩
  · exact Or.inl hnow
  rcases hv f with hthen | ⟨calls, r', hr', hnot, hlater⟩
  · exact Or.inl (hkept.trans (hthen.trans hsame.symm))
  rcases Alone.cases_ask hr' with ⟨-, rfl⟩ | ⟨calls', -, hrest⟩
  · exact Or.inl (hkept.trans (hlater.trans hsame.symm))
  · exact Or.inr ⟨calls', r', hrest, hnot, hkept.trans hlater⟩

/-- A field the refresh may no longer write is already as it will stay. -/
theorem read_of_not_ahead {r : Next × Session} {v : PageState} (hv : Fits b v r)
    (hr : Refreshing r) {f : StateField} (hf : f ∉ r.1.ahead) :
    v.read f = r.2.store.value.read f := by
  rcases hv f with hnow | ⟨calls, r', hr', -, hlater⟩
  · exact hnow
  · exact hlater.trans (hr'.keeps hr hf).1

/-- A snapshot that fits a refresh that has ended is its snapshot. -/
theorem eq_of_ended {r : Next × Session} {v : PageState} (hv : Fits b v r)
    (hend : r.1.asked = []) : v = r.2.store.value := by
  apply PageState.ext_read
  intro f
  rcases hv f with hnow | ⟨calls, r', hr', -, hlater⟩
  · exact hnow
  · obtain ⟨-, rfl⟩ := hr'.of_ended hend
    exact hlater

end Fits

end ChatSession
