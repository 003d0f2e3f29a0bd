import ChatSession.Proofs.Generations

/-!
Refreshes at the same point behave alike.

Two continuations of a refresh are at the same point when they wait on the same
step with the same errors so far and the same user, whatever their tokens. Two
such continuations, each current in its session, take the same answer alike in
two sessions with the same settings that agree on the one field the stretch
reads (the directory for the unread step, the selected channel where the unread
step is next): they end with the same request and continuations again at the
same point, and every field of the two snapshots is equal after, or kept its
value in both. The same holds of two refreshes started with the same user.
-/

namespace ChatSession

/-- Two runs of a refresh that differ at most in their tokens. -/
def RefreshRun.Same (r r' : RefreshRun) : Prop := r.user = r'.user ∧ r.errors = r'.errors

/-- Two continuations at the same point of a refresh, whose tokens may differ. -/
def Pending.Same : Pending → Pending → Prop
  | .step r st rest _ a, .step r' st' rest' _ a' => r.Same r' ∧ st = st' ∧ rest = rest' ∧ a = a'
  | .page n d (.refresh r rest a), .page n' d' (.refresh r' rest' a') =>
      n = n' ∧ d = d' ∧ r.Same r' ∧ rest = rest' ∧ a = a'
  | _, _ => False

/-- Two stretches that end alike: with the same request and continuations at the
same point, or both with no call. -/
def Next.Same : Next → Next → Prop
  | .ask req k, .ask req' k' => req = req' ∧ k.Same k'
  | .ask _ _, _ => False
  | _, .ask _ _ => False
  | _, _ => True

/-- The tokens a continuation carries are the session's: its refresh and its
thread load are the newest. -/
def Pending.Current (k : Pending) (s : Session) : Prop :=
  (∀ run, k.refreshRun? = some run → run.token = s.refreshGen) ∧
    ∀ t, k.threadToken? = some t → t = s.threadGen

/-- The fields the stretch that takes this continuation's answer reads from the
snapshot: the unread step tags with the directory, and the end of the directory
decides the unread step by the selected channel. -/
def Pending.reads : Pending → List StateField
  | .step _ .users _ _ _ => [.currentChannel]
  | .step _ .unread _ _ _ => [.users]
  | .page _ _ (.refresh _ _ _) => [.currentChannel]
  | _ => []

/-- Two snapshots move alike: every field is equal in the two after, or each
kept its value. -/
def Tracks (s s' t t' : PageState) : Prop :=
  ∀ f, s'.read f = t'.read f ∨ (s'.read f = s.read f ∧ t'.read f = t.read f)

theorem Tracks.refl (s t : PageState) : Tracks s s t t := fun _ => Or.inr ⟨rfl, rfl⟩

theorem Tracks.trans {s s' s'' t t' t'' : PageState} (h : Tracks s s' t t')
    (h' : Tracks s' s'' t' t'') : Tracks s s'' t t'' := by
  intro f
  rcases h' f with h' | ⟨h's, h't⟩
  · exact Or.inl h'
  · rcases h f with h | ⟨hs, ht⟩
    · exact Or.inl (h's.trans (h.trans h't.symm))
    · exact Or.inr ⟨h's.trans hs, h't.trans ht⟩

/-- The same changes written over two snapshots move them alike. -/
theorem tracks_update (cs : List Change) (s t : PageState) :
    Tracks s (s.update cs) t (t.update cs) := by
  induction cs generalizing s t with
  | nil => exact Tracks.refl s t
  | cons c cs ih =>
      have hc : Tracks s (s.apply c) t (t.apply c) := by
        intro f
        by_cases hf : c.field = f
        · left
          simp [hf]
        · right
          simp [hf]
      exact hc.trans (ih _ _)

theorem RefreshStep.waiting_same {runW runV : RefreshRun} (hrun : runW.Same runV)
    (after : AfterRefresh) (rest : List RefreshStep) (tW tV : Nat) (st : RefreshStep) :
    (st.waiting runW after rest tW).Same (st.waiting runV after rest tV) := by
  cases st with
  | users => exact ⟨rfl, rfl, hrun, rfl, rfl⟩
  | _ => exact ⟨hrun, rfl, rfl, rfl⟩

/-- A step asks the same in two sessions with the same page size, and, for the
unread step of a logged-in refresh, the same selected channel. -/
theorem RefreshStep.request_same {st : RefreshStep} {perPage : Nat}
    {channel channel' : Option Channel} {user : Option User}
    (hcc : st = .unread → user.isSome → channel = channel') :
    st.request perPage channel user = st.request perPage channel' user := by
  cases st with
  | unread =>
      rcases user with _ | u
      · cases channel <;> cases channel' <;> rfl
      · rw [hcc rfl rfl]
  | _ => rfl

theorem RefreshStep.passes_same {st : RefreshStep} {perPage : Nat}
    {channel channel' : Option Channel} {user : Option User}
    (hcc : st = .unread → user.isSome → channel = channel') :
    st.passes perPage channel user = st.passes perPage channel' user := by
  simp only [RefreshStep.passes, RefreshStep.request_same hcc]

/-- A logged-in refresh passes over no step but the unread one. -/
theorem RefreshStep.eq_unread_of_passes {st : RefreshStep} {perPage : Nat}
    {channel : Option Channel} {user : Option User} (huser : user.isSome)
    (hp : st.passes perPage channel user = true) : st = .unread := by
  rcases user with _ | u
  · simp at huser
  · cases st <;> simp_all [RefreshStep.passes, RefreshStep.request]

/-- Only the users step is followed by the unread step. -/
theorem RefreshStep.eq_users_of_head {st : RefreshStep} {rest : List RefreshStep}
    (h : (st :: rest) <:+ RefreshStep.all) (hhead : rest.head? = some .unread) : st = .users := by
  simp [RefreshStep.all, List.suffix_cons_iff] at h
  rcases h with ⟨rfl, rfl⟩ | ⟨rfl, rfl⟩ | ⟨rfl, rfl⟩ | ⟨rfl, rfl⟩ | ⟨rfl, rfl⟩ | ⟨rfl, rfl⟩ |
    ⟨rfl, rfl⟩ <;> simp_all

/-- A step makes the same of an answer in two snapshots with the same directory,
the only field the unread step reads. -/
theorem RefreshStep.outcome_same {st : RefreshStep} {s t : PageState}
    (h : st = .unread → s.users = t.users) (raw : Except CallError Value) :
    st.outcome s raw = st.outcome t raw := by
  cases st with
  | unread =>
      have htag : threadChanges s = threadChanges t := by
        funext th
        simp [threadChanges, h rfl]
      simp only [RefreshStep.outcome, htag]
  | _ => rfl

namespace Orchestrator

open Session

theorem takeOutcome_same {runW runV : RefreshRun} (hrun : runW.Same runV) {tW tV : Option Nat}
    {sW sV : Session} (haW : sW.admits runW tW = true) (haV : sV.admits runV tV = true)
    (o : Except CallError (List Change)) :
    (takeOutcome runW tW o sW).1.Same (takeOutcome runV tV o sV).1 ∧
      Tracks sW.store.value (takeOutcome runW tW o sW).2.store.value
        sV.store.value (takeOutcome runV tV o sV).2.store.value := by
  rcases o with e | cs
  · simp only [takeOutcome, haW, haV, if_true]
    exact ⟨⟨hrun.1, by rw [hrun.2]⟩, Tracks.refl _ _⟩
  · simp only [takeOutcome, haW, haV, if_true]
    exact ⟨hrun, tracks_update cs _ _⟩

/-- Two current refreshes at the same point go on alike, in sessions with the same
settings and, where the unread step is next for a logged-in refresh, the same
selected channel. -/
theorem continueRefresh_same {runW runV : RefreshRun} (hrun : runW.Same runV)
    (after : AfterRefresh) (steps : List RefreshStep) (sW sV : Session)
    (hcW : sW.refreshGen = runW.token) (hcV : sV.refreshGen = runV.token)
    (hcfg : sW.config = sV.config)
    (hcc : runW.user.isSome → steps.head? = some .unread →
      sW.store.value.currentChannel = sV.store.value.currentChannel) :
    Next.Same ((continueRefresh runW after steps).run sW).1
        ((continueRefresh runV after steps).run sV).1 ∧
      Tracks sW.store.value ((continueRefresh runW after steps).run sW).2.store.value
        sV.store.value ((continueRefresh runV after steps).run sV).2.store.value := by
  induction steps with
  | nil =>
      obtain ⟨oW, hoW⟩ := finishRefresh_done runW after sW
      obtain ⟨oV, hoV⟩ := finishRefresh_done runV after sV
      refine ⟨?_, ?_⟩
      · show Next.Same ((finishRefresh runW after).run sW).1 ((finishRefresh runV after).run sV).1
        rw [hoW, hoV]
        trivial
      · show Tracks _ ((finishRefresh runW after).run sW).2.store.value _
          ((finishRefresh runV after).run sV).2.store.value
        rw [finishRefresh_session, finishRefresh_session, if_pos hcW, if_pos hcV, hrun.2]
        exact tracks_update _ _ _
  | cons st rest ih =>
      -- the two refreshes decide alike whether to pass over the step, and what to ask
      have hsame : st = .unread → runW.user.isSome →
          sW.store.value.currentChannel = sV.store.value.currentChannel := by
        rintro rfl hu
        exact hcc hu rfl
      have hpass : st.passes sV.config.usersPerPage sV.store.value.currentChannel runV.user =
          st.passes sW.config.usersPerPage sW.store.value.currentChannel runW.user := by
        rw [hcfg, ← hrun.1]
        exact (RefreshStep.passes_same hsame).symm
      have hreq : st.request sV.config.usersPerPage sV.store.value.currentChannel runV.user =
          st.request sW.config.usersPerPage sW.store.value.currentChannel runW.user := by
        rw [hcfg, ← hrun.1]
        exact (RefreshStep.request_same hsame).symm
      cases hp : st.passes sW.config.usersPerPage sW.store.value.currentChannel runW.user
      · cases hr : st.request sW.config.usersPerPage sW.store.value.currentChannel runW.user with
        | none => simp [RefreshStep.passes, hr] at hp
        | some req =>
            rw [continueRefresh_ask hcW hp hr, continueRefresh_ask hcV (hpass.trans hp) (hreq.trans hr)]
            refine ⟨⟨rfl, RefreshStep.waiting_same hrun after rest _ _ st⟩, ?_⟩
            by_cases hst : st = .unread
            · simpa [hst] using Tracks.refl sW.store.value sV.store.value
            · simpa [hst] using Tracks.refl sW.store.value sV.store.value
      · rw [continueRefresh_pass hcW hp, continueRefresh_pass hcV (hpass.trans hp)]
        refine ih fun hu hhead => ?_
        -- a logged-in refresh passes over the unread step only, where the channels agree
        exact hsame (RefreshStep.eq_unread_of_passes hu hp) hu

theorem admits_of_current {run : RefreshRun} {st : RefreshStep} {rest : List RefreshStep}
    {tt : Option Nat} {after : AfterRefresh} {s : Session}
    (h : (Pending.step run st rest tt after).Current s) : s.admits run tt = true := by
  have hr : run.token = s.refreshGen := h.1 run rfl
  rcases tt with _ | t
  · simp [Session.admits, hr]
  · have ht : t = s.threadGen := h.2 t rfl
    simp [Session.admits, hr, ht]

/-- Two current refresh steps at the same point take the same answer alike. -/
theorem resumeStep_same {runW runV : RefreshRun} (hrun : runW.Same runV) {st : RefreshStep}
    {rest : List RefreshStep} {ttW ttV : Option Nat} {after : AfterRefresh}
    (hsh : (st :: rest) <:+ RefreshStep.all) {sW sV : Session}
    (hcW : (Pending.step runW st rest ttW after).Current sW)
    (hcV : (Pending.step runV st rest ttV after).Current sV) (hcfg : sW.config = sV.config)
    (hreads : ∀ f ∈ (Pending.step runW st rest ttW after).reads,
      sW.store.value.read f = sV.store.value.read f)
    (r : Except CallError Value) :
    Next.Same ((resumeStep runW st rest ttW after r).run sW).1
        ((resumeStep runV st rest ttV after r).run sV).1 ∧
      Tracks sW.store.value ((resumeStep runW st rest ttW after r).run sW).2.store.value
        sV.store.value ((resumeStep runV st rest ttV after r).run sV).2.store.value := by
  rw [resumeStep_run, resumeStep_run]
  have hout : st.outcome sW.store.value r = st.outcome sV.store.value r := by
    refine RefreshStep.outcome_same (fun hst => ?_) r
    subst hst
    simpa [Pending.reads, PageState.read] using hreads .users
  rw [hout]
  obtain ⟨hrun', htrack⟩ := takeOutcome_same hrun (admits_of_current hcW)
    (admits_of_current hcV) (st.outcome sV.store.value r)
  have hcc : (takeOutcome runW ttW (st.outcome sV.store.value r) sW).1.user.isSome →
      rest.head? = some .unread →
      (takeOutcome runW ttW (st.outcome sV.store.value r) sW).2.store.value.currentChannel =
        (takeOutcome runV ttV (st.outcome sV.store.value r) sV).2.store.value.currentChannel := by
    intro _ hhead
    have hst := RefreshStep.eq_users_of_head hsh hhead
    subst hst
    have hcc := hreads .currentChannel (by simp [Pending.reads])
    have hkeep : ∀ (run : RefreshRun) tt (s : Session),
        (takeOutcome run tt (RefreshStep.users.outcome sV.store.value r) s).2.store.value.read
          .currentChannel = s.store.value.read .currentChannel := by
      intro run tt s
      refine takeOutcome_keeps (fun cs hcs c hc hcf => ?_) run tt s
      have hfield := RefreshStep.outcome_fields hcs c hc
      rw [hcf] at hfield
      simp [RefreshStep.fields] at hfield
    have h := (hkeep runW ttW sW).trans (hcc.trans (hkeep runV ttV sV).symm)
    simpa [PageState.read] using h
  obtain ⟨hnext, htrack'⟩ := continueRefresh_same hrun' after rest
    (takeOutcome runW ttW (st.outcome sV.store.value r) sW).2
    (takeOutcome runV ttV (st.outcome sV.store.value r) sV).2
    (by simp [hcW.1 runW rfl]) (by simp [hcV.1 runV rfl]) (by simp [hcfg]) hcc
  exact ⟨hnext, htrack.trans htrack'⟩

/-- Two current readings of the directory for refreshes at the same point take
the same page alike, where the sessions agree on the selected channel. -/
theorem resumeDirectory_same {runW runV : RefreshRun} (hrun : runW.Same runV) (n : Nat)
    (dir : List (String × User)) (rest : List RefreshStep) (after : AfterRefresh)
    {sW sV : Session} (hcW : sW.refreshGen = runW.token) (hcV : sV.refreshGen = runV.token)
    (hcfg : sW.config = sV.config)
    (hcc : sW.store.value.currentChannel = sV.store.value.currentChannel)
    (r : Except CallError Value) :
    Next.Same ((resumePage n dir (.refresh runW rest after) r).run sW).1
        ((resumePage n dir (.refresh runV rest after) r).run sV).1 ∧
      Tracks sW.store.value ((resumePage n dir (.refresh runW rest after) r).run sW).2.store.value
        sV.store.value ((resumePage n dir (.refresh runV rest after) r).run sV).2.store.value := by
  have haW : sW.admits runW none = true := by simp [Session.admits, hcW]
  have haV : sV.admits runV none = true := by simp [Session.admits, hcV]
  have hdone : ∀ d, Next.Same ((directoryDone (.refresh runW rest after) d).run sW).1
        ((directoryDone (.refresh runV rest after) d).run sV).1 ∧
      Tracks sW.store.value ((directoryDone (.refresh runW rest after) d).run sW).2.store.value
        sV.store.value ((directoryDone (.refresh runV rest after) d).run sV).2.store.value := by
    intro d
    rw [directoryDone_refresh_run, directoryDone_refresh_run]
    obtain ⟨hrun', htrack⟩ := takeOutcome_same hrun haW haV (d.map fun d => [.users d])
    have hkeep : ∀ (run : RefreshRun) (s : Session),
        (takeOutcome run none (d.map fun d => [.users d]) s).2.store.value.currentChannel =
          s.store.value.currentChannel := by
      intro run s
      have h : (takeOutcome run none (d.map fun d => [.users d]) s).2.store.value.read
          .currentChannel = s.store.value.read .currentChannel := by
        refine takeOutcome_keeps (fun cs hcs c hc hcf => ?_) run none s
        obtain ⟨dir, -, rfl⟩ := Except.map_eq_ok hcs
        simp at hc
        subst hc
        simp [Change.field] at hcf
      simpa [PageState.read] using h
    obtain ⟨hnext, htrack'⟩ := continueRefresh_same hrun' after rest
      (takeOutcome runW none (d.map fun d => [.users d]) sW).2
      (takeOutcome runV none (d.map fun d => [.users d]) sV).2
      (by simp [hcW]) (by simp [hcV]) (by simp [hcfg]) (fun _ _ => by rw [hkeep, hkeep, hcc])
    exact ⟨hnext, htrack.trans htrack'⟩
  rw [resumePage_run, resumePage_run, hcfg]
  rcases callOutcome "users" (Projection.listOf "User" User.check) r with e | users
  · exact hdone _
  · dsimp only
    split
    · exact hdone _
    · exact ⟨⟨rfl, rfl, rfl, hrun, rfl, rfl⟩, Tracks.refl _ _⟩

/-- Two current continuations at the same point of a refresh take the same
answer alike, in sessions with the same settings that agree on what the stretch
reads: they end alike, and move the two snapshots alike. -/
theorem resume_same {kW kV : Pending} (hsame : kW.Same kV) (hshW : kW.WellShaped)
    {sW sV : Session} (hcW : kW.Current sW) (hcV : kV.Current sV) (hcfg : sW.config = sV.config)
    (hreads : ∀ f ∈ kW.reads, sW.store.value.read f = sV.store.value.read f)
    (raw : Except Payload Value) :
    Next.Same ((resume kW raw).run sW).1 ((resume kV raw).run sV).1 ∧
      Tracks sW.store.value ((resume kW raw).run sW).2.store.value
        sV.store.value ((resume kV raw).run sV).2.store.value := by
  rw [resume_run, resume_run]
  rcases readAnswer raw with f | r
  · exact ⟨trivial, Tracks.refl _ _⟩
  dsimp only
  cases kW with
  | step runW st rest ttW after =>
      cases kV with
      | step runV st' rest' ttV after' =>
          obtain ⟨hrun, rfl, rfl, rfl⟩ := hsame
          exact resumeStep_same hrun hshW.1 hcW hcV hcfg hreads r
      | _ => exact hsame.elim
  | page n dir use =>
      cases kV with
      | page n' dir' use' =>
          cases use with
          | refresh runW rest after =>
              cases use' with
              | refresh runV rest' after' =>
                  obtain ⟨rfl, rfl, hrun, rfl, rfl⟩ := hsame
                  exact resumeDirectory_same hrun n dir rest after (hcW.1 runW rfl).symm
                    (hcV.1 runV rfl).symm hcfg
                    (by simpa [PageState.read] using hreads .currentChannel (by simp [Pending.reads]))
                    r
              | _ => simp [Pending.Same] at hsame
          | _ => simp [Pending.Same] at hsame
      | _ => cases use <;> simp [Pending.Same] at hsame
  | _ => exact hsame.elim

/-- Two refreshes started in sessions with the same settings and the same user
begin alike. -/
theorem start_refresh_same (reactionW reactionV : Reaction) {sW sV : Session}
    (hcfg : sW.config = sV.config) (huser : sW.store.value.user = sV.store.value.user) :
    Next.Same ((start (.refresh reactionW)).run sW).1 ((start (.refresh reactionV)).run sV).1 ∧
      Tracks sW.store.value ((start (.refresh reactionW)).run sW).2.store.value
        sV.store.value ((start (.refresh reactionV)).run sV).2.store.value := by
  obtain ⟨sW', hgW, -, hcW, hstW, hrunW⟩ := startRefresh_run reactionW .reply sW
  obtain ⟨sV', hgV, -, hcV, hstV, hrunV⟩ := startRefresh_run reactionV .reply sV
  rw [show (start (.refresh reactionW)).run sW = _ from hrunW,
    show (start (.refresh reactionV)).run sV = _ from hrunV]
  have hrun : RefreshRun.Same { token := sW.refreshGen + 1, user := sW.store.value.user }
      { token := sV.refreshGen + 1, user := sV.store.value.user } := ⟨huser, rfl⟩
  have hsame := continueRefresh_same hrun .reply RefreshStep.all sW' sV' hgW hgV
    (by rw [hcW, hcV, hcfg]) (by simp [RefreshStep.all])
  rw [hstW, hstV] at hsame
  exact hsame

end Orchestrator

end ChatSession
