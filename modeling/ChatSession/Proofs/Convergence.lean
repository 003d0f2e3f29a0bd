import ChatSession.Proofs.Ahead

/-!
Interleaved refreshes converge to one refresh.

In a run where only refreshes are started and the backend answers each call by
its command and arguments, the world follows the newest refresh as a refresh
left alone from the starting session (`World.Follows`): the newest refresh has
made the calls of that refresh up to a point `r`, waits on the call `r` waits on
with a continuation at the same point, and the snapshot fits `r`. A refresh
started later begins as one started from the starting session, since the
snapshot fits the start of that refresh (`follows_start`); an answer to the
newest refresh moves the world as the refresh left alone moves on the same
answer (`Follows.answer_newest`); an answer to an older one changes nothing
(`Follows.answer_stale`). Once no call waits, the refresh left alone has ended,
and the snapshot is the one it ends with (`refreshes_converge`).
-/

namespace ChatSession

open Orchestrator

section eraseIdx

variable {α : Type} {p : α → Bool} {l : List α} {i : Nat} {c : α}

theorem filter_eraseIdx_of_false (hc : l[i]? = some c) (hp : p c = false) :
    (l.eraseIdx i).filter p = l.filter p := by
  induction l generalizing i with
  | nil => simp at hc
  | cons a l ih =>
      cases i with
      | zero =>
          simp only [List.getElem?_cons_zero, Option.some.injEq] at hc
          subst hc
          simp [hp]
      | succ i =>
          simp only [List.getElem?_cons_succ] at hc
          simp only [List.eraseIdx_cons_succ, List.filter_cons, ih hc]

/-- Taking out the one element that passes leaves none that passes. -/
theorem filter_eraseIdx_of_single (hc : l[i]? = some c) (hp : p c = true)
    (hone : (l.filter p).length = 1) : (l.eraseIdx i).filter p = [] := by
  induction l generalizing i with
  | nil => simp at hc
  | cons a l ih =>
      cases i with
      | zero =>
          simp only [List.getElem?_cons_zero, Option.some.injEq] at hc
          subst hc
          simp only [List.filter_cons, hp, if_true, List.length_cons, Nat.add_eq_right,
            List.length_eq_zero_iff] at hone
          simpa using hone
      | succ i =>
          simp only [List.getElem?_cons_succ] at hc
          by_cases ha : p a = true
          · -- `a` and `c` would both pass
            have hmem : c ∈ l.filter p := List.mem_filter.2 ⟨List.mem_of_getElem? hc, hp⟩
            simp only [List.filter_cons, ha, if_true, List.length_cons, Nat.add_eq_right,
              List.length_eq_zero_iff] at hone
            simp [hone] at hmem
          · simp only [List.filter_cons, ha] at hone
            simp only [List.eraseIdx_cons_succ, List.filter_cons, ha]
            exact ih hc hone

end eraseIdx

namespace World

section settle

variable (w : World) (origin : Nat) (began reset : Bool) (r : Next × Session) (o : Nat)

@[simp] theorem settle_snapshot : (w.settle origin began reset r).snapshot = r.2.store.value := by
  simp [snapshot]

theorem settle_made : (w.settle origin began reset r).made = w.made ++ r.1.asked.map (origin, ·) := by
  obtain ⟨next, s⟩ := r
  cases next <;> simp [settle, Next.asked]

theorem mem_settle_calls {c : Call} :
    c ∈ (w.settle origin began reset r).calls ↔
      c ∈ w.calls ∨ ∃ req k, r.1 = .ask req k ∧ c = ⟨origin, w.clock, req, k⟩ := by
  obtain ⟨next, s⟩ := r
  cases next <;> simp [settle_calls, and_assoc]

/-- The calls of the work begun at `o`, after a stretch of work from `origin`. -/
theorem settle_calls_from :
    ((w.settle origin began reset r).calls.filter (·.origin == o)).map Call.req =
      (w.calls.filter (·.origin == o)).map Call.req ++ if origin = o then r.1.asked else [] := by
  obtain ⟨next, s⟩ := r
  cases next with
  | ask req k =>
      by_cases ho : origin = o
      · simp [settle_calls, Next.asked, ho]
      · simp [settle_calls, ho]
  | _ => simp [settle_calls, Next.asked]

theorem settle_made_from :
    ((w.settle origin began reset r).made.filter (·.1 == o)).map Prod.snd =
      (w.made.filter (·.1 == o)).map Prod.snd ++ if origin = o then r.1.asked else [] := by
  obtain ⟨next, s⟩ := r
  cases next with
  | ask req k =>
      by_cases ho : origin = o
      · simp [settle_made, Next.asked, ho]
      · simp [settle_made, Next.asked, ho]
  | _ => simp [settle_made, Next.asked]

end settle

/-- Answering a call that neither begins a refresh nor resets the session goes on
from the call's origin. -/
theorem step_answer_plain {w : World} {i : Nat} {c : Call} (hc : w.calls[i]? = some c)
    {raw : Except Payload Value} (hbegin : c.k.beginsRefresh raw = false)
    (hreset : c.k.resets raw = false) :
    ∃ tw, w.step (.answer i raw) =
      ({ w with calls := w.calls.eraseIdx i, threadWrites := tw } : World).settle c.origin false false
        ((resume c.k raw).run w.session) := by
  rw [step_answer hc, hbegin, hreset]
  exact ⟨_, rfl⟩

/-- What holds of every world that refreshes alone reach from the session `s0`:
the settings and the user are those of `s0`, every waiting call is a refresh's,
and every call was made before now. -/
structure RefreshesOnly (s0 : Session) (w : World) : Prop where
  config : w.session.config = s0.config
  user : w.snapshot.user = s0.store.value.user
  refreshes : ∀ c ∈ w.calls, ∃ run, c.k.refreshRun? = some run
  made : ∀ m ∈ w.made, m.1 < w.clock

theorem refreshesOnly_init (s0 : Session) : (init s0).RefreshesOnly s0 where
  config := rfl
  user := rfl
  refreshes := by simp [init]
  made := by simp [init]

theorem RefreshesOnly.settle {s0 : Session} {w : World} (hw : w.RefreshesOnly s0) {origin : Nat}
    {began reset : Bool} {r : Next × Session} (hcfg : r.2.config = s0.config)
    (huser : r.2.store.value.user = s0.store.value.user)
    (hnext : ∀ req k, r.1 = .ask req k → ∃ run, k.refreshRun? = some run)
    (horigin : origin ≤ w.clock) : (w.settle origin began reset r).RefreshesOnly s0 where
  config := by
    rw [settle_session]
    exact hcfg
  user := by
    simp only [snapshot, settle_session]
    exact huser
  refreshes := by
    intro c hc
    rcases (mem_settle_calls w origin began reset r).1 hc with hc | ⟨req, k, hr, rfl⟩
    · exact hw.refreshes c hc
    · exact hnext req k hr
  made := by
    intro m hm
    rw [settle_made, List.mem_append] at hm
    rw [settle_clock]
    rcases hm with hm | hm
    · exact Nat.lt_succ_of_lt (hw.made m hm)
    · obtain ⟨req, -, rfl⟩ := List.mem_map.1 hm
      exact Nat.lt_succ_of_le horigin

theorem user_of_read {s t : PageState} (h : s.read .user = t.read .user) : s.user = t.user := by
  simpa [PageState.read] using h

theorem RefreshesOnly.step {s0 : Session} {w : World} (hw : w.RefreshesOnly s0) (hcoh : w.Coherent)
    {e : Event} (he : ∀ op, e = .start op → ∃ reaction, op = .refresh reaction) :
    (w.step e).RefreshesOnly s0 := by
  cases e with
  | start op =>
      obtain ⟨reaction, rfl⟩ := he op rfl
      have hkeep : ((start (.refresh reaction)).run w.session).2.store.value.read .user =
          w.session.store.value.read .user := start_keeps (by simp [Operation.writes]) w.session
      have hcfg := (start_advances (.refresh reaction) w.session).config
      exact hw.settle (hcfg.trans hw.config) ((user_of_read hkeep).trans hw.user)
        (fun req k hk => (start_refreshing reaction w.session req k hk).2.1) (Nat.le_refl _)
  | answer i raw =>
      rcases hc : w.calls[i]? with _ | c
      · rw [step_answer_none hc]
        exact hw
      · have hcmem := List.mem_of_getElem? hc
        obtain ⟨run, hrun⟩ := hw.refreshes c hcmem
        have hk := hcoh.shaped c hcmem
        have hkeep : ((resume c.k raw).run w.session).2.store.value.read .user =
            w.session.store.value.read .user :=
          resume_keeps hk (fun h => Pending.user_not_mem_ahead c.k (Pending.writes_subset_ahead ⟨run, hrun⟩ h))
            (Pending.resets_of_refreshRun hrun raw) w.session
        obtain ⟨tw, heq⟩ := step_answer_plain hc (Pending.beginsRefresh_of_refreshRun hrun raw)
          (Pending.resets_of_refreshRun hrun raw)
        rw [heq]
        have hcfg := (resume_advances hk raw w.session).config
        have horigin : c.origin ≤ w.clock :=
          Nat.le_of_lt (hcoh.origin_lt hcmem)
        have hw' : RefreshesOnly s0 ({ w with calls := w.calls.eraseIdx i, threadWrites := tw } : World) :=
          ⟨hw.config, hw.user, fun d hd => hw.refreshes d (List.mem_of_mem_eraseIdx hd), hw.made⟩
        exact hw'.settle (hcfg.trans hw.config) ((user_of_read hkeep).trans hw.user)
          (fun req k h => ((resume_goesOn hk hrun raw w.session).refresh req k h).imp fun _ h => h.1) horigin

/-- The world follows the refresh begun at `o` as a refresh left alone from `s0`,
standing at `r` after the calls `calls`: the refresh begun at `o` is the newest,
it made those calls and waits on the call `r` waits on, at the same point, and
the snapshot fits `r`. -/
structure Follows (b : Backend) (s0 : Session) (reaction : Reaction) (w : World) (o : Nat)
    (calls : List Request) (r : Next × Session) : Prop where
  last : w.lastRefresh = some o
  alone : Alone b ((start (.refresh reaction)).run s0) calls r
  made : (w.made.filter (·.1 == o)).map Prod.snd = calls ++ r.1.asked
  waiting : (w.calls.filter (·.origin == o)).map Call.req = r.1.asked
  same : ∀ c ∈ w.calls, c.origin = o → ∃ k, r.1 = .ask c.req k ∧ c.k.Same k ∧ c.k.Current w.session
  fits : Fits b w.snapshot r

/-- No refresh has begun yet, or the world follows the newest one. -/
def Converges (b : Backend) (s0 : Session) (reaction : Reaction) (w : World) : Prop :=
  (w.lastRefresh = none ∧ w.calls = [] ∧ w.snapshot = s0.store.value) ∨
    ∃ o calls r, w.Follows b s0 reaction o calls r

section follow

variable {b : Backend} {s0 : Session} {reaction : Reaction} {w : World}

theorem filter_origin_clock_nil (hcoh : w.Coherent) : w.calls.filter (·.origin == w.clock) = [] := by
  apply List.filter_eq_nil_iff.2
  intro c hc
  have hlt := hcoh.origin_lt hc
  simp [Nat.ne_of_lt hlt]

theorem filter_made_clock_nil (hw : w.RefreshesOnly s0) : w.made.filter (·.1 == w.clock) = [] := by
  apply List.filter_eq_nil_iff.2
  intro m hm
  simp [Nat.ne_of_lt (hw.made m hm)]

/-- A refresh started in a world that refreshes alone reach is followed from the
start of a refresh left alone from `s0`. -/
theorem follows_start (hw : w.RefreshesOnly s0) (hcoh : w.Coherent)
    (hconv : w.Converges b s0 reaction) (reaction' : Reaction) :
    (w.step (.start (.refresh reaction'))).Follows b s0 reaction w.clock []
      ((start (.refresh reaction)).run s0) := by
  obtain ⟨hnext, htrack⟩ := start_refresh_same reaction' reaction hw.config hw.user
  show (w.settle w.clock true false ((start (.refresh reaction')).run w.session)).Follows b s0
    reaction w.clock [] ((start (.refresh reaction)).run s0)
  refine ⟨by simp, .refl _, ?_, ?_, ?_, ?_⟩
  · rw [settle_made_from, if_pos rfl, hnext.asked_eq, filter_made_clock_nil hw]
    rfl
  · rw [settle_calls_from, if_pos rfl, hnext.asked_eq, filter_origin_clock_nil hcoh]
    rfl
  · intro c hc ho
    rcases (mem_settle_calls w _ _ _ _).1 hc with hc | ⟨req, k, hk, rfl⟩
    · have hnil := filter_origin_clock_nil hcoh
      rw [List.filter_eq_nil_iff] at hnil
      exact absurd (by simp [ho]) (hnil c hc)
    · rw [hk] at hnext
      obtain ⟨k', hk', hsame⟩ := hnext.ask_left
      rw [settle_session]
      exact ⟨k', hk', hsame, (start_refreshing reaction' w.session req k hk).2.2⟩
  · rw [settle_snapshot]
    rcases hconv with ⟨-, -, hsnap⟩ | ⟨o, calls, r, hf⟩
    · rw [show w.session.store.value = s0.store.value from hsnap] at htrack
      exact Fits.of_tracks htrack
    · exact (hf.fits.back (start_refreshing reaction s0) hf.alone).restart htrack

/-- The answer to the newest refresh's call moves the world as the refresh left
alone moves on the same answer. -/
theorem Follows.answer_newest {o : Nat} {calls : List Request} {next : Next} {s : Session}
    (hf : w.Follows b s0 reaction o calls (next, s)) (hw : w.RefreshesOnly s0) (hcoh : w.Coherent)
    {i : Nat} {c : Call} (hc : w.calls[i]? = some c) (ho : c.origin = o) :
    ∃ k, next = .ask c.req k ∧ (w.step (.answer i (b c.req))).Follows b s0 reaction o
      (calls ++ [c.req]) ((resume k (b c.req)).run s) := by
  have hcmem := List.mem_of_getElem? hc
  obtain ⟨k, hnextk, hsame, hcur⟩ := hf.same c hcmem ho
  refine ⟨k, hnextk, ?_⟩
  subst hnextk
  obtain ⟨run, hrun⟩ := hw.refreshes c hcmem
  have hkW := hcoh.shaped c hcmem
  have hrefr : Refreshing (.ask c.req k, s) := hf.alone.refreshing (start_refreshing reaction s0)
  obtain ⟨hkV, -, hcurV⟩ := hrefr c.req k rfl
  have hcfg : w.session.config = s.config :=
    hw.config.trans ((hf.alone.config_eq (start_refreshing reaction s0)).trans
      (start_advances (.refresh reaction) s0).config).symm
  -- what the stretch reads is not ahead of the refresh, so the world already has it
  have hreads : ∀ f ∈ c.k.reads, w.session.store.value.read f = s.store.value.read f := by
    intro f hfr
    rw [hsame.reads_eq] at hfr
    exact hf.fits.read_of_not_ahead hrefr (Pending.reads_not_ahead hkV hfr)
  obtain ⟨hnext, htrack⟩ := resume_same hsame hkW hcur hcurV hcfg hreads (b c.req)
  have hW : Refreshing (.ask c.req c.k, w.session) := by
    intro req k' h
    obtain ⟨-, rfl⟩ := Next.ask.inj h
    exact ⟨hkW, ⟨run, hrun⟩, hcur⟩
  have hone : (w.calls.filter (·.origin == o)).length = 1 := by
    simpa [Next.asked] using congrArg List.length hf.waiting
  have hrest : (w.calls.eraseIdx i).filter (·.origin == o) = [] :=
    filter_eraseIdx_of_single hc (by simp [ho]) hone
  obtain ⟨tw, heq⟩ := step_answer_plain hc (Pending.beginsRefresh_of_refreshRun hrun (b c.req))
    (Pending.resets_of_refreshRun hrun (b c.req))
  rw [heq]
  refine ⟨by simpa using hf.last, hf.alone.snoc, ?_, ?_, ?_, ?_⟩
  · rw [settle_made_from, if_pos ho, ← hnext.asked_eq]
    dsimp only
    rw [hf.made]
    simp [Next.asked]
  · rw [settle_calls_from, if_pos ho, ← hnext.asked_eq]
    dsimp only
    rw [hrest]
    rfl
  · intro d hd hdo
    rcases (mem_settle_calls _ _ _ _ _).1 hd with hd | ⟨req, k', hk', rfl⟩
    · have hnone := List.filter_eq_nil_iff.1 hrest d hd
      exact absurd (by simp [hdo]) hnone
    · rw [hk'] at hnext
      obtain ⟨k'', hk'', hsame'⟩ := hnext.ask_left
      rw [settle_session]
      exact ⟨k'', hk'', hsame', (resume_refreshing hW (b c.req) req k' hk').2.2⟩
  · rw [settle_snapshot]
    exact hf.fits.step htrack

/-- An answer to an older refresh leaves the world following the newest. -/
theorem Follows.answer_stale {o : Nat} {calls : List Request} {r : Next × Session}
    (hf : w.Follows b s0 reaction o calls r) (hw : w.RefreshesOnly s0) (hcoh : w.Coherent)
    {i : Nat} {c : Call} (hc : w.calls[i]? = some c) (ho : c.origin ≠ o)
    (raw : Except Payload Value) : (w.step (.answer i raw)).Follows b s0 reaction o calls r := by
  have hcmem := List.mem_of_getElem? hc
  obtain ⟨run, hrun⟩ := hw.refreshes c hcmem
  have hstale : ¬ w.RefreshNewest c.origin := fun h => ho (Option.some.inj (h.1.symm.trans hf.last))
  obtain ⟨hsession, -⟩ := hcoh.answer_stale_refresh hc hrun hstale raw
  obtain ⟨tw, heq⟩ := step_answer_plain hc (Pending.beginsRefresh_of_refreshRun hrun raw)
    (Pending.resets_of_refreshRun hrun raw)
  rw [heq] at hsession ⊢
  rw [settle_session] at hsession
  refine ⟨by simpa using hf.last, hf.alone, ?_, ?_, ?_, ?_⟩
  · rw [settle_made_from, if_neg ho, List.append_nil]
    exact hf.made
  · rw [settle_calls_from, if_neg ho, List.append_nil]
    dsimp only
    rw [filter_eraseIdx_of_false hc (by simp [ho])]
    exact hf.waiting
  · intro d hd hdo
    rcases (mem_settle_calls _ _ _ _ _).1 hd with hd | ⟨req, k', -, rfl⟩
    · rw [settle_session, hsession]
      exact hf.same d (List.mem_of_mem_eraseIdx hd) hdo
    · exact absurd hdo ho
  · rw [settle_snapshot, hsession]
    exact hf.fits

/-- Every event of a run of refreshes keeps the world following the newest
refresh. -/
theorem Converges.step (hconv : w.Converges b s0 reaction) (hw : w.RefreshesOnly s0)
    (hcoh : w.Coherent) {e : Event} (he : ∀ op, e = .start op → ∃ reaction', op = .refresh reaction')
    (hans : w.Answers b e) : (w.step e).Converges b s0 reaction := by
  cases e with
  | start op =>
      obtain ⟨reaction', rfl⟩ := he op rfl
      exact Or.inr ⟨_, _, _, follows_start hw hcoh hconv reaction'⟩
  | answer i raw =>
      rcases hc : w.calls[i]? with _ | c
      · rw [step_answer_none hc]
        exact hconv
      · rcases hconv with ⟨-, hcalls, -⟩ | ⟨o, calls, ⟨next, s⟩, hf⟩
        · simp [hcalls] at hc
        · by_cases ho : c.origin = o
          · rw [hans c hc]
            obtain ⟨k, -, hf'⟩ := hf.answer_newest hw hcoh hc ho
            exact Or.inr ⟨_, _, _, hf'⟩
          · exact Or.inr ⟨o, calls, _, hf.answer_stale hw hcoh hc ho raw⟩

/-- A run of refreshes keeps the world following the newest refresh. -/
theorem Converges.runAll (evs : List Event) (hconv : w.Converges b s0 reaction)
    (hw : w.RefreshesOnly s0) (hcoh : w.Coherent)
    (hrefresh : ∀ op, Event.start op ∈ evs → ∃ reaction', op = .refresh reaction')
    (hserved : Served b w evs) : (w.runAll evs).Converges b s0 reaction := by
  induction evs generalizing w with
  | nil => exact hconv
  | cons e evs ih =>
      obtain ⟨hans, hrest⟩ := hserved
      have he : ∀ op, e = .start op → ∃ reaction', op = .refresh reaction' := by
        rintro op rfl
        exact hrefresh op List.mem_cons_self
      exact ih (hconv.step hw hcoh he hans) (hw.step hcoh he) (hcoh.step e)
        (fun op hop => hrefresh op (List.mem_cons_of_mem e hop)) hrest

end follow

/-- Once a refresh has begun, some refresh is the newest. -/
theorem step_lastRefresh_isSome (w : World) (e : Event) (h : w.lastRefresh.isSome) :
    (w.step e).lastRefresh.isSome := by
  cases e with
  | start op =>
      show (w.settle _ _ _ _).lastRefresh.isSome
      rw [settle_lastRefresh]
      split
      · rfl
      · exact h
  | answer i raw =>
      rcases hc : w.calls[i]? with _ | c
      · rw [step_answer_none hc]
        exact h
      · rw [step_answer hc, settle_lastRefresh]
        split
        · rfl
        · exact h

theorem runAll_lastRefresh_isSome (w : World) (evs : List Event)
    (h : w.lastRefresh.isSome ∨ ∃ reaction, Event.start (.refresh reaction) ∈ evs) :
    (w.runAll evs).lastRefresh.isSome := by
  induction evs generalizing w with
  | nil =>
      rcases h with h | ⟨reaction, hmem⟩
      · exact h
      · simp at hmem
  | cons e evs ih =>
      apply ih
      rcases h with h | ⟨reaction, hmem⟩
      · exact Or.inl (step_lastRefresh_isSome w e h)
      · rcases List.mem_cons.1 hmem with rfl | hmem
        · left
          show (w.settle _ _ _ _).lastRefresh.isSome
          simp [Operation.beginsRefresh]
        · exact Or.inr ⟨reaction, hmem⟩

end World

/-- Refreshes converge to one refresh. In every run in which only refreshes are
started, at least one, and each answer is the backend's answer to the call it
answers, once no call waits: a refresh started from the same session and left
alone ends, and however it ends, the snapshot is the one it ends with and the
newest refresh made exactly the calls it makes. -/
theorem refreshes_converge (s0 : Session) (b : Backend) (reaction : Reaction) (evs : List Event)
    (hrefresh : ∀ op, Event.start op ∈ evs → ∃ reaction', op = .refresh reaction')
    (hstarted : ∃ reaction', Event.start (.refresh reaction') ∈ evs)
    (hserved : World.Served b (World.init s0) evs)
    (hquiet : ((World.init s0).runAll evs).calls = []) :
    (∃ calls r, Alone b ((start (.refresh reaction)).run s0) calls r ∧ r.1.asked = []) ∧
      ∀ calls r, Alone b ((start (.refresh reaction)).run s0) calls r → r.1.asked = [] →
        ((World.init s0).runAll evs).snapshot = r.2.store.value ∧
        ∃ o, ((World.init s0).runAll evs).lastRefresh = some o ∧
          (((World.init s0).runAll evs).made.filter (·.1 == o)).map Prod.snd = calls := by
  have hconv : ((World.init s0).runAll evs).Converges b s0 reaction :=
    World.Converges.runAll evs (Or.inl ⟨rfl, rfl, rfl⟩) (World.refreshesOnly_init s0)
      (World.coherent_init s0) hrefresh hserved
  rcases hconv with ⟨hnone, -, -⟩ | ⟨o, calls, r, hf⟩
  · have hsome := World.runAll_lastRefresh_isSome (World.init s0) evs (Or.inr hstarted)
    simp [hnone] at hsome
  · -- no call waits, so the refresh left alone waits on none: it has ended
    have hend : r.1.asked = [] := by
      rw [← hf.waiting, hquiet]
      rfl
    refine ⟨⟨calls, r, hf.alone, hend⟩, fun calls' r' halone hend' => ?_⟩
    obtain ⟨rfl, rfl⟩ := hf.alone.ended_unique halone hend hend'
    refine ⟨hf.fits.eq_of_ended hend, o, hf.last, ?_⟩
    simpa [hend] using hf.made

/-- Two refreshes started one after the other before either is answered, then
every call answered in turn. -/
def twoRefreshes : List Event :=
  [.start (.refresh .immediate), .start (.refresh .immediate), .answer 0 (.ok (.list [])),
    .answer 0 (.ok (.list [])), .answer 0 (.ok (.list []))]

theorem refreshes_converge_interleaved :
    (∀ op, Event.start op ∈ twoRefreshes → ∃ reaction', op = .refresh reaction') ∧
    (∃ reaction', Event.start (.refresh reaction') ∈ twoRefreshes) ∧
    World.Served emptyBackend (World.init default) twoRefreshes ∧
    ((World.init default).runAll twoRefreshes).calls = [] ∧
    (∃ calls r, Alone emptyBackend ((start (.refresh .immediate)).run default) calls r ∧
      r.1.asked = []) ∧
    ∀ calls r, Alone emptyBackend ((start (.refresh .immediate)).run default) calls r →
      r.1.asked = [] →
      ((World.init default).runAll twoRefreshes).snapshot = r.2.store.value ∧
      ∃ o, ((World.init default).runAll twoRefreshes).lastRefresh = some o ∧
        (((World.init default).runAll twoRefreshes).made.filter (·.1 == o)).map Prod.snd = calls := by
  have hrefresh : ∀ op, Event.start op ∈ twoRefreshes → ∃ reaction', op = .refresh reaction' := by
    intro op hop
    simp only [twoRefreshes, List.mem_cons, Event.start.injEq, reduceCtorEq, List.not_mem_nil,
      or_false] at hop
    rcases hop with rfl | rfl
    · exact ⟨_, rfl⟩
    · exact ⟨_, rfl⟩
  have hstarted : ∃ reaction', Event.start (.refresh reaction') ∈ twoRefreshes :=
    ⟨.immediate, List.mem_cons_self⟩
  have hserved : World.Served emptyBackend (World.init default) twoRefreshes :=
    ⟨trivial, trivial, fun _ _ => rfl, fun _ _ => rfl, fun _ _ => rfl, trivial⟩
  have hquiet : ((World.init default).runAll twoRefreshes).calls = [] := rfl
  exact ⟨hrefresh, hstarted, hserved, hquiet,
    refreshes_converge default emptyBackend .immediate twoRefreshes hrefresh hstarted hserved hquiet⟩

end ChatSession
