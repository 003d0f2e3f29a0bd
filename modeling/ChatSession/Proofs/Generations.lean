import Mathlib.Logic.Basic
import ChatSession.Proofs.Writes

/-!
Generation tokens against the history of a session.

A refresh is the newest while no later refresh has begun and the session has
not been reset since it began; a thread load is the newest while no later
thread load has been issued and the session has not been reset since. The
invariant `Coherent`, which holds of every world that events reach, says that a
call's token is current exactly while its work is the newest. From it: an
answer to a refresh that is no longer the newest changes nothing and starts no
step; an answer to a thread load that is no longer the newest changes nothing;
the loads that wrote the channel's posts wrote them in the order they were
issued; and the newest thread load's thread, once written, stays until a later
thread load is issued or the session is reset.
-/

namespace ChatSession

namespace World

/-- The refresh begun at `origin` is the newest, and the session has not been
reset since it began. -/
def RefreshNewest (w : World) (origin : Nat) : Prop :=
  w.lastRefresh = some origin ∧ ∀ r, w.lastReset = some r → r ≤ origin

/-- The thread load issued at `issued` is the newest, and the session has not
been reset since it was issued. -/
def ThreadNewest (w : World) (issued : Nat) : Prop :=
  w.lastThreadLoad = some issued ∧ ∀ r, w.lastReset = some r → r ≤ issued

/-- What the history and the session's counters say of each other in every
world that events can reach. -/
structure Coherent (w : World) : Prop where
  issued : ∀ c ∈ w.calls, c.origin ≤ c.issued ∧ c.issued < w.clock
  ordered : w.calls.Pairwise (fun a b => a.issued < b.issued)
  shaped : ∀ c ∈ w.calls, c.k.WellShaped
  lastReset : ∀ r, w.lastReset = some r → r < w.clock
  lastThreadLoad : ∀ i, w.lastThreadLoad = some i → i < w.clock
  refreshToken : ∀ c ∈ w.calls, ∀ run, c.k.refreshRun? = some run →
    run.token ≤ w.session.refreshGen ∧ (run.token = w.session.refreshGen ↔ w.RefreshNewest c.origin)
  threadToken : ∀ c ∈ w.calls, c.k.isThreadLoad = true → ∃ t, c.k.threadToken? = some t ∧
    t ≤ w.session.threadGen ∧ (t = w.session.threadGen ↔ w.ThreadNewest c.issued)
  writes : ∀ x ∈ w.threadWrites, x < w.clock ∧ (∀ i, w.lastThreadLoad = some i → x ≤ i) ∧
    ∀ c ∈ w.calls, c.issued ≠ x
  writesOrdered : w.threadWrites.Pairwise (· < ·)

theorem coherent_init (s : Session) : (init s).Coherent where
  issued := by simp [init]
  ordered := by simp [init]
  shaped := by simp [init]
  lastReset := by simp [init]
  lastThreadLoad := by simp [init]
  refreshToken := by simp [init]
  threadToken := by simp [init]
  writes := by simp [init]
  writesOrdered := by simp [init]

/-- A waiting call was started before the clock. -/
theorem Coherent.origin_lt {w : World} (hw : w.Coherent) {c : Call} (hc : c ∈ w.calls) :
    c.origin < w.clock :=
  Nat.lt_of_le_of_lt (hw.issued c hc).1 (hw.issued c hc).2

section settle

variable (w : World) (origin : Nat) (began reset : Bool) (r : Next × Session)

@[simp] theorem settle_session : (w.settle origin began reset r).session = r.2 := by
  obtain ⟨next, s⟩ := r
  cases next <;> rfl

@[simp] theorem settle_clock : (w.settle origin began reset r).clock = w.clock + 1 := by
  obtain ⟨next, s⟩ := r
  cases next <;> rfl

@[simp] theorem settle_lastRefresh : (w.settle origin began reset r).lastRefresh =
    if began then some w.clock else w.lastRefresh := by
  obtain ⟨next, s⟩ := r
  cases next <;> rfl

@[simp] theorem settle_lastReset : (w.settle origin began reset r).lastReset =
    if reset then some w.clock else w.lastReset := by
  obtain ⟨next, s⟩ := r
  cases next <;> rfl

@[simp] theorem settle_lastThreadLoad : (w.settle origin began reset r).lastThreadLoad =
    if r.1.asksThreadLoad then some w.clock else w.lastThreadLoad := by
  obtain ⟨next, s⟩ := r
  cases next with
  | ask req k =>
      simp only [settle, Next.asksThreadLoad]
      split <;> simp_all
  | _ => rfl

@[simp] theorem settle_threadWrites :
    (w.settle origin began reset r).threadWrites = w.threadWrites := by
  obtain ⟨next, s⟩ := r
  cases next <;> rfl

theorem settle_calls : (w.settle origin began reset r).calls =
    w.calls ++ match r.1 with
      | .ask req k => [⟨origin, w.clock, req, k⟩]
      | _ => [] := by
  obtain ⟨next, s⟩ := r
  cases next <;> simp [settle]

/-- Settling a stretch takes the newest place from an older refresh exactly
when a refresh begins or the session is reset. -/
theorem refreshNewest_settle {o : Nat} (ho : o < w.clock) :
    (w.settle origin began reset r).RefreshNewest o ↔
      began = false ∧ reset = false ∧ w.RefreshNewest o := by
  cases began <;> cases reset <;>
    simp [RefreshNewest, Nat.ne_of_gt ho, Nat.not_le_of_gt ho]

theorem refreshNewest_settle_began (hw : ∀ r, w.lastReset = some r → r < w.clock)
    (hbegan : began = true) : (w.settle origin began reset r).RefreshNewest w.clock := by
  subst hbegan
  refine ⟨by simp, fun r hr => ?_⟩
  cases reset
  · exact Nat.le_of_lt (hw r (by simpa using hr))
  · simp at hr
    omega

/-- Settling a stretch takes the newest place from an older thread load exactly
when the stretch issues a thread load or resets the session. -/
theorem threadNewest_settle {i : Nat} (hi : i < w.clock) :
    (w.settle origin began reset r).ThreadNewest i ↔
      r.1.asksThreadLoad = false ∧ reset = false ∧ w.ThreadNewest i := by
  cases h : r.1.asksThreadLoad <;> cases reset <;>
    simp [ThreadNewest, h, Nat.ne_of_gt hi, Nat.not_le_of_gt hi]

theorem threadNewest_settle_asks (hw : ∀ r, w.lastReset = some r → r < w.clock)
    (hasks : r.1.asksThreadLoad = true) :
    (w.settle origin began reset r).ThreadNewest w.clock := by
  refine ⟨by simp [hasks], fun r hr => ?_⟩
  cases reset
  · exact Nat.le_of_lt (hw r (by simpa using hr))
  · simp at hr
    omega

end settle

/-- Settling a stretch keeps the world coherent, given what the stretch did to
the counters and, for a refresh that goes on, what held of it before. -/
theorem Coherent.settle {w : World} (hw : w.Coherent) {origin : Nat} {began reset : Bool}
    {parent : Option RefreshRun} {r : Next × Session}
    (hadv : Advances w.session began reset parent r) (horigin : origin ≤ w.clock)
    (hbegan : began = true → origin = w.clock)
    (hparent : ∀ p, parent = some p → origin < w.clock ∧ p.token ≤ w.session.refreshGen ∧
      (p.token = w.session.refreshGen ↔ w.RefreshNewest origin)) :
    (w.settle origin began reset r).Coherent := by
  obtain ⟨next, s⟩ := r
  have hgen : s.refreshGen = w.session.refreshGen + (if began then 1 else 0) +
      (if reset then 1 else 0) := hadv.refreshGen
  have htg : s.threadGen = w.session.threadGen + (if reset then 1 else 0) +
      (if next.asksThreadLoad then 1 else 0) := hadv.threadGen
  -- a call after the stretch waited before it, or is the one the stretch ends with
  have hmem : ∀ c ∈ (w.settle origin began reset (next, s)).calls, c ∈ w.calls ∨
      ∃ req k, next = .ask req k ∧ c = ⟨origin, w.clock, req, k⟩ := by
    intro c hc
    rw [settle_calls, List.mem_append] at hc
    rcases hc with hc | hc
    · exact Or.inl hc
    · cases next with
      | ask req k =>
          simp at hc
          exact Or.inr ⟨_, _, rfl, hc⟩
      | _ => simp at hc
  refine ⟨?_, ?_, ?_, ?_, ?_, ?_, ?_, ?_, ?_⟩
  · intro c hc
    rcases hmem c hc with hc | ⟨req, k, -, rfl⟩
    · have := hw.issued c hc
      simp only [settle_clock]
      omega
    · simp only [settle_clock]
      omega
  · rw [settle_calls, List.pairwise_append]
    cases next with
    | ask req k =>
        refine ⟨hw.ordered, by simp, ?_⟩
        intro a ha b hb
        simp at hb
        subst hb
        exact (hw.issued a ha).2
    | _ => simpa using hw.ordered
  · intro c hc
    rcases hmem c hc with hc | ⟨req, k, rfl, rfl⟩
    · exact hw.shaped c hc
    · exact hadv.shaped req k rfl
  · intro r hr
    simp only [settle_lastReset, settle_clock] at hr ⊢
    split at hr
    · simp at hr
      omega
    · have := hw.lastReset r hr
      omega
  · intro i hi
    simp only [settle_lastThreadLoad, settle_clock] at hi ⊢
    split at hi
    · simp at hi
      omega
    · have := hw.lastThreadLoad i hi
      omega
  · intro c hc run hrun
    simp only [settle_session]
    rcases hmem c hc with hc | ⟨req, k, rfl, rfl⟩
    · obtain ⟨hle, hiff⟩ := hw.refreshToken c hc run hrun
      have hco : c.origin < w.clock := by
        have := hw.issued c hc
        omega
      rw [refreshNewest_settle w origin began reset _ hco]
      -- unless nothing began and nothing was reset, the counter passed the token
      cases began with
      | false =>
          cases reset with
          | false => simpa [hgen] using ⟨hle, hiff⟩
          | true =>
              simp [hgen]
              omega
      | true =>
          cases reset with
          | false =>
              simp [hgen]
              omega
          | true =>
              simp [hgen]
              omega
    · rcases hadv.refresh req k run rfl hrun with ⟨rfl, htoken⟩ | ⟨rfl, p, rfl, htoken⟩
      · rw [hbegan rfl]
        exact ⟨Nat.le_of_eq htoken, iff_of_true htoken (refreshNewest_settle_began w w.clock true reset _
          hw.lastReset rfl)⟩
      · obtain ⟨hlt, hle, hiff⟩ := hparent p rfl
        rw [htoken, refreshNewest_settle w origin false reset _ hlt]
        cases reset
        · simpa [hgen] using ⟨hle, hiff⟩
        · simp [hgen]
          omega
  · intro c hc hthr
    simp only [settle_session]
    rcases hmem c hc with hc | ⟨req, k, rfl, rfl⟩
    · obtain ⟨t, ht, hle, hiff⟩ := hw.threadToken c hc hthr
      refine ⟨t, ht, ?_⟩
      rw [threadNewest_settle w origin began reset _ (hw.issued c hc).2]
      cases hasks : next.asksThreadLoad with
      | false =>
          cases reset with
          | false => simpa [htg, hasks] using ⟨hle, hiff⟩
          | true =>
              simp [htg, hasks]
              omega
      | true =>
          cases reset with
          | false =>
              simp [htg, hasks]
              omega
          | true =>
              simp [htg, hasks]
              omega
    · have hasks : (Next.ask req k).asksThreadLoad = true := hthr
      exact ⟨s.threadGen, hadv.thread req k rfl hthr, Nat.le_refl _,
        iff_of_true rfl (threadNewest_settle_asks w origin began reset _ hw.lastReset hasks)⟩
  · intro x hx
    simp only [settle_threadWrites] at hx
    obtain ⟨hxc, hxi, hxcalls⟩ := hw.writes x hx
    refine ⟨by simp only [settle_clock]; omega, fun i hi => ?_, fun c hc => ?_⟩
    · simp only [settle_lastThreadLoad] at hi
      split at hi
      · simp at hi
        omega
      · exact hxi i hi
    · rcases hmem c hc with hc | ⟨req, k, -, rfl⟩
      · exact hxcalls c hc
      · exact Nat.ne_of_gt hxc
  · simpa using hw.writesOrdered

/-- Calls are issued one at a time, so the call at one index is issued at
another time than every call left once it is taken out. -/
theorem issued_ne_of_mem_eraseIdx {calls : List Call}
    (hord : calls.Pairwise (fun a b => a.issued < b.issued)) {i : Nat} {c : Call}
    (hc : calls[i]? = some c) {d : Call} (hd : d ∈ calls.eraseIdx i) : d.issued ≠ c.issued := by
  induction calls generalizing i with
  | nil => simp at hc
  | cons a l ih =>
      rw [List.pairwise_cons] at hord
      cases i with
      | zero =>
          simp only [List.getElem?_cons_zero, Option.some.injEq] at hc
          subst hc
          simp only [List.eraseIdx_cons_zero] at hd
          exact Nat.ne_of_gt (hord.1 d hd)
      | succ i =>
          simp only [List.getElem?_cons_succ] at hc
          simp only [List.eraseIdx_cons_succ, List.mem_cons] at hd
          rcases hd with rfl | hd
          · exact Nat.ne_of_lt (hord.1 c (List.mem_of_getElem? hc))
          · exact ih hord.2 hc hd

/-- Taking a call out when its answer comes, and recording whether it wrote the
channel's posts, keeps the world coherent; a thread load writes only as the newest. -/
theorem Coherent.answered {w : World} (hw : w.Coherent) {i : Nat} {c : Call}
    (hc : w.calls[i]? = some c) (wrote : Bool) (hwrote : wrote = true → w.ThreadNewest c.issued) :
    ({ w with
        calls := w.calls.eraseIdx i
        threadWrites := if wrote then w.threadWrites ++ [c.issued] else w.threadWrites } : World).Coherent := by
  have hsub : ∀ d ∈ w.calls.eraseIdx i, d ∈ w.calls := fun d hd => List.mem_of_mem_eraseIdx hd
  have hcmem : c ∈ w.calls := List.mem_of_getElem? hc
  refine ⟨fun d hd => hw.issued d (hsub d hd), hw.ordered.sublist (List.eraseIdx_sublist _ _),
    fun d hd => hw.shaped d (hsub d hd), hw.lastReset, hw.lastThreadLoad,
    fun d hd => hw.refreshToken d (hsub d hd), fun d hd => hw.threadToken d (hsub d hd), ?_, ?_⟩
  · intro x hx
    cases wrote
    · obtain ⟨hxc, hxi, hxcalls⟩ := hw.writes x hx
      exact ⟨hxc, hxi, fun d hd => hxcalls d (hsub d hd)⟩
    · simp only [if_true, List.mem_append, List.mem_singleton] at hx
      rcases hx with hx | rfl
      · obtain ⟨hxc, hxi, hxcalls⟩ := hw.writes x hx
        exact ⟨hxc, hxi, fun d hd => hxcalls d (hsub d hd)⟩
      · obtain ⟨hlast, -⟩ := hwrote rfl
        refine ⟨(hw.issued c hcmem).2, fun i hi => ?_, fun d hd =>
          issued_ne_of_mem_eraseIdx hw.ordered hc hd⟩
        rw [hlast, Option.some.injEq] at hi
        exact Nat.le_of_eq hi
  · cases wrote
    · exact hw.writesOrdered
    · obtain ⟨hlast, -⟩ := hwrote rfl
      simp only [if_true]
      refine List.pairwise_append.2 ⟨hw.writesOrdered, by simp, fun x hx y hy => ?_⟩
      simp only [List.mem_singleton] at hy
      subst hy
      obtain ⟨-, hxi, hxcalls⟩ := hw.writes x hx
      have hle := hxi c.issued hlast
      have hne := hxcalls c hcmem
      omega

/-- A thread load whose answer wrote was the newest when it was answered. -/
theorem Coherent.threadNewest_of_writes {w : World} (hw : w.Coherent) {c : Call}
    (hc : c ∈ w.calls) (raw : Except Payload Value)
    (hwrote : (c.k.isThreadLoad && ((Orchestrator.resume c.k raw).run w.session).2.store.published !=
      w.session.store.published) = true) : w.ThreadNewest c.issued := by
  simp only [Bool.and_eq_true, bne_iff_ne, ne_eq] at hwrote
  obtain ⟨hthr, hchanged⟩ := hwrote
  obtain ⟨t, ht, -, hiff⟩ := hw.threadToken c hc hthr
  by_cases hcur : w.session.threadGen = t
  · exact hiff.1 hcur.symm
  · rw [resume_stale_thread (hw.shaped c hc) ht hthr hcur raw] at hchanged
    exact absurd rfl hchanged

theorem Pending.refreshRun_of_beginsRefresh {k : Pending} {raw : Except Payload Value}
    (h : k.beginsRefresh raw = true) : k.refreshRun? = none := by
  cases k <;> simp_all [Pending.beginsRefresh, Pending.refreshRun?]

theorem step_answer_none {w : World} {i : Nat} (hc : w.calls[i]? = none)
    (raw : Except Payload Value) : w.step (.answer i raw) = w := by
  simp [World.step, hc]

/-- Answering the waiting call `c`. -/
theorem step_answer {w : World} {i : Nat} {c : Call} (hc : w.calls[i]? = some c)
    (raw : Except Payload Value) :
    w.step (.answer i raw) =
      ({ w with
          calls := w.calls.eraseIdx i
          threadWrites :=
            if (c.k.isThreadLoad && ((Orchestrator.resume c.k raw).run w.session).2.store.published !=
                w.session.store.published) then w.threadWrites ++ [c.issued]
            else w.threadWrites } : World).settle
        (if c.k.beginsRefresh raw then w.clock else c.origin) (c.k.beginsRefresh raw)
        (c.k.resets raw) ((Orchestrator.resume c.k raw).run w.session) := by
  simp [World.step, hc]

/-- Every event keeps the world coherent. -/
theorem Coherent.step {w : World} (hw : w.Coherent) (e : Event) : (w.step e).Coherent := by
  cases e with
  | start op =>
      have hadv := start_advances op w.session
      show (w.settle w.clock op.beginsRefresh false ((Orchestrator.start op).run w.session)).Coherent
      exact hw.settle hadv (Nat.le_refl _) (fun _ => rfl) (by simp)
  | answer i raw =>
      rcases hc : w.calls[i]? with _ | c
      · rw [step_answer_none hc]
        exact hw
      rw [step_answer hc]
      have hcmem : c ∈ w.calls := List.mem_of_getElem? hc
      have hw' := hw.answered hc _ (hw.threadNewest_of_writes hcmem raw)
      have hadv := resume_advances (hw.shaped c hcmem) raw w.session
      refine hw'.settle hadv ?_ ?_ ?_
      · split
        · exact Nat.le_refl _
        · exact Nat.le_of_lt (hw.origin_lt hcmem)
      · intro hbegan
        simp [hbegan]
      · intro p hp
        have hbegan : c.k.beginsRefresh raw = false := by
          cases h : c.k.beginsRefresh raw
          · rfl
          · simp [Pending.refreshRun_of_beginsRefresh h] at hp
        obtain ⟨hle, hiff⟩ := hw.refreshToken c hcmem p hp
        simp only [hbegan]
        exact ⟨hw.origin_lt hcmem, hle, hiff⟩

/-- Every world that events reach from a fresh session is coherent. -/
theorem coherent_runAll (s : Session) (evs : List Event) : ((init s).runAll evs).Coherent := by
  suffices h : ∀ w : World, w.Coherent → (w.runAll evs).Coherent from h _ (coherent_init s)
  induction evs with
  | nil => exact fun w hw => hw
  | cons e evs ih => exact fun w hw => ih _ (hw.step e)

/-! ### The history only moves forward -/

/-- An event moves the clock on, and leaves the newest thread load and the last
reset as they were or makes them the event itself. -/
theorem step_history (w : World) (e : Event) :
    w.clock ≤ (w.step e).clock ∧
    ((w.step e).lastThreadLoad = w.lastThreadLoad ∨ (w.step e).lastThreadLoad = some w.clock) ∧
    ((w.step e).lastReset = w.lastReset ∨ (w.step e).lastReset = some w.clock) := by
  cases e with
  | start op =>
      simp only [World.step, settle_clock, settle_lastThreadLoad, settle_lastReset]
      exact ⟨Nat.le_succ _, (ite_eq_or_eq _ _ _).symm, (ite_eq_or_eq _ _ _).symm⟩
  | answer i raw =>
      rcases hc : w.calls[i]? with _ | c
      · rw [step_answer_none hc]
        exact ⟨Nat.le_refl _, Or.inl rfl, Or.inl rfl⟩
      · rw [step_answer hc, settle_clock, settle_lastThreadLoad, settle_lastReset]
        exact ⟨Nat.le_succ _, (ite_eq_or_eq _ _ _).symm, (ite_eq_or_eq _ _ _).symm⟩

/-- A mark moved by an event, then by a run after it, was moved no earlier
than the event. -/
theorem mark_trans {old mid fin : Option Nat} {clock clock' : Nat}
    (hmid : mid = old ∨ mid = some clock) (hfin : fin = mid ∨ ∃ t, clock' ≤ t ∧ fin = some t)
    (hclock : clock ≤ clock') : fin = old ∨ ∃ t, clock ≤ t ∧ fin = some t := by
  rcases hfin with hfin | ⟨t, ht, hfin⟩
  · rcases hmid with hmid | hmid
    · exact Or.inl (hfin.trans hmid)
    · exact Or.inr ⟨clock, Nat.le_refl _, hfin.trans hmid⟩
  · exact Or.inr ⟨t, Nat.le_trans hclock ht, hfin⟩

/-- Over a run, the newest thread load and the last reset stay as they were or
move to an event of the run. -/
theorem runAll_history (w : World) (evs : List Event) :
    w.clock ≤ (w.runAll evs).clock ∧
    ((w.runAll evs).lastThreadLoad = w.lastThreadLoad ∨
      ∃ t, w.clock ≤ t ∧ (w.runAll evs).lastThreadLoad = some t) ∧
    ((w.runAll evs).lastReset = w.lastReset ∨
      ∃ t, w.clock ≤ t ∧ (w.runAll evs).lastReset = some t) := by
  induction evs generalizing w with
  | nil => simp
  | cons e evs ih =>
      obtain ⟨hc, hl, hr⟩ := step_history w e
      obtain ⟨hc', hl', hr'⟩ := ih (w.step e)
      exact ⟨Nat.le_trans hc hc', mark_trans hl hl' hc, mark_trans hr hr' hc⟩

/-- A mark of the history that an event left where it was or moved to the
event's time, and that a run then brings back, was left where it was: a moved
mark is at least the clock, and the marks before were all earlier. -/
theorem mark_stays {old mid fin : Option Nat} {clock clock' : Nat}
    (hold : ∀ i, old = some i → i < clock) (hmid : mid = old ∨ mid = some clock)
    (hfin : fin = mid ∨ ∃ t, clock' ≤ t ∧ fin = some t) (hclock : clock ≤ clock')
    (hback : fin = old) : mid = old := by
  rcases hmid with hmid | hmid
  · exact hmid
  · exfalso
    obtain ⟨t, ht, hend⟩ : ∃ t, clock ≤ t ∧ fin = some t := by
      rcases hfin with hfin | ⟨t, ht, hfin⟩
      · exact ⟨clock, Nat.le_refl _, hfin.trans hmid⟩
      · exact ⟨t, Nat.le_trans hclock ht, hfin⟩
    have := hold t (hback ▸ hend)
    omega

/-- If a run ends with the newest thread load and the last reset where they
were, its first event moved neither. -/
theorem Coherent.step_history_of_runAll {w : World} (hw : w.Coherent) (e : Event)
    (evs : List Event) (hl : (w.runAll (e :: evs)).lastThreadLoad = w.lastThreadLoad)
    (hr : (w.runAll (e :: evs)).lastReset = w.lastReset) :
    (w.step e).lastThreadLoad = w.lastThreadLoad ∧ (w.step e).lastReset = w.lastReset := by
  obtain ⟨hc1, hl1, hr1⟩ := step_history w e
  obtain ⟨hc2, hl2, hr2⟩ := runAll_history (w.step e) evs
  exact ⟨mark_stays hw.lastThreadLoad hl1 hl2 hc1 hl, mark_stays hw.lastReset hr1 hr2 hc1 hr⟩

/-! ### Stale answers -/

/-- The answer to a call of a refresh that is no longer the newest changes
nothing, and the only call it can make is the next page of the directory that
call was reading. -/
theorem Coherent.answer_stale_refresh {w : World} (hw : w.Coherent) {i : Nat} {c : Call}
    (hc : w.calls[i]? = some c) {run : RefreshRun} (hrun : c.k.refreshRun? = some run)
    (hstale : ¬ w.RefreshNewest c.origin) (raw : Except Payload Value) :
    (w.step (.answer i raw)).session = w.session ∧
      ∀ d ∈ (w.step (.answer i raw)).calls, d ∈ w.calls ∨
        ∃ n dir use dir', c.k = .page n dir use ∧ d.k = .page (n + 1) dir' use := by
  have hcmem : c ∈ w.calls := List.mem_of_getElem? hc
  have htoken : w.session.refreshGen ≠ run.token :=
    fun h => hstale ((hw.refreshToken c hcmem run hrun).2.1 h.symm)
  obtain ⟨hsession, hask⟩ := resume_stale_refresh (hw.shaped c hcmem) hrun htoken raw
  rw [step_answer hc, settle_session, settle_calls]
  refine ⟨hsession, fun d hd => ?_⟩
  rw [List.mem_append] at hd
  rcases hd with hd | hd
  · exact Or.inl (List.mem_of_mem_eraseIdx hd)
  · revert hd
    cases hnext : ((Orchestrator.resume c.k raw).run w.session).1 with
    | ask req k' =>
        intro hd
        simp only [List.mem_singleton] at hd
        subst hd
        exact Or.inr (hask req k' hnext)
    | _ => simp

/-- The answer to a thread load that is no longer the newest changes nothing. -/
theorem Coherent.answer_stale_thread {w : World} (hw : w.Coherent) {i : Nat} {c : Call}
    (hc : w.calls[i]? = some c) (hthr : c.k.isThreadLoad = true)
    (hstale : ¬ w.ThreadNewest c.issued) (raw : Except Payload Value) :
    (w.step (.answer i raw)).session = w.session := by
  have hcmem : c ∈ w.calls := List.mem_of_getElem? hc
  obtain ⟨t, ht, -, hiff⟩ := hw.threadToken c hcmem hthr
  have htoken : w.session.threadGen ≠ t := fun h => hstale (hiff.1 h.symm)
  rw [step_answer hc, settle_session]
  exact resume_stale_thread (hw.shaped c hcmem) ht hthr htoken raw

/-! ### The newest thread load's answer stays -/

/-- No thread load that waits for its answer is the newest: the newest one has
been answered. -/
def NewestAnswered (w : World) : Prop :=
  ∀ d ∈ w.calls, d.k.isThreadLoad = true → ¬ w.ThreadNewest d.issued

theorem newestAnswered_settle {w : World} (hw : ∀ d ∈ w.calls, d.issued < w.clock)
    (hn : w.NewestAnswered) {origin : Nat} {began reset : Bool} {r : Next × Session}
    (hasks : r.1.asksThreadLoad = false) : (w.settle origin began reset r).NewestAnswered := by
  intro d hd hthr
  rw [settle_calls, List.mem_append] at hd
  rcases hd with hd | hd
  · rw [threadNewest_settle w origin began reset r (hw d hd)]
    exact fun h => hn d hd hthr h.2.2
  · -- the call the stretch ends with is no thread load
    obtain ⟨next, s⟩ := r
    cases next with
    | ask req k =>
        simp at hd
        subst hd
        simp [Next.asksThreadLoad, hthr] at hasks
    | _ => simp at hd

/-- A settled stretch that leaves a mark of the history where it was did not set it. -/
theorem flags_of_marks {w : World} {origin : Nat} {began reset : Bool} {r : Next × Session}
    (hl : (w.settle origin began reset r).lastThreadLoad = w.lastThreadLoad)
    (hr : (w.settle origin began reset r).lastReset = w.lastReset)
    (hlt : ∀ i, w.lastThreadLoad = some i → i < w.clock)
    (hlr : ∀ i, w.lastReset = some i → i < w.clock) :
    r.1.asksThreadLoad = false ∧ reset = false := by
  rw [settle_lastThreadLoad] at hl
  rw [settle_lastReset] at hr
  constructor
  · cases h : r.1.asksThreadLoad
    · rfl
    · simp only [h, if_true] at hl
      have := hlt w.clock hl.symm
      omega
  · cases reset
    · rfl
    · simp only [if_true] at hr
      have := hlr w.clock hr.symm
      omega

theorem read_channelPosts_eq {s t : PageState}
    (h : s.read .channelPosts = t.read .channelPosts) : s.channelPosts = t.channelPosts := by
  simpa [PageState.read] using h

/-- Once the newest thread load has been answered, an event that issues no
thread load and resets nothing keeps the channel's posts, and the newest thread
load stays answered. -/
theorem Coherent.posts_step {w : World} (hw : w.Coherent) (hn : w.NewestAnswered) (e : Event)
    (hl : (w.step e).lastThreadLoad = w.lastThreadLoad) (hr : (w.step e).lastReset = w.lastReset) :
    (w.step e).snapshot.channelPosts = w.snapshot.channelPosts ∧ (w.step e).NewestAnswered := by
  have hissued : ∀ d ∈ w.calls, d.issued < w.clock := fun d hd => (hw.issued d hd).2
  cases e with
  | start op =>
      simp only [World.step] at hl hr ⊢
      obtain ⟨hasks, -⟩ := flags_of_marks hl hr hw.lastThreadLoad hw.lastReset
      refine ⟨?_, newestAnswered_settle hissued hn hasks⟩
      simp only [snapshot, settle_session]
      exact read_channelPosts_eq (start_keeps (Operation.channelPosts_not_mem_writes op) w.session)
  | answer i raw =>
      rcases hc : w.calls[i]? with _ | c
      · rw [step_answer_none hc]
        exact ⟨rfl, hn⟩
      have hcmem : c ∈ w.calls := List.mem_of_getElem? hc
      have hposts : (w.step (.answer i raw)).snapshot.channelPosts = w.snapshot.channelPosts := by
        cases hthr : c.k.isThreadLoad
        · rw [step_answer hc] at hl hr ⊢
          obtain ⟨-, hreset⟩ := flags_of_marks hl hr hw.lastThreadLoad hw.lastReset
          simp only [snapshot, settle_session]
          exact read_channelPosts_eq (resume_keeps (hw.shaped c hcmem)
            (Pending.channelPosts_not_mem_writes hthr) hreset w.session)
        · simp only [snapshot, hw.answer_stale_thread hc hthr (hn c hcmem hthr) raw]
      rw [step_answer hc] at hl hr hposts ⊢
      obtain ⟨hasks, -⟩ := flags_of_marks hl hr hw.lastThreadLoad hw.lastReset
      refine ⟨hposts, newestAnswered_settle ?_ ?_ hasks⟩
      · intro d hd
        exact hissued d (List.mem_of_mem_eraseIdx hd)
      · intro d hd
        exact hn d (List.mem_of_mem_eraseIdx hd)

/-- Once the newest thread load has been answered, the channel's posts stay as
they are through every run that issues no thread load and resets nothing. -/
theorem Coherent.posts_stay {w : World} (hw : w.Coherent) (hn : w.NewestAnswered)
    (evs : List Event) (hl : (w.runAll evs).lastThreadLoad = w.lastThreadLoad)
    (hr : (w.runAll evs).lastReset = w.lastReset) :
    (w.runAll evs).snapshot.channelPosts = w.snapshot.channelPosts := by
  induction evs generalizing w with
  | nil => rfl
  | cons e evs ih =>
      obtain ⟨hl1, hr1⟩ := hw.step_history_of_runAll e evs hl hr
      obtain ⟨hp, hn'⟩ := hw.posts_step hn e hl1 hr1
      simp only [runAll_cons] at hl hr ⊢
      rw [ih (hw.step e) hn' (hl.trans hl1.symm) (hr.trans hr1.symm), hp]


/-- The answer to the newest thread load, whose refresh (for the unread step) is
still the newest, writes the thread it reads as the channel's posts, tagged with
the user directory of that moment; and then no newest thread load waits. -/
theorem Coherent.answer_newest_thread {w : World} (hw : w.Coherent) {i : Nat} {c : Call}
    (hc : w.calls[i]? = some c) (hthr : c.k.isThreadLoad = true) (hnew : w.ThreadNewest c.issued)
    (hrefresh : ∀ run, c.k.refreshRun? = some run → w.RefreshNewest c.origin)
    {raw : Except Payload Value} {t : PostThread} (ht : ReadsAsThread raw t) :
    (w.step (.answer i raw)).snapshot.channelPosts =
        some (Thread.tagSystemPosts w.snapshot.users t) ∧
      (w.step (.answer i raw)).NewestAnswered := by
  have hcmem : c ∈ w.calls := List.mem_of_getElem? hc
  obtain ⟨tok, htok, -, hiff⟩ := hw.threadToken c hcmem hthr
  have hcur : tok = w.session.threadGen := hiff.2 hnew
  subst hcur
  have hrun : ∀ run, c.k.refreshRun? = some run → w.session.refreshGen = run.token :=
    fun run hr => ((hw.refreshToken c hcmem run hr).2.2 (hrefresh run hr)).symm
  rw [step_answer hc]
  refine ⟨by simpa [snapshot] using resume_thread_write (hw.shaped c hcmem) hthr htok hrun ht, ?_⟩
  intro d hd hdthr hdnew
  rw [settle_calls, List.mem_append] at hd
  rcases hd with hd | hd
  · -- an older call cannot be the newest, which was the call just answered
    rw [threadNewest_settle] at hdnew
    · have hsame : some d.issued = some c.issued := hdnew.2.2.1.symm.trans hnew.1
      exact issued_ne_of_mem_eraseIdx hw.ordered hc hd (Option.some.inj hsame)
    · exact (hw.issued d (List.mem_of_mem_eraseIdx hd)).2
  · have hasks := resume_thread_asks (hw.shaped c hcmem) hthr raw w.session
    revert hd
    cases hnext : ((Orchestrator.resume c.k raw).run w.session).1 with
    | ask req k' =>
        intro hd
        simp only [List.mem_singleton] at hd
        subst hd
        simp [hnext, Next.asksThreadLoad, hdthr] at hasks
    | _ => simp

end World

open World

/-- Generation tokens discard every stale answer, in every interleaving of
operations and every order of answers: an answer to a refresh that is no longer
the newest changes nothing and asks for no further step; an answer to a thread
load that is no longer the newest changes nothing, so the loads that write the
channel's posts write them in the order they were issued; and once the newest
thread load (with its refresh still the newest, for the unread step) is
answered with a thread, the channel's posts are that thread tagged with the
directory of the moment, for as long as no thread load is issued and the
session is not reset. -/
theorem stale_answers_discarded (s : Session) (evs : List Event) :
    let w := (World.init s).runAll evs
    (∀ i c run raw, w.calls[i]? = some c → c.k.refreshRun? = some run →
      ¬ w.RefreshNewest c.origin →
        (w.step (.answer i raw)).session = w.session ∧
          ∀ d ∈ (w.step (.answer i raw)).calls, d ∈ w.calls ∨
            ∃ n dir use dir', c.k = .page n dir use ∧ d.k = .page (n + 1) dir' use) ∧
    (∀ i c raw, w.calls[i]? = some c → c.k.isThreadLoad = true → ¬ w.ThreadNewest c.issued →
      (w.step (.answer i raw)).session = w.session) ∧
    w.threadWrites.Pairwise (· < ·) ∧
    (∀ i c raw t, w.calls[i]? = some c → c.k.isThreadLoad = true → w.ThreadNewest c.issued →
      (∀ run, c.k.refreshRun? = some run → w.RefreshNewest c.origin) → ReadsAsThread raw t →
        ∀ evs', ((w.step (.answer i raw)).runAll evs').lastThreadLoad =
            (w.step (.answer i raw)).lastThreadLoad →
          ((w.step (.answer i raw)).runAll evs').lastReset = (w.step (.answer i raw)).lastReset →
          ((w.step (.answer i raw)).runAll evs').snapshot.channelPosts =
            some (Thread.tagSystemPosts w.snapshot.users t)) := by
  intro w
  have hw : w.Coherent := coherent_runAll s evs
  refine ⟨fun i c run raw hc hrun hstale => hw.answer_stale_refresh hc hrun hstale raw,
    fun i c raw hc hthr hstale => hw.answer_stale_thread hc hthr hstale raw, hw.writesOrdered, ?_⟩
  intro i c raw t hc hthr hnew hrefresh ht evs' hl hr
  obtain ⟨hposts, hn⟩ := hw.answer_newest_thread hc hthr hnew hrefresh ht
  rw [(hw.step _).posts_stay hn evs' hl hr, hposts]

end ChatSession
