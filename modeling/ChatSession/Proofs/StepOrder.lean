import Mathlib.Data.List.Nodup
import ChatSession.Proofs.Stretch

/-!
Which step sequences a refresh accepts, and why the accepted ones run soundly.

`checkSteps` reads a sequence once, from the front, with the steps seen so far.
Said over the whole sequence instead: a step is at fault after the steps
before it (`StepSpec.fault`) when one of them has its name, or when a step it
requires is not among them, or is among them but runs only logged in while the
step runs logged out. The name is looked at first, then the requirements in
their order. The check refuses a sequence exactly when some step is at fault,
and reports the fault of the first such step (`checkSteps_eq_error_iff`,
`checkSteps_eq_ok_iff`).

A refresh goes through its steps in order and passes over the steps that need
a login when nobody is logged in; it completes each step it starts before it
looks at the next, and a superseded refresh stops before its next step. So when
it starts a step it has completed exactly the steps before it that it did not
pass over (`StepSpec.completedBy`). In an accepted sequence these include every
step the started step requires (`requires_completed`), and the refresh of a
session asks for its steps only in this way (`continueRefresh_requires_completed`).
-/

namespace ChatSession

namespace StepSpec

/-- How the requirement `d` of `s` fails after the steps `before`: no step
before has that name, or one that has it runs only logged in while `s` runs
logged out. -/
def requirementFault (before : List StepSpec) (s : StepSpec) (d : String) : Option StepError :=
  if before.all (·.name != d) then some (.notEarlier s.name d)
  else if before.any fun p => p.name == d && p.authenticated && !s.authenticated then
    some (.needsLogin s.name d)
  else none

/-- The first rule `s` breaks after the steps `before`: a name taken before it,
else the first of its requirements that fails. -/
def fault (before : List StepSpec) (s : StepSpec) : Option StepError :=
  if before.any (·.name == s.name) then some (.duplicate s.name)
  else (s.requires.filterMap (requirementFault before s)).head?

example : fault [⟨"teams", [], true⟩] ⟨"servers", ["teams", "nowhere"], false⟩ =
    some (.needsLogin "servers" "teams") := by decide

/-- The names of the steps before a step that a refresh has completed when it
starts that step: the steps it did not pass over for want of a login. -/
def completedBy (loggedIn : Bool) (pre : List StepSpec) : List String :=
  (pre.filter fun p => !p.authenticated || loggedIn).map (·.name)

theorem requirementFault_eq_none_iff {before : List StepSpec} {s : StepSpec} {d : String} :
    requirementFault before s d = none ↔
      (∃ p ∈ before, p.name = d) ∧ ∀ p ∈ before, p.name = d → p.authenticated → s.authenticated := by
  unfold requirementFault
  simp only [List.all_eq_true, bne_iff_ne, ne_eq, List.any_eq_true, Bool.and_eq_true, beq_iff_eq,
    Bool.not_eq_true']
  split_ifs with hall hlogin
  · simp only [false_iff, not_and]
    rintro ⟨p, hp, hname⟩
    exact absurd hname (hall p hp)
  · simp only [false_iff, not_and, not_forall]
    obtain ⟨p, hp, ⟨hname, hauth⟩, hs⟩ := hlogin
    exact fun _ => ⟨p, hp, hname, hauth, by simp [hs]⟩
  · simp only [true_iff]
    refine ⟨by simpa using hall, fun p hp hname hauth => ?_⟩
    by_contra hs
    exact hlogin ⟨p, hp, ⟨hname, hauth⟩, by simpa using hs⟩

theorem fault_eq_none_iff {before : List StepSpec} {s : StepSpec} :
    fault before s = none ↔
      (∀ p ∈ before, p.name ≠ s.name) ∧ ∀ d ∈ s.requires,
        (∃ p ∈ before, p.name = d) ∧ ∀ p ∈ before, p.name = d → p.authenticated → s.authenticated := by
  unfold fault
  by_cases hdup : before.any (·.name == s.name)
  · simp only [hdup, if_true, reduceCtorEq, false_iff, not_and]
    obtain ⟨p, hp, hname⟩ := List.any_eq_true.mp hdup
    exact fun hfresh => absurd (beq_iff_eq.mp hname) (hfresh p hp)
  · have hfresh : ∀ p ∈ before, p.name ≠ s.name := by simpa using hdup
    simp only [hdup, Bool.false_eq_true, if_false, List.head?_eq_none_iff,
      List.filterMap_eq_nil_iff, requirementFault_eq_none_iff]
    exact ⟨fun h => ⟨hfresh, h⟩, fun h => h.2⟩

/-- With distinct names before it, the first unmet requirement the check finds
is the first requirement at fault. -/
theorem unmet_eq_requirementFault {seen : List StepSpec} (hnd : (seen.map (·.name)).Nodup)
    (s : StepSpec) (ds : List String) :
    s.unmet seen ds = (ds.filterMap (requirementFault seen s)).head? := by
  induction ds with
  | nil => rfl
  | cons d ds ih =>
    cases hfind : seen.find? (·.name == d) with
    | none =>
      have hall : seen.all (·.name != d) := by
        simpa [List.find?_eq_none] using hfind
      simp [unmet, hfind, requirementFault, hall]
    | some earlier =>
      obtain ⟨hname, hmem⟩ : earlier.name = d ∧ earlier ∈ seen := by
        simpa using And.intro (List.find?_some hfind) (List.mem_of_find?_eq_some hfind)
      -- with distinct names, `earlier` is the only step before with the name `d`
      have hunique : ∀ p ∈ seen, p.name = d → p = earlier := fun p hp hpn =>
        List.inj_on_of_nodup_map hnd hp hmem (hpn.trans hname.symm)
      have hnotall : seen.all (·.name != d) = false := by
        simpa using ⟨earlier, hmem, hname⟩
      have hany : (seen.any fun p => p.name == d && p.authenticated && !s.authenticated) =
          (earlier.authenticated && !s.authenticated) := by
        apply Bool.eq_iff_iff.mpr
        simp only [List.any_eq_true, Bool.and_eq_true, beq_iff_eq, Bool.not_eq_true']
        constructor
        · rintro ⟨p, hp, ⟨hpn, hpa⟩, hs⟩
          rw [hunique p hp hpn] at hpa
          exact ⟨hpa, hs⟩
        · rintro ⟨hea, hs⟩
          exact ⟨earlier, hmem, ⟨hname, hea⟩, hs⟩
      by_cases hflag : earlier.authenticated && !s.authenticated
      · simp [unmet, hfind, requirementFault, hnotall, hany, hflag]
      · have hnone : requirementFault seen s d = none := by
          simp [requirementFault, hnotall, hany, hflag]
        simp [unmet, hfind, hflag, hnone, ih]

/-- One step of the check, read through `fault`. -/
theorem checkStepsFrom_cons {seen : List StepSpec} (hnd : (seen.map (·.name)).Nodup)
    (s : StepSpec) (rest : List StepSpec) :
    checkStepsFrom seen (s :: rest) =
      match fault seen s with
      | some e => .error e
      | none => checkStepsFrom (seen ++ [s]) rest := by
  simp only [checkStepsFrom, fault, unmet_eq_requirementFault hnd]
  split <;> rfl

/-- A step at no fault keeps the names seen so far distinct. -/
theorem nodup_append_of_fault_eq_none {seen : List StepSpec} (hnd : (seen.map (·.name)).Nodup)
    {s : StepSpec} (h : fault seen s = none) : ((seen ++ [s]).map (·.name)).Nodup := by
  have hfresh := (fault_eq_none_iff.mp h).1
  simp only [List.map_append, List.map_cons, List.map_nil]
  refine List.nodup_append.mpr ⟨hnd, List.nodup_singleton _, ?_⟩
  simpa using fun p hp => hfresh p hp

/-- The check from `seen` refuses with `e` exactly when some step is at fault,
the first of them with `e`. -/
theorem checkStepsFrom_eq_error_iff {seen : List StepSpec} (hnd : (seen.map (·.name)).Nodup)
    (steps : List StepSpec) (e : StepError) :
    checkStepsFrom seen steps = .error e ↔
      ∃ pre s rest, steps = pre ++ s :: rest ∧
        (∀ pre₁ s₁ rest₁, pre = pre₁ ++ s₁ :: rest₁ → fault (seen ++ pre₁) s₁ = none) ∧
        fault (seen ++ pre) s = some e := by
  induction steps generalizing seen with
  | nil => simp [checkStepsFrom]
  | cons s rest ih =>
    rw [checkStepsFrom_cons hnd]
    cases hs : fault seen s with
    | some e' =>
      simp only [Except.error.injEq]
      constructor
      · rintro rfl
        exact ⟨[], s, rest, rfl, by simp, by simpa using hs⟩
      · rintro ⟨pre, s', rest', hsplit, hfirst, hfault⟩
        rcases List.cons_eq_append_iff.mp hsplit with ⟨rfl, hcons⟩ | ⟨pre', rfl, -⟩
        · obtain ⟨rfl, -⟩ := List.cons.inj hcons
          simpa [hs] using hfault
        · simpa [hs] using hfirst [] s pre' rfl
    | none =>
      rw [ih (nodup_append_of_fault_eq_none hnd hs)]
      constructor
      · rintro ⟨pre, s', rest', rfl, hfirst, hfault⟩
        refine ⟨s :: pre, s', rest', rfl, ?_, by simpa using hfault⟩
        intro pre₁ s₁ rest₁ hsplit
        rcases List.cons_eq_append_iff.mp hsplit with ⟨rfl, hcons⟩ | ⟨pre₂, rfl, hpre⟩
        · obtain ⟨rfl, -⟩ := List.cons.inj hcons
          simpa using hs
        · simpa using hfirst pre₂ s₁ rest₁ hpre
      · rintro ⟨pre, s', rest', hsplit, hfirst, hfault⟩
        rcases List.cons_eq_append_iff.mp hsplit with ⟨rfl, hcons⟩ | ⟨pre', rfl, hrest⟩
        · obtain ⟨rfl, -⟩ := List.cons.inj hcons
          simp [hs] at hfault
        · refine ⟨pre', s', rest', hrest, fun pre₁ s₁ rest₁ hpre => ?_, by simpa using hfault⟩
          simpa using hfirst (s :: pre₁) s₁ rest₁ (by simp [hpre])

/-- The check from `seen` accepts exactly when no step is at fault. -/
theorem checkStepsFrom_eq_ok_iff {seen : List StepSpec} (hnd : (seen.map (·.name)).Nodup)
    (steps : List StepSpec) :
    checkStepsFrom seen steps = .ok () ↔
      ∀ pre s rest, steps = pre ++ s :: rest → fault (seen ++ pre) s = none := by
  induction steps generalizing seen with
  | nil => simp [checkStepsFrom]
  | cons s rest ih =>
    rw [checkStepsFrom_cons hnd]
    cases hs : fault seen s with
    | some e' =>
      simp only [reduceCtorEq, false_iff]
      intro hall
      simpa [hs] using hall [] s rest rfl
    | none =>
      rw [ih (nodup_append_of_fault_eq_none hnd hs)]
      constructor
      · intro hall pre s' rest' hsplit
        rcases List.cons_eq_append_iff.mp hsplit with ⟨rfl, hcons⟩ | ⟨pre', rfl, hrest⟩
        · obtain ⟨rfl, -⟩ := List.cons.inj hcons
          simpa using hs
        · simpa using hall pre' s' rest' hrest
      · intro hall pre s' rest' hrest
        simpa using hall (s :: pre) s' rest' (by simp [hrest])

end StepSpec

open StepSpec

/-- The check refuses a sequence with `e` exactly when some step is at fault
after the steps before it, and the first such step is at fault with `e`. -/
theorem checkSteps_eq_error_iff (steps : List StepSpec) (e : StepError) :
    checkSteps steps = .error e ↔
      ∃ pre s rest, steps = pre ++ s :: rest ∧
        (∀ pre₁ s₁ rest₁, pre = pre₁ ++ s₁ :: rest₁ → fault pre₁ s₁ = none) ∧
        fault pre s = some e := by
  unfold checkSteps
  simpa using @checkStepsFrom_eq_error_iff [] List.nodup_nil steps e

/-- A step may not require itself: its own name is not the name of an earlier step. -/
example : checkSteps [⟨"a", [], true⟩, ⟨"b", ["a", "b"], true⟩] = .error (.notEarlier "b" "b") := rfl

/-- The check accepts a sequence exactly when no step repeats an earlier name,
and every step requires only names of earlier steps, none of which runs only
logged in while the step runs logged out. -/
theorem checkSteps_eq_ok_iff (steps : List StepSpec) :
    checkSteps steps = .ok () ↔
      ∀ pre s rest, steps = pre ++ s :: rest →
        (∀ p ∈ pre, p.name ≠ s.name) ∧ ∀ d ∈ s.requires,
          (∃ p ∈ pre, p.name = d) ∧ ∀ p ∈ pre, p.name = d → p.authenticated → s.authenticated := by
  simp only [← fault_eq_none_iff]
  unfold checkSteps
  simpa using @checkStepsFrom_eq_ok_iff [] List.nodup_nil steps

/-- In an accepted sequence, a step that a refresh does not pass over finds every
step it requires among the steps before it that the refresh completed. -/
theorem requires_completed {pre rest : List StepSpec} {s : StepSpec} {loggedIn : Bool}
    (hok : checkSteps (pre ++ s :: rest) = .ok ()) (hruns : s.authenticated → loggedIn) :
    ∀ d ∈ s.requires, d ∈ completedBy loggedIn pre := by
  intro d hd
  obtain ⟨⟨p, hp, hname⟩, hlogin⟩ := ((checkSteps_eq_ok_iff _).mp hok pre s rest rfl).2 d hd
  -- `p` runs whenever `s` does: logged in every step runs, logged out `s` and so `p` run logged out
  have hpruns : (!p.authenticated || loggedIn) = true := by
    cases hpa : p.authenticated
    · rfl
    · simpa using hruns (hlogin p hp hname hpa)
  exact List.mem_map.mpr ⟨p, List.mem_filter.mpr ⟨hp, hpruns⟩, hname⟩

/-- The refresh's own steps pass the check. -/
theorem checkSteps_refreshSteps : checkSteps (RefreshStep.all.map RefreshStep.spec) = .ok () := by
  decide

/-- Each step the refresh of a session asks for, wherever it goes on from and
whether or not it has been superseded, finds every step it requires completed
by then. -/
theorem continueRefresh_requires_completed {run : RefreshRun} {after : AfterRefresh}
    {steps : List RefreshStep} (hsteps : steps <:+ RefreshStep.all) {s s' : Session} {req : Request}
    {k : Pending} (hask : (Orchestrator.continueRefresh run after steps).run s = (.ask req k, s')) :
    ∃ pre st rest t, RefreshStep.all = pre ++ st :: rest ∧ k = st.waiting run after rest t ∧
      ∀ d ∈ st.spec.requires, d ∈ completedBy run.user.isSome (pre.map RefreshStep.spec) := by
  by_cases hcur : s.refreshGen = run.token
  · rcases Orchestrator.continueRefresh_current hcur after steps with
      ⟨o, hdone⟩ | ⟨st, rest, req', hsuf, hpass, -, hrun⟩
    · cases hask.symm.trans hdone
    · rw [hrun] at hask
      obtain ⟨-, rfl⟩ := Prod.mk.inj hask |>.1 |> Next.ask.inj
      obtain ⟨pre, hpre⟩ := hsuf.trans hsteps
      -- a step the refresh does not pass over runs logged out, or finds a user
      have hruns : st.spec.authenticated → run.user.isSome := by
        intro hauth
        simp [RefreshStep.passes, RefreshStep.authenticated, hauth] at hpass
        exact hpass.1
      refine ⟨pre, st, rest, s.threadGen + 1, hpre.symm, rfl, ?_⟩
      have hok : checkSteps (pre.map RefreshStep.spec ++ st.spec :: rest.map RefreshStep.spec) =
          .ok () := by
        simpa [← hpre] using checkSteps_refreshSteps
      exact requires_completed hok hruns
  · obtain ⟨-, o, hdone⟩ := Orchestrator.continueRefresh_stale hcur after steps
    simp [hask] at hdone

/-- `checkSteps` refuses exactly the sequences in which some step repeats an earlier name,
requires a name of no earlier step, or runs logged out while requiring an earlier step
that runs only logged in, and it reports the first such fault (the name before the
requirements, the requirements in order). A refresh over an accepted sequence, logged in
or not and superseded at any point, starts a step only when the steps it requires are
among those it has completed; the refresh of a session asks for its steps only so. -/
theorem checkSteps_exact_and_sound :
    (∀ steps e, checkSteps steps = .error e ↔
      ∃ pre s rest, steps = pre ++ s :: rest ∧
        (∀ pre₁ s₁ rest₁, pre = pre₁ ++ s₁ :: rest₁ → fault pre₁ s₁ = none) ∧
        fault pre s = some e) ∧
    (∀ steps, checkSteps steps = .ok () ↔
      ∀ pre s rest, steps = pre ++ s :: rest →
        (∀ p ∈ pre, p.name ≠ s.name) ∧ ∀ d ∈ s.requires,
          (∃ p ∈ pre, p.name = d) ∧ ∀ p ∈ pre, p.name = d → p.authenticated → s.authenticated) ∧
    (∀ (pre rest : List StepSpec) (s : StepSpec) (loggedIn : Bool),
      checkSteps (pre ++ s :: rest) = .ok () → (s.authenticated → loggedIn) →
        ∀ d ∈ s.requires, d ∈ completedBy loggedIn pre) ∧
    (∀ (run : RefreshRun) (after : AfterRefresh) (steps : List RefreshStep) (s s' : Session)
      (req : Request) (k : Pending), steps <:+ RefreshStep.all →
      (Orchestrator.continueRefresh run after steps).run s = (.ask req k, s') →
        ∃ pre st rest t, RefreshStep.all = pre ++ st :: rest ∧ k = st.waiting run after rest t ∧
          ∀ d ∈ st.spec.requires, d ∈ completedBy run.user.isSome (pre.map RefreshStep.spec)) :=
  ⟨checkSteps_eq_error_iff, checkSteps_eq_ok_iff, fun _ _ _ _ hok hruns => requires_completed hok hruns,
    fun _ _ _ _ _ _ _ hsteps hask => continueRefresh_requires_completed hsteps hask⟩

end ChatSession
