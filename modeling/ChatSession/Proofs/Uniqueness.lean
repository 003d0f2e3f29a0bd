import ChatSession.Proofs.Frames
import ChatSession.Proofs.RoundTrip

/-!
The snapshot's uniqueness invariants.

Three fields of the snapshot stand for keyed collections: a membership is known
by its (team, user) pair, a server by its name, and the directory files each
user under its id. `PageState.Unique` says that the memberships have distinct
pairs, the servers distinct names, and every directory entry is filed under its
user's id.

Every write of the orchestrator is a list of changes, and each change it makes
keeps these facts on its own (`Change.Good`): the membership step keeps the first
membership of each pair, every directory is built by filing users under their ids,
an added server replaces the servers of its name, and a reset empties the
memberships and the directory. Only two writers take server lists as the backend
sends them, the servers step and a server switch, so the backend's server lists
are assumed to have distinct names (`Request.ServersDistinct`).

What a waiting call holds is written later, when its answer comes: a directory
being paged, the servers of a switch waiting for its logout. These are kept
well formed too (`Pending.Carries`), so that the invariants hold in every world
that events reach, under every interleaving of operations and answers. The main
statement is `snapshot_unique_every_prefix`.
-/

namespace ChatSession

/-- Every entry of a directory is filed under its user's id. -/
def KeyedById (dir : List (String × User)) : Prop := ∀ e ∈ dir, e.2.userId = e.1

/-- The snapshot's keyed collections are well formed: memberships have distinct
(team, user) pairs, servers have distinct names, and the directory files each user
under its id. -/
structure PageState.Unique (st : PageState) : Prop where
  members : (st.teamMembers.map TeamMember.key).Nodup
  servers : (st.servers.map Server.name).Nodup
  users : KeyedById st.users

/-- A change that keeps the invariants whatever it is written over. -/
def Change.Good : Change → Prop
  | .users d => KeyedById d
  | .teamMembers ms => (ms.map TeamMember.key).Nodup
  | .servers ss => (ss.map Server.name).Nodup
  | _ => True

namespace PageState

theorem Unique.apply {st : PageState} (h : st.Unique) {c : Change} (hc : c.Good) :
    (st.apply c).Unique := by
  cases c with
  | users d => exact ⟨h.members, h.servers, hc⟩
  | teamMembers ms => exact ⟨hc, h.servers, h.users⟩
  | servers ss => exact ⟨h.members, hc, h.users⟩
  | _ => exact ⟨h.members, h.servers, h.users⟩

theorem Unique.update {st : PageState} (h : st.Unique) {cs : List Change}
    (hcs : ∀ c ∈ cs, c.Good) : (st.update cs).Unique := by
  induction cs generalizing st with
  | nil => exact h
  | cons c cs ih =>
      exact ih (h.apply (hcs c List.mem_cons_self)) fun c' hc' => hcs c' (List.mem_cons_of_mem c hc')

@[simp] theorem Change.reset_good (f : StateField) : (Change.reset f).Good := by
  cases f <;> simp [Change.reset, Change.Good, KeyedById]

@[simp] theorem Store.value_resetSession (st : Store) :
    st.resetSession.value = st.value.resetSession := rfl

theorem Unique.resetSession {st : PageState} (h : st.Unique) : st.resetSession.Unique :=
  h.update (by simp)

end PageState

/-! ### Store properties that follow the snapshot -/

/-- A property of stores that only unique snapshots have, and that a write keeps
whenever it leaves a unique snapshot. -/
structure StoreInvariant (P : Store → Prop) : Prop where
  unique : ∀ {st : Store}, P st → st.value.Unique
  write : ∀ {st : Store} {f : PageState → PageState}, P st → (f st.value).Unique → P (st.write f)

/-- The snapshot and every snapshot delivered to a subscription keep the invariants. -/
def Store.SeenUnique (st : Store) : Prop :=
  st.value.Unique ∧ ∀ sub ∈ st.subscriptions, ∀ v ∈ sub.received, v.Unique

namespace StoreInvariant

variable {P : Store → Prop} {st : Store}

theorem merge (hP : StoreInvariant P) (hst : P st) {cs : List Change}
    (hcs : ∀ c ∈ cs, c.Good) : P (st.merge cs) :=
  hP.write hst ((hP.unique hst).update hcs)

theorem resetSession (hP : StoreInvariant P) (hst : P st) : P st.resetSession :=
  hP.write hst (hP.unique hst).resetSession

theorem snapshot : StoreInvariant fun st => st.value.Unique :=
  ⟨id, fun _ hu => hu⟩

/-- A write delivers its snapshot to the live subscriptions and keeps what every
subscription was delivered before. -/
theorem seen : StoreInvariant Store.SeenUnique := by
  refine ⟨fun h => h.1, fun {st f} h hf => ⟨hf, ?_⟩⟩
  intro sub hsub v hv
  simp only [Store.write, List.mem_map] at hsub
  obtain ⟨old, hold, rfl⟩ := hsub
  by_cases hlive : old.live
  · rw [if_pos hlive] at hv
    rcases List.mem_append.1 hv with hv | hv
    · exact h.2 old hold v hv
    · rw [List.mem_singleton.1 hv]
      exact hf
  · rw [if_neg hlive] at hv
    exact h.2 old hold v hv

end StoreInvariant

/-! ### Each writer keeps its collection well formed -/

/-- The membership step keeps one membership per (team, user) pair. -/
theorem uniqueMembers_nodup (ms : List TeamMember) :
    ((uniqueMembers ms).map TeamMember.key).Nodup := by
  -- a membership is appended only when no kept one has its pair
  suffices h : ∀ acc : List TeamMember, (acc.map TeamMember.key).Nodup →
      ((ms.foldl (fun acc m => if acc.any (·.key == m.key) then acc else acc ++ [m]) acc).map
        TeamMember.key).Nodup from h [] List.nodup_nil
  induction ms with
  | nil => exact fun acc h => h
  | cons m ms ih =>
      intro acc hacc
      apply ih
      dsimp only
      split
      · exact hacc
      · rename_i hnew
        simp only [List.any_eq_true, beq_iff_eq, not_exists, not_and] at hnew
        simp only [List.map_append, List.map_cons, List.map_nil, List.nodup_append, hacc,
          List.nodup_cons, List.not_mem_nil, not_false_eq_true, List.nodup_nil, and_self,
          List.mem_map, List.mem_cons, true_and, or_false]
        rintro _ ⟨a, ha, rfl⟩ _ rfl
        exact hnew a ha

/-- An added server replaces the servers of its name. -/
theorem withServer_nodup {servers : List Server} (h : (servers.map Server.name).Nodup)
    (sv : Server) : ((withServer servers sv).map Server.name).Nodup := by
  have hkept : ((servers.filter (·.name != sv.name)).map Server.name).Nodup :=
    h.sublist (List.filter_sublist.map Server.name)
  simp only [withServer, List.map_append, List.map_cons, List.map_nil, List.nodup_append, hkept,
    List.nodup_cons, List.not_mem_nil, not_false_eq_true, List.nodup_nil, and_self, true_and,
    List.mem_map, List.mem_filter, List.mem_cons, or_false]
  rintro _ ⟨a, ⟨-, ha⟩, rfl⟩ _ rfl
  simpa using ha

/-- Adding a user files it under its id, and keeps the other entries. -/
theorem KeyedById.add {dir : List (String × User)} (h : KeyedById dir) (u : User) :
    KeyedById (addToDirectory dir u) := by
  unfold addToDirectory
  split
  · intro e he
    obtain ⟨e', he', rfl⟩ := List.mem_map.1 he
    split
    · rename_i heq
      exact (beq_iff_eq.1 heq).symm
    · exact h e' he'
  · intro e he
    rcases List.mem_append.1 he with he | he
    · exact h e he
    · simp at he
      subst he
      rfl

theorem KeyedById.addAll {dir : List (String × User)} (h : KeyedById dir) (us : List User) :
    KeyedById (us.foldl addToDirectory dir) := by
  induction us generalizing dir with
  | nil => exact h
  | cons u us ih => exact ih (h.add u)

theorem KeyedById.nil : KeyedById [] := by simp [KeyedById]

/-! ### What waiting calls carry, and what the backend sends -/

/-- Where a request is for the server list or for a server switch, its answer `v`,
read as the orchestrator reads it, lists servers of distinct names. -/
def Request.ServersDistinct (req : Request) (v : Value) : Prop :=
  (req.command = "get_all_servers" → ∀ ss,
    Projection.listOf "Server" Server.check v = .ok ss → (ss.map Server.name).Nodup) ∧
  (req.command = "change_server" → ∀ sw,
    Projection.record "ChangeServerResult" Switch.check v = .ok sw →
      (sw.servers.map Server.name).Nodup)

/-- What a continuation waiting on `req` will write keeps the invariants: a
directory being paged is filed by id, and the servers of a switch have distinct
names. The continuations that take a server list wait on the commands that send one. -/
def Pending.Carries (req : Request) : Pending → Prop
  | .step _ .servers _ _ _ => req.command = "get_all_servers"
  | .page _ dir _ => KeyedById dir
  | .switch _ => req.command = "change_server"
  | .switchLogout sw _ => (sw.servers.map Server.name).Nodup
  | _ => True

/-- A stretch ends on a store with the property `P`, and the call it ends with
carries what its continuation will write. -/
structure EndsUnique (P : Store → Prop) (r : Next × Session) : Prop where
  unique : P r.2.store
  carries : ∀ req k, r.1 = .ask req k → k.Carries req

theorem EndsUnique.of_ended {P : Store → Prop} {r : Next × Session} (hu : P r.2.store)
    (hend : r.1.asked = []) : EndsUnique P r := by
  refine ⟨hu, fun req k hask => ?_⟩
  rw [hask] at hend
  simp [Next.asked] at hend

theorem callOutcome_eq_ok {α : Type} {command : String} {p : Projection α}
    {r : Except CallError Value} {a : α} (h : callOutcome command p r = .ok a) :
    ∃ v, r = .ok v ∧ p v = .ok a := by
  rcases r with e | v
  · simp [callOutcome] at h
  · refine ⟨v, rfl, ?_⟩
    simp only [callOutcome] at h
    split at h <;> simp_all

theorem readAnswer_eq_ok_ok {raw : Except Payload Value} {v : Value}
    (h : readAnswer raw = .ok (.ok v)) : raw = .ok v := by
  rcases raw with p | v'
  · simp only [readAnswer] at h
    rcases hp : CallError.ofPayload Payload.nestingInSession p with f | e
    · simp [hp, Except.map] at h
    · simp [hp, Except.map] at h
  · simp only [readAnswer, Except.ok.injEq] at h
    rw [h]
/-- Every change a refresh step writes keeps the invariants, provided a server
list it takes has distinct names. -/
theorem RefreshStep.outcome_good {st : RefreshStep} {s : PageState} {r : Except CallError Value}
    (hsrv : st = .servers → ∀ ss,
      callOutcome "get_all_servers" (Projection.listOf "Server" Server.check) r = .ok ss →
        (ss.map Server.name).Nodup)
    {cs : List Change} (h : st.outcome s r = .ok cs) : ∀ c ∈ cs, c.Good := by
  cases st with
  | teamMembers =>
      obtain ⟨ms, -, rfl⟩ := Except.map_eq_ok h
      simpa [Change.Good] using uniqueMembers_nodup ms
  | users =>
      obtain ⟨us, -, rfl⟩ := Except.map_eq_ok h
      simpa [Change.Good] using KeyedById.nil.addAll us
  | servers =>
      obtain ⟨ss, hss, rfl⟩ := Except.map_eq_ok h
      simpa [Change.Good] using hsrv rfl ss hss
  | unread =>
      obtain ⟨t, -, rfl⟩ := Except.map_eq_ok h
      simp [Change.Good, threadChanges]
  | teams | channels | currentServer =>
      obtain ⟨a, -, rfl⟩ := Except.map_eq_ok h
      simp [Change.Good]

theorem RefreshStep.waiting_carries {st : RefreshStep} {perPage : Nat} {channel : Option Channel}
    {user : Option User} {req : Request} (h : st.request perPage channel user = some req)
    (run : RefreshRun) (after : AfterRefresh) (rest : List RefreshStep) (token : Nat) :
    (st.waiting run after rest token).Carries req := by
  cases st with
  | servers =>
      simp only [RefreshStep.request, Option.some.injEq] at h
      subst h
      rfl
  | users => exact KeyedById.nil
  | _ => trivial

/-! ### Every stretch keeps the invariants

The stretches are proved for any store property `P` that a write keeps whenever
it leaves a unique snapshot (`StoreInvariant`), so that the same proofs speak of
the snapshot a stretch ends on and of every snapshot it delivers on the way. -/

namespace Orchestrator

open Session

variable {P : Store → Prop} {s : Session}

theorem continueRefresh_endsUnique (hP : StoreInvariant P) (hs : P s.store) (run : RefreshRun)
    (after : AfterRefresh) (steps : List RefreshStep) :
    EndsUnique P ((continueRefresh run after steps).run s) := by
  by_cases hcur : s.refreshGen = run.token
  · rcases continueRefresh_current hcur after steps with
      ⟨o, hrun⟩ | ⟨st, rest, req, -, -, hreq, hrun⟩
    · -- the refresh ends by writing its errors
      rw [hrun]
      exact .of_ended (hP.merge hs (by simp [Change.Good])) rfl
    · rw [hrun]
      refine ⟨?_, fun req' k hk => ?_⟩
      · -- asking for the unread step takes a thread token, and writes nothing
        split
        · exact hs
        · exact hs
      · simp only [Next.ask.injEq] at hk
        obtain ⟨rfl, rfl⟩ := hk
        exact RefreshStep.waiting_carries hreq run after rest _
  · obtain ⟨hsame, o, hdone⟩ := continueRefresh_stale hcur after steps
    exact .of_ended (by rw [hsame]; exact hs) (by rw [hdone]; rfl)

theorem startRefresh_endsUnique (hP : StoreInvariant P) (hs : P s.store) (reaction : Reaction)
    (after : AfterRefresh) : EndsUnique P ((startRefresh reaction after).run s) := by
  obtain ⟨s', -, -, -, hstore, hrun⟩ := startRefresh_run reaction after s
  rw [hrun]
  exact continueRefresh_endsUnique hP (by rw [hstore]; exact hs) _ _ _

theorem takeOutcome_unique (hP : StoreInvariant P) (hs : P s.store)
    {o : Except CallError (List Change)} (ho : ∀ cs, o = .ok cs → ∀ c ∈ cs, c.Good)
    (run : RefreshRun) (tt : Option Nat) : P (takeOutcome run tt o s).2.store := by
  rw [takeOutcome_session]
  rcases o with e | cs
  · exact hs
  · dsimp only
    split
    · exact hP.merge hs (ho cs rfl)
    · exact hs

theorem directoryDone_endsUnique (hP : StoreInvariant P) (hs : P s.store)
    {d : Except CallError (List (String × User))} (hd : ∀ dir, d = .ok dir → KeyedById dir)
    (use : DirectoryUse) : EndsUnique P ((directoryDone use d).run s) := by
  cases use with
  | reply => exact .of_ended hs rfl
  | store =>
      rcases d with e | dir
      · exact .of_ended hs rfl
      · exact .of_ended (hP.merge hs (by simpa [Change.Good] using hd dir rfl)) rfl
  | refresh run rest after =>
      rw [directoryDone_refresh_run]
      apply continueRefresh_endsUnique hP
      apply takeOutcome_unique hP hs
      intro cs hcs
      obtain ⟨dir, rfl, rfl⟩ := Except.map_eq_ok hcs
      simpa [Change.Good] using hd dir rfl

theorem resumeWith_endsUnique (hP : StoreInvariant P) (hs : P s.store) {req : Request}
    {k : Pending} (hk : k.Carries req) {r : Except CallError Value}
    (hr : ∀ v, r = .ok v → req.ServersDistinct v) : EndsUnique P ((resumeWith k r).run s) := by
  cases k with
  | step run st rest tt after =>
      change EndsUnique P ((resumeStep run st rest tt after r).run s)
      rw [resumeStep_run]
      refine continueRefresh_endsUnique hP (takeOutcome_unique hP hs (fun cs hcs => ?_) run tt) _ _ _
      refine RefreshStep.outcome_good (fun hst ss hss => ?_) hcs
      subst hst
      obtain ⟨v, rfl, hv⟩ := callOutcome_eq_ok hss
      exact (hr v rfl).1 hk ss hv
  | page n dir use =>
      change EndsUnique P ((resumePage n dir use r).run s)
      rw [resumePage_run]
      split
      · exact directoryDone_endsUnique hP hs (fun _ h => by cases h) use
      · split
        · exact directoryDone_endsUnique hP hs (fun _ h => by cases h; exact hk.addAll _) use
        · refine ⟨hs, fun req' k' hk' => ?_⟩
          simp only [Next.ask.injEq] at hk'
          obtain ⟨-, rfl⟩ := hk'
          exact hk.addAll _
  | login =>
      rw [resumeWith_login_run]
      rcases callOutcome "login" (Projection.record "User" User.check) r with e | u
      · exact .of_ended hs rfl
      · exact .of_ended (hP.merge hs (by simp [Change.Good])) rfl
  | logout =>
      rw [resumeWith_logout_run]
      rcases r with e | v
      · exact .of_ended hs rfl
      · exact .of_ended (hP.resetSession hs) rfl
  | addServer =>
      rw [resumeWith_addServer_run]
      rcases callOutcome "add_server" (Projection.record "Server" Server.check) r with e | sv
      · exact .of_ended hs rfl
      · -- the added server replaces those of its name in the list of that moment
        have hgood : ∀ c ∈ [.servers (withServer s.store.value.servers sv), .currentServer sv],
            Change.Good c := by
          simpa [Change.Good] using withServer_nodup (hP.unique hs).servers sv
        exact .of_ended (hP.merge hs hgood) rfl
  | postThread => exact .of_ended hs rfl
  | thread token command =>
      rw [resumeWith_thread_run]
      rcases callOutcome command (Projection.record "PostThread" PostThread.check) r with e | t
      · exact .of_ended hs rfl
      · refine .of_ended ?_ rfl
        dsimp only
        split
        · exact hP.merge hs (by simp [threadChanges, Change.Good])
        · exact hs
  | switch reaction =>
      rw [resumeWith_switch_run]
      rcases hc : callOutcome "change_server" (Projection.record "ChangeServerResult" Switch.check)
          r with e | sw
      · exact .of_ended hs rfl
      · -- the switch's servers wait for the logout, read as the backend sent them
        obtain ⟨v, rfl, hv⟩ := callOutcome_eq_ok hc
        refine ⟨hs, fun req' k' hk' => ?_⟩
        obtain ⟨-, rfl⟩ := Next.ask.inj hk'
        exact (hr v rfl).2 hk sw hv
  | switchLogout sw reaction =>
      have hsw : (sw.servers.map Server.name).Nodup := hk
      rw [resume_switchLogout]
      exact startRefresh_endsUnique hP
        (hP.merge (hP.resetSession hs) (by simpa [Change.Good] using hsw)) _ _
  | command spec => exact .of_ended hs rfl

theorem resume_endsUnique (hP : StoreInvariant P) (hs : P s.store) {req : Request} {k : Pending}
    (hk : k.Carries req) {raw : Except Payload Value}
    (hraw : ∀ v, raw = .ok v → req.ServersDistinct v) : EndsUnique P ((resume k raw).run s) := by
  rw [resume_run]
  rcases hread : readAnswer raw with f | r
  · exact .of_ended hs rfl
  · exact resumeWith_endsUnique hP hs hk fun v hv => hraw v (readAnswer_eq_ok_ok (hv ▸ hread))

theorem start_endsUnique (hP : StoreInvariant P) (hs : P s.store) (op : Operation) :
    EndsUnique P ((start op).run s) := by
  cases op with
  | refresh reaction => exact startRefresh_endsUnique hP hs reaction .reply
  | selectChannel c =>
      have hsel : P (s.store.merge [.currentChannel (some c)]) :=
        hP.merge hs (by simp [Change.Good])
      rw [start_selectChannel_run]
      split
      · exact .of_ended hsel rfl
      · rw [loadThread_run]
        exact ⟨hsel, fun _ _ hk => by cases hk; trivial⟩
  | changeServer name reaction => exact ⟨hs, fun _ _ hk => by cases hk; rfl⟩
  | updateUsers => exact ⟨hs, fun _ _ hk => by cases hk; exact KeyedById.nil⟩
  | fetchDirectory => exact ⟨hs, fun _ _ hk => by cases hk; exact KeyedById.nil⟩
  | _ => exact ⟨hs, fun _ _ hk => by cases hk; trivial⟩

end Orchestrator

/-! ### Every world that events reach keeps the invariants -/

namespace World

variable {P : Store → Prop}

/-- The store has the property `P`, and every waiting call carries what its
continuation will write. -/
structure KeepsUnique (P : Store → Prop) (w : World) : Prop where
  unique : P w.session.store
  carries : ∀ c ∈ w.calls, c.k.Carries c.req

/-- An answer to a call that asks for servers lists servers of distinct names. -/
def AnswersDistinct (w : World) : Event → Prop
  | .start _ => True
  | .answer i raw => ∀ c v, w.calls[i]? = some c → raw = .ok v → c.req.ServersDistinct v

theorem keepsUnique_init {s : Session} (hs : P s.store) : (init s).KeepsUnique P :=
  ⟨hs, by simp [init]⟩

theorem KeepsUnique.settle {w : World} (hw : w.KeepsUnique P) {r : Next × Session}
    (hr : EndsUnique P r) (origin : Nat) (began reset : Bool) :
    (w.settle origin began reset r).KeepsUnique P := by
  refine ⟨by rw [settle_session]; exact hr.unique, fun c hc => ?_⟩
  rcases (mem_settle_calls w origin began reset r).1 hc with hc | ⟨req, k, hask, rfl⟩
  · exact hw.carries c hc
  · exact hr.carries req k hask

/-- One event keeps the invariants, when an answer it brings lists distinct servers
where servers are asked for. -/
theorem KeepsUnique.step (hP : StoreInvariant P) {w : World} (hw : w.KeepsUnique P) {e : Event}
    (he : w.AnswersDistinct e) : (w.step e).KeepsUnique P := by
  cases e with
  | start op => exact hw.settle (Orchestrator.start_endsUnique hP hw.unique op) _ _ _
  | answer i raw =>
      rcases hc : w.calls[i]? with _ | c
      · rw [step_answer_none hc]
        exact hw
      · rw [step_answer hc]
        have hcmem : c ∈ w.calls := List.mem_of_getElem? hc
        have hrest : KeepsUnique P { w with
            calls := w.calls.eraseIdx i
            threadWrites :=
              if (c.k.isThreadLoad && ((Orchestrator.resume c.k raw).run w.session).2.store.published !=
                  w.session.store.published) then w.threadWrites ++ [c.issued]
              else w.threadWrites } :=
          ⟨hw.unique, fun d hd => hw.carries d (List.mem_of_mem_eraseIdx hd)⟩
        exact hrest.settle (Orchestrator.resume_endsUnique hP hw.unique (hw.carries c hcmem)
          fun v hv => he c v hc hv) _ _ _

/-- Every prefix of a run of events keeps the store property, when the backend's
server lists have distinct names. -/
theorem keepsUnique_after_events (hP : StoreInvariant P) (s : Session) (evs : List Event)
    (hs : P s.store)
    (hans : ∀ n i v c, evs[n]? = some (.answer i (.ok v)) →
      ((init s).runAll (evs.take n)).calls[i]? = some c → c.req.ServersDistinct v)
    (n : Nat) : ((init s).runAll (evs.take n)).KeepsUnique P := by
  induction n with
  | zero => exact keepsUnique_init hs
  | succ n ih =>
      rw [List.take_add_one, runAll_append]
      rcases he : evs[n]? with _ | e
      · exact ih
      · refine ih.step hP ?_
        cases e with
        | start op => trivial
        | answer i raw =>
            rintro c v hc rfl
            exact hans n i v c he hc

end World

open World

/-- The snapshot's keyed collections stay well formed in every world that events
reach: from a snapshot whose memberships have distinct (team, user) pairs, whose
servers have distinct names and whose directory files every user under its id, any
interleaving of operations and answers keeps all three, after every event, provided
the backend's server lists (for the server list and for a server switch) have
distinct names. Each stretch of work keeps them on its own
(`Orchestrator.resume_endsUnique`, `Orchestrator.start_endsUnique`). -/
theorem snapshot_unique_every_prefix (s : Session) (evs : List Event)
    (hs : s.store.value.Unique)
    (hans : ∀ n i v c, evs[n]? = some (.answer i (.ok v)) →
      ((init s).runAll (evs.take n)).calls[i]? = some c → c.req.ServersDistinct v)
    (n : Nat) : ((init s).runAll (evs.take n)).snapshot.Unique :=
  (keepsUnique_after_events StoreInvariant.snapshot s evs hs hans n).unique

/-- Subscribers are delivered every write, also those inside one stretch: the
reset and then the new servers of a switch's logout answer, a refresh step's
changes and then the refresh's errors. Every snapshot delivered to a
subscription keeps the invariants, in every world that events reach, when the
first snapshot and those delivered before it did. -/
theorem delivered_unique_every_prefix (s : Session) (evs : List Event)
    (hs : s.store.SeenUnique)
    (hans : ∀ n i v c, evs[n]? = some (.answer i (.ok v)) →
      ((init s).runAll (evs.take n)).calls[i]? = some c → c.req.ServersDistinct v)
    (n : Nat) :
    ∀ sub ∈ ((init s).runAll (evs.take n)).session.store.subscriptions,
      ∀ v ∈ sub.received, v.Unique :=
  (keepsUnique_after_events StoreInvariant.seen s evs hs hans n).unique.2

/-- An answer of null lists no servers. -/
theorem Request.serversDistinct_null (req : Request) : req.ServersDistinct .null := by
  refine ⟨fun _ ss hss => ?_, fun _ sw hsw => ?_⟩
  · -- null reads as the empty list
    have hempty : Projection.listOf "Server" Server.check .null = .ok [] := rfl
    rw [hempty, Except.ok.injEq] at hss
    rw [← hss]
    exact List.nodup_nil
  · -- and as no switch at all
    simp [Projection.record, Switch.check, Check.fields, Check.fail] at hsw

/-- The switch to `lab`, whose answer lists `home` and `lab`. -/
def labSwitch : Switch :=
  { current := { name := "lab" }, servers := [{ name := "home" }, { name := "lab" }] }

/-- A session that knows the server `home`, watched by one subscription. -/
def homeWatched : Session :=
  { (default : Session) with
    store := { value := { servers := [{ name := "home" }] }, subscriptions := [{ id := 0 }] } }

/-- A switch to `lab`: its answer, then the answer to the logout from `home`. -/
def switchToLab : List Event :=
  [.start (.changeServer (.str "lab") .ignore), .answer 0 (.ok labSwitch.toValue),
    .answer 0 (.ok .null)]

/-- The logout answer of the switch resets the session and then writes the switch's
servers, both delivered to the subscription; each snapshot it is delivered keeps the
invariants. -/
theorem switch_delivers_unique :
    homeWatched.store.SeenUnique ∧
    (∀ n i v c, switchToLab[n]? = some (.answer i (.ok v)) →
      ((init homeWatched).runAll (switchToLab.take n)).calls[i]? = some c →
        c.req.ServersDistinct v) ∧
    ∀ sub ∈ ((init homeWatched).runAll (switchToLab.take 3)).session.store.subscriptions,
      ∀ v ∈ sub.received, v.Unique := by
  have hs : homeWatched.store.SeenUnique :=
    ⟨⟨List.nodup_nil, by decide, KeyedById.nil⟩, by simp [homeWatched]⟩
  have hans : ∀ n i v c, switchToLab[n]? = some (.answer i (.ok v)) →
      ((init homeWatched).runAll (switchToLab.take n)).calls[i]? = some c →
        c.req.ServersDistinct v := by
    intro n i v c hn hc
    rcases n with _ | _ | _ | n
    · simp [switchToLab] at hn
    · simp only [switchToLab, List.getElem?_cons_succ, List.getElem?_cons_zero,
        Option.some.injEq, Event.answer.injEq, Except.ok.injEq] at hn
      obtain ⟨rfl, rfl⟩ := hn
      have hcall : ((init homeWatched).runAll (switchToLab.take 1)).calls[0]? =
          some ⟨0, 0, ⟨"change_server", [("serverName", .str "lab")]⟩, .switch .ignore⟩ := rfl
      rw [hcall, Option.some.injEq] at hc
      subst hc
      refine ⟨fun h => absurd h (by decide), fun _ sw hsw => ?_⟩
      simp only [Projection.record, Switch.check_toValue, Except.ok.injEq] at hsw
      rw [← hsw]
      decide
    · simp only [switchToLab, List.getElem?_cons_succ, List.getElem?_cons_zero,
        Option.some.injEq, Event.answer.injEq, Except.ok.injEq] at hn
      obtain ⟨rfl, rfl⟩ := hn
      exact Request.serversDistinct_null c.req
    · simp [switchToLab] at hn
  exact ⟨hs, hans, delivered_unique_every_prefix homeWatched switchToLab hs hans 3⟩

/-- A session that knows the servers `home` and `work`. -/
def twoServersKnown : Session :=
  { (default : Session) with store := { value := { servers := [{ name := "home" }, { name := "work" }] } } }

/-- The server list as the backend sends it: `home` and `lab`. -/
def homeAndLab : Value :=
  .list [.dict [(.str "name", .str "home")], .dict [(.str "name", .str "lab")]]

/-- A refresh with nobody logged in, whose server list is answered. -/
def refreshServers : List Event := [.start (.refresh .ignore), .answer 0 (.ok homeAndLab)]

/-- A server record with only a name reads as the server of that name. -/
theorem named_server_reads (name : String) :
    Projection.record "Server" Server.check (.dict [(.str "name", .str name)]) = .ok { name } := by
  simp [Projection.record, Server.check, Check.fields, Value.field?, Value.lookup, Value.eqv,
    Check.field, Check.str, Checked.under]
  rfl

theorem homeAndLab_reads :
    Projection.listOf "Server" Server.check homeAndLab = .ok [{ name := "home" }, { name := "lab" }] := by
  show Projection.each (Projection.record "Server" Server.check)
    [.dict [(.str "name", .str "home")], .dict [(.str "name", .str "lab")]] = _
  simp only [Projection.each, named_server_reads]
  rfl

/-- The refresh asks for the server list, which is answered with distinct names;
the snapshot after the answer keeps the invariants. -/
theorem servers_refresh_keeps_unique :
    twoServersKnown.store.value.Unique ∧
    (∀ n i v c, refreshServers[n]? = some (.answer i (.ok v)) →
      ((init twoServersKnown).runAll (refreshServers.take n)).calls[i]? = some c →
        c.req.ServersDistinct v) ∧
    ((init twoServersKnown).runAll (refreshServers.take 2)).snapshot.Unique := by
  have hs : twoServersKnown.store.value.Unique :=
    ⟨List.nodup_nil, by decide, KeyedById.nil⟩
  have hans : ∀ n i v c, refreshServers[n]? = some (.answer i (.ok v)) →
      ((init twoServersKnown).runAll (refreshServers.take n)).calls[i]? = some c →
        c.req.ServersDistinct v := by
    intro n i v c hn hc
    rcases n with _ | _ | n
    · simp [refreshServers] at hn
    · simp only [refreshServers, List.getElem?_cons_succ, List.getElem?_cons_zero,
        Option.some.injEq, Event.answer.injEq, Except.ok.injEq] at hn
      obtain ⟨rfl, rfl⟩ := hn
      have hcall : ((init twoServersKnown).runAll (refreshServers.take 1)).calls[0]? =
          some ⟨0, 0, ⟨"get_all_servers", []⟩, .step { token := 1, user := none } .servers
            [.currentServer] none .reply⟩ := rfl
      rw [hcall, Option.some.injEq] at hc
      subst hc
      refine ⟨fun _ ss hss => ?_, fun h => absurd h (by decide)⟩
      rw [homeAndLab_reads, Except.ok.injEq] at hss
      subst hss
      decide
    · simp [refreshServers] at hn
  exact ⟨hs, hans, snapshot_unique_every_prefix twoServersKnown refreshServers hs hans 2⟩

end ChatSession
