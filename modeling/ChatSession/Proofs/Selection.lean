import ChatSession.Proofs.Convergence

/-!
The last channel selection wins over a refresh that already has its channels.

A refresh's channels step selects the first channel it gets, and its unread
step loads the thread of the channel selected then, with a newer thread token
than any selection before. So a selection made while a refresh still waits on
its channels (or on a step before them) can be overwritten, as
`selection_lost_to_channels_step` shows. A selection made after that keeps its
channel: no call that waits then writes the selected channel, and the newest
thread load from then on asks for that channel's unread thread, whether it is
the selection's own load or the unread step of the refresh. The runs before the
last selection keep `World.Selecting`, the answers after it
`World.AfterSelection`, and the main statement is `last_selection_wins`.
-/

namespace ChatSession

open Orchestrator

theorem mem_eraseIdx_or_eq {α : Type} {l : List α} {i : Nat} {d a : α} (hd : l[i]? = some d)
    (ha : a ∈ l) : a ∈ l.eraseIdx i ∨ a = d := by
  induction l generalizing i with
  | nil => simp at ha
  | cons x l ih =>
      cases i with
      | zero =>
          simp only [List.getElem?_cons_zero, Option.some.injEq] at hd
          subst hd
          rcases List.mem_cons.1 ha with rfl | ha
          · exact Or.inr rfl
          · exact Or.inl (by simpa using ha)
      | succ i =>
          simp only [List.getElem?_cons_succ] at hd
          rcases List.mem_cons.1 ha with rfl | ha
          · exact Or.inl (by simp)
          · rcases ih hd ha with ha | rfl
            · exact Or.inl (by simp [ha])
            · exact Or.inr rfl

namespace World

theorem served_append (b : Backend) (evs evs' : List Event) :
    ∀ w : World, Served b w (evs ++ evs') ↔ Served b w evs ∧ Served b (w.runAll evs) evs' := by
  induction evs with
  | nil => intro w; simp [Served]
  | cons e evs ih =>
      intro w
      simp only [List.cons_append, Served, runAll_cons, ih (w.step e), and_assoc]

theorem answers_of_map {b : Backend} {w : World} {i : Nat} {raw : Except Payload Value}
    (h : (w.calls[i]?).map (fun c => b c.req) = some raw) : w.Answers b (.answer i raw) := by
  intro c hc
  rw [hc] at h
  exact (Option.some.inj h).symm

/-- A stretch that ends with a thread load leaves that load waiting as the newest. -/
theorem settle_not_newestAnswered {w : World} (hw : ∀ x, w.lastReset = some x → x < w.clock)
    {origin : Nat} {began reset : Bool} {r : Next × Session} (hasks : r.1.asksThreadLoad = true) :
    ¬ (w.settle origin began reset r).NewestAnswered := by
  obtain ⟨next, s⟩ := r
  cases next with
  | ask req k =>
      intro hna
      exact hna ⟨origin, w.clock, req, k⟩ ((mem_settle_calls _ _ _ _ _).2 (Or.inr ⟨req, k, rfl, rfl⟩))
        hasks (threadNewest_settle_asks _ _ _ _ _ hw hasks)
  | _ => simp [Next.asksThreadLoad] at hasks

/-- Once the newest thread load of a world has been answered, its channel's
posts are a thread tagged by some directory; an answer that begins no refresh
and resets nothing keeps that so, provided the newest thread load, if that is
what it answers, gets the thread and belongs to the newest refresh. -/
theorem Coherent.posts_answer {w : World} (hw : w.Coherent) {i : Nat} {d : Call}
    (hd : w.calls[i]? = some d) {raw : Except Payload Value} (hbegin : d.k.beginsRefresh raw = false)
    (hreset : d.k.resets raw = false) {T : PostThread}
    (hposts : w.NewestAnswered → ∃ U, w.snapshot.channelPosts = some (Thread.tagSystemPosts U T))
    (hnew : d.k.isThreadLoad = true → w.ThreadNewest d.issued →
      (∀ run, d.k.refreshRun? = some run → w.RefreshNewest d.origin) ∧ ReadsAsThread raw T) :
    (w.step (.answer i raw)).NewestAnswered →
      ∃ U, (w.step (.answer i raw)).snapshot.channelPosts = some (Thread.tagSystemPosts U T) := by
  intro hna'
  by_cases hcase : d.k.isThreadLoad = true ∧ w.ThreadNewest d.issued
  · obtain ⟨hrefresh, ht⟩ := hnew hcase.1 hcase.2
    exact ⟨_, (hw.answer_newest_thread hd hcase.1 hcase.2 hrefresh ht).1⟩
  obtain ⟨tw, heq⟩ := step_answer_plain hd hbegin hreset
  rw [heq] at hna'
  -- otherwise the answer issues no thread load: a new one would wait as the newest
  have hasks : ((resume d.k raw).run w.session).1.asksThreadLoad = false := by
    cases hasks : ((resume d.k raw).run w.session).1.asksThreadLoad
    · rfl
    · exact absurd hna' (@settle_not_newestAnswered { w with calls := w.calls.eraseIdx i, threadWrites := tw }
        hw.lastReset d.origin false false _ hasks)
  -- and the newest thread load of `w` had already been answered
  have hna : w.NewestAnswered := by
    intro d' hd' hthr hnew'
    rcases mem_eraseIdx_or_eq hd hd' with hd' | rfl
    · apply hna' d' ((mem_settle_calls _ _ _ _ _).2 (Or.inl hd')) hthr
      refine (@threadNewest_settle { w with calls := w.calls.eraseIdx i, threadWrites := tw } d.origin
        false false _ d'.issued (hw.issued d' (List.mem_of_mem_eraseIdx hd')).2).2 ⟨hasks, rfl, hnew'⟩
    · exact hcase ⟨hthr, hnew'⟩
  obtain ⟨U, hU⟩ := hposts hna
  have hl : (w.step (.answer i raw)).lastThreadLoad = w.lastThreadLoad := by
    rw [heq, settle_lastThreadLoad, hasks]
    rfl
  have hr : (w.step (.answer i raw)).lastReset = w.lastReset := by
    rw [heq, settle_lastReset]
    rfl
  exact ⟨U, (hw.posts_step hna _ hl hr).1.trans hU⟩

theorem currentChannel_of_read {s t : PageState} (h : s.read .currentChannel = t.read .currentChannel) :
    s.currentChannel = t.currentChannel := by
  simpa [PageState.read] using h

/-- A refresh started in a session asks for a step of a refresh for the user
logged in then. -/
theorem start_refresh_user (reaction : Reaction) (s : Session) {req : Request} {k : Pending}
    (h : ((start (.refresh reaction)).run s).1 = .ask req k) :
    ∃ run, k.refreshRun? = some run ∧ run.user = s.store.value.user := by
  obtain ⟨s', -, -, -, -, hs'⟩ := startRefresh_run reaction .reply s
  rw [show (start (.refresh reaction)).run s = _ from hs'] at h
  exact (continueRefresh_goesOn _ .reply RefreshStep.all s').refresh req k h

/-- A load of a channel's posts ends with its answer. -/
theorem resume_thread_ended (t : Nat) (command : String) (raw : Except Payload Value) (s : Session)
    {req : Request} {k : Pending} : ((resume (.thread t command) raw).run s).1 ≠ .ask req k := by
  rw [resume_run]
  rcases readAnswer raw with f | r
  · simp
  · -- written or not, the load ends
    dsimp only
    rw [resumeWith_thread_run]
    split
    · simp
    · simp

/-- What holds of every world that refreshes and channel selections reach from a
session where `u` is logged in: nothing was reset, `u` is still logged in, and
every waiting call is a step of a refresh for `u` or a load of a channel's posts. -/
structure Selecting (u : User) (w : World) : Prop where
  noReset : w.lastReset = none
  user : w.snapshot.user = some u
  calls : ∀ d ∈ w.calls,
    (∃ run, d.k.refreshRun? = some run ∧ run.user = some u) ∨ ∃ t command, d.k = .thread t command

theorem Selecting.step {u : User} {w : World} (h : w.Selecting u) (hcoh : w.Coherent) {e : Event}
    (he : ∀ op, e = .start op → (∃ reaction, op = .refresh reaction) ∨ ∃ c, op = .selectChannel c) :
    (w.step e).Selecting u := by
  cases e with
  | start op =>
      have huser : ((start op).run w.session).2.store.value.user = some u := by
        have hkeep : ((start op).run w.session).2.store.value.read .user = w.session.store.value.read .user := by
          apply start_keeps
          rcases he op rfl with ⟨reaction, rfl⟩ | ⟨c, rfl⟩ <;> simp [Operation.writes]
        exact (user_of_read hkeep).trans h.user
      show (w.settle w.clock op.beginsRefresh false ((start op).run w.session)).Selecting u
      refine ⟨by simp [h.noReset], by simpa using huser, ?_⟩
      intro d hd
      rcases (mem_settle_calls _ _ _ _ _).1 hd with hd | ⟨req, k, hk, rfl⟩
      · exact h.calls d hd
      · rcases he op rfl with ⟨reaction, rfl⟩ | ⟨c, rfl⟩
        · obtain ⟨run, hrun, hu⟩ := start_refresh_user reaction w.session hk
          exact Or.inl ⟨run, hrun, hu.trans h.user⟩
        · rw [start_selectChannel_run, show w.session.store.value.user = some u from h.user] at hk
          dsimp only at hk
          rw [loadThread_run] at hk
          obtain ⟨-, rfl⟩ := Next.ask.inj hk
          exact Or.inr ⟨_, _, rfl⟩
  | answer i raw =>
      rcases hd : w.calls[i]? with _ | d
      · rw [step_answer_none hd]
        exact h
      have hdmem := List.mem_of_getElem? hd
      have hk := hcoh.shaped d hdmem
      have hplain : d.k.beginsRefresh raw = false ∧ d.k.resets raw = false := by
        rcases h.calls d hdmem with ⟨run, hrun, -⟩ | ⟨t, command, hthr⟩
        · exact ⟨Pending.beginsRefresh_of_refreshRun hrun raw, Pending.resets_of_refreshRun hrun raw⟩
        · rw [hthr]
          exact ⟨rfl, rfl⟩
      have huser : .user ∉ d.k.writes := by
        rcases h.calls d hdmem with ⟨run, hrun, -⟩ | ⟨t, command, hthr⟩
        · exact fun hw => Pending.user_not_mem_ahead d.k (Pending.writes_subset_ahead ⟨run, hrun⟩ hw)
        · simp [hthr, Pending.writes]
      have hkeep := resume_keeps hk huser hplain.2 w.session
      obtain ⟨tw, heq⟩ := step_answer_plain hd hplain.1 hplain.2
      rw [heq]
      refine ⟨by simpa using h.noReset, ?_, ?_⟩
      · rw [settle_snapshot]
        exact (user_of_read hkeep).trans h.user
      · intro d' hd'
        rcases (mem_settle_calls _ _ _ _ _).1 hd' with hd' | ⟨req, k, hnext, rfl⟩
        · exact h.calls d' (List.mem_of_mem_eraseIdx hd')
        · rcases h.calls d hdmem with ⟨run, hrun, hu⟩ | ⟨t, command, hthr⟩
          · obtain ⟨run', hrun', hu'⟩ := (resume_goesOn hk hrun raw w.session).refresh req k hnext
            exact Or.inl ⟨run', hrun', hu'.trans hu⟩
          · rw [hthr] at hnext
            exact absurd hnext (resume_thread_ended t command raw w.session)

/-- No step of a refresh past its channels step writes the selected channel. -/
theorem currentChannel_not_ahead {k : Pending} (hk : k.WellShaped)
    (hpast : ∀ run st rest tt after, k = .step run st rest tt after →
      st ≠ .teams ∧ st ≠ .teamMembers ∧ st ≠ .channels) : StateField.currentChannel ∉ k.ahead := by
  cases k with
  | step run st rest tt after =>
      obtain ⟨hteams, hmembers, hchannels⟩ := hpast run st rest tt after rfl
      have hsuf := hk.1
      simp only [RefreshStep.all, List.suffix_cons_iff, List.suffix_nil, List.cons.injEq,
        reduceCtorEq, or_false] at hsuf
      rcases hsuf with ⟨rfl, rfl⟩ | ⟨rfl, rfl⟩ | ⟨rfl, rfl⟩ | ⟨rfl, rfl⟩ | ⟨rfl, rfl⟩ | ⟨rfl, rfl⟩ |
        ⟨rfl, rfl⟩ <;> simp_all [Pending.ahead, RefreshStep.fields]
  | page n dir use =>
      cases use with
      | refresh run rest after =>
          have hsh : (RefreshStep.users :: rest) <:+ RefreshStep.all := hk
          have hrest : rest = [.unread, .servers, .currentServer] := by
            simpa [RefreshStep.all, List.suffix_cons_iff] using hsh
          simp [Pending.ahead, RefreshStep.fields, hrest]
      | _ => simp [Pending.ahead]
  | _ => simp [Pending.ahead]

/-- What holds of every world after the last selection, of `c`, while `u` is
logged in and answers come in: nothing was reset, `c` is selected, every waiting
call is a load of a channel's posts or a step of a refresh for `u` that no longer
writes the selected channel, the newest thread load asks for `c`'s unread thread
(for the newest refresh, if it is a refresh's), and once it is answered the
channel's posts are the thread `T` tagged by some directory. -/
structure AfterSelection (c : Channel) (u : User) (T : PostThread) (w : World) : Prop where
  coherent : w.Coherent
  noReset : w.lastReset = none
  channel : w.snapshot.currentChannel = some c
  calls : ∀ d ∈ w.calls, (∃ run, d.k.refreshRun? = some run ∧ run.user = some u ∧
      StateField.currentChannel ∉ d.k.ahead) ∨ ∃ t command, d.k = .thread t command
  newest : ∀ d ∈ w.calls, d.k.isThreadLoad = true → w.ThreadNewest d.issued →
    d.req = unreadRequest c u ∧ ∀ run, d.k.refreshRun? = some run → w.RefreshNewest d.origin
  posts : w.NewestAnswered → ∃ U, w.snapshot.channelPosts = some (Thread.tagSystemPosts U T)

/-- Selecting `c` while no refresh waits on its teams, its team members or its
channels starts the phase after the last selection. -/
theorem Selecting.select {u : User} {w : World} (h : w.Selecting u) (hcoh : w.Coherent)
    (hpast : ∀ d ∈ w.calls, ∀ run st rest tt after, d.k = .step run st rest tt after →
      st ≠ .teams ∧ st ≠ .teamMembers ∧ st ≠ .channels)
    (c : Channel) (T : PostThread) : (w.step (.start (.selectChannel c))).AfterSelection c u T := by
  have hcoh' := hcoh.step (.start (.selectChannel c))
  have hrun : (start (.selectChannel c)).run w.session =
      (.ask (unreadRequest c u) (.thread (w.session.threadGen + 1) "user_unread"),
        { w.session with
          store := w.session.store.merge [.currentChannel (some c)]
          threadGen := w.session.threadGen + 1 }) := by
    rw [start_selectChannel_run, show w.session.store.value.user = some u from h.user]
    rfl
  show (w.settle w.clock false false ((start (.selectChannel c)).run w.session)).AfterSelection c u T
  change (w.settle w.clock false false ((start (.selectChannel c)).run w.session)).Coherent at hcoh'
  rw [hrun] at hcoh' ⊢
  refine ⟨hcoh', by simp [h.noReset], ?_, ?_, ?_, ?_⟩
  · simp only [settle_snapshot, Store.value_merge]
    rfl
  · intro d hd
    rcases (mem_settle_calls _ _ _ _ _).1 hd with hd | ⟨req, k, hk, rfl⟩
    · rcases h.calls d hd with ⟨run, hrun, hu⟩ | hthr
      · exact Or.inl ⟨run, hrun, hu, currentChannel_not_ahead (hcoh.shaped d hd) (hpast d hd)⟩
      · exact Or.inr hthr
    · obtain ⟨-, rfl⟩ := Next.ask.inj hk
      exact Or.inr ⟨_, _, rfl⟩
  · intro d hd hthr hnew
    -- the selection's load is the newest, and every older call was issued before it
    have hissued : d.issued = w.clock := by
      have hlast := hnew.1
      simp [Next.asksThreadLoad, Pending.isThreadLoad] at hlast
      exact hlast.symm
    rcases (mem_settle_calls _ _ _ _ _).1 hd with hd | ⟨req, k, hk, rfl⟩
    · exact absurd hissued (Nat.ne_of_lt (hcoh.issued d hd).2)
    · obtain ⟨rfl, rfl⟩ := Next.ask.inj hk
      exact ⟨rfl, fun run hrun => by simp [Pending.refreshRun?] at hrun⟩
  · intro hna
    exact absurd hna (settle_not_newestAnswered hcoh.lastReset (by rfl))

/-- A call that waited before a stretch which begins no refresh and resets
nothing, and is the newest thread load after it, was the newest before; and the
refresh newest before is newest after. -/
theorem newest_of_settle {W : World} {origin : Nat} {r : Next × Session} {d : Call}
    (hissued : d.issued < W.clock) (horigin : d.origin < W.clock)
    (hnew : (W.settle origin false false r).ThreadNewest d.issued) :
    W.ThreadNewest d.issued ∧ (W.RefreshNewest d.origin → (W.settle origin false false r).RefreshNewest d.origin) :=
  ⟨((threadNewest_settle W origin false false r hissued).1 hnew).2.2,
    fun h => (refreshNewest_settle W origin false false r horigin).2 ⟨rfl, rfl, h⟩⟩

/-- Every answer after the last selection keeps the phase's invariant. -/
theorem AfterSelection.step {c : Channel} {u : User} {T : PostThread} {w : World}
    (h : w.AfterSelection c u T) {b : Backend} (hT : ReadsAsThread (b (unreadRequest c u)) T)
    {i : Nat} {raw : Except Payload Value} (hans : w.Answers b (.answer i raw)) :
    (w.step (.answer i raw)).AfterSelection c u T := by
  rcases hd : w.calls[i]? with _ | d
  · rw [step_answer_none hd]
    exact h
  have hdmem := List.mem_of_getElem? hd
  have hk := h.coherent.shaped d hdmem
  have hraw : raw = b d.req := hans d hd
  have hplain : d.k.beginsRefresh raw = false ∧ d.k.resets raw = false := by
    rcases h.calls d hdmem with ⟨run, hrun, -⟩ | ⟨t, command, hthr⟩
    · exact ⟨Pending.beginsRefresh_of_refreshRun hrun raw, Pending.resets_of_refreshRun hrun raw⟩
    · rw [hthr]
      exact ⟨rfl, rfl⟩
  have hcc : StateField.currentChannel ∉ d.k.writes := by
    rcases h.calls d hdmem with ⟨run, hrun, -, hnot⟩ | ⟨t, command, hthr⟩
    · exact fun hw => hnot (Pending.writes_subset_ahead ⟨run, hrun⟩ hw)
    · simp [hthr, Pending.writes]
  have hkeep := currentChannel_of_read (resume_keeps hk hcc hplain.2 w.session)
  have hposts := h.coherent.posts_answer hd hplain.1 hplain.2 h.posts (fun hthr hnew =>
    ⟨(h.newest d hdmem hthr hnew).2, by rw [hraw, (h.newest d hdmem hthr hnew).1]; exact hT⟩)
  have hcoh' := h.coherent.step (.answer i raw)
  have hissued : ∀ d' ∈ w.calls, d'.issued < w.clock ∧ d'.origin < w.clock := fun d' hd' =>
    ⟨(h.coherent.issued d' hd').2, h.coherent.origin_lt hd'⟩
  obtain ⟨tw, heq⟩ := step_answer_plain hd hplain.1 hplain.2
  rw [heq] at hposts hcoh' ⊢
  refine ⟨hcoh', by simpa using h.noReset, ?_, ?_, ?_, hposts⟩
  · rw [settle_snapshot, hkeep]
    exact h.channel
  · intro d' hd'
    rcases (mem_settle_calls _ _ _ _ _).1 hd' with hd' | ⟨req, k', hnext, rfl⟩
    · exact h.calls d' (List.mem_of_mem_eraseIdx hd')
    · rcases h.calls d hdmem with ⟨run, hrun, hu, hnot⟩ | ⟨t, command, hthr⟩
      · -- the refresh goes on for the same user, and never back to its channels step
        have hgo := resume_goesOn hk hrun raw w.session
        obtain ⟨run', hrun', hu'⟩ := hgo.refresh req k' hnext
        refine Or.inl ⟨run', hrun', hu'.trans hu, fun hin => hnot (hgo.ahead _ ?_).1⟩
        rw [hnext]
        exact hin
      · rw [hthr] at hnext
        exact absurd hnext (resume_thread_ended t command raw w.session)
  · intro d' hd' hthr hnew
    rcases (mem_settle_calls _ _ _ _ _).1 hd' with hd' | ⟨req, k', hnext, rfl⟩
    · have hmem := List.mem_of_mem_eraseIdx hd'
      obtain ⟨hnewW, hrefresh⟩ := @newest_of_settle { w with calls := w.calls.eraseIdx i, threadWrites := tw }
        d.origin _ d' (hissued d' hmem).1 (hissued d' hmem).2 hnew
      obtain ⟨hreq, hrun⟩ := h.newest d' hmem hthr hnewW
      exact ⟨hreq, fun run h' => hrefresh (hrun run h')⟩
    · rcases h.calls d hdmem with ⟨run, hrun, hu, -⟩ | ⟨t, command, hk'⟩
      · have hgo := resume_goesOn hk hrun raw w.session
        have hcur : w.session.refreshGen = run.token := by
          apply Classical.byContradiction
          intro hstale
          obtain ⟨-, hpage⟩ := resume_stale_refresh hk hrun hstale raw
          obtain ⟨n, dir, use, dir', -, rfl⟩ := hpage req k' hnext
          simp [Pending.isThreadLoad] at hthr
        have hnewest : w.RefreshNewest d.origin :=
          (h.coherent.refreshToken d hdmem run hrun).2.1 hcur.symm
        obtain ⟨ch, u', hch, hu', rfl⟩ := hgo.thread req k' hnext hthr
        rw [hkeep, show w.session.store.value.currentChannel = some c from h.channel,
          Option.some.injEq] at hch
        rw [hu, Option.some.injEq] at hu'
        subst hch hu'
        refine ⟨rfl, fun run' _ => ?_⟩
        exact (refreshNewest_settle { w with calls := w.calls.eraseIdx i, threadWrites := tw } d.origin
          false false _ (hissued d hdmem).2).2 ⟨rfl, rfl, hnewest⟩
      · rw [hk'] at hnext
        exact absurd hnext (resume_thread_ended t command raw w.session)

/-- The answers after the last selection keep the phase's invariant. -/
theorem AfterSelection.runAll {c : Channel} {u : User} {T : PostThread} {b : Backend}
    (hT : ReadsAsThread (b (unreadRequest c u)) T) (evs : List Event)
    (hanswers : ∀ e ∈ evs, ∃ i raw, e = .answer i raw) :
    ∀ w : World, w.AfterSelection c u T → Served b w evs → (w.runAll evs).AfterSelection c u T := by
  induction evs with
  | nil => exact fun w h _ => h
  | cons e evs ih =>
      intro w h hserved
      obtain ⟨i, raw, rfl⟩ := hanswers e List.mem_cons_self
      exact ih (fun e he => hanswers e (List.mem_cons_of_mem _ he)) _ (h.step hT hserved.1) hserved.2

theorem Selecting.runAll {u : User} (evs : List Event)
    (hstarts : ∀ op, Event.start op ∈ evs → (∃ reaction, op = .refresh reaction) ∨ ∃ c, op = .selectChannel c) :
    ∀ w : World, w.Selecting u → w.Coherent → (w.runAll evs).Selecting u := by
  induction evs with
  | nil => exact fun w h _ => h
  | cons e evs ih =>
      intro w h hcoh
      have he : ∀ op, e = .start op → (∃ reaction, op = .refresh reaction) ∨ ∃ c, op = .selectChannel c := by
        rintro op rfl
        exact hstarts op List.mem_cons_self
      exact ih (fun op hop => hstarts op (List.mem_cons_of_mem _ hop)) _ (h.step hcoh he) (hcoh.step e)

end World

open World

/-- The last channel selection wins over a refresh that already has its
channels. Take a run from a session where `u` is logged in, made of refreshes,
channel selections and the backend's answers, whose last selection, of `c`, is
made while no refresh waits on its teams, its team members or its channels, and
is followed by answers only. If the backend answers `c`'s unread thread for `u`
with the thread `T`, then once no call waits, `c` is selected and the channel's
posts are `T` tagged by a user directory. -/
theorem last_selection_wins (s0 : Session) (u : User) (hu : s0.store.value.user = some u)
    (b : Backend) (c : Channel) (T : PostThread) (hT : ReadsAsThread (b (unreadRequest c u)) T)
    (pre post : List Event)
    (hpre : ∀ op, Event.start op ∈ pre →
      (∃ reaction, op = .refresh reaction) ∨ ∃ c', op = .selectChannel c')
    (hpost : ∀ e ∈ post, ∃ i raw, e = .answer i raw)
    (hpast : ∀ d ∈ ((World.init s0).runAll pre).calls, ∀ run st rest tt after,
      d.k = .step run st rest tt after → st ≠ .teams ∧ st ≠ .teamMembers ∧ st ≠ .channels)
    (hserved : World.Served b (World.init s0) (pre ++ .start (.selectChannel c) :: post))
    (hquiet : ((World.init s0).runAll (pre ++ .start (.selectChannel c) :: post)).calls = []) :
    ((World.init s0).runAll (pre ++ .start (.selectChannel c) :: post)).snapshot.currentChannel =
        some c ∧
      ∃ U, ((World.init s0).runAll (pre ++ .start (.selectChannel c) :: post)).snapshot.channelPosts =
        some (Thread.tagSystemPosts U T) := by
  obtain ⟨-, hserved⟩ := (served_append b pre _ (World.init s0)).1 hserved
  have hsel : ((World.init s0).runAll pre).Selecting u :=
    Selecting.runAll pre hpre _ ⟨rfl, hu, by simp [World.init]⟩ (coherent_init s0)
  have hphase := AfterSelection.runAll hT post hpost _
    (hsel.select (coherent_runAll s0 pre) hpast c T) hserved.2
  rw [runAll_append, runAll_cons]
  rw [runAll_append, runAll_cons] at hquiet
  -- no call waits, so the newest thread load has been answered
  have hna : ((((World.init s0).runAll pre).step (.start (.selectChannel c))).runAll post).NewestAnswered := by
    intro d hd
    simp [hquiet] at hd
  exact ⟨hphase.channel, hphase.posts hna⟩

def offTopic : Channel := { id := "c2" }

/-- A backend with no teams, channels, users or servers, whose unread threads are empty. -/
def noChannelsBackend : Backend := fun req =>
  if req.command = "user_unread" then .ok (Value.obj []) else .ok (.list [])

/-- A refresh started and answered up to its channels step. -/
def channelsFirst : List Event :=
  [.start (.refresh .immediate), .answer 0 (.ok (.list [])), .answer 0 (.ok (.list [])),
    .answer 0 (.ok (.list []))]

/-- The answers after the selection: the directory, the selection's load, the
refresh's unread step, the servers and the current server. -/
def answersAfterSelection : List Event :=
  [.answer 0 (.ok (.list [])), .answer 0 (.ok (Value.obj [])), .answer 0 (.ok (Value.obj [])),
    .answer 0 (.ok (.list [])), .answer 0 (.ok (.list []))]

theorem selection_kept_after_channels :
    loggedInSession.store.value.user = some default ∧
    ReadsAsThread (noChannelsBackend (unreadRequest offTopic default)) {} ∧
    (∀ op, Event.start op ∈ channelsFirst →
      (∃ reaction, op = .refresh reaction) ∨ ∃ c', op = .selectChannel c') ∧
    (∀ e ∈ answersAfterSelection, ∃ i raw, e = .answer i raw) ∧
    (∀ d ∈ ((World.init loggedInSession).runAll channelsFirst).calls, ∀ run st rest tt after,
      d.k = .step run st rest tt after → st ≠ .teams ∧ st ≠ .teamMembers ∧ st ≠ .channels) ∧
    World.Served noChannelsBackend (World.init loggedInSession)
      (channelsFirst ++ .start (.selectChannel offTopic) :: answersAfterSelection) ∧
    ((World.init loggedInSession).runAll
      (channelsFirst ++ .start (.selectChannel offTopic) :: answersAfterSelection)).calls = [] ∧
    ((World.init loggedInSession).runAll
        (channelsFirst ++ .start (.selectChannel offTopic) :: answersAfterSelection)).snapshot.currentChannel =
      some offTopic ∧
    ∃ U, ((World.init loggedInSession).runAll
        (channelsFirst ++ .start (.selectChannel offTopic) :: answersAfterSelection)).snapshot.channelPosts =
      some (Thread.tagSystemPosts U {}) := by
  have hT : ReadsAsThread (noChannelsBackend (unreadRequest offTopic default)) {} := ⟨Value.obj [], rfl, rfl⟩
  have hpre : ∀ op, Event.start op ∈ channelsFirst →
      (∃ reaction, op = .refresh reaction) ∨ ∃ c', op = .selectChannel c' := by
    intro op hop
    simp only [channelsFirst, List.mem_cons, Event.start.injEq, reduceCtorEq, List.not_mem_nil,
      or_false] at hop
    exact Or.inl ⟨_, hop⟩
  have hpost : ∀ e ∈ answersAfterSelection, ∃ i raw, e = .answer i raw := by
    intro e he
    simp only [answersAfterSelection, List.mem_cons, List.not_mem_nil, or_false] at he
    rcases he with rfl | rfl | rfl | rfl | rfl <;> exact ⟨_, _, rfl⟩
  have hcalls : ((World.init loggedInSession).runAll channelsFirst).calls =
      [⟨0, 3, usersRequest 0 loggedInSession.config.usersPerPage,
        .page 0 [] (.refresh { token := 1, user := some default } [.unread, .servers, .currentServer]
          .reply)⟩] := rfl
  have hpast : ∀ d ∈ ((World.init loggedInSession).runAll channelsFirst).calls, ∀ run st rest tt after,
      d.k = .step run st rest tt after → st ≠ .teams ∧ st ≠ .teamMembers ∧ st ≠ .channels := by
    intro d hd run st rest tt after hk
    rw [hcalls, List.mem_singleton] at hd
    subst hd
    cases hk
  have hserved : World.Served noChannelsBackend (World.init loggedInSession)
      (channelsFirst ++ .start (.selectChannel offTopic) :: answersAfterSelection) :=
    ⟨trivial, answers_of_map rfl, answers_of_map rfl, answers_of_map rfl, trivial, answers_of_map rfl,
      answers_of_map rfl, answers_of_map rfl, answers_of_map rfl, answers_of_map rfl, trivial⟩
  have hquiet : ((World.init loggedInSession).runAll
      (channelsFirst ++ .start (.selectChannel offTopic) :: answersAfterSelection)).calls = [] := rfl
  exact ⟨rfl, hT, hpre, hpost, hpast, hserved, hquiet,
    last_selection_wins loggedInSession default rfl noChannelsBackend offTopic {} hT channelsFirst
      answersAfterSelection hpre hpost hpast hserved hquiet⟩

/-- A refresh started and answered up to its channels step, a selection while
the channels are asked for, then every answer: the channels step finds no
channel. -/
def selectDuringChannels : List Event :=
  [.start (.refresh .immediate), .answer 0 (.ok (.list [])), .answer 0 (.ok (.list [])),
    .start (.selectChannel offTopic), .answer 1 (.ok (Value.obj [])),
    .answer 0 (.ok (.list [])), .answer 0 (.ok (.list [])), .answer 0 (.ok (.list [])),
    .answer 0 (.ok (.list []))]

/-- A selection made while the refresh waits on its channels does not survive
it: the channels step selects the first channel it gets, here none. -/
theorem selection_lost_to_channels_step :
    ReadsAsThread (noChannelsBackend (unreadRequest offTopic default)) {} ∧
    World.Served noChannelsBackend (World.init loggedInSession) selectDuringChannels ∧
    ((World.init loggedInSession).runAll selectDuringChannels).calls = [] ∧
    ((World.init loggedInSession).runAll selectDuringChannels).snapshot.currentChannel ≠
      some offTopic := by
  have hnone : ((World.init loggedInSession).runAll selectDuringChannels).snapshot.currentChannel =
      none := rfl
  refine ⟨⟨Value.obj [], rfl, rfl⟩, ?_, rfl, by simp [hnone]⟩
  exact ⟨trivial, answers_of_map rfl, answers_of_map rfl, trivial, answers_of_map rfl,
    answers_of_map rfl, answers_of_map rfl, answers_of_map rfl, answers_of_map rfl, trivial⟩

end ChatSession
