import ChatSession.Session.Script

/-!
The recorded backend: which fixtures it takes, and how it answers.

A fixture maps each command to an entry or to a non-empty list of entries, an
entry being a dictionary with a `result` or an `error` (`recorded`). A fixture
is taken exactly when every command maps to such entries
(`ofFixture_isOk_iff`); otherwise it is refused for the first command that does
not, with a fault named by that command's text, or, for an integer too long to
be written, with the fault of writing it (`ofFixture_first_fault`).

A taken fixture holds one queue of replies per command, read off its entries
(`queueOf_ofFixture`). An answer to a command pops the first reply of its queue
while more than one is left (`queueOf_answer_self`) and leaves every other
command's queue alone (`queueOf_answer_other`). So after any sequence of
lookups, the queue of a command has lost one reply for each earlier lookup of
it, down to its last (`queueOf_afterAll`): the `k`-th lookup of a command with
`n` entries answers with entry `min k n`, a rejection carrying the entry's
`error` when it has one, even beside a `result`, and its `result` otherwise; a
command that the fixture lacks is rejected as not found (`answer_afterAll`).
Main statement: `recorded_backend_answers`.
-/

namespace ChatSession

/-- How a reply answers. -/
def Reply.outcome : Reply → Except Payload Value
  | .error p => .error (.data p)
  | .result v => .ok v

namespace Replay

/-- The entries given for a command: the items of a list, or the one value. -/
def itemsOf : Value → List Value
  | .list xs => xs
  | v => [v]

/-- An entry: a dictionary with a `result` or an `error`. -/
def isEntry : Value → Bool
  | .dict kvs => (Value.field? kvs "result").isSome || (Value.field? kvs "error").isSome
  | _ => false

/-- What a command may map to: an entry, or a non-empty list of entries. -/
def recorded : Value → Bool
  | .list xs => !xs.isEmpty && xs.all isEntry
  | v => isEntry v

/-- The fault of a command whose entries are not recorded: no entries for an
empty list, a bad entry otherwise, named by the command's text when it has one. -/
def faultOf (command raw : Value) : FixtureError :=
  match command.text? with
  | some c => if (itemsOf raw).isEmpty then .noEntries c else .badEntry c
  | none => .unprintableCommand

/-- How an entry answers: a rejection carrying its `error` when it has one,
else its `result`, null when it has none. Every entry of a taken fixture is a
dictionary. -/
def entryAnswer : Value → Except Payload Value
  | .dict kvs =>
    match Value.field? kvs "error" with
    | some p => .error (.data p)
    | none => .ok ((Value.field? kvs "result").getD .null)
  | _ => .ok .null

/-- The rejection of a command that the fixture lacks. -/
def notFound (command : String) : Except Payload Value :=
  .error (.data (.str ("command " ++ command ++ " not found")))

/-- The queue of replies the backend holds for a command: that of the first
command of the fixture with its name. -/
def queueOf (r : Replay) (command : String) : Option (List Reply) :=
  (r.queues.find? fun e => Value.eqv e.1 (.str command)).map (·.2)

/-- The backend after answering the commands `cs` in turn. -/
def afterAll (r : Replay) (cs : List String) : Replay :=
  cs.foldl (fun r c => (r.answer c).1) r

/-! ### Reading the entries of one command -/

/-- Only a text key names a command. -/
theorem eqv_str_iff {k : Value} {c : String} : Value.eqv k (.str c) = true ↔ k = .str c := by
  cases k <;> simp [Value.eqv, Value.isNumber]

theorem reply?_isSome (v : Value) : (reply? v).isSome = isEntry v := by
  cases v with
  | dict kvs =>
    simp only [reply?, isEntry]
    cases Value.field? kvs "error" <;> cases Value.field? kvs "result" <;> rfl
  | _ => rfl

/-- A reply answers as the entry it was read from. -/
theorem outcome_of_reply? {v : Value} {rep : Reply} (h : reply? v = some rep) :
    rep.outcome = entryAnswer v := by
  cases v with
  | dict kvs =>
    simp only [reply?] at h
    simp only [entryAnswer]
    rcases he : Value.field? kvs "error" with _ | p
    · rcases hr : Value.field? kvs "result" with _ | w
      · simp [he, hr] at h
      · simp only [he, hr, Option.some.injEq] at h
        subst h
        rfl
    · -- an error wins over a result
      simp only [he, Option.some.injEq] at h
      subst h
      rfl
  | _ => simp [reply?] at h

theorem mapM_reply?_cons {x : Value} {xs : List Value} {rs : List Reply} :
    (x :: xs).mapM reply? = some rs ↔
      ∃ r rs', reply? x = some r ∧ xs.mapM reply? = some rs' ∧ rs = r :: rs' := by
  rw [List.mapM_cons]
  rcases reply? x with _ | r
  · simp
  · rcases xs.mapM reply? with _ | rs'
    · simp
    · simp [eq_comm]

theorem mapM_reply?_isSome (xs : List Value) : (xs.mapM reply?).isSome = xs.all isEntry := by
  induction xs with
  | nil => rfl
  | cons x xs ih =>
    rw [List.mapM_cons, List.all_cons, ← reply?_isSome, ← ih]
    cases reply? x <;> cases List.mapM reply? xs <;> rfl

/-- Reading the entries one by one: the `i`-th reply is read from the `i`-th entry. -/
theorem getElem?_of_mapM_reply? {xs : List Value} {rs : List Reply}
    (h : xs.mapM reply? = some rs) (i : Nat) : rs[i]? = xs[i]?.bind reply? := by
  induction xs generalizing rs i with
  | nil =>
    simp only [List.mapM_nil, pure, Option.some.injEq] at h
    simp [← h]
  | cons x xs ih =>
    obtain ⟨r, rs', hx, hxs, rfl⟩ := mapM_reply?_cons.mp h
    cases i with
    | zero => simp [hx]
    | succ i => simpa using ih hxs i

theorem length_of_mapM_reply? {xs : List Value} {rs : List Reply}
    (h : xs.mapM reply? = some rs) : rs.length = xs.length := by
  induction xs generalizing rs with
  | nil =>
    simp only [List.mapM_nil, pure, Option.some.injEq] at h
    simp [← h]
  | cons x xs ih =>
    obtain ⟨r, rs', -, hxs, rfl⟩ := mapM_reply?_cons.mp h
    simp [ih hxs]

/-- The entries of a command are read as replies, and refused when one is not
an entry or when there are none. -/
theorem entries_eq (c raw : Value) :
    entries c raw =
      match (itemsOf raw).mapM reply? with
      | none => .error (match c.text? with | some t => .badEntry t | none => .unprintableCommand)
      | some [] => .error (match c.text? with | some t => .noEntries t | none => .unprintableCommand)
      | some rs => .ok rs := by
  cases raw <;> rfl

theorem entries_eq_ok {c raw : Value} {rs : List Reply} :
    entries c raw = .ok rs ↔ (itemsOf raw).mapM reply? = some rs ∧ rs ≠ [] := by
  rw [entries_eq]
  rcases (itemsOf raw).mapM reply? with _ | (_ | ⟨r, rs'⟩)
  · simp
  · simp
  · simp only [Except.ok.injEq, Option.some.injEq]
    exact ⟨fun h => ⟨h, h ▸ List.cons_ne_nil _ _⟩, And.left⟩

theorem recorded_eq (raw : Value) :
    recorded raw = (!(itemsOf raw).isEmpty && (itemsOf raw).all isEntry) := by
  cases raw <;> simp [recorded, itemsOf]

/-- A command's entries are taken exactly when they are recorded. -/
theorem entries_isOk_iff (c raw : Value) : (∃ rs, entries c raw = .ok rs) ↔ recorded raw := by
  simp only [entries_eq_ok, recorded_eq, Bool.and_eq_true, Bool.not_eq_true',
    List.isEmpty_eq_false_iff, ← mapM_reply?_isSome, Option.isSome_iff_exists]
  constructor
  · rintro ⟨rs, hrs, hne⟩
    refine ⟨fun hnil => hne ?_, rs, hrs⟩
    simpa [hnil] using length_of_mapM_reply? hrs
  · rintro ⟨hne, rs, hrs⟩
    refine ⟨rs, hrs, fun hnil => hne ?_⟩
    simpa [hnil] using (length_of_mapM_reply? hrs).symm

/-- Entries that are not recorded are refused with the command's fault. -/
theorem entries_of_not_recorded {c raw : Value} (h : recorded raw = false) :
    entries c raw = .error (faultOf c raw) := by
  rw [entries_eq]
  rcases hread : (itemsOf raw).mapM reply? with _ | (_ | ⟨r, rs⟩)
  · -- an entry is not a reply, so there are entries: a bad entry
    have hne : (itemsOf raw).isEmpty = false := by
      rcases hitems : itemsOf raw with _ | ⟨x, xs⟩
      · simp [hitems] at hread
      · rfl
    simp only [faultOf, hne]
    cases c.text? <;> rfl
  · -- no entries at all
    have hempty : (itemsOf raw).isEmpty = true := by
      simpa using (length_of_mapM_reply? hread).symm
    simp only [faultOf, hempty]
    cases c.text? <;> rfl
  · have := (entries_isOk_iff c raw).mp ⟨r :: rs, entries_eq_ok.mpr ⟨hread, by simp⟩⟩
    simp [h] at this

/-! ### Taking a fixture -/

theorem ofFixture_cons (c raw : Value) (rest : List (Value × Value)) :
    ofFixture ((c, raw) :: rest) =
      (do let rs ← entries c raw; let r ← ofFixture rest; pure ⟨(c, rs) :: r.queues⟩) := by
  simp only [ofFixture, List.mapM_cons, bind_assoc, pure_bind]

theorem ofFixture_cons_eq_ok {c raw : Value} {rest : List (Value × Value)} {r : Replay} :
    ofFixture ((c, raw) :: rest) = .ok r ↔
      ∃ rs r', entries c raw = .ok rs ∧ ofFixture rest = .ok r' ∧ r = ⟨(c, rs) :: r'.queues⟩ := by
  rw [ofFixture_cons]
  rcases entries c raw with e | rs
  · simp [bind, Except.bind]
  · rcases ofFixture rest with e' | r'
    · simp [bind, Except.bind]
    · simp only [bind, Except.bind, pure, Except.pure, Except.ok.injEq]
      constructor
      · rintro rfl
        exact ⟨rs, r', rfl, rfl, rfl⟩
      · rintro ⟨_, _, rfl, rfl, rfl⟩
        rfl

/-- A fixture is taken exactly when every command maps to recorded entries. -/
theorem ofFixture_isOk_iff (commands : List (Value × Value)) :
    (∃ r, ofFixture commands = .ok r) ↔ ∀ e ∈ commands, recorded e.2 = true := by
  induction commands with
  | nil => exact ⟨fun _ _ h => absurd h List.not_mem_nil, fun _ => ⟨⟨[]⟩, rfl⟩⟩
  | cons e rest ih =>
    obtain ⟨c, raw⟩ := e
    simp only [ofFixture_cons_eq_ok, List.forall_mem_cons, ← ih, ← entries_isOk_iff c raw]
    constructor
    · rintro ⟨r, rs, r', hrs, hr', -⟩
      exact ⟨⟨rs, hrs⟩, r', hr'⟩
    · rintro ⟨⟨rs, hrs⟩, r', hr'⟩
      exact ⟨_, rs, r', hrs, hr', rfl⟩

/-- A fixture is refused for its first command whose entries are not recorded,
with that command's fault. -/
theorem ofFixture_first_fault {c raw : Value} (pre post : List (Value × Value))
    (hpre : ∀ e ∈ pre, recorded e.2 = true) (hraw : recorded raw = false) :
    ofFixture (pre ++ (c, raw) :: post) = .error (faultOf c raw) := by
  induction pre with
  | nil =>
    rw [List.nil_append, ofFixture_cons, entries_of_not_recorded hraw]
    rfl
  | cons e pre ih =>
    obtain ⟨k, v⟩ := e
    obtain ⟨rs, hrs⟩ := (entries_isOk_iff k v).mpr (hpre _ List.mem_cons_self)
    rw [List.cons_append, ofFixture_cons, hrs,
      ih fun e he => hpre e (List.mem_cons_of_mem _ he)]
    rfl

/-- A command that is an integer too long to be written is not named: the
fixture is refused with the fault of writing the integer. -/
theorem long_integer_command_unnamed :
    (Value.int (Int.pow 16 3600)).text? = none ∧
      ofFixture [(.int (Int.pow 16 3600), .int 5)] = .error .unprintableCommand := by
  have htext : (Value.int (Int.pow 16 3600)).text? = none := by decide +kernel
  refine ⟨htext, ?_⟩
  rw [← List.nil_append [(_, _)], ofFixture_first_fault [] [] (by simp) rfl]
  simp only [faultOf, htext]

/-- The queue a taken fixture holds for a command: the replies read from the
entries of the first command with its name. -/
theorem queueOf_ofFixture {commands : List (Value × Value)} {r : Replay}
    (h : ofFixture commands = .ok r) (c : String) :
    r.queueOf c = (Value.lookup commands (.str c)).bind fun raw => (itemsOf raw).mapM reply? := by
  induction commands generalizing r with
  | nil =>
    cases h
    rfl
  | cons e rest ih =>
    obtain ⟨k, raw⟩ := e
    obtain ⟨rs, r', hrs, hr', rfl⟩ := ofFixture_cons_eq_ok.mp h
    by_cases hk : Value.eqv k (.str c) = true
    · simp [queueOf, Value.lookup, hk, (entries_eq_ok.mp hrs).1]
    · have hk' : Value.eqv k (.str c) = false := by simpa using hk
      simpa [queueOf, Value.lookup, hk'] using ih hr'

/-- A command of a taken fixture maps to recorded entries. -/
theorem recorded_of_lookup {commands : List (Value × Value)} {r : Replay}
    (h : ofFixture commands = .ok r) {c : Value} {raw : Value}
    (hraw : Value.lookup commands c = some raw) : recorded raw = true := by
  obtain ⟨e, he, rfl⟩ := Option.map_eq_some_iff.mp hraw
  exact (ofFixture_isOk_iff commands).mp ⟨r, h⟩ e (List.mem_of_find?_eq_some he)

/-! ### Answering -/

/-- A reply is popped while more than one is left; the last one stays. -/
def pop (q : List Reply) : List Reply := if 1 < q.length then q.tail else q

/-- An answer is the first reply of the command's queue, or not found. -/
theorem answer_snd (r : Replay) (c : String) :
    (r.answer c).2 = match (r.queueOf c).bind List.head? with
      | some first => first.outcome
      | none => notFound c := by
  unfold answer queueOf
  rcases hfind : r.queues.find? (fun e => Value.eqv e.1 (.str c)) with _ | ⟨k, _ | ⟨first, rest⟩⟩
  · simp only [hfind]
    rfl
  · simp only [hfind]
    rfl
  · simp only [hfind]
    cases first <;> rfl

/-- An answer keeps the backend, unless the command's queue has more than one
reply: then every queue of that command's name loses its first reply. -/
theorem answer_fst (r : Replay) (c : String) :
    (r.answer c).1 = match r.queueOf c with
      | some (_ :: rest) =>
        if rest.isEmpty then r
        else ⟨r.queues.map fun e => if Value.eqv e.1 (.str c) then (e.1, rest) else e⟩
      | _ => r := by
  unfold answer queueOf
  rcases hfind : r.queues.find? (fun e => Value.eqv e.1 (.str c)) with _ | ⟨k, _ | ⟨first, rest⟩⟩
  · simp only [hfind]
    rfl
  · simp only [hfind]
    rfl
  · simp only [hfind]
    cases first <;> rfl

/-- Replacing the queues of one name: the queue of that name is the new one,
every other name keeps its queue. -/
theorem queueOf_replace (r : Replay) (c c' : String) (rest : List Reply) :
    queueOf ⟨r.queues.map fun e => if Value.eqv e.1 (.str c) then (e.1, rest) else e⟩ c' =
      (r.queueOf c').map fun q => if c' = c then rest else q := by
  unfold queueOf
  have hkeys : ((fun e : Value × List Reply => Value.eqv e.1 (.str c')) ∘
      fun e => if Value.eqv e.1 (.str c) then (e.1, rest) else e) =
      fun e => Value.eqv e.1 (.str c') := by
    funext e
    simp only [Function.comp_apply]
    split <;> rfl
  rw [List.find?_map, hkeys, Option.map_map, Option.map_map]
  refine Option.map_congr fun e he => ?_
  have hkey : e.1 = .str c' := eqv_str_iff.mp (by simpa using List.find?_some he)
  by_cases hc : c' = c
  · simp [hkey, hc, Value.eqv]
  · have hnot : Value.eqv e.1 (.str c) = false := by
      rw [hkey]
      simpa [Value.eqv] using hc
    simp [hnot, hc]

/-- An answer pops the command's own queue. -/
theorem queueOf_answer_self (r : Replay) (c : String) :
    (r.answer c).1.queueOf c = (r.queueOf c).map pop := by
  rw [answer_fst]
  rcases hq : r.queueOf c with _ | (_ | ⟨first, rest⟩)
  · simp [hq]
  · simp [hq, pop]
  · by_cases hrest : rest.isEmpty
    · have hnil : rest = [] := List.isEmpty_iff.mp hrest
      subst hnil
      simp [hq, pop]
    · have hne : rest ≠ [] := fun h => hrest (List.isEmpty_iff.mpr h)
      simp only [hrest, Bool.false_eq_true, if_false, queueOf_replace, hq]
      simp [pop, hne]

/-- An answer leaves the queues of other commands alone. -/
theorem queueOf_answer_other (r : Replay) {c c' : String} (hne : c' ≠ c) :
    (r.answer c).1.queueOf c' = r.queueOf c' := by
  rw [answer_fst]
  rcases r.queueOf c with _ | (_ | ⟨first, rest⟩)
  · rfl
  · rfl
  · by_cases hrest : rest.isEmpty
    · simp [hrest]
    · simp [hrest, queueOf_replace, hne]

theorem drop_pop (q : List Reply) (k : Nat) :
    (pop q).drop (min k ((pop q).length - 1)) = q.drop (min (k + 1) (q.length - 1)) := by
  unfold pop
  split
  · rename_i hlen
    rw [List.drop_tail, List.length_tail]
    congr 1
    omega
  · rename_i hlen
    congr 1
    omega

/-- After a sequence of lookups a command's queue has lost one reply for each
lookup of it, down to its last reply. -/
theorem queueOf_afterAll (r : Replay) (cs : List String) (c : String) :
    (r.afterAll cs).queueOf c = (r.queueOf c).map fun q => q.drop (min (cs.count c) (q.length - 1)) := by
  induction cs generalizing r with
  | nil => simp [afterAll]
  | cons c' cs ih =>
    have hstep : r.afterAll (c' :: cs) = (r.answer c').1.afterAll cs := rfl
    rw [hstep, ih]
    by_cases hc : c' = c
    · subst hc
      rw [queueOf_answer_self, Option.map_map]
      refine Option.map_congr fun q _ => ?_
      simp only [Function.comp_apply, List.count_cons_self, drop_pop]
    · rw [queueOf_answer_other r (Ne.symm hc)]
      refine Option.map_congr fun q _ => ?_
      simp [hc]

/-- The `k`-th lookup of a command (after `k - 1` earlier ones) answers with its
entry `min k n` of `n`, or rejects a command the fixture lacks. -/
theorem answer_afterAll {commands : List (Value × Value)} {r : Replay}
    (h : ofFixture commands = .ok r) (cs : List String) (c : String) :
    ((r.afterAll cs).answer c).2 =
      match Value.lookup commands (.str c) with
      | none => notFound c
      | some raw =>
        entryAnswer ((itemsOf raw).getD (min (cs.count c) ((itemsOf raw).length - 1)) .null) := by
  rw [answer_snd, queueOf_afterAll, queueOf_ofFixture h]
  rcases hraw : Value.lookup commands (.str c) with _ | raw
  · rfl
  · have hrec := recorded_of_lookup h hraw
    obtain ⟨rs, hentries⟩ := (entries_isOk_iff (.str c) raw).mpr hrec
    obtain ⟨hrs, hne⟩ := entries_eq_ok.mp hentries
    have hlen := length_of_mapM_reply? hrs
    have hpos : min (cs.count c) ((itemsOf raw).length - 1) < (itemsOf raw).length := by
      have : 0 < rs.length := List.length_pos_iff.mpr hne
      omega
    have hsome : rs[min (cs.count c) ((itemsOf raw).length - 1)]? =
        some rs[min (cs.count c) ((itemsOf raw).length - 1)] :=
      List.getElem?_eq_getElem (by omega)
    have hget := getElem?_of_mapM_reply? hrs (min (cs.count c) ((itemsOf raw).length - 1))
    rw [List.getElem?_eq_getElem hpos, Option.bind_some, hsome] at hget
    simp only [hrs, Option.map_some, Option.bind_some, List.head?_drop, hlen, hsome,
      List.getD_eq_getElem?_getD, List.getElem?_eq_getElem hpos, Option.getD_some]
    exact outcome_of_reply? hget.symm

/-- Recording a call puts it at the end of the calls. -/
theorem Machine.record_calls (m : Machine) (who : Actor) (req : Request) (k : Pending) :
    (m.record who req k).calls = m.calls.push req := by
  cases who <;> rfl

/-- The recorded backend. A fixture is taken exactly when every command maps to
an entry (a dictionary with a `result` or an `error`) or to a non-empty list of
entries; otherwise it is refused for the first command that does not, with a
fault named by that command's text, or with the fault of writing the command
when it is an integer too long to be written. A taken fixture answers, after
any sequence of lookups, the next lookup of a command with its entry
`min k n` (for the `k`-th lookup of a command with `n` entries): a rejection
carrying the entry's `error` when it has one, else its `result`; a command the
fixture lacks is rejected as not found. Lookups of other commands do not
count. Every call a machine makes is recorded, command and arguments, at the
end of its calls. -/
theorem recorded_backend_answers :
    (∀ commands : List (Value × Value),
      (∃ r, ofFixture commands = .ok r) ↔ ∀ e ∈ commands, recorded e.2 = true) ∧
    (∀ (pre post : List (Value × Value)) (c raw : Value),
      (∀ e ∈ pre, recorded e.2 = true) → recorded raw = false →
        ofFixture (pre ++ (c, raw) :: post) = .error (faultOf c raw)) ∧
    (∀ (commands : List (Value × Value)) (r : Replay), ofFixture commands = .ok r →
      ∀ (cs : List String) (c : String),
        ((r.afterAll cs).answer c).2 =
          match Value.lookup commands (.str c) with
          | none => notFound c
          | some raw =>
            entryAnswer ((itemsOf raw).getD (min (cs.count c) ((itemsOf raw).length - 1)) .null)) ∧
    (∀ (m : Machine) (who : Actor) (req : Request) (k : Pending),
      (m.record who req k).calls = m.calls.push req) :=
  ⟨ofFixture_isOk_iff, fun pre post _ _ hpre hraw => ofFixture_first_fault pre post hpre hraw,
    fun _ _ h => answer_afterAll h, fun m who req k => Machine.record_calls m who req k⟩

end Replay

end ChatSession
