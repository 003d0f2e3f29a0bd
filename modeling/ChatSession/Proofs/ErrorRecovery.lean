import ChatSession.Proofs.RoundTrip
import ChatSession.Backend.Rejection

/-!
Reading a rejection: structured errors are recovered, everything else is text.

A rejection's payload carries a structured error (`Carries`) when it is one,
when it is a dictionary with a true `message` whose fields check as one, or
when it is text or bytes whose JSON is such a dictionary. Reading the payload
gives that error exactly when the payload carries it
(`ofPayload_eq_api_iff`); a payload that carries none is read as its text
(`ofPayload_eq_text`), unless its JSON nests deeper than the reader goes
(`Payload.NestsTooDeep`), which stops the reading. A structured error is
recovered from a dictionary only through a true message, so one built from a
payload other than a structured error has a message that is not empty
(`Carries.message_ne_empty`). Main statement: `rejection_read_recovers`.
-/

namespace ChatSession

/-! ### Text of bytes -/

/-- Decoding UTF-8 adds a code point for each sequence it reads: it ends with
at least the points it started with, and one more once a byte was read. -/
theorem Encoding.points8_grows {sur : Bool} {acc : List Nat} {bs : List UInt8} {ps : List Nat}
    (h : Encoding.points8 sur acc bs = some ps) :
    acc.length + (if bs = [] then 0 else 1) ≤ ps.length := by
  fun_induction Encoding.points8 sur acc bs generalizing ps
  case case1 => cases h; simp
  case case2 | case4 | case7 | case10 =>
    rename_i ih
    have hrest := ih h
    simp only [List.length_cons] at hrest
    split at hrest
    · simp
      omega
    · simp
      omega
  all_goals simp at h

theorem CodePoint.chars_ne_nil (n : Nat) : CodePoint.chars n ≠ [] := by
  unfold CodePoint.chars
  split
  · simp
  · split <;> simp

/-- Bytes that are UTF-8 text are not the empty text, unless there are none. -/
theorem Check.utf8?_ne_empty {bs : List UInt8} {s : String} (hbs : bs ≠ [])
    (h : Check.utf8? bs = some s) : s ≠ "" := by
  simp only [Check.utf8?, Encoding.decode, Encoding.decodePoints, Option.map_eq_some_iff] at h
  obtain ⟨ps, hps, rfl⟩ := h
  have hlen := Encoding.points8_grows hps
  obtain ⟨p, rest, rfl⟩ : ∃ p rest, ps = p :: rest := by
    cases ps with
    | nil => simp [hbs] at hlen
    | cons p rest => exact ⟨p, rest, rfl⟩
  simp [CodePoint.text, String.ofList_eq_empty_iff, CodePoint.chars_ne_nil]

/-- A true value that checks as text is not the empty text. -/
theorem Check.str_ne_empty {m : Value} {s : String} (hm : m.truthy = true)
    (h : Check.str m = .ok s) : s ≠ "" := by
  cases m with
  | str t =>
    cases h
    simpa [Value.truthy] using hm
  | bytes bs =>
    simp only [Check.str] at h
    split at h
    · cases h
      exact Check.utf8?_ne_empty (by simpa [Value.truthy] using hm) ‹_›
    · simp [Check.fail] at h
  | _ => simp [Check.str, Check.fail] at h

/-- A structured error checked from a dictionary has the dictionary's message,
checked as text. -/
theorem ApiError.check_message {kvs : List (Value × Value)} {e : ApiError}
    (h : ApiError.check (.dict kvs) = .ok e) :
    ∃ m, Value.field? kvs "message" = some m ∧ Check.str m = .ok e.message := by
  simp only [ApiError.check, Check.fields, Checked.fmap_eq, Checked.seq_eq_ok_iff, Checked.map_seq,
    Checked.map_map, Checked.map_eq_ok] at h
  obtain ⟨d, -, c, -, b, hb, a, -, rfl⟩ := h
  unfold Check.need at hb
  split at hb
  · exact ⟨_, ‹_›, Checked.under_eq_ok.1 hb⟩
  · cases hb

/-! ### What a payload carries -/

/-- The structured error a payload carries: a structured error itself; a
dictionary with a true `message` whose fields check as that error; text or
bytes whose JSON, read at most `limit` deep, is such a dictionary. -/
inductive Carries (limit : Nat) : Payload → ApiError → Prop
  | apiError (e : ApiError) : Carries limit (.apiError e) e
  | dict {kvs : List (Value × Value)} {m : Value} {e : ApiError} :
      Value.field? kvs "message" = some m → m.truthy = true → ApiError.check (.dict kvs) = .ok e →
      Carries limit (.data (.dict kvs)) e
  | text {s : String} {kvs : List (Value × Value)} {e : ApiError} :
      Value.ofJsonWithin limit s = .ok (.dict kvs) → Carries limit (.data (.dict kvs)) e →
      Carries limit (.data (.str s)) e
  | bytes {bs : List UInt8} {kvs : List (Value × Value)} {e : ApiError} :
      Value.ofJsonBytes limit bs = .ok (.dict kvs) → Carries limit (.data (.dict kvs)) e →
      Carries limit (.data (.bytes bs)) e

/-- Text or bytes whose JSON nests deeper than the reader goes. -/
def Payload.NestsTooDeep (limit : Nat) : Payload → Prop
  | .data (.str s) => ∃ b, Value.ofJsonWithin limit s = .error (.nestedTooDeep b)
  | .data (.bytes bs) => ∃ b, Value.ofJsonBytes limit bs = .error (.nestedTooDeep b)
  | _ => False

namespace Carries

variable {limit : Nat} {e : ApiError}

theorem dict_iff {kvs : List (Value × Value)} :
    Carries limit (.data (.dict kvs)) e ↔ Payload.structured? kvs = some e := by
  constructor
  · rintro (_ | ⟨hm, htrue, hcheck⟩)
    simp [Payload.structured?, hm, htrue, hcheck, Checked.toOption]
  · intro h
    simp only [Payload.structured?] at h
    split at h
    · rename_i m hm
      split at h
      · rename_i htrue
        refine .dict hm htrue ?_
        cases hc : ApiError.check (.dict kvs) <;> simp_all [Checked.toOption]
      · cases h
    · cases h

theorem str_iff {s : String} :
    Carries limit (.data (.str s)) e ↔
      ∃ kvs, Value.ofJsonWithin limit s = .ok (.dict kvs) ∧ Payload.structured? kvs = some e := by
  constructor
  · rintro (_ | _ | ⟨hs, hkvs⟩)
    exact ⟨_, hs, dict_iff.1 hkvs⟩
  · rintro ⟨kvs, hs, hkvs⟩
    exact .text hs (dict_iff.2 hkvs)

theorem bytes_iff {bs : List UInt8} :
    Carries limit (.data (.bytes bs)) e ↔
      ∃ kvs, Value.ofJsonBytes limit bs = .ok (.dict kvs) ∧ Payload.structured? kvs = some e := by
  constructor
  · rintro (_ | _ | _ | ⟨hbs, hkvs⟩)
    exact ⟨_, hbs, dict_iff.1 hkvs⟩
  · rintro ⟨kvs, hbs, hkvs⟩
    exact .bytes hbs (dict_iff.2 hkvs)

/-- An error built from anything but a structured error has a message that is
not empty: it was recovered through a true message. -/
theorem message_ne_empty {limit : Nat} {p : Payload} {e : ApiError} (h : Carries limit p e)
    (hp : ∀ e', p ≠ .apiError e') : e.message ≠ "" := by
  induction h with
  | apiError e => exact absurd rfl (hp e)
  | dict hm htrue hcheck =>
    obtain ⟨m', hm', hstr⟩ := ApiError.check_message hcheck
    rw [hm] at hm'
    cases hm'
    exact Check.str_ne_empty htrue hstr
  | text _ _ ih => exact ih fun _ => nofun
  | bytes _ _ ih => exact ih fun _ => nofun

/-- A structured error with a message is carried by its dump. -/
theorem of_toValue (limit : Nat) {e : ApiError} (he : e.message ≠ "") :
    Carries limit (.data e.toValue) e := by
  have hcheck := ApiError.check_toValue e
  simp only [ApiError.toValue, Value.obj, List.map] at hcheck ⊢
  refine .dict (m := .str e.message) ?_ (by simpa [Value.truthy] using he) hcheck
  simp [Value.field?, Value.lookup, Value.eqv]

end Carries

/-! ### Reading a payload -/

section read

variable {limit : Nat} {e : ApiError}

/-- The last stage of reading: a structured error found is the error, none
found falls back to the text. -/
theorem bind_found_eq_api {x : Except ReadFault (Option ApiError)} {t : String} :
    (x >>= fun found => pure (match found with | some e => CallError.api e | none => .text t)) =
      .ok (.api e) ↔ x = .ok (some e) := by
  rcases x with f | (_ | e') <;> simp [bind, Except.bind, pure, Except.pure]

theorem bind_found_of_none {x : Except ReadFault (Option ApiError)} {t : String} (hx : x = .ok none) :
    (x >>= fun found => pure (match found with | some e => CallError.api e | none => .text t)) =
      .ok (.text t) := by
  subst hx
  rfl

theorem fromJson_eq_some {r : Except JsonError Value} :
    Payload.fromJson r = .ok (some e) ↔
      ∃ kvs, r = .ok (.dict kvs) ∧ Payload.structured? kvs = some e := by
  unfold Payload.fromJson
  split <;> simp_all

/-- A JSON reading finds no structured error when it did not stop for nesting
and gave no dictionary that carries one. -/
theorem fromJson_eq_none {r : Except JsonError Value} (hdeep : ∀ b, r ≠ .error (.nestedTooDeep b))
    (hnone : ∀ kvs e, r = .ok (.dict kvs) → Payload.structured? kvs ≠ some e) :
    Payload.fromJson r = .ok none := by
  unfold Payload.fromJson
  split
  · rename_i kvs
    cases h : Payload.structured? kvs with
    | none => rfl
    | some e => exact absurd h (hnone kvs e rfl)
  · exact absurd rfl (hdeep _)
  · rfl

/-- Reading a payload gives a structured error exactly when the payload carries it. -/
theorem ofPayload_eq_api_iff (p : Payload) :
    CallError.ofPayload limit p = .ok (.api e) ↔ Carries limit p e := by
  cases p with
  | apiError e' =>
    simp only [CallError.ofPayload]
    constructor
    · intro h
      cases h
      exact .apiError e
    · rintro ⟨⟩
      rfl
  | data v =>
    cases v with
    | str s => rw [Carries.str_iff, ← fromJson_eq_some]; exact bind_found_eq_api
    | bytes bs => rw [Carries.bytes_iff, ← fromJson_eq_some]; exact bind_found_eq_api
    | dict kvs =>
      rw [Carries.dict_iff]
      simp only [CallError.ofPayload]
      exact bind_found_eq_api.trans (by simp [pure, Except.pure])
    | _ =>
      simp only [CallError.ofPayload]
      exact bind_found_eq_api.trans (iff_of_false (by simp [pure, Except.pure]) nofun)
  | object t txt =>
    simp only [CallError.ofPayload]
    exact bind_found_eq_api.trans (iff_of_false (by simp [pure, Except.pure]) nofun)

/-- A payload that carries no structured error is read as its text, unless its
JSON nests deeper than the reader goes. -/
theorem ofPayload_eq_text (p : Payload) (hdeep : ¬ p.NestsTooDeep limit)
    (hno : ∀ e, ¬ Carries limit p e) : CallError.ofPayload limit p = .ok (.text p.text) := by
  cases p with
  | apiError e => exact absurd (.apiError e) (hno e)
  | data v =>
    cases v with
    | str s =>
      refine bind_found_of_none (fromJson_eq_none (fun b hb => hdeep ⟨b, hb⟩) fun kvs e hs hkvs => ?_)
      exact hno e (Carries.str_iff.2 ⟨kvs, hs, hkvs⟩)
    | bytes bs =>
      refine bind_found_of_none (fromJson_eq_none (fun b hb => hdeep ⟨b, hb⟩) fun kvs e hbs hkvs => ?_)
      exact hno e (Carries.bytes_iff.2 ⟨kvs, hbs, hkvs⟩)
    | dict kvs =>
      refine bind_found_of_none ?_
      cases h : Payload.structured? kvs with
      | none => rfl
      | some e => exact absurd (Carries.dict_iff.2 h) (hno e)
    | _ => rfl
  | object t txt => rfl

end read

/-- Reading a rejection recovers every structured error and otherwise falls back
to text. It gives a structured error exactly when the payload carries one, and
then that error; a payload that carries none, and whose JSON does not nest
deeper than the reader goes, is read as its text, text itself as it is. An
error built from a payload other than a structured error has a message that is
not empty. A structured error with a message comes back from itself, from its
dump, and from any text or bytes whose JSON is its dump. -/
theorem rejection_read_recovers (limit : Nat) :
    (∀ p e, CallError.ofPayload limit p = .ok (.api e) ↔ Carries limit p e) ∧
    (∀ p, ¬ p.NestsTooDeep limit → (∀ e, ¬ Carries limit p e) →
      CallError.ofPayload limit p = .ok (.text p.text)) ∧
    (∀ s, (Payload.data (.str s)).text = s) ∧
    (∀ p e, CallError.ofPayload limit p = .ok (.api e) → (∀ e', p ≠ .apiError e') →
      e.message ≠ "") ∧
    (∀ e : ApiError, e.message ≠ "" →
      CallError.ofPayload limit (.apiError e) = .ok (.api e) ∧
      CallError.ofPayload limit (.data e.toValue) = .ok (.api e) ∧
      (∀ s, Value.ofJsonWithin limit s = .ok e.toValue →
        CallError.ofPayload limit (.data (.str s)) = .ok (.api e)) ∧
      (∀ bs, Value.ofJsonBytes limit bs = .ok e.toValue →
        CallError.ofPayload limit (.data (.bytes bs)) = .ok (.api e))) := by
  refine ⟨fun p e => ofPayload_eq_api_iff p, fun p => ofPayload_eq_text p, fun s => rfl,
    fun p e h hp => (ofPayload_eq_api_iff p).1 h |>.message_ne_empty hp, fun e he => ?_⟩
  have hdump := Carries.of_toValue limit he
  simp only [ApiError.toValue, Value.obj, List.map] at hdump ⊢
  refine ⟨rfl, (ofPayload_eq_api_iff _).2 hdump, fun s hs => ?_, fun bs hbs => ?_⟩
  · exact (ofPayload_eq_api_iff _).2 (.text hs hdump)
  · exact (ofPayload_eq_api_iff _).2 (.bytes hbs hdump)

/-- A structured error built beforehand passes as it is, even with an empty message. -/
theorem prebuilt_error_passes_with_empty_message :
    CallError.ofPayload Payload.nestingAlone (.apiError ⟨"", "", "", 0⟩) = .ok (.api ⟨"", "", "", 0⟩) ∧
      (⟨"", "", "", 0⟩ : ApiError).message = "" :=
  ⟨rfl, rfl⟩

end ChatSession
