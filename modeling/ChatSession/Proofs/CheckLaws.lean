import Mathlib.Data.List.Nodup
import ChatSession.Schema.Check

/-!
Laws of checks.

A check succeeds exactly when each of its parts does (`Checked.seq_eq_ok_iff`,
`Checked.map_eq_ok`), so a checked record can be taken apart field by field.
The checks of lists, dictionaries and optional values accept the data that
their items' dumps make (`Check.list_map`, `Check.dict_map`,
`Check.optional_of_ne_null`); a dictionary check keeps one entry per key, each
checked from one of the input's values (`Check.dict_eq_ok`).

A value is JSON-safe when `jsonSafe` leaves it alone: it holds no infinite or
NaN double. The values of a JSON-safe dictionary are JSON-safe.
-/

namespace ChatSession

variable {α β : Type}

namespace Checked

theorem fmap_eq (f : α → β) (m : Checked α) : f <$> m = m.map f := rfl

theorem map_ok (f : α → β) (a : α) : (Checked.ok a).map f = .ok (f a) := rfl

theorem ok_seq (f : α → β) (m : Checked α) : (Checked.ok f <*> m) = m.map f := rfl

theorem under_ok (p : PathItem) (a : α) : (Checked.ok a).under p = .ok a := rfl

theorem map_eq_ok {f : α → β} {m : Checked α} {b : β} :
    m.map f = .ok b ↔ ∃ a, m = .ok a ∧ f a = b := by
  cases m <;> simp [map]

/-- A chain of checks succeeds when its last part does and the chain before it
succeeds on that value; rewriting with this, `map_seq` and `map_map` takes a
chain apart from its last field to its first. -/
theorem seq_eq_ok_iff {mf : Checked (α → β)} {mx : Checked α} {b : β} :
    (mf <*> mx) = .ok b ↔ ∃ a, mx = .ok a ∧ mf.map (· a) = .ok b := by
  cases mf <;> cases mx <;> simp [Seq.seq, seq, map]

theorem map_seq {γ : Type} (mf : Checked (α → β)) (mx : Checked α) (g : β → γ) :
    (mf <*> mx).map g = (mf.map fun f a => g (f a)) <*> mx := by
  cases mf <;> cases mx <;> rfl

theorem map_map {γ : Type} (m : Checked α) (f : α → β) (g : β → γ) :
    (m.map f).map g = m.map (g ∘ f) := by
  cases m <;> rfl

theorem under_eq_ok {m : Checked α} {p : PathItem} {a : α} :
    m.under p = .ok a ↔ m = .ok a := by
  cases m <;> simp [under]

end Checked

attribute [local simp] Checked.fmap_eq Checked.map_ok Checked.ok_seq Checked.under_ok
  Checked.under_eq_ok

namespace Check

theorem str_str (s : String) : Check.str (.str s) = .ok s := rfl

theorem int_int (n : Int) : Check.int (.int n) = .ok n := rfl

theorem bool_bool (b : Bool) : Check.bool (.bool b) = .ok b := rfl

theorem any_eq (v : Value) : Check.any v = .ok v := rfl

end Check

attribute [local simp] Check.str_str Check.int_int Check.bool_bool Check.any_eq

namespace Check

theorem optional_eq_ok_some {c : Check α} {v : Value} {a : α}
    (h : Check.optional c v = .ok (some a)) : c v = .ok a := by
  cases v with
  | null => simp [optional] at h
  | _ => simpa [optional, Checked.map_eq_ok] using h

/-! ### What checks accept of dumped data -/

theorem items_map {c : Check α} {f : α → Value} :
    ∀ (xs : List α) (i : Nat), (∀ x ∈ xs, c (f x) = .ok x) → items c (xs.map f) i = .ok xs
  | [], _, _ => rfl
  | x :: xs, i, h => by
    have hx : c (f x) = .ok x := h x List.mem_cons_self
    have hxs := items_map xs (i + 1) fun y hy => h y (List.mem_cons_of_mem x hy)
    simp [items, hx, hxs]

/-- A list of dumped items checks as the items. -/
theorem list_map {c : Check α} {f : α → Value} {xs : List α} (h : ∀ x ∈ xs, c (f x) = .ok x) :
    Check.list c (.list (xs.map f)) = .ok xs :=
  items_map xs 0 h

theorem list_strs (xs : List String) : Check.list Check.str (Value.strs xs) = .ok xs :=
  list_map fun x _ => str_str x

theorem entries_map {c : Check α} {f : α → Value} :
    ∀ (es : List (String × α)), (∀ e ∈ es, c (f e.2) = .ok e.2) →
      entries c (es.map fun e => (Value.str e.1, f e.2)) = .ok es
  | [], _ => rfl
  | (k, a) :: es, h => by
    have ha : c (f a) = .ok a := h (k, a) List.mem_cons_self
    have hes := entries_map es fun e he => h e (List.mem_cons_of_mem _ he)
    simp [entries, ha, hes]

/-! ### Dictionaries keep one entry per key -/

/-- One step of `distinct`: a key seen before takes the new value in its
place, a new key goes last. -/
def insertEntry (acc : List (String × α)) (e : String × α) : List (String × α) :=
  if acc.any (·.1 == e.1) then acc.map fun x => if x.1 == e.1 then e else x
  else acc ++ [e]

theorem distinct_eq_foldl (es : List (String × α)) : distinct es = es.foldl insertEntry [] := rfl

theorem map_fst_insertEntry (acc : List (String × α)) (e : String × α) :
    (insertEntry acc e).map (·.1) =
      if acc.any (·.1 == e.1) then acc.map (·.1) else acc.map (·.1) ++ [e.1] := by
  unfold insertEntry
  split_ifs with hk
  · -- the replaced entry keeps its key
    rw [List.map_map]
    refine List.map_congr_left fun x _ => ?_
    by_cases hx : x.1 = e.1 <;> simp [hx]
  · simp

theorem nodup_insertEntry {acc : List (String × α)} (hacc : (acc.map (·.1)).Nodup)
    (e : String × α) : ((insertEntry acc e).map (·.1)).Nodup := by
  rw [map_fst_insertEntry]
  split_ifs with hk
  · exact hacc
  · have hnew : e.1 ∉ acc.map (·.1) := fun hmem => by
      obtain ⟨x, hx, hxe⟩ := List.mem_map.mp hmem
      exact hk (List.any_eq_true.mpr ⟨x, hx, by simp [hxe]⟩)
    refine List.nodup_append.mpr ⟨hacc, List.nodup_singleton _, fun a ha b hb hab => ?_⟩
    rw [List.mem_singleton] at hb
    subst hb hab
    exact hnew ha

theorem mem_insertEntry {acc : List (String × α)} {e x : String × α}
    (hx : x ∈ insertEntry acc e) : x ∈ acc ∨ x = e := by
  unfold insertEntry at hx
  split_ifs at hx
  · obtain ⟨y, hy, rfl⟩ := List.mem_map.mp hx
    by_cases hye : y.1 = e.1 <;> simp_all
  · simpa using hx

theorem insertEntry_of_not_mem {acc : List (String × α)} {e : String × α}
    (he : e.1 ∉ acc.map (·.1)) : insertEntry acc e = acc ++ [e] := by
  have hk : acc.any (·.1 == e.1) = false :=
    List.any_eq_false.mpr fun x hx hxe => he (List.mem_map.mpr ⟨x, hx, by simpa using hxe⟩)
  simp [insertEntry, hk]

/-- The keys `distinct` keeps are distinct. -/
theorem nodup_distinct (es : List (String × α)) : ((distinct es).map (·.1)).Nodup := by
  rw [distinct_eq_foldl]
  -- every step keeps the keys of the accumulator distinct
  suffices h : ∀ acc : List (String × α), (acc.map (·.1)).Nodup →
      ((es.foldl insertEntry acc).map (·.1)).Nodup from h [] List.nodup_nil
  induction es with
  | nil => exact fun _ h => h
  | cons e es ih => exact fun acc hacc => ih _ (nodup_insertEntry hacc e)

/-- Every entry `distinct` keeps is an entry of its input. -/
theorem mem_distinct {es : List (String × α)} {x : String × α} (hx : x ∈ distinct es) :
    x ∈ es := by
  suffices h : ∀ acc : List (String × α), x ∈ es.foldl insertEntry acc → x ∈ acc ∨ x ∈ es by
    simpa using h [] (by rwa [distinct_eq_foldl] at hx)
  clear hx
  induction es with
  | nil => exact fun _ h => Or.inl h
  | cons e es ih =>
    intro acc hx
    rcases ih _ hx with hacc | hes
    · rcases mem_insertEntry hacc with h | rfl
      · exact Or.inl h
      · exact Or.inr List.mem_cons_self
    · exact Or.inr (List.mem_cons_of_mem e hes)

/-- Entries whose keys are already distinct pass `distinct` unchanged. -/
theorem distinct_of_nodup {es : List (String × α)} (h : (es.map (·.1)).Nodup) :
    distinct es = es := by
  rw [distinct_eq_foldl]
  suffices hfold : ∀ acc : List (String × α), ((acc ++ es).map (·.1)).Nodup →
      es.foldl insertEntry acc = acc ++ es by simpa using hfold [] (by simpa using h)
  clear h
  induction es with
  | nil => simp
  | cons e es ih =>
    intro acc hnd
    have hnew : e.1 ∉ acc.map (·.1) := by
      simp only [List.map_append, List.map_cons] at hnd
      exact fun hmem => (List.nodup_append.mp hnd).2.2 _ hmem _ List.mem_cons_self rfl
    have hrest : (((acc ++ [e]) ++ es).map (·.1)).Nodup := by simpa using hnd
    rw [List.foldl_cons, insertEntry_of_not_mem hnew, ih _ hrest]
    simp

/-- A dictionary of dumped values with distinct keys checks as its entries. -/
theorem dict_map {c : Check α} {f : α → Value} {es : List (String × α)}
    (hkeys : (es.map (·.1)).Nodup) (h : ∀ e ∈ es, c (f e.2) = .ok e.2) :
    Check.dict c (.dict (es.map fun e => (Value.str e.1, f e.2))) = .ok es := by
  simp [dict, entries_map es h, distinct_of_nodup hkeys]

theorem entries_eq_ok {c : Check α} :
    ∀ {kvs : List (Value × Value)} {es : List (String × α)}, entries c kvs = .ok es →
      ∀ e ∈ es, ∃ k v, (k, v) ∈ kvs ∧ c v = .ok e.2
  | [], es, h => by
    cases h
    simp
  | (k, v) :: kvs, es, h => by
    simp only [entries, Checked.fmap_eq, Checked.seq_eq_ok_iff, Checked.map_seq, Checked.map_map,
      Checked.map_eq_ok, Checked.under_eq_ok, Function.comp_def] at h
    obtain ⟨rest, hrest, w, hv, key, -, rfl⟩ := h
    intro e he
    rcases List.mem_cons.mp he with rfl | he
    · exact ⟨k, v, List.mem_cons_self, hv⟩
    · obtain ⟨k', v', hmem, hc⟩ := entries_eq_ok hrest e he
      exact ⟨k', v', List.mem_cons_of_mem _ hmem, hc⟩

/-- A checked dictionary has distinct keys, each entry checked from a value of
the input. -/
theorem dict_eq_ok {c : Check α} {v : Value} {es : List (String × α)}
    (h : Check.dict c v = .ok es) :
    ∃ kvs, v = .dict kvs ∧ (es.map (·.1)).Nodup ∧
      ∀ e ∈ es, ∃ k w, (k, w) ∈ kvs ∧ c w = .ok e.2 := by
  cases v with
  | dict kvs =>
    obtain ⟨es', hes', rfl⟩ := Checked.map_eq_ok.mp h
    exact ⟨kvs, rfl, nodup_distinct es', fun e he => entries_eq_ok hes' e (mem_distinct he)⟩
  | _ => simp [dict, fail] at h

/-- A value that is not null checks as optional by the check of the value. -/
theorem optional_of_ne_null {c : Check α} {v : Value} (hv : v ≠ .null) :
    Check.optional c v = (c v).map some := by
  cases v <;> simp_all [optional]

/-! ### Taking a checked record apart -/

theorem fields_eq_ok {title : String} {body : List (Value × Value) → Checked α} {v : Value}
    {a : α} : Check.fields title body v = .ok a ↔ ∃ kvs, v = .dict kvs ∧ body kvs = .ok a := by
  cases v <;> simp [fields, fail]

/-- A checked field was given and passed its check, or was left out and took
its default. -/
theorem field_eq_ok {kvs : List (Value × Value)} {name : String} {dflt : α} {c : Check α}
    {a : α} (h : Check.field kvs name dflt c = .ok a) :
    (∃ v, Value.field? kvs name = some v ∧ c v = .ok a) ∨ a = dflt := by
  unfold field at h
  split at h
  · next v hv => exact .inl ⟨v, hv, by simpa using h⟩
  · next => exact .inr (Checked.ok.inj h).symm

end Check

namespace Value

/-- Reading a field of a record dumped with text keys. -/
theorem field?_cons_str (k name : String) (v : Value) (kvs : List (Value × Value)) :
    field? ((.str k, v) :: kvs) name = if k = name then some v else field? kvs name := by
  by_cases h : k = name <;> simp [field?, lookup, eqv, h]

theorem field?_nil (name : String) : field? [] name = none := rfl

/-- The value found under a name is the value of an entry. -/
theorem mem_of_field? {kvs : List (Value × Value)} {name : String} {v : Value}
    (h : field? kvs name = some v) : ∃ k, (k, v) ∈ kvs := by
  unfold field? lookup at h
  obtain ⟨e, he, rfl⟩ := Option.map_eq_some_iff.mp h
  exact ⟨e.1, List.mem_of_find?_eq_some he⟩

/-! ### JSON-safe values -/

theorem jsonSafe_dict (kvs : List (Value × Value)) :
    (Value.dict kvs).jsonSafe = .dict (jsonSafeDict kvs) := by
  simp [jsonSafe]

theorem jsonSafe_list (xs : List Value) : (Value.list xs).jsonSafe = .list (jsonSafeList xs) := by
  simp [jsonSafe]

theorem jsonSafeList_eq_self_iff {xs : List Value} :
    jsonSafeList xs = xs ↔ ∀ x ∈ xs, x.jsonSafe = x := by
  induction xs with
  | nil => simp [jsonSafeList]
  | cons x xs ih => simp [jsonSafeList, ih]

theorem jsonSafeDict_eq_self_iff {kvs : List (Value × Value)} :
    jsonSafeDict kvs = kvs ↔ ∀ e ∈ kvs, e.2.jsonSafe = e.2 := by
  induction kvs with
  | nil => simp [jsonSafeDict]
  | cons e kvs ih =>
    obtain ⟨k, v⟩ := e
    simp [jsonSafeDict, ih]

/-- The values of a JSON-safe dictionary are JSON-safe. -/
theorem jsonSafe_of_mem_dict {kvs : List (Value × Value)} (h : (Value.dict kvs).jsonSafe = .dict kvs)
    {k v : Value} (hkv : (k, v) ∈ kvs) : v.jsonSafe = v := by
  simp only [jsonSafe_dict, dict.injEq] at h
  exact jsonSafeDict_eq_self_iff.mp h (k, v) hkv

/-- The items of a JSON-safe list are JSON-safe. -/
theorem jsonSafe_of_mem_list {xs : List Value} (h : (Value.list xs).jsonSafe = .list xs)
    {x : Value} (hx : x ∈ xs) : x.jsonSafe = x := by
  simp only [jsonSafe_list, list.injEq] at h
  exact jsonSafeList_eq_self_iff.mp h x hx

/-- A field of a JSON-safe record is JSON-safe. -/
theorem jsonSafe_of_field? {kvs : List (Value × Value)} (h : (Value.dict kvs).jsonSafe = .dict kvs)
    {name : String} {v : Value} (hv : field? kvs name = some v) : v.jsonSafe = v := by
  obtain ⟨k, hkv⟩ := mem_of_field? hv
  exact jsonSafe_of_mem_dict h hkv

end Value

namespace Check

/-- A dictionary checked from JSON-safe data has distinct keys, each entry
checked from a JSON-safe value. -/
theorem dict_eq_ok_of_safe {c : Check α} {v : Value} {es : List (String × α)}
    (h : Check.dict c v = .ok es) (hv : v.jsonSafe = v) :
    (es.map (·.1)).Nodup ∧ ∀ e ∈ es, ∃ w : Value, w.jsonSafe = w ∧ c w = .ok e.2 := by
  obtain ⟨kvs, rfl, hkeys, hfrom⟩ := dict_eq_ok h
  refine ⟨hkeys, fun e he => ?_⟩
  obtain ⟨k, w, hkw, hw⟩ := hfrom e he
  exact ⟨w, Value.jsonSafe_of_mem_dict hv hkw, hw⟩

end Check

end ChatSession
