import Mathlib.Data.List.Find
import Mathlib.Data.List.Induction
import ChatSession.Proofs.RoundTrip

/-!
A thread's posts sent as a list.

Some endpoints send a thread's posts as a list. Its dictionaries are filed
under their ids (`PostThread.keyById`), a repeated id keeping its first place and
taking the later item (`Value.ofEntries`); then each id is read as text and each
item checked as a post, and ids that read as the same text are merged the same
way once more (`Check.distinct`).

`Check.distinct` keeps each key at the place it first occurs, with the last
value given for it (`Check.map_fst_distinct`, `Check.find?_reverse_of_mem_distinct`).
Filing under the ids and reading them as text afterwards is filing under the
texts (`Value.map_ofEntries`), as long as two ids that read as the same text are
the same id. A text id and the bytes of that text are not: they are two keys
before they are read and one after, which keeps the post of an item that is not
the last of its id (`bytes_and_text_id_keep_middle_post`). For every other list
a thread checked from it keys each dictionary item by its id, in the order the
ids first occur, with the post checked from the last item of that id; every key
is its post's id, and the missing ids are the ids of the order that key no post.
Main statement: `listed_posts_keyed_by_id`.
-/

namespace ChatSession

variable {α : Type}

namespace Check

/-- The text a key reads as, empty when it reads as none. -/
def keyText (k : Value) : String := (Check.str k).toOption.getD ""

theorem keyText_of_str {k : Value} {s : String} (h : Check.str k = .ok s) : keyText k = s := by
  simp [keyText, h, Checked.toOption]

/-- A key that reads as text is text or bytes, and only itself is equal to it. -/
theorem eq_of_eqv_of_str {k x : Value} {s : String} (hk : Check.str k = .ok s)
    (h : Value.eqv k x = true) : x = k := by
  cases k <;> simp [str, fail] at hk
  all_goals cases x <;> simp_all [Value.eqv, Value.isNumber]

theorem distinct_append_singleton (xs : List (String × α)) (x : String × α) :
    distinct (xs ++ [x]) = insertEntry (distinct xs) x := by
  rw [distinct_eq_foldl, distinct_eq_foldl, List.foldl_append]
  rfl

/-- The keys `distinct` keeps are the keys of its input, each where it first occurs. -/
theorem map_fst_distinct (xs : List (String × α)) :
    (distinct xs).map (·.1) = (xs.map (·.1)).eraseDups := by
  induction xs using List.reverseRecOn with
  | nil => rfl
  | append_singleton xs x ih =>
    rw [distinct_append_singleton, map_fst_insertEntry, List.map_append, List.eraseDups_append, ← ih]
    by_cases hx : (distinct xs).any (·.1 == x.1)
    · -- a key seen before adds nothing
      have hmem : x.1 ∈ xs.map (·.1) := by
        rw [← List.mem_eraseDups, ← ih]
        obtain ⟨y, hy, hyx⟩ := List.any_eq_true.mp hx
        exact List.mem_map.mpr ⟨y, hy, by simpa using hyx⟩
      simp [hx, List.removeAll, hmem]
    · have hnot : x.1 ∉ xs.map (·.1) := by
        rw [← List.mem_eraseDups, ← ih]
        intro hmem
        obtain ⟨y, hy, hyx⟩ := List.mem_map.mp hmem
        exact hx (List.any_eq_true.mpr ⟨y, hy, by simp [hyx]⟩)
      simp [hx, List.removeAll, hnot, List.eraseDups_cons]

/-- An entry inserted under another key was there before. -/
theorem mem_of_mem_insertEntry {acc : List (String × α)} {x y : String × α}
    (hx : x ∈ insertEntry acc y) (hne : x.1 ≠ y.1) : x ∈ acc := by
  unfold insertEntry at hx
  split_ifs at hx
  · obtain ⟨z, hz, hzx⟩ := List.mem_map.mp hx
    by_cases hzy : z.1 = y.1
    · simp only [hzy, beq_self_eq_true, if_true] at hzx
      exact absurd (congrArg Prod.fst hzx).symm hne
    · simp only [beq_iff_eq, hzy, if_false] at hzx
      exact hzx ▸ hz
  · rcases List.mem_append.mp hx with hx | hx
    · exact hx
    · exact absurd (congrArg Prod.fst (List.mem_singleton.mp hx)) hne

/-- After an insertion the entry of the inserted key is the inserted entry. -/
theorem eq_of_mem_insertEntry {acc : List (String × α)} {x y : String × α}
    (hx : x ∈ insertEntry acc y) (hkey : x.1 = y.1) : x = y := by
  unfold insertEntry at hx
  split_ifs at hx with hany
  · obtain ⟨z, hz, hzx⟩ := List.mem_map.mp hx
    by_cases hzy : z.1 = y.1
    · simpa [hzy] using hzx.symm
    · simp only [beq_iff_eq, hzy, if_false] at hzx
      exact absurd (hzx ▸ hkey) hzy
  · rcases List.mem_append.mp hx with hx | hx
    · exact absurd (List.any_eq_true.mpr ⟨x, hx, by simp [hkey]⟩) hany
    · exact List.mem_singleton.mp hx

/-- Each entry `distinct` keeps is the last entry of its key. -/
theorem find?_reverse_of_mem_distinct {xs : List (String × α)} {x : String × α}
    (hx : x ∈ distinct xs) : xs.reverse.find? (·.1 == x.1) = some x := by
  induction xs using List.reverseRecOn with
  | nil => simp [distinct] at hx
  | append_singleton xs y ih =>
    rw [distinct_append_singleton] at hx
    rw [List.reverse_append, List.reverse_singleton, List.singleton_append, List.find?_cons]
    by_cases hkey : y.1 = x.1
    · obtain rfl := eq_of_mem_insertEntry hx hkey.symm
      simp
    · have hne : (y.1 == x.1) = false := beq_eq_false_iff_ne.mpr hkey
      simp [hne, ih (mem_of_mem_insertEntry hx (Ne.symm hkey))]

/-- A checked dictionary: every key reads as text, every value passes the check. -/
theorem mem_entries {c : Check α} :
    ∀ {kvs : List (Value × Value)} {es : List (String × α)}, entries c kvs = .ok es →
      (∀ kv ∈ kvs, ∃ s, Check.str kv.1 = .ok s) ∧ es.map (·.1) = kvs.map (keyText ·.1) ∧
        ∀ e ∈ es, ∃ kv ∈ kvs, Check.str kv.1 = .ok e.1 ∧ c kv.2 = .ok e.2
  | [], es, h => by
    cases h
    simp
  | (k, v) :: kvs, es, h => by
    simp only [entries, Checked.fmap_eq, Checked.seq_eq_ok_iff, Checked.map_seq, Checked.map_map,
      Checked.map_eq_ok, Checked.under_eq_ok, Function.comp_def] at h
    obtain ⟨rest, hrest, w, hv, key, hkey, rfl⟩ := h
    obtain ⟨hkeys, hmap, hmem⟩ := mem_entries hrest
    refine ⟨?_, ?_, ?_⟩
    · intro kv hkv
      rcases List.mem_cons.mp hkv with rfl | hkv
      · exact ⟨key, hkey⟩
      · exact hkeys kv hkv
    · simp [hmap, keyText_of_str hkey]
    · intro e he
      rcases List.mem_cons.mp he with rfl | he
      · exact ⟨(k, v), List.mem_cons_self, hkey, hv⟩
      · obtain ⟨kv, hkv, hk, hc⟩ := hmem e he
        exact ⟨kv, List.mem_cons_of_mem _ hkv, hk, hc⟩

end Check

namespace Value

theorem ofEntries_append_singleton (es : List (Value × Value)) (e : Value × Value) :
    ofEntries (es ++ [e]) = assign (ofEntries es) e.1 e.2 := by
  simp only [ofEntries, List.foldl_append, List.foldl_cons, List.foldl_nil]

/-- Every key of a dictionary built from entries is the key of one of them. -/
theorem key_of_mem_ofEntries {es : List (Value × Value)} {x : Value × Value}
    (hx : x ∈ ofEntries es) : ∃ y ∈ es, y.1 = x.1 := by
  induction es using List.reverseRecOn generalizing x with
  | nil => simp [ofEntries] at hx
  | append_singleton es e ih =>
    rw [ofEntries_append_singleton] at hx
    unfold assign at hx
    split_ifs at hx
    · -- an assignment keeps the keys
      obtain ⟨z, hz, rfl⟩ := List.mem_map.mp hx
      obtain ⟨y, hy, hyz⟩ := ih hz
      refine ⟨y, List.mem_append_left _ hy, ?_⟩
      split <;> simp [hyz]
    · rcases List.mem_append.mp hx with hx | hx
      · obtain ⟨y, hy, hyx⟩ := ih hx
        exact ⟨y, List.mem_append_left _ hy, hyx⟩
      · exact ⟨e, by simp, by simp_all⟩

/-- Every entry's key is kept, or a kept key is equal to it. -/
theorem covered_of_mem {es : List (Value × Value)} {e : Value × Value} (he : e ∈ es) :
    ∃ x ∈ ofEntries es, x.1 = e.1 ∨ eqv x.1 e.1 = true := by
  induction es using List.reverseRecOn generalizing e with
  | nil => simp at he
  | append_singleton es y ih =>
    rw [ofEntries_append_singleton]
    have hstay : ∀ x ∈ ofEntries es, ∃ x' ∈ assign (ofEntries es) y.1 y.2, x'.1 = x.1 := by
      intro x hx
      unfold assign
      split_ifs
      · refine ⟨if eqv x.1 y.1 then (x.1, y.2) else x, List.mem_map.mpr ⟨x, hx, rfl⟩, ?_⟩
        split <;> rfl
      · exact ⟨x, List.mem_append_left _ hx, rfl⟩
    rcases List.mem_append.mp he with he | he
    · obtain ⟨x, hx, hxe⟩ := ih he
      obtain ⟨x', hx', hx'x⟩ := hstay x hx
      exact ⟨x', hx', hx'x ▸ hxe⟩
    · rw [List.mem_singleton] at he
      subst he
      unfold assign
      split_ifs with hany
      · obtain ⟨x, hx, hxy⟩ := List.any_eq_true.mp hany
        refine ⟨(x.1, e.2), List.mem_map.mpr ⟨x, hx, by simp [hxy]⟩, Or.inr hxy⟩
      · exact ⟨(e.1, e.2), by simp, Or.inl rfl⟩

/-- Filing entries under their keys and then renaming the keys is filing them
under the new names, when two keys have one name exactly when they are equal. -/
theorem map_ofEntries (g : Value → String) {es : List (Value × Value)}
    (hg : ∀ a ∈ es, ∀ b ∈ es, eqv a.1 b.1 = true ↔ g a.1 = g b.1) :
    (ofEntries es).map (fun e => (g e.1, e.2)) = Check.distinct (es.map fun e => (g e.1, e.2)) := by
  induction es using List.reverseRecOn with
  | nil => rfl
  | append_singleton es e ih =>
    have hg' : ∀ a ∈ es, ∀ b ∈ es, eqv a.1 b.1 = true ↔ g a.1 = g b.1 :=
      fun a ha b hb => hg a (List.mem_append_left _ ha) b (List.mem_append_left _ hb)
    -- the kept keys are keys of `es`, so they meet `e`'s key as the names do
    have hkept : ∀ x ∈ ofEntries es, eqv x.1 e.1 = true ↔ g x.1 = g e.1 := by
      intro x hx
      obtain ⟨y, hy, hyx⟩ := key_of_mem_ofEntries hx
      rw [← hyx]
      exact hg y (List.mem_append_left _ hy) e (by simp)
    rw [ofEntries_append_singleton, List.map_append, List.map_singleton,
      Check.distinct_append_singleton, ← ih hg']
    have hany : (ofEntries es).any (fun x => eqv x.1 e.1) =
        ((ofEntries es).map fun x => (g x.1, x.2)).any (·.1 == (g e.1, e.2).1) := by
      rw [List.any_map, Bool.eq_iff_iff]
      simp only [List.any_eq_true, Function.comp_apply, beq_iff_eq]
      exact ⟨fun ⟨x, hx, h⟩ => ⟨x, hx, (hkept x hx).mp h⟩,
        fun ⟨x, hx, h⟩ => ⟨x, hx, (hkept x hx).mpr h⟩⟩
    unfold assign Check.insertEntry
    rw [← hany]
    split_ifs
    · rw [List.map_map, List.map_map]
      refine List.map_congr_left fun x hx => ?_
      by_cases hxe : eqv x.1 e.1 = true
      · have hname : g x.1 = g e.1 := (hkept x hx).mp hxe
        simp [hxe, hname]
      · have hname : g x.1 ≠ g e.1 := fun h => hxe ((hkept x hx).mpr h)
        simp [hxe, hname]
    · simp

end Value

namespace Post

/-- A checked post's id is the text its `id` reads as. -/
theorem id_of_check {kvs : List (Value × Value)} {p : Post} (h : check (.dict kvs) = .ok p) :
    Check.need kvs "id" Check.str = .ok p.id := by
  simp only [check, Check.fields, Checked.fmap_eq, Checked.seq_eq_ok_iff, Checked.map_seq,
    Checked.map_map, Checked.map_eq_ok, Function.comp_def] at h
  grind

end Post

namespace PostThread

/-- The dictionaries among the items of a list of posts, in order. -/
def dictItems (items : List Value) : List (List (Value × Value)) :=
  items.filterMap fun
    | .dict kvs => some kvs
    | _ => none

/-- The id a dictionary item is filed under: its `id`, null when it has none. -/
def itemId (kvs : List (Value × Value)) : Value := (Value.field? kvs "id").getD .null

/-- The id of a dictionary item as text, when it reads as text. -/
def idText? (kvs : List (Value × Value)) : Option String := (Check.str (itemId kvs)).toOption

/-- The items filed by id are the dictionary items, each under its id. -/
theorem keyById_eq_ok :
    ∀ {items : List Value} {entries : List (Value × Value)}, keyById items = .ok entries →
      entries = (dictItems items).map fun kvs => (itemId kvs, .dict kvs)
  | [], entries, h => by
    cases h
    rfl
  | item :: rest, entries, h => by
    unfold keyById at h
    split at h
    · next kvs =>
      dsimp only at h
      split at h
      · cases hrest : keyById rest with
        | error _ => simp [hrest, Except.map] at h
        | ok acc =>
          simp only [hrest, Except.map, Except.ok.injEq] at h
          subst h
          simp [dictItems, itemId, keyById_eq_ok hrest]
      · cases h
    · next hnot =>
      rw [keyById_eq_ok h]
      cases item <;> simp_all [dictItems]

/-- A post checked from an item reads the item's id as its own. -/
theorem idText?_of_check {kvs : List (Value × Value)} {p : Post}
    (h : Post.check (.dict kvs) = .ok p) : idText? kvs = some p.id := by
  have hneed := Post.id_of_check h
  unfold Check.need at hneed
  split at hneed
  · next v hv =>
    simp [idText?, itemId, hv, Checked.under_eq_ok.mp hneed, Checked.toOption]
  · cases hneed

/-- A thread checked from a list of posts: the dictionary items filed by id,
each id read as text and each item checked, and then merged by text. -/
theorem postsField_list_eq_ok {items : List Value} {posts : List (String × Post)}
    (h : postsField (.list items) = .ok posts) :
    ∃ es, Check.entries Post.check
        (Value.ofEntries ((dictItems items).map fun kvs => (itemId kvs, .dict kvs))) = .ok es ∧
      posts = Check.distinct es := by
  simp only [postsField] at h
  split at h
  · next entries hentries =>
    rw [keyById_eq_ok hentries] at h
    obtain ⟨es, hes, rfl⟩ := Checked.map_eq_ok.mp h
    exact ⟨es, hes, rfl⟩
  · cases h

/-- Every dictionary item of a checked list has an id that reads as text:
its id is filed, or equal to one that is. -/
theorem idText?_isSome {items : List Value} {posts : List (String × Post)}
    (h : postsField (.list items) = .ok posts) :
    ∀ a ∈ dictItems items, (idText? a).isSome := by
  obtain ⟨es, hes, -⟩ := postsField_list_eq_ok h
  obtain ⟨hkeys, -, -⟩ := Check.mem_entries hes
  intro a ha
  obtain ⟨x, hx, hxa⟩ := Value.covered_of_mem (List.mem_map.mpr ⟨a, ha, rfl⟩ :
    (itemId a, Value.dict a) ∈ (dictItems items).map fun kvs => (itemId kvs, .dict kvs))
  obtain ⟨s, hs⟩ := hkeys x hx
  have hid : itemId a = x.1 := by
    rcases hxa with hxa | hxa
    · exact hxa.symm
    · exact Check.eq_of_eqv_of_str hs hxa
  simp [idText?, hid, hs, Checked.toOption]

/-- An id that reads as text reads as the text it is filed under. -/
theorem idText?_eq_keyText {a : List (Value × Value)} (h : (idText? a).isSome) :
    idText? a = some (Check.keyText (itemId a)) := by
  have hkey : Check.keyText (itemId a) = (idText? a).getD "" := rfl
  rw [hkey]
  cases hid : idText? a <;> simp_all

theorem str_itemId_of_idText? {a : List (Value × Value)} {s : String} (h : idText? a = some s) :
    Check.str (itemId a) = .ok s := by
  unfold idText? at h
  cases hstr : Check.str (itemId a) <;> simp_all [Checked.toOption]

section Ids

variable {items : List Value}

/-- Ids that read as the same text are the same id: a text id and the bytes of
its text never both stand in the list. -/
def TextIdsAgree (items : List Value) : Prop :=
  ∀ a ∈ dictItems items, ∀ b ∈ dictItems items, (idText? a).isSome →
    idText? a = idText? b → Value.eqv (itemId a) (itemId b) = true

/-- A text that is not bytes is text itself. -/
theorem str_eq_of_not_bytes {k : Value} {s : String} (h : Check.str k = .ok s)
    (hk : ∀ bs, k ≠ .bytes bs) : k = .str s := by
  cases k <;> simp_all [Check.str, Check.fail]

/-- Ids agree when none of them is given as bytes. -/
theorem textIdsAgree_of_no_bytes (h : ∀ a ∈ dictItems items, ∀ bs, itemId a ≠ .bytes bs) :
    TextIdsAgree items := by
  intro a ha b hb hsome hab
  obtain ⟨s, hs⟩ := Option.isSome_iff_exists.mp hsome
  have hat : itemId a = .str s := str_eq_of_not_bytes (str_itemId_of_idText? hs) (h a ha)
  have hbt : itemId b = .str s := str_eq_of_not_bytes (str_itemId_of_idText? (hab ▸ hs)) (h b hb)
  simp [hat, hbt, Value.eqv]

/-- When every id reads as text and ids of one text agree, two ids are equal
exactly when their texts are. -/
theorem eqv_itemId_iff (hsome : ∀ a ∈ dictItems items, (idText? a).isSome)
    (hids : TextIdsAgree items) :
    ∀ a ∈ dictItems items, ∀ b ∈ dictItems items,
      Value.eqv (itemId a) (itemId b) = true ↔ Check.keyText (itemId a) = Check.keyText (itemId b) := by
  intro a ha b hb
  have hta := idText?_eq_keyText (hsome a ha)
  have htb := idText?_eq_keyText (hsome b hb)
  constructor
  · intro heqv
    rw [Check.eq_of_eqv_of_str (str_itemId_of_idText? hta) heqv]
  · intro htext
    exact hids a ha b hb (hsome a ha) (by rw [hta, htb, htext])

/-- The dictionary items under the texts of their ids, in order. -/
def textEntries (items : List Value) : List (String × Value) :=
  (dictItems items).map fun a => (Check.keyText (itemId a), .dict a)

/-- Filing the items under their ids and reading the ids as text afterwards is
filing them under the texts. -/
theorem ofEntries_keyText (hsome : ∀ a ∈ dictItems items, (idText? a).isSome)
    (hids : TextIdsAgree items) :
    (Value.ofEntries ((dictItems items).map fun a => (itemId a, .dict a))).map
        (fun e => (Check.keyText e.1, e.2)) = Check.distinct (textEntries items) := by
  rw [Value.map_ofEntries, List.map_map]
  · rfl
  · intro x hx y hy
    obtain ⟨a, ha, rfl⟩ := List.mem_map.mp hx
    obtain ⟨b, hb, rfl⟩ := List.mem_map.mp hy
    exact eqv_itemId_iff hsome hids a ha b hb

/-- The checked entries of the items filed by id: their keys are the keys of the
items merged by text, and each is checked from the value merged under its key. -/
theorem entries_of_agree {es : List (String × Post)}
    (hsome : ∀ a ∈ dictItems items, (idText? a).isSome) (hids : TextIdsAgree items)
    (hes : Check.entries Post.check
      (Value.ofEntries ((dictItems items).map fun a => (itemId a, .dict a))) = .ok es) :
    es.map (·.1) = (Check.distinct (textEntries items)).map (·.1) ∧
      ∀ e ∈ es, ∃ v, (e.1, v) ∈ Check.distinct (textEntries items) ∧ Post.check v = .ok e.2 := by
  obtain ⟨-, hkeys, hmem⟩ := Check.mem_entries hes
  rw [← ofEntries_keyText hsome hids]
  refine ⟨by rw [hkeys, List.map_map]; rfl, ?_⟩
  intro e he
  obtain ⟨kv, hkv, hk, hc⟩ := hmem e he
  refine ⟨kv.2, ?_, hc⟩
  rw [← Check.keyText_of_str hk]
  exact List.mem_map_of_mem hkv

variable {posts : List (String × Post)}

/-- The posts of a checked list with agreeing ids are its items merged by the
texts of their ids, each checked: the checked entries already have distinct
keys, so the second merge keeps them as they are. -/
theorem posts_of_agree (h : postsField (.list items) = .ok posts) (hids : TextIdsAgree items) :
    posts.map (·.1) = (Check.distinct (textEntries items)).map (·.1) ∧
      ∀ e ∈ posts, ∃ v, (e.1, v) ∈ Check.distinct (textEntries items) ∧ Post.check v = .ok e.2 := by
  obtain ⟨es, hes, hposts⟩ := postsField_list_eq_ok h
  have hentries := entries_of_agree (idText?_isSome h) hids hes
  rw [hposts, Check.distinct_of_nodup (hentries.1 ▸ Check.nodup_distinct _)]
  exact hentries

/-- The keys are the texts of the ids, in the order they first occur. -/
theorem keys_of_agree (h : postsField (.list items) = .ok posts) (hids : TextIdsAgree items) :
    posts.map (·.1) = ((dictItems items).filterMap idText?).eraseDups := by
  rw [(posts_of_agree h hids).1, Check.map_fst_distinct, textEntries, List.map_map]
  congr 1
  rw [← List.filterMap_eq_map]
  exact List.filterMap_congr fun a ha => (idText?_eq_keyText (idText?_isSome h a ha)).symm

/-- Each post is checked from the last item whose id reads as its key. -/
theorem last_item_of_agree (h : postsField (.list items) = .ok posts) (hids : TextIdsAgree items) :
    ∀ e ∈ posts, ∃ a, (dictItems items).reverse.find? (idText? · == some e.1) = some a ∧
      Post.check (.dict a) = .ok e.2 := by
  intro e he
  obtain ⟨v, hv, hc⟩ := (posts_of_agree h hids).2 e he
  -- the merged entry of a key is the first hit of the reversed items
  have hfind := Check.find?_reverse_of_mem_distinct hv
  rw [textEntries, ← List.map_reverse, List.find?_map] at hfind
  obtain ⟨a, ha, hav⟩ := Option.map_eq_some_iff.mp hfind
  refine ⟨a, ?_, ?_⟩
  · rw [← ha]
    refine List.find?_congr fun x hx => ?_
    rw [idText?_eq_keyText (idText?_isSome h x (List.mem_reverse.mp hx))]
    simp
  · have hitem : Value.dict a = v := congrArg Prod.snd hav
    rw [hitem]
    exact hc

/-- Every key is its post's id. -/
theorem id_eq_key_of_agree (h : postsField (.list items) = .ok posts) (hids : TextIdsAgree items) :
    ∀ e ∈ posts, e.2.id = e.1 := by
  intro e he
  obtain ⟨a, hfind, hc⟩ := last_item_of_agree h hids e he
  have hkey : idText? a = some e.1 := by simpa using List.find?_some hfind
  rw [idText?_of_check hc] at hkey
  exact Option.some.inj hkey

end Ids

/-- The missing ids are the ids of the order that key no post. -/
theorem missingIds_eq (t : PostThread) :
    t.missingIds = t.order.filter (· ∉ t.posts.map (·.1)) := by
  unfold missingIds
  refine List.filter_congr fun id _ => ?_
  have hany : (t.posts.any fun e => e.1 == id) = decide (id ∈ t.posts.map (·.1)) := by
    rw [Bool.eq_iff_iff, List.any_eq_true, decide_eq_true_eq, List.mem_map]
    simp only [beq_iff_eq]
  simp [hany]

/-- The posts of a thread whose posts were sent as a list, read with agreeing
ids: every dictionary item's id reads as text; the posts are keyed by those
texts in the order they first occur, each checked from the last item of its
key; each key is its post's id; and the missing ids are the ids of the order
that key no post. -/
theorem listed_posts_keyed_by_id {kvs : List (Value × Value)} {items : List Value}
    {t : PostThread} (hlist : Value.field? kvs "posts" = some (.list items))
    (hcheck : check (.dict kvs) = .ok t) (hids : TextIdsAgree items) :
    (∀ a ∈ dictItems items, (idText? a).isSome) ∧
      t.posts.map (·.1) = ((dictItems items).filterMap idText?).eraseDups ∧
      (∀ e ∈ t.posts, ∃ a, (dictItems items).reverse.find? (idText? · == some e.1) = some a ∧
        Post.check (.dict a) = .ok e.2) ∧
      (∀ e ∈ t.posts, e.2.id = e.1) ∧
      t.missingIds = t.order.filter (· ∉ t.posts.map (·.1)) := by
  have hfield : postsField (.list items) = .ok t.posts := by
    have h := posts_of_check hcheck
    simp only [Check.field, hlist] at h
    exact Checked.under_eq_ok.mp h
  exact ⟨idText?_isSome hfield, keys_of_agree hfield hids, last_item_of_agree hfield hids,
    id_eq_key_of_agree hfield hids, missingIds_eq t⟩

section Runs

/- Checking a literal thread runs every check it names: the checks unfold, and
the checked applications, field lookups and key comparisons evaluate. -/
attribute [local simp] check Check.fields Check.field postsField orderField keyById
  Value.hashable Value.ofEntries Value.assign Check.dict Check.entries Post.check Check.need
  Post.rootIdText Value.truthy Check.distinct Except.map Check.list Check.items Check.str
  Value.eqv Value.isNumber Checked.fmap_eq Checked.map_ok Checked.ok_seq Checked.under_ok
  Value.field?_cons_str Value.field?_nil

/-- Posts sent as a list: the first id twice, and an item that is not a dictionary. -/
def listedPosts : List Value :=
  [.dict [(.str "id", .str "a"), (.str "message", .str "one")],
    .dict [(.str "id", .str "b"), (.str "message", .str "two")], .str "dropped",
    .dict [(.str "id", .str "a"), (.str "message", .str "three")]]

def listedThread : List (Value × Value) :=
  [(.str "order", .list [.str "b", .str "c"]), (.str "posts", .list listedPosts)]

/-- The thread checked from `listedThread`: the repeated id first, with its later post. -/
def listedThreadChecked : PostThread :=
  { order := ["b", "c"],
    posts := [("a", { id := "a", message := "three" }), ("b", { id := "b", message := "two" })] }

theorem listedThread_keyed_by_id :
    Value.field? listedThread "posts" = some (.list listedPosts) ∧
      check (.dict listedThread) = .ok listedThreadChecked ∧ TextIdsAgree listedPosts ∧
      ((∀ a ∈ dictItems listedPosts, (idText? a).isSome) ∧
        listedThreadChecked.posts.map (·.1) = ((dictItems listedPosts).filterMap idText?).eraseDups ∧
        (∀ e ∈ listedThreadChecked.posts, ∃ a,
          (dictItems listedPosts).reverse.find? (idText? · == some e.1) = some a ∧
            Post.check (.dict a) = .ok e.2) ∧
        (∀ e ∈ listedThreadChecked.posts, e.2.id = e.1) ∧
        listedThreadChecked.missingIds =
          listedThreadChecked.order.filter (· ∉ listedThreadChecked.posts.map (·.1))) := by
  have hlist : Value.field? listedThread "posts" = some (.list listedPosts) := by
    simp [listedThread]
  have hcheck : check (.dict listedThread) = .ok listedThreadChecked := by
    simp [listedThread, listedPosts, listedThreadChecked]
  have hids : TextIdsAgree listedPosts := by
    refine textIdsAgree_of_no_bytes fun a ha bs => ?_
    simp only [listedPosts, dictItems, List.filterMap_cons, List.filterMap_nil,
      List.mem_cons, List.not_mem_nil, or_false] at ha
    rcases ha with rfl | rfl | rfl <;> simp [itemId]
  exact ⟨hlist, hcheck, hids, listed_posts_keyed_by_id hlist hcheck hids⟩

/-- A text id, the bytes of that text, and the text id again. -/
def bytesAndTextIds : List Value :=
  [.dict [(.str "id", .str "a"), (.str "message", .str "one")],
    .dict [(.str "id", .bytes [97]), (.str "message", .str "two")],
    .dict [(.str "id", .str "a"), (.str "message", .str "three")]]

/-- Ids that agree only once read as text: the text id and its bytes are two
keys while the items are filed, so the bytes item keeps its post, and the
post of the text id is the middle item's, not the last one's. -/
theorem bytes_and_text_id_keep_middle_post :
    check (.dict [(.str "posts", .list bytesAndTextIds)]) =
        .ok { posts := [("a", { id := "a", message := "two" })] } ∧
      (dictItems bytesAndTextIds).reverse.find? (idText? · == some "a") =
        some [(.str "id", .str "a"), (.str "message", .str "three")] := by
  have hutf : Check.utf8? [97] = some "a" := by decide
  constructor
  · simp [bytesAndTextIds, hutf]
  · simp [bytesAndTextIds, dictItems, idText?, itemId, Checked.toOption]

end Runs

end PostThread

end ChatSession
