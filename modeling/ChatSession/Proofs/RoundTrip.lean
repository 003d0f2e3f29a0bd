import ChatSession.Proofs.CheckLaws
import ChatSession.Session.State
import ChatSession.Config.Client

/-!
Checking a dumped record gives the record back.

Every record dumps to data (`toValue`): its fields under their names, each in
one shape. Checking the dump gives the record back for every server, switch
answer, user, team, membership, channel, error and set of settings
(`Server.check_toValue`, …), and for every post, thread and snapshot whose
dictionaries have distinct keys and whose free-form values are JSON-safe
(`Post.Canonical`, `PostThread.Canonical`, `PageState.Canonical`). Every
record that a check accepts from JSON-safe data is of that kind
(`Post.canonical_of_check`, …). So checking and dumping are inverse on what
the checks accept: the aliases, the lenient coercions and the custom field
checks all come back to the record on its dump.

Main statement: `check_toValue_of_check`.
-/

namespace ChatSession

attribute [local simp] Checked.fmap_eq Checked.map_ok Checked.ok_seq Checked.under_ok
  Checked.under_eq_ok Check.str_str Check.int_int Check.bool_bool Check.any_eq Check.list_strs
  Value.field?_cons_str Value.field?_nil

/-! ### Records that always come back -/

namespace Server

theorem urlText_str (s : String) : urlText (.str s) = .ok s := by
  simp [urlText, Value.text?, Value.showable, Value.text]

theorem check_toValue (s : Server) : check s.toValue = .ok s := by
  simp [check, toValue, Check.fields, Check.field, Value.obj, urlText_str]

end Server

namespace Switch

/-- A switch answer dumps its server list under `servers`, which is read when
`list` is absent. -/
theorem check_toValue (r : Switch) : check r.toValue = .ok r := by
  have hservers : Check.list Server.check (.list (r.servers.map Server.toValue)) = .ok r.servers :=
    Check.list_map fun s _ => Server.check_toValue s
  simp [check, toValue, Check.fields, Check.field, Check.need, Value.obj,
    Server.check_toValue, hservers]

end Switch

namespace User

/-- A user dumps its id under `user_id`, the name read first. -/
theorem check_toValue (u : User) : check u.toValue = .ok u := by
  simp [check, toValue, Check.fields, Check.field, Value.obj]

end User

namespace Team

theorem check_toValue (t : Team) : check t.toValue = .ok t := by
  simp [check, toValue, Check.fields, Check.field, Check.need, Value.obj]

end Team

namespace TeamMember

theorem check_toValue (m : TeamMember) : check m.toValue = .ok m := by
  simp [check, toValue, Check.fields, Check.field, Check.need, Value.obj]

end TeamMember

namespace Channel

theorem check_toValue (c : Channel) : check c.toValue = .ok c := by
  simp [check, toValue, Check.fields, Check.field, Check.need, Value.obj]

end Channel

namespace ApiError

theorem check_toValue (e : ApiError) : check e.toValue = .ok e := by
  simp [check, toValue, Check.fields, Check.field, Check.need, Value.obj]

end ApiError

namespace CallError

/-- A structured error dumps to a dictionary and comes back structured; a
text error dumps to its text. -/
theorem check_toValue (e : CallError) : check e.toValue = .ok e := by
  cases e with
  | api e =>
    have h := ApiError.check_toValue e
    simp only [ApiError.toValue, Value.obj, List.map] at h
    simp [check, toValue, ApiError.toValue, Value.obj, h]
  | text s => rfl

end CallError

namespace ClientConfig

theorem positive_int (n : Nat) (h : 0 < n) : positive (.int n) = .ok ⟨n, h⟩ := by
  have h1 : (1 : Int) ≤ n := by omega
  simp [positive, Checked.andThen, h1]

theorem check_toValue (c : ClientConfig) : check c.toValue = .ok c := by
  obtain ⟨perPage, maxPages, level, fixture, hper, hmax⟩ := c
  cases fixture <;>
    simp [check, toValue, Check.fields, Check.field, Value.obj, Check.optional,
      positive_int _ hper, positive_int _ hmax, build]

end ClientConfig

/-! ### Records with dictionaries -/

namespace Post

/-- A post that comes back from its dump: its extra properties have distinct
names and JSON-safe values. -/
structure Canonical (p : Post) : Prop where
  keys : (p.props.map (·.1)).Nodup
  safe : ∀ e ∈ p.props, e.2.jsonSafe = e.2

theorem rootIdText_str (s : String) : rootIdText (.str s) = .ok s := by
  by_cases h : s = "" <;> simp [rootIdText, Value.truthy, h]

/-- The root id dumps as text, empty for a root, and reads back as it was. -/
theorem check_toValue {p : Post} (hp : p.Canonical) : check p.toValue = .ok p := by
  have hprops : Check.dict Check.any (.dict (p.props.map fun e => (Value.str e.1, e.2.jsonSafe))) =
      .ok p.props :=
    Check.dict_map hp.keys fun e he => by simp [hp.safe e he]
  simp [check, toValue, Check.fields, Check.field, Check.need, Value.obj, Function.comp_def,
    rootIdText_str, hprops]

theorem props_of_check {kvs : List (Value × Value)} {p : Post} (h : check (.dict kvs) = .ok p) :
    Check.field kvs "props" [] (Check.dict Check.any) = .ok p.props := by
  simp only [check, Check.fields, Checked.fmap_eq, Checked.seq_eq_ok_iff, Checked.map_seq,
    Checked.map_map, Checked.map_eq_ok, Function.comp_def] at h
  grind

/-- A post checked from JSON-safe data comes back from its dump. -/
theorem canonical_of_check {j : Value} {p : Post} (h : check j = .ok p) (hj : j.jsonSafe = j) :
    p.Canonical := by
  obtain ⟨kvs, rfl, -⟩ := Check.fields_eq_ok.mp h
  rcases Check.field_eq_ok (props_of_check h) with ⟨v, hv, hdict⟩ | hnil
  · obtain ⟨hkeys, hsafe⟩ := Check.dict_eq_ok_of_safe hdict (Value.jsonSafe_of_field? hj hv)
    refine ⟨hkeys, fun e he => ?_⟩
    obtain ⟨w, hw, hany⟩ := hsafe e he
    simp only [Check.any_eq, Checked.ok.injEq] at hany
    exact hany ▸ hw
  · exact ⟨by simp [hnil], by simp [hnil]⟩

end Post

namespace Value

/-- Every entry of a dictionary built from entries holds the value of one of them. -/
theorem mem_ofEntries {es : List (Value × Value)} {x : Value × Value} (hx : x ∈ ofEntries es) :
    ∃ y ∈ es, y.2 = x.2 := by
  suffices h : ∀ acc : List (Value × Value), x ∈ es.foldl (fun acc e => assign acc e.1 e.2) acc →
      x ∈ acc ∨ ∃ y ∈ es, y.2 = x.2 by
    simpa using h [] hx
  clear hx
  induction es with
  | nil => exact fun _ h => Or.inl h
  | cons e es ih =>
    intro acc hx
    rcases ih _ hx with hacc | ⟨y, hy, hyx⟩
    · -- an assignment keeps the entries and gives one of them `e`'s value
      simp only [assign] at hacc
      split_ifs at hacc
      · obtain ⟨z, hz, rfl⟩ := List.mem_map.mp hacc
        by_cases hze : z.1.eqv e.1
        · exact Or.inr ⟨e, List.mem_cons_self, by simp [hze]⟩
        · exact Or.inl (by simpa [hze] using hz)
      · rcases List.mem_append.mp hacc with h | h
        · exact Or.inl h
        · exact Or.inr ⟨e, List.mem_cons_self, by simp_all⟩
    · exact Or.inr ⟨y, List.mem_cons_of_mem e hy, hyx⟩

end Value

namespace PostThread

/-- A thread that comes back from its dump: its posts have distinct keys and
each comes back from its own dump. -/
structure Canonical (t : PostThread) : Prop where
  keys : (t.posts.map (·.1)).Nodup
  posts : ∀ e ∈ t.posts, e.2.Canonical

theorem orderField_strs (order : List String) : orderField (Value.strs order) = .ok order :=
  Check.list_strs order

theorem optional_optText (o : Option String) : Check.optional Check.str (optText o) = .ok o := by
  cases o <;> rfl

/-- The posts dump as a dictionary, the order as a list: neither is null. -/
theorem check_toValue {t : PostThread} (ht : t.Canonical) : check t.toValue = .ok t := by
  have hposts : postsField (.dict (t.posts.map fun e => (Value.str e.1, e.2.toValue))) =
      .ok t.posts :=
    Check.dict_map ht.keys fun e he => Post.check_toValue (ht.posts e he)
  simp [check, toValue, Check.fields, Check.field, Value.obj, Function.comp_def, orderField_strs,
    optional_optText, hposts]

/-- The items keyed by id are items of the list. -/
theorem mem_keyById :
    ∀ {items : List Value} {entries : List (Value × Value)}, keyById items = .ok entries →
      ∀ e ∈ entries, e.2 ∈ items
  | [], entries, h => by
    cases h
    simp
  | item :: rest, entries, h => by
    unfold keyById at h
    split at h
    · next kvs =>
      dsimp only at h
      split at h
      · -- the dictionary is kept under its id, in front of the rest
        cases hrest : keyById rest with
        | error _ => simp [hrest, Except.map] at h
        | ok acc =>
          simp only [hrest, Except.map, Except.ok.injEq] at h
          subst h
          intro e he
          rcases List.mem_cons.mp he with rfl | he
          · exact List.mem_cons_self
          · exact List.mem_cons_of_mem _ (mem_keyById hrest e he)
      · cases h
    · intro e he
      exact List.mem_cons_of_mem _ (mem_keyById h e he)

/-- Posts checked as a dictionary from JSON-safe data come back from their dumps. -/
theorem canonical_of_dict {v : Value} {posts : List (String × Post)}
    (h : Check.dict Post.check v = .ok posts) (hv : v.jsonSafe = v) :
    (posts.map (·.1)).Nodup ∧ ∀ e ∈ posts, e.2.Canonical := by
  obtain ⟨hkeys, hsafe⟩ := Check.dict_eq_ok_of_safe h hv
  refine ⟨hkeys, fun e he => ?_⟩
  obtain ⟨w, hw, hpost⟩ := hsafe e he
  exact Post.canonical_of_check hpost hw

/-- The posts field checked from JSON-safe data, as a dictionary or as a list
keyed by id, comes back from its dump. -/
theorem canonical_of_postsField {v : Value} {posts : List (String × Post)}
    (h : postsField v = .ok posts) (hv : v.jsonSafe = v) :
    (posts.map (·.1)).Nodup ∧ ∀ e ∈ posts, e.2.Canonical := by
  cases v with
  | null =>
    cases h
    simp
  | list items =>
    simp only [postsField] at h
    split at h
    · next entries hentries =>
      refine canonical_of_dict h ?_
      -- the keyed dictionary holds items of the JSON-safe list
      simp only [Value.jsonSafe_dict, Value.dict.injEq, Value.jsonSafeDict_eq_self_iff]
      intro e he
      obtain ⟨y, hy, hye⟩ := Value.mem_ofEntries he
      rw [← hye]
      exact Value.jsonSafe_of_mem_list hv (mem_keyById hentries y hy)
    · cases h
  | _ =>
    simp only [postsField] at h
    exact canonical_of_dict h hv

theorem posts_of_check {kvs : List (Value × Value)} {t : PostThread}
    (h : check (.dict kvs) = .ok t) : Check.field kvs "posts" [] postsField = .ok t.posts := by
  simp only [check, Check.fields, Checked.fmap_eq, Checked.seq_eq_ok_iff, Checked.map_seq,
    Checked.map_map, Checked.map_eq_ok, Function.comp_def] at h
  grind

/-- A thread checked from JSON-safe data comes back from its dump. -/
theorem canonical_of_check {j : Value} {t : PostThread} (h : check j = .ok t)
    (hj : j.jsonSafe = j) : t.Canonical := by
  obtain ⟨kvs, rfl, -⟩ := Check.fields_eq_ok.mp h
  rcases Check.field_eq_ok (posts_of_check h) with ⟨v, hv, hposts⟩ | hnil
  · obtain ⟨hkeys, hcanon⟩ := canonical_of_postsField hposts (Value.jsonSafe_of_field? hj hv)
    exact ⟨hkeys, hcanon⟩
  · exact ⟨by simp [hnil], by simp [hnil]⟩

end PostThread

namespace PageState

/-- A snapshot that comes back from its dump: its user directory has distinct
keys and its channel's thread comes back from its own dump. -/
structure Canonical (s : PageState) : Prop where
  keys : (s.users.map (·.1)).Nodup
  posts : ∀ t ∈ s.channelPosts, t.Canonical

/-- An optional record whose dump is never null comes back as it was. -/
theorem optional_optValue {α : Type} {c : Check α} {f : α → Value} (hnull : ∀ a, f a ≠ .null)
    {o : Option α} (h : ∀ a ∈ o, c (f a) = .ok a) : Check.optional c (optValue f o) = .ok o := by
  cases o with
  | none => rfl
  | some a => simp [optValue, Check.optional_of_ne_null (hnull a), h a rfl]

theorem check_toValue {s : PageState} (hs : s.Canonical) : check s.toValue = .ok s := by
  have huser : Check.optional User.check (optValue User.toValue s.user) = .ok s.user :=
    optional_optValue (fun _ => by simp [User.toValue, Value.obj]) fun u _ => User.check_toValue u
  have husers : Check.dict User.check (.dict (s.users.map fun e => (Value.str e.1, e.2.toValue))) =
      .ok s.users :=
    Check.dict_map hs.keys fun e _ => User.check_toValue e.2
  have hchannel : Check.optional Channel.check (optValue Channel.toValue s.currentChannel) =
      .ok s.currentChannel :=
    optional_optValue (fun _ => by simp [Channel.toValue, Value.obj]) fun c _ =>
      Channel.check_toValue c
  have hposts : Check.optional PostThread.check (optValue PostThread.toValue s.channelPosts) =
      .ok s.channelPosts :=
    optional_optValue (fun _ => by simp [PostThread.toValue, Value.obj]) fun t ht =>
      PostThread.check_toValue (hs.posts t ht)
  have hteams : Check.list Team.check (.list (s.teams.map Team.toValue)) = .ok s.teams :=
    Check.list_map fun t _ => Team.check_toValue t
  have hmembers : Check.list TeamMember.check (.list (s.teamMembers.map TeamMember.toValue)) =
      .ok s.teamMembers :=
    Check.list_map fun m _ => TeamMember.check_toValue m
  have hchannels : Check.list Channel.check (.list (s.channels.map Channel.toValue)) =
      .ok s.channels :=
    Check.list_map fun c _ => Channel.check_toValue c
  have hservers : Check.list Server.check (.list (s.servers.map Server.toValue)) = .ok s.servers :=
    Check.list_map fun r _ => Server.check_toValue r
  have herrors : Check.list CallError.check (.list (s.errors.map CallError.toValue)) =
      .ok s.errors :=
    Check.list_map fun e _ => CallError.check_toValue e
  simp [check, toValue, Check.fields, Check.field, Value.obj, Function.comp_def,
    Server.check_toValue, huser, husers, hchannel, hposts, hteams, hmembers, hchannels, hservers,
    herrors]

theorem users_of_check {kvs : List (Value × Value)} {s : PageState}
    (h : check (.dict kvs) = .ok s) : Check.field kvs "users" [] (Check.dict User.check) = .ok s.users := by
  simp only [check, Check.fields, Checked.fmap_eq, Checked.seq_eq_ok_iff, Checked.map_seq,
    Checked.map_map, Checked.map_eq_ok, Function.comp_def] at h
  grind

theorem channelPosts_of_check {kvs : List (Value × Value)} {s : PageState}
    (h : check (.dict kvs) = .ok s) :
    Check.field kvs "channel_posts" none (Check.optional PostThread.check) = .ok s.channelPosts := by
  simp only [check, Check.fields, Checked.fmap_eq, Checked.seq_eq_ok_iff, Checked.map_seq,
    Checked.map_map, Checked.map_eq_ok, Function.comp_def] at h
  grind

/-- A snapshot checked from JSON-safe data comes back from its dump. -/
theorem canonical_of_check {j : Value} {s : PageState} (h : check j = .ok s)
    (hj : j.jsonSafe = j) : s.Canonical := by
  obtain ⟨kvs, rfl, -⟩ := Check.fields_eq_ok.mp h
  constructor
  · rcases Check.field_eq_ok (users_of_check h) with ⟨v, -, hdict⟩ | hnil
    · obtain ⟨_, -, hkeys, -⟩ := Check.dict_eq_ok hdict
      exact hkeys
    · simp [hnil]
  · intro t ht
    rw [Option.mem_def] at ht
    rcases Check.field_eq_ok (channelPosts_of_check h) with ⟨v, hv, hopt⟩ | hnone
    · rw [ht] at hopt
      exact PostThread.canonical_of_check (Check.optional_eq_ok_some hopt) (Value.jsonSafe_of_field? hj hv)
    · simp [hnone] at ht

end PageState

/-! ### Checking and dumping are inverse -/

/-- Checking and dumping are inverse on what `check` accepts from JSON-safe
data: a record that `check` gives from such data checks back from its dump. -/
def RoundTrip {α : Type} (check : Check α) (dump : α → Value) : Prop :=
  ∀ j a, check j = .ok a → j.jsonSafe = j → check (dump a) = .ok a

theorem roundTrip_of_forall {α : Type} {check : Check α} {dump : α → Value}
    (h : ∀ a, check (dump a) = .ok a) : RoundTrip check dump :=
  fun _ a _ _ => h a

/-- For each of the eleven records, checking the dump of a record checked from
JSON-safe data gives that record back. -/
theorem check_toValue_of_check :
    RoundTrip Server.check Server.toValue ∧ RoundTrip Switch.check Switch.toValue ∧
    RoundTrip User.check User.toValue ∧ RoundTrip Team.check Team.toValue ∧
    RoundTrip TeamMember.check TeamMember.toValue ∧ RoundTrip Channel.check Channel.toValue ∧
    RoundTrip Post.check Post.toValue ∧ RoundTrip PostThread.check PostThread.toValue ∧
    RoundTrip ApiError.check ApiError.toValue ∧ RoundTrip PageState.check PageState.toValue ∧
    RoundTrip ClientConfig.check ClientConfig.toValue :=
  ⟨roundTrip_of_forall Server.check_toValue, roundTrip_of_forall Switch.check_toValue,
    roundTrip_of_forall User.check_toValue, roundTrip_of_forall Team.check_toValue,
    roundTrip_of_forall TeamMember.check_toValue, roundTrip_of_forall Channel.check_toValue,
    fun _ _ h hj => Post.check_toValue (Post.canonical_of_check h hj),
    fun _ _ h hj => PostThread.check_toValue (PostThread.canonical_of_check h hj),
    roundTrip_of_forall ApiError.check_toValue,
    fun _ _ h hj => PageState.check_toValue (PageState.canonical_of_check h hj),
    roundTrip_of_forall ClientConfig.check_toValue⟩

/-- A thread sent with a null order and its posts as a list: a root with a null
root id, and an item that is no record. -/
def threadAsList : Value :=
  .dict [(.str "order", .null),
    (.str "posts", .list [.dict [(.str "id", .str "p1"), (.str "root_id", .null),
      (.str "create_at", .int 5)], .str "dropped"])]

theorem threadAsList_comes_back :
    PostThread.check threadAsList = .ok { posts := [("p1", { id := "p1", createAt := 5 })] } ∧
    threadAsList.jsonSafe = threadAsList ∧
    PostThread.check (PostThread.toValue { posts := [("p1", { id := "p1", createAt := 5 })] }) =
      .ok { posts := [("p1", { id := "p1", createAt := 5 })] } := by
  have hcheck :
      PostThread.check threadAsList = .ok { posts := [("p1", { id := "p1", createAt := 5 })] } := by
    simp [threadAsList, PostThread.check, Check.fields, Check.field, PostThread.orderField,
      PostThread.postsField, PostThread.keyById, Value.hashable, Value.ofEntries, Value.assign,
      Check.dict, Check.entries, Post.check, Check.need, Post.rootIdText, Value.truthy,
      Check.distinct, Except.map, PathItem.ofKey]
  have hsafe : threadAsList.jsonSafe = threadAsList := by
    simp [threadAsList, Value.jsonSafe, Value.jsonSafeList, Value.jsonSafeDict]
  exact ⟨hcheck, hsafe, check_toValue_of_check.2.2.2.2.2.2.2.1 _ _ hcheck hsafe⟩

end ChatSession
