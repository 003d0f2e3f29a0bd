import ChatSession.Record.Post

/-!
Post threads: a channel's fetched window of posts.

`order` is the backend's sequence of post ids, most recent first, and the
only trusted order. `posts` maps ids to posts. Some endpoints send the posts
as a list: the dictionaries among its items are keyed by their `id` in order
of first occurrence, a later item with the same id replacing the earlier one,
and other items are dropped. A null order or null posts is empty.
-/

namespace ChatSession

/-- A channel's fetched message window. -/
structure PostThread where
  order : List String := []
  posts : List (String × Post) := []
  nextPostId : Option String := none
  prevPostId : Option String := none
  hasNext : Bool := false
deriving BEq, Inhabited

namespace PostThread

/-- Key the dictionary items of a list of posts by their id (null when they
have none); an id that cannot be a key stops the check. -/
def keyById : List Value → Except Halt (List (Value × Value))
  | [] => .ok []
  | item :: rest =>
    match item with
    | .dict kvs =>
      let key := (Value.field? kvs "id").getD .null
      if key.hashable then (keyById rest).map fun acc => (key, item) :: acc
      else .error (.unhashableKey key.typeName)
    | _ => keyById rest

/-- The posts field: a list is keyed by id first, null is empty. -/
def postsField : Check (List (String × Post))
  | .null => .ok []
  | .list items =>
    match keyById items with
    | .ok entries => Check.dict Post.check (.dict (Value.ofEntries entries))
    | .error h => .halted h
  | v => Check.dict Post.check v

/-- The order field: null is empty. -/
def orderField : Check (List String)
  | .null => .ok []
  | v => Check.list Check.str v

def check : Check PostThread :=
  Check.fields "PostThread" fun kvs =>
    PostThread.mk <$> Check.field kvs "order" [] orderField
      <*> Check.field kvs "posts" [] postsField
      <*> Check.field kvs "next_post_id" none (Check.optional Check.str)
      <*> Check.field kvs "prev_post_id" none (Check.optional Check.str)
      <*> Check.field kvs "has_next" false Check.bool

/-- An optional text as data. -/
def optText : Option String → Value
  | some s => .str s
  | none => .null

/-- The record as data, fields in declaration order. -/
def toValue (t : PostThread) : Value :=
  .obj [("order", Value.strs t.order),
    ("posts", Value.obj (t.posts.map fun (k, p) => (k, p.toValue))),
    ("next_post_id", optText t.nextPostId), ("prev_post_id", optText t.prevPostId),
    ("has_next", .bool t.hasNext)]

/-- The ids of `order` that have no post, in order, repetitions kept. -/
def missingIds (t : PostThread) : List String :=
  t.order.filter fun id => !(t.posts.any fun e => e.1 == id)

/-- The posts of the thread, in the order of the dictionary. -/
def postList (t : PostThread) : List Post := t.posts.map (·.2)

end PostThread

end ChatSession
