import ChatSession.Schema.Check

/-!
Posts: single messages of a channel.

A post whose `rootId` is empty starts a thread (a root); any other post is a
reply to the root with that id. A missing or empty root id of any kind (null,
zero, false, empty text) counts as empty.
-/

namespace ChatSession

/-- A single message. -/
structure Post where
  id : String
  channelId : String := ""
  userId : String := ""
  rootId : String := ""
  editedFrom : String := ""
  createAt : Int := 0
  updateAt : Int := 0
  editAt : Int := 0
  deleteAt : Int := 0
  message : String := ""
  type : String := ""
  hashtags : String := ""
  fileIds : List String := []
  pendingPostId : String := ""
  props : List (String × Value) := []
  isSystem : Bool := false
deriving BEq, Inhabited

namespace Post

/-- A root id: a false value of any kind is empty, anything else must be text. -/
def rootIdText : Check String := fun v =>
  if v.truthy then Check.str v else .ok ""

def check : Check Post :=
  Check.fields "Post" fun kvs =>
    Post.mk <$> Check.need kvs "id" Check.str
      <*> Check.field kvs "channel_id" "" Check.str
      <*> Check.field kvs "user_id" "" Check.str
      <*> Check.field kvs "root_id" "" rootIdText
      <*> Check.field kvs "original_id" "" Check.str
      <*> Check.field kvs "create_at" 0 Check.int
      <*> Check.field kvs "update_at" 0 Check.int
      <*> Check.field kvs "edit_at" 0 Check.int
      <*> Check.field kvs "delete_at" 0 Check.int
      <*> Check.field kvs "message" "" Check.str
      <*> Check.field kvs "type" "" Check.str
      <*> Check.field kvs "hashtags" "" Check.str
      <*> Check.field kvs "file_ids" [] (Check.list Check.str)
      <*> Check.field kvs "pending_post_id" "" Check.str
      <*> Check.field kvs "props" [] (Check.dict Check.any)
      <*> Check.field kvs "is_system" false Check.bool

/-- The record as data, fields in declaration order; numbers in `props`
that JSON cannot hold are null. -/
def toValue (p : Post) : Value :=
  .obj [("id", .str p.id), ("channel_id", .str p.channelId), ("user_id", .str p.userId),
    ("root_id", .str p.rootId), ("original_id", .str p.editedFrom),
    ("create_at", .int p.createAt), ("update_at", .int p.updateAt),
    ("edit_at", .int p.editAt), ("delete_at", .int p.deleteAt),
    ("message", .str p.message), ("type", .str p.type), ("hashtags", .str p.hashtags),
    ("file_ids", Value.strs p.fileIds), ("pending_post_id", .str p.pendingPostId),
    ("props", Value.obj (p.props.map fun (k, v) => (k, v.jsonSafe))), ("is_system", .bool p.isSystem)]

/-- A root starts a thread: its root id is empty. -/
def isRoot (p : Post) : Bool := p.rootId.isEmpty

end Post

end ChatSession
