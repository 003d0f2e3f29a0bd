import ChatSession.Schema.Check

/-!
Channels: where posts are written.
-/

namespace ChatSession

/-- A channel of a team, or a direct conversation. -/
structure Channel where
  id : String
  teamId : String := ""
  type : String := ""
  displayName : String := ""
  name : String := ""
  header : String := ""
  purpose : String := ""
  creatorId : String := ""
  createAt : Int := 0
  updateAt : Int := 0
  deleteAt : Int := 0
  lastPostAt : Int := 0
  lastRootPostAt : Int := 0
  totalMsgCount : Int := 0
  totalMsgCountRoot : Int := 0
deriving Repr, BEq, DecidableEq, Inhabited

namespace Channel

def check : Check Channel :=
  Check.fields "Channel" fun kvs =>
    Channel.mk <$> Check.need kvs "id" Check.str
      <*> Check.field kvs "team_id" "" Check.str
      <*> Check.field kvs "type" "" Check.str
      <*> Check.field kvs "display_name" "" Check.str
      <*> Check.field kvs "name" "" Check.str
      <*> Check.field kvs "header" "" Check.str
      <*> Check.field kvs "purpose" "" Check.str
      <*> Check.field kvs "creator_id" "" Check.str
      <*> Check.field kvs "create_at" 0 Check.int
      <*> Check.field kvs "update_at" 0 Check.int
      <*> Check.field kvs "delete_at" 0 Check.int
      <*> Check.field kvs "last_post_at" 0 Check.int
      <*> Check.field kvs "last_root_post_at" 0 Check.int
      <*> Check.field kvs "total_msg_count" 0 Check.int
      <*> Check.field kvs "total_msg_count_root" 0 Check.int

/-- The record as data, fields in declaration order. -/
def toValue (c : Channel) : Value :=
  .obj [("id", .str c.id), ("team_id", .str c.teamId), ("type", .str c.type),
    ("display_name", .str c.displayName), ("name", .str c.name), ("header", .str c.header),
    ("purpose", .str c.purpose), ("creator_id", .str c.creatorId),
    ("create_at", .int c.createAt), ("update_at", .int c.updateAt),
    ("delete_at", .int c.deleteAt), ("last_post_at", .int c.lastPostAt),
    ("last_root_post_at", .int c.lastRootPostAt), ("total_msg_count", .int c.totalMsgCount),
    ("total_msg_count_root", .int c.totalMsgCountRoot)]

end Channel

end ChatSession
