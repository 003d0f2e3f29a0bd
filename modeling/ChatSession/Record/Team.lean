import ChatSession.Schema.Check

/-!
Teams and team memberships.

A membership ties a user to a team; the pair `(teamId, userId)` identifies
it, and the session keeps one membership per pair.
-/

namespace ChatSession

/-- A team the user belongs to. -/
structure Team where
  id : String
  name : String := ""
  displayName : String := ""
  type : String := ""
  description : String := ""
deriving Repr, BEq, DecidableEq, Inhabited

namespace Team

def check : Check Team :=
  Check.fields "Team" fun kvs =>
    Team.mk <$> Check.need kvs "id" Check.str
      <*> Check.field kvs "name" "" Check.str
      <*> Check.field kvs "display_name" "" Check.str
      <*> Check.field kvs "type" "" Check.str
      <*> Check.field kvs "description" "" Check.str

/-- The record as data, fields in declaration order. -/
def toValue (t : Team) : Value :=
  .obj [("id", .str t.id), ("name", .str t.name), ("display_name", .str t.displayName),
    ("type", .str t.type), ("description", .str t.description)]

end Team

/-- A user's membership in a team. -/
structure TeamMember where
  teamId : String
  userId : String
  roles : String := ""
  deleteAt : Int := 0
  schemeGuest : Bool := false
  schemeUser : Bool := false
  schemeAdmin : Bool := false
  explicitRoles : String := ""
deriving Repr, BEq, DecidableEq, Inhabited

namespace TeamMember

def check : Check TeamMember :=
  Check.fields "TeamMember" fun kvs =>
    TeamMember.mk <$> Check.need kvs "team_id" Check.str
      <*> Check.need kvs "user_id" Check.str
      <*> Check.field kvs "roles" "" Check.str
      <*> Check.field kvs "delete_at" 0 Check.int
      <*> Check.field kvs "scheme_guest" false Check.bool
      <*> Check.field kvs "scheme_user" false Check.bool
      <*> Check.field kvs "scheme_admin" false Check.bool
      <*> Check.field kvs "explicit_roles" "" Check.str

/-- The record as data, fields in declaration order. -/
def toValue (m : TeamMember) : Value :=
  .obj [("team_id", .str m.teamId), ("user_id", .str m.userId), ("roles", .str m.roles),
    ("delete_at", .int m.deleteAt), ("scheme_guest", .bool m.schemeGuest),
    ("scheme_user", .bool m.schemeUser), ("scheme_admin", .bool m.schemeAdmin),
    ("explicit_roles", .str m.explicitRoles)]

/-- The pair that identifies a membership. -/
def key (m : TeamMember) : String × String := (m.teamId, m.userId)

end TeamMember

end ChatSession
