import ChatSession.Schema.Check
import ChatSession.Data.Blank

/-!
Users: the logged-in principal and the entries of the user directory.

The id may come as `user_id` or as `id`; `user_id` wins when both are there,
and a missing id is reported at `user_id`. A user's display name is the
nickname, else the full name, else the username.
-/

namespace ChatSession

/-- An authenticated principal or a user-directory entry. -/
structure User where
  userId : String
  username : String := ""
  email : String := ""
  nickname : String := ""
  firstName : String := ""
  lastName : String := ""
  roles : String := ""
  locale : String := ""
deriving Repr, BEq, DecidableEq, Inhabited

namespace User

def check : Check User :=
  Check.fields "User" fun kvs =>
    let userId : Checked String :=
      match Value.field? kvs "user_id", Value.field? kvs "id" with
      | some v, _ => (Check.str v).under (.key "user_id")
      | none, some v => (Check.str v).under (.key "id")
      | none, none => .invalid [⟨.missing, [.key "user_id"], .dict kvs⟩]
    User.mk <$> userId
      <*> Check.field kvs "username" "" Check.str
      <*> Check.field kvs "email" "" Check.str
      <*> Check.field kvs "nickname" "" Check.str
      <*> Check.field kvs "first_name" "" Check.str
      <*> Check.field kvs "last_name" "" Check.str
      <*> Check.field kvs "roles" "" Check.str
      <*> Check.field kvs "locale" "" Check.str

/-- The record as data, fields in declaration order. -/
def toValue (u : User) : Value :=
  .obj [("user_id", .str u.userId), ("username", .str u.username), ("email", .str u.email),
    ("nickname", .str u.nickname), ("first_name", .str u.firstName),
    ("last_name", .str u.lastName), ("roles", .str u.roles), ("locale", .str u.locale)]

/-- The name to show: nickname, else full name, else username. -/
def displayName (u : User) : String :=
  let full := Blank.trimBy Blank.isSpace (u.firstName ++ " " ++ u.lastName)
  if !u.nickname.isEmpty then u.nickname
  else if !full.isEmpty then full
  else u.username

end User

end ChatSession
