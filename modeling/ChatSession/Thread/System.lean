import ChatSession.Record.PostThread
import ChatSession.Record.User

/-!
System posts: posts the server writes on behalf of a user with a system role.

A post is a system post when its author, looked up by the post's `userId`
among the directory's keys, exists, the post's type starts with `system_`,
and the author's roles contain `system`. Tagging sets the flag on every post
whose author is in the directory and leaves every other post as it is.
-/

namespace ChatSession

namespace Thread

/-- The entry of a directory under a key. -/
def author? (users : List (String × User)) (key : String) : Option User :=
  (users.find? (·.1 == key)).map (·.2)

/-- The characters `needle` occur together somewhere in `hay`. -/
def occursIn (needle : List Char) : List Char → Bool
  | [] => needle.isEmpty
  | c :: rest => needle.isPrefixOf (c :: rest) || occursIn needle rest

/-- Whether a post is a system post, given the user directory. -/
def isSystemPost (users : List (String × User)) (p : Post) : Bool :=
  match author? users p.userId with
  | none => false
  | some a => p.type.startsWith "system_" && occursIn "system".toList a.roles.toList

/-- Set the system flag of one post whose author is in the directory. -/
def tagPost (users : List (String × User)) (p : Post) : Post :=
  if (author? users p.userId).isSome then { p with isSystem := isSystemPost users p } else p

/-- The thread with every post of a known author flagged. -/
def tagSystemPosts (users : List (String × User)) (t : PostThread) : PostThread :=
  { t with posts := t.posts.map fun (k, p) => (k, tagPost users p) }

end Thread

end ChatSession
