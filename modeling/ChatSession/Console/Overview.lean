import ChatSession.Session.State
import ChatSession.Thread.Group

/-!
What the command line prints: an overview of the session snapshot, and the
threads of the active channel.

The overview names the current server (`-` and `none selected` when it has
no name or address), the known servers, the user (or `logged out`), how many
teams, memberships, channels and directory users the snapshot holds (counts
grouped by thousands), the active channel if there is one, and the errors of
the last refresh. Threads are listed oldest root first, each reply under its
root; an author is named by their display name when the directory knows them,
else by their id; a system post is marked.
-/

namespace ChatSession

namespace Overview

/-- A rule of fifty `=`. -/
def rule : String := String.ofList (List.replicate 50 '=')

/-- Digits of a count grouped by thousands: `1,234,567`. -/
def grouped (n : Nat) : String :=
  let ds := (Nat.toDigits 10 n).reverse
  let rec chunks : List Char → List (List Char)
    | a :: b :: c :: d :: rest => [a, b, c] :: chunks (d :: rest)
    | cs => [cs]
  String.ofList (",".toList.intercalate ((chunks ds).map List.reverse).reverse)

/-- Text, or a stand-in when it is empty. -/
def orElse (s dflt : String) : String := if s.isEmpty then dflt else s

def lines (s : PageState) : List String :=
  let server := s.currentServer
  [ "\n" ++ rule, "SESSION OVERVIEW", rule,
    "Server: " ++ orElse server.name "-" ++ " (" ++ orElse server.url "none selected" ++ ")",
    "Known servers: " ++ orElse (", ".intercalate (s.servers.map (·.name))) "-",
    "User: " ++ (match s.user with | some u => u.username | none => "logged out"),
    "Teams: " ++ grouped s.teams.length,
    "Team memberships: " ++ grouped s.teamMembers.length,
    "Channels: " ++ grouped s.channels.length,
    "Directory users: " ++ grouped s.users.length ] ++
  (match s.currentChannel with
    | some c => ["Active channel: " ++ orElse c.displayName c.name]
    | none => []) ++
  (if s.errors.isEmpty then []
    else ("\nErrors during refresh (" ++ toString s.errors.length ++ "):") ::
      s.errors.map fun e => "  - " ++ e.message) ++
  ["\n" ++ rule]

/-- How an author is named: their display name if the directory knows them. -/
def author (s : PageState) (userId : String) : String :=
  match s.users.find? (·.1 == userId) with
  | some (_, u) => u.displayName
  | none => userId

/-- The lines of the threads of the active channel. -/
def threadLines (s : PageState) : List String :=
  match Thread.readingOrder s.channelPosts with
  | [] => ["No posts loaded."]
  | groups => groups.flatMap fun g =>
    ((if g.root.isSystem then "[system] " else "") ++ author s g.root.userId ++ ": " ++
      g.root.message) ::
    g.children.map fun r => "    ↳ " ++ author s r.userId ++ ": " ++ r.message

/-- Print lines, each ending in a line break. -/
def print (ls : List String) : String := String.join (ls.map (· ++ "\n"))

end Overview

end ChatSession
