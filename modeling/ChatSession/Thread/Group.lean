import ChatSession.Record.PostThread

/-!
Threads of a channel: roots with their replies, in display order.

A root's group holds the replies whose root id is the root's id, oldest first
(by creation time, then id). Roots themselves are taken oldest first and then
put in the order the backend declared:

* `groupThreads` by increasing first position of the root's id in `order`,
  roots absent from `order` last;
* `readingOrder` by decreasing first position, roots absent from `order`
  last: the transcript order, oldest thread on top.

Both sorts are stable, so roots at the same position stay oldest first.
Replies whose root is not among the roots are left out of every group; they
are the orphans.
-/

namespace ChatSession

/-- A root post with its replies. -/
structure ThreadGroup where
  root : Post
  children : List Post
deriving BEq, Inhabited

namespace ThreadGroup

def toValue (g : ThreadGroup) : Value :=
  .obj [("root", g.root.toValue), ("children", .list (g.children.map Post.toValue))]

end ThreadGroup

namespace Thread

/-- The first position of an id in an order, if it occurs. -/
def position? (order : List String) (id : String) : Option Nat := order.idxOf? id

/-- The order of two ids by their first positions, greater position first and
absent ids (position -1) last: `-1` when `a` goes first, `1` when `b` does,
`0` when they tie. -/
def compareIds (order : List String) (a b : String) : Int :=
  let ia : Int := ((position? order a).map Int.ofNat).getD (-1)
  let ib : Int := ((position? order b).map Int.ofNat).getD (-1)
  if ia > ib then -1 else if ia < ib then 1 else 0

/-- Stable sort of ids by `compareIds`. -/
def sortIds (order : List String) (ids : List String) : List String :=
  ids.mergeSort fun a b => compareIds order a b ≤ 0

/-- Creation time first, then id: the order of posts in time. -/
def timeLE (p q : Post) : Bool :=
  p.createAt < q.createAt || (p.createAt == q.createAt && decide (p.id ≤ q.id))

/-- Posts oldest first; equal times and ids keep their order. -/
def byTime (ps : List Post) : List Post := ps.mergeSort timeLE

/-- Roots and replies, each in the given order. -/
def split (ps : List Post) : List Post × List Post := ps.partition Post.isRoot

/-- Roots oldest first, each with its replies oldest first. -/
def grouped (t : PostThread) : List ThreadGroup :=
  let (roots, replies) := split t.postList
  let replies := byTime replies
  (byTime roots).map fun r => ⟨r, replies.filter (·.rootId == r.id)⟩

/-- Groups in the declared order: by first position of the root id, absent ids last. -/
def groupThreads : Option PostThread → List ThreadGroup
  | none => []
  | some t =>
    let pos (g : ThreadGroup) : Nat := (position? t.order g.root.id).getD t.order.length
    (grouped t).mergeSort fun g h => pos g ≤ pos h

/-- Groups in transcript order: by `compareIds` on the root ids. -/
def readingOrder : Option PostThread → List ThreadGroup
  | none => []
  | some t => (grouped t).mergeSort fun g h => compareIds t.order g.root.id h.root.id ≤ 0

/-- Replies whose root id is the id of no root, oldest first. -/
def orphanReplies (t : PostThread) : List Post :=
  let (roots, replies) := split t.postList
  byTime (replies.filter fun p => !(roots.any (·.id == p.rootId)))

end Thread

end ChatSession
