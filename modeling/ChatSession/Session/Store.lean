import ChatSession.Session.State
import ChatSession.Thread.Group

/-!
The session store: the one current snapshot, and who is told about writes.

Every write replaces the snapshot and is delivered, once, to every
subscription that is live at that moment, in the order they were made.
A subscription is ended by its own handle; ending it again changes nothing.
The store counts the writes it published and keeps, per subscription, the
snapshots delivered to it.
-/

namespace ChatSession

/-- A registration for the store's writes. -/
structure Subscription where
  id : Nat
  received : List PageState := []
  live : Bool := true
deriving Inhabited

/-- How many writes a subscription was delivered. -/
def Subscription.delivered (sub : Subscription) : Nat := sub.received.length

/-- The current snapshot and its subscriptions. -/
structure Store where
  value : PageState := {}
  published : Nat := 0
  subscriptions : List Subscription := []
deriving Inhabited

namespace Store

/-- Replace the snapshot with `f` of it and deliver the new value. -/
def write (s : Store) (f : PageState → PageState) : Store :=
  { value := f s.value
    published := s.published + 1
    subscriptions := s.subscriptions.map fun sub =>
      if sub.live then { sub with received := sub.received ++ [f s.value] } else sub }

def merge (s : Store) (cs : List Change) : Store := s.write (·.update cs)

/-- Put the session fields back to their defaults. -/
def resetSession (s : Store) : Store := s.write PageState.resetSession

/-- Subscribe: the new subscription's id and the store. -/
def subscribe (s : Store) : Nat × Store :=
  let id := s.subscriptions.length
  (id, { s with subscriptions := s.subscriptions ++ [{ id }] })

/-- End a subscription, if it is live. -/
def unsubscribe (s : Store) (id : Nat) : Store :=
  { s with subscriptions := s.subscriptions.map fun sub =>
      if sub.id == id then { sub with live := false } else sub }

/-- The threads of the selected channel, in declared order. -/
def threadGroups (s : Store) : List ThreadGroup := Thread.groupThreads s.value.channelPosts

end Store

end ChatSession
