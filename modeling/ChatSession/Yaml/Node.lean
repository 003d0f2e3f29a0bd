import ChatSession.Yaml.Event
import ChatSession.Yaml.Scalar

/-!
The node tree of a YAML document, with every node's tag settled.

Events are put together into nodes: a scalar with its text, a sequence of
nodes, or a mapping of key and value nodes in the order they were written.
An alias stands for the node its anchor was put on, so the tree holds a copy
of that node where the alias was. An alias must come after its anchor and
outside the anchored node (a node that holds itself has no tree), and an
anchor may be set only once.

A node without a tag, or with the tag `!`, gets one from its kind: sequences
and mappings get the tags `seq` and `map`, quoted scalars `str`, and plain
scalars the first type whose look they have, in the order bool, float, int,
merge, null, timestamp, value, else `str`.

A stream gives one node, or none when it holds no document; a second
document is refused. Collections nest at most `Composer.maxDepth` deep: the
composer puts a document together by recursion, and the room for it runs out
there.

Every scalar node keeps its place among the events, and a copy made for an
alias keeps the place of the node it copies, so two scalars with one place are
one node. (Only NaN, which equals nothing, tells one node from two.)
-/

namespace ChatSession.Yaml

/-- A node of a YAML document, tagged. -/
inductive Node where
  | scalar (tag : String) (value : String) (place : Nat)
  | sequence (tag : String) (items : List Node)
  | mapping (tag : String) (entries : List (Node × Node))
deriving Inhabited, Repr

def Node.tag : Node → String
  | .scalar t _ _ | .sequence t _ | .mapping t _ => t

namespace Tag

/-- The full tag of a YAML 1.1 type. -/
def ofType (name : String) : String := yamlTagPrefix ++ name

/-! The full tags of the types a document may use. -/

def null : String := ofType "null"
def bool : String := ofType "bool"
def int : String := ofType "int"
def float : String := ofType "float"
def str : String := ofType "str"
def binary : String := ofType "binary"
def timestamp : String := ofType "timestamp"
def omap : String := ofType "omap"
def pairs : String := ofType "pairs"
def set : String := ofType "set"
def seq : String := ofType "seq"
def map : String := ofType "map"
def merge : String := ofType "merge"
def value : String := ofType "value"

/-- The tag a plain scalar gets from its look. Only text that starts like a
type's own text can have its look: a line feed alone is text, not null. -/
def ofPlain (value : String) : String :=
  let cs := value.toList
  if cs.isEmpty then null
  else if looksBool cs then bool
  else if looksFloat cs then float
  else if looksInt cs then int
  else if String.ofList (dropFinalFeed cs) == "<<" then merge
  else if ['~', 'n', 'N'].contains (cs.headD ' ') && looksNull cs then null
  else if looksTimestamp cs then timestamp
  else if String.ofList (dropFinalFeed cs) == "=" then value
  else str

end Tag

/-- The state of putting events together: the events, the error met past the
last one if reading them failed there, the next one, the anchored nodes so
far, and the anchors of the nodes still open. -/
structure Composer where
  events : Array Event
  cutoff : Option YamlError := none
  pos : Nat := 0
  anchors : List (String × Node) := []
  pending : List String := []
deriving Inhabited

/-- Putting events together: the state, or the first error. -/
abbrev ComposeM := StateT Composer (Except YamlError)

namespace Composer

/-- How many collections may be open, one inside the other. -/
def maxDepth : Nat := 488

def fail {α : Type} (problem : String) : ComposeM α := throw (.composer problem)

/-- The next event, without taking it; past the end, the error that stopped
the events there, or else the stream's end. -/
def peek : ComposeM Event := do
  let c ← get
  match c.events[c.pos]?, c.cutoff with
  | some e, _ => return e
  | none, some err => throw err
  | none, none => return .streamEnd

def next : ComposeM Event := do
  let e ← peek
  modify fun c => { c with pos := c.pos + 1 }
  return e

/-- Refuse an anchor that is set already. -/
def fresh : Option String → ComposeM Unit
  | none => pure ()
  | some a => do
    let c ← get
    if c.anchors.any (·.1 == a) || c.pending.contains a then
      fail ("found duplicate anchor " ++ Literal.quote a)

/-- Record a finished node under its anchor. -/
def record (anchor : Option String) (n : Node) : ComposeM Unit :=
  match anchor with
  | none => pure ()
  | some a => modify fun c =>
    { c with anchors := (a, n) :: c.anchors, pending := c.pending.erase a }

/-- Mark an anchor whose node is being put together. -/
def opening (anchor : Option String) : ComposeM Unit :=
  match anchor with
  | none => pure ()
  | some a => modify fun c => { c with pending := a :: c.pending }

/-- The tag a collection gets: its own, or the default of its kind. -/
def collectionTag (tag : Option String) (default : String) : String :=
  match tag with
  | none | some "!" => default
  | some t => t

mutual

/-- Put together the node whose events come next, inside `depth` open
collections. -/
def node : Nat → Nat → ComposeM Node
  | 0, _ => fail "the document is nested deeper than the composer follows"
  | fuel + 1, depth => do
    let place := (← get).pos
    match ← next with
    | .alias a =>
      let c ← get
      match c.anchors.find? (·.1 == a) with
      | some (_, n) => return n
      | none =>
        if c.pending.contains a then fail ("found recursive alias " ++ Literal.quote a)
        else fail ("found undefined alias " ++ Literal.quote a)
    | .scalar anchor tag plain _ value =>
      fresh anchor
      let t := match tag with
        | none | some "!" => if plain then Tag.ofPlain value else Tag.str
        | some t => t
      let n := Node.scalar t value place
      record anchor n
      return n
    | .sequenceStart anchor tag _ =>
      if depth ≥ maxDepth then throw (.tooDeep false)
      fresh anchor
      opening anchor
      let items ← items fuel (depth + 1) []
      let n := Node.sequence (collectionTag tag Tag.seq) items
      record anchor n
      return n
    | .mappingStart anchor tag _ =>
      if depth ≥ maxDepth then throw (.tooDeep true)
      fresh anchor
      opening anchor
      let entries ← entries fuel (depth + 1) []
      let n := Node.mapping (collectionTag tag Tag.map) entries
      record anchor n
      return n
    | _ => fail "expected a node"

/-- The items of a sequence, up to its end. -/
def items : Nat → Nat → List Node → ComposeM (List Node)
  | 0, _, _ => fail "the document is nested deeper than the composer follows"
  | fuel + 1, depth, acc => do
    if let .sequenceEnd ← peek then
      discard next
      return acc.reverse
    let n ← node fuel depth
    items fuel depth (n :: acc)

/-- The entries of a mapping, up to its end. -/
def entries : Nat → Nat → List (Node × Node) → ComposeM (List (Node × Node))
  | 0, _, _ => fail "the document is nested deeper than the composer follows"
  | fuel + 1, depth, acc => do
    if let .mappingEnd ← peek then
      discard next
      return acc.reverse
    let k ← node fuel depth
    let v ← node fuel depth
    entries fuel depth ((k, v) :: acc)

end

/-- The one document of the stream, if it has one. -/
def document : ComposeM (Option Node) := do
  discard next
  if let .streamEnd ← peek then return none
  discard next
  let n ← node ((← get).events.size + 1) 0
  discard next
  match ← peek with
  | .streamEnd => return some n
  | _ => fail "expected a single document in the stream but found another document"

end Composer

/-- The node of a YAML text: scanned, parsed and composed; none for a
stream without a document. The three steps run as if each took what it needs
from the one before only when it needs it: an error is met only where the
composer's need for events, and the parser's for tokens, reaches it. -/
def Node.ofText (text : String) : Except YamlError (Option Node) := do
  let parsed := Event.ofScanned (Token.scan text)
  let (n, _) ← Composer.document.run { events := parsed.events, cutoff := parsed.error }
  return n

end ChatSession.Yaml
