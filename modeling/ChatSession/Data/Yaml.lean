import ChatSession.Yaml.Node

/-!
Values of YAML documents.

A document's node tree becomes a value by its tags: `seq` gives a list,
`map` a dictionary, `set` a set of the mapping's keys, `omap` and `pairs` a
list of key and value pairs (each from a one-entry mapping), and the scalar
tags `null`, `bool`, `int`, `float`, `str`, `binary` and `timestamp` the
values their readers give. Any other tag has no value.

A mapping's merge keys (`<<`) are worked out first: the mapping (or each
mapping of the list, the last first) that a merge key stands for is put in
front of the mapping's own entries, so that its own entries win. A later
key replaces the value of an equal earlier key, and keys must be scalars.
NaN equals no key, not even itself, yet one node is one key: every `.nan` of
a document reads as the same NaN, and so does every alias of one scalar node,
while any other NaN text gives a NaN of its own.

When a document has several faults, the one reported is the first one met
building the value level by level: a collection's own items are checked
(scalars read, keys checked) before the collections inside it, and the
collections of one level in the order they were written.
-/

namespace ChatSession.Yaml

mutual
/-- The depth of nesting of a node: 0 for a scalar. -/
def Node.depth : Node → Nat
  | .scalar _ _ _ => 0
  | .sequence _ items => depthOfItems items + 1
  | .mapping _ es => depthOfEntries es + 1
def depthOfItems : List Node → Nat
  | [] => 0
  | n :: ns => max n.depth (depthOfItems ns)
/-- The greatest depth of the keys and values. -/
def depthOfEntries : List (Node × Node) → Nat
  | [] => 0
  | (k, v) :: es => max (max k.depth v.depth) (depthOfEntries es)
end

/-- The kind of a node, as constructor errors name it. -/
def Node.kind : Node → String
  | .scalar _ _ _ => "scalar"
  | .sequence _ _ => "sequence"
  | .mapping _ _ => "mapping"

def constructorError {α : Type} (problem : String) : Except YamlError α :=
  .error (.constructor problem)

/-- Tags whose values are collections, built after the level they sit on. -/
def isCollectionTag (t : String) : Bool :=
  [Tag.seq, Tag.map, Tag.set, Tag.omap, Tag.pairs].contains t

/-- Whether base-64 text reads into bytes. -/
def readBinary (text : String) : Except YamlError (List UInt8) :=
  if !text.toList.all (·.toNat < 128) then
    constructorError "failed to convert base64 data into ascii"
  else match decodeBase64 text.toList with
    | some bs => .ok bs
    | none => constructorError "failed to decode base64 data: Incorrect padding"

def scalarValue (tag text : String) : Except YamlError Value :=
  let read {α : Type} (r : Except ScalarError α) : Except YamlError α := r.mapError .scalar
  if tag == Tag.null then .ok .null
  else if tag == Tag.bool then .bool <$> read (readBool text)
  else if tag == Tag.int then .int <$> read (readInt text)
  else if tag == Tag.float then .float <$> read (readFloat text)
  else if tag == Tag.str then .ok (.str text)
  else if tag == Tag.binary then .bytes <$> readBinary text
  else if tag == Tag.timestamp then read (readTimestamp text)
  else constructorError ("could not determine a constructor for the tag " ++ Literal.quote tag)

/-- Whether a tag's value is read from a scalar. -/
def isScalarTag (t : String) : Bool :=
  [Tag.null, Tag.bool, Tag.int, Tag.float, Tag.str, Tag.binary, Tag.timestamp].contains t

/-- Work out a mapping's merge keys: the entries merged in come first, then
the mapping's own; a key tagged `value` is taken as text. -/
def flatten : Nat → List (Node × Node) → Except YamlError (List (Node × Node))
  | 0, _ => constructorError "the document is nested too deeply"
  | fuel + 1, entries => do
    -- both lists are kept last entry first
    let step (acc : List (Node × Node) × List (Node × Node)) (e : Node × Node) :
        Except YamlError (List (Node × Node) × List (Node × Node)) := do
      let (merged, own) := acc
      let (k, v) := e
      if k.tag == Tag.merge then
        match v with
        | .mapping _ es => return ((← flatten fuel es).reverse ++ merged, own)
        | .sequence _ items =>
          let part (item : Node) : Except YamlError (List (Node × Node)) :=
            match item with
            | .mapping _ es => flatten fuel es
            | other => constructorError ("expected a mapping for merging, but found " ++ other.kind)
          let parts ← items.mapM part
          return (parts.reverse.flatten.reverse ++ merged, own)
        | other =>
          let found := other.kind
          constructorError ("expected a mapping or list of mappings for merging, but found " ++ found)
      else if k.tag == Tag.value then
        match k with
        | .scalar _ text place => return (merged, (.scalar Tag.str text place, v) :: own)
        | _ => return (merged, (k, v) :: own)
      else return (merged, (k, v) :: own)
    let (merged, own) ← entries.foldlM step ([], [])
    return merged.reverse ++ own.reverse

/-- What building a node does at once: a scalar is read (or refused), and a
collection is put off to the next level, which the result holds. -/
def visit (n : Node) : Except YamlError (List Node) :=
  if isCollectionTag n.tag then .ok [n]
  else match n with
    | .scalar t text _ => do
      discard (scalarValue t text)
      return []
    | _ =>
      if isScalarTag n.tag then constructorError ("expected a scalar node, but found " ++ n.kind)
      else constructorError ("could not determine a constructor for the tag " ++ Literal.quote n.tag)

/-- The items of a collection with a collection tag: the nodes that build
its value, checked in order, and the collections they put off. -/
def expand (fuel : Nat) (n : Node) : Except YamlError (List Node) :=
  let t := n.tag
  if t == Tag.seq then
    match n with
    | .sequence _ items => do
      let later ← items.foldlM (fun acc c => return (← visit c).reverse ++ acc) []
      return later.reverse
    | _ => constructorError ("expected a sequence node, but found " ++ n.kind)
  else if t == Tag.map || t == Tag.set then
    match n with
    | .mapping _ es => do
      let es ← flatten fuel es
      let later ← es.foldlM (fun acc (k, v) => do
        let fromKey ← visit k
        if !fromKey.isEmpty then constructorError "while constructing a mapping found unhashable key"
        else return (← visit v).reverse ++ acc) []
      return later.reverse
    | _ => constructorError ("expected a mapping node, but found " ++ n.kind)
  else
    match n with
    | .sequence _ items => do
      let later ← items.foldlM (fun acc s =>
        match s with
        | .mapping _ [(k, v)] => do
          let fromKey ← visit k
          return (← visit v).reverse ++ fromKey.reverse ++ acc
        | .mapping _ es =>
          let found := toString es.length
          constructorError ("expected a single mapping item, but found " ++ found ++ " items")
        | _ => constructorError ("expected a mapping of length 1, but found " ++ s.kind)) []
      return later.reverse
    | _ => constructorError ("expected a sequence, but found " ++ n.kind)

/-- Check the collections put off, level by level. -/
def checkLevels (fuel : Nat) : Nat → List Node → Except YamlError Unit
  | _, [] => .ok ()
  | 0, _ => constructorError "the document is nested too deeply"
  | k + 1, level => do
    let next ← level.foldlM (fun acc n => return (← expand fuel n).reverse ++ acc) []
    checkLevels fuel k next.reverse

/-- Which NaN a key is, if it is one: every `.nan` is the same NaN (0), and
any other NaN is its node's own (its place plus one). -/
def nanIdentity : Node → Value → Option Nat
  | .scalar _ text place, .float x =>
    if x.isNaN then some (if isSharedNaN text then 0 else place + 1) else none
  | _, _ => none

/-- Dictionary entries from keys, each with the NaN it is if it is one, and
values in order: a key equal to an earlier one, or the same NaN, replaces the
earlier value where it stands. -/
def entriesWithNaN (kvs : List (Option Nat × Value × Value)) : List (Value × Value) :=
  let step (acc : List (Option Nat × Value × Value)) (e : Option Nat × Value × Value) :=
    let same (f : Option Nat × Value × Value) : Bool :=
      match e.1, f.1 with
      | some a, some b => a == b
      | some _, none => false
      | none, _ => Value.eqv f.2.1 e.2.1
    if acc.any same then acc.map fun f => if same f then (f.1, f.2.1, e.2.2) else f
    else acc ++ [e]
  (kvs.foldl step []).map (·.2)

/-- The value of a node whose checks have passed. -/
def build : Nat → Node → Except YamlError Value
  | 0, _ => constructorError "the document is nested too deeply"
  | fuel + 1, n => do
    let t := n.tag
    if t == Tag.seq then
      match n with
      | .sequence _ items => return .list (← items.mapM (build fuel))
      | _ => constructorError ("expected a sequence node, but found " ++ n.kind)
    else if t == Tag.map || t == Tag.set then
      match n with
      | .mapping _ es =>
        let es ← flatten (fuel + 1) es
        let kvs ← es.mapM fun (k, v) => do
          let key ← build fuel k
          return (nanIdentity k key, key, ← build fuel v)
        let d := if kvs.any (·.1.isSome) then entriesWithNaN kvs
          else Value.ofEntriesQuick (kvs.map (·.2))
        return if t == Tag.map then .dict d else .set (d.map (·.1))
      | _ => constructorError ("expected a mapping node, but found " ++ n.kind)
    else if t == Tag.omap || t == Tag.pairs then
      match n with
      | .sequence _ items =>
        let pair (item : Node) : Except YamlError Value :=
          match item with
          | .mapping _ [(k, v)] => return Value.tuple [← build fuel k, ← build fuel v]
          | other => constructorError ("expected a mapping of length 1, but found " ++ other.kind)
        return .list (← items.mapM pair)
      | _ => constructorError ("expected a sequence, but found " ++ n.kind)
    else
      match n with
      | .scalar _ text _ => scalarValue t text
      | _ => constructorError ("expected a scalar node, but found " ++ n.kind)

/-- The value of a node: first the checks level by level, then the value. -/
def Node.toValue (n : Node) : Except YamlError Value := do
  let fuel := n.depth + 2
  checkLevels fuel fuel (← visit n)
  build fuel n

end Yaml

/-- Read a YAML document: null for a stream without one. -/
def Value.ofYaml (text : String) : Except YamlError Value := do
  match ← Yaml.Node.ofText text with
  | none => return .null
  | some n => n.toValue

end ChatSession
