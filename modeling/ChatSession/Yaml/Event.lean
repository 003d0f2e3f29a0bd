import ChatSession.Yaml.Token.Scan

/-!
Events of a YAML stream: the tokens read as a tree, depth first.

A stream is a list of documents, each a single node. A node is an alias, or
carries an optional anchor and tag and is then a scalar, a sequence or a
mapping; a sequence or mapping is an event that starts it, the events of its
items (key and value in turn for a mapping), and an event that ends it. A
node that is left out where the grammar allows it (a key or value without
content, an item of `- ` alone, a node with only properties) is the empty
plain scalar.

Tags are written with a handle and a suffix: the handle `!` stands for `!`,
`!!` for `tag:yaml.org,2002:`, and a `%TAG` directive of the document may add
others. A scalar's `plainImplicit` flag says that it may be typed by its
look (a plain scalar without a tag, or with the tag `!`), `quotedImplicit`
that it is quoted text without a tag.
-/

namespace ChatSession.Yaml

inductive Event where
  | streamStart
  | streamEnd
  | documentStart (explicit : Bool)
  | documentEnd
  | alias (anchor : String)
  | scalar (anchor tag : Option String) (plainImplicit quotedImplicit : Bool) (value : String)
  | sequenceStart (anchor tag : Option String) (implicit : Bool)
  | sequenceEnd
  | mappingStart (anchor tag : Option String) (implicit : Bool)
  | mappingEnd
deriving Repr, DecidableEq, Inhabited

/-- The tag prefix of the handle `!!`. -/
def yamlTagPrefix : String := "tag:yaml.org,2002:"

/-- The handles every document knows. -/
def defaultHandles : List (String × String) := [("!", "!"), ("!!", yamlTagPrefix)]

structure Parser where
  tokens : Array Token
  cutoff : Option YamlError := none
  pos : Nat := 0
  handles : List (String × String) := defaultHandles
  events : Array Event := #[]
deriving Inhabited

/-- Reading events: the result or the first error, and the state of the
reader either way (the events read before an error count). -/
abbrev ParseM := ExceptT YamlError (StateM Parser)

namespace Parser

def fail {α : Type} (problem : String) : ParseM α := throw (.parser problem)

/-- The next token, without taking it; past the end, the error that stopped
the tokens there, or else the stream's end. -/
def peek : ParseM Token := do
  let p ← get
  match p.tokens[p.pos]?, p.cutoff with
  | some t, _ => return t
  | none, some e => throw e
  | none, none => return .streamEnd

def next : ParseM Token := do
  let t ← peek
  modify fun p => { p with pos := p.pos + 1 }
  return t

def emit (e : Event) : ParseM Unit := modify fun p => { p with events := p.events.push e }

/-- The node left out: an empty plain scalar. -/
def emptyScalar : ParseM Unit := emit (.scalar none none true false "")

def peekIs (p : Token → Bool) : ParseM Bool := return p (← peek)

/-- Tokens that may stand after a key, value or entry indicator instead of its node. -/
def isKey : Token → Bool
  | .key => true
  | _ => false

def isValue : Token → Bool
  | .value => true
  | _ => false

def isBlockEnd : Token → Bool
  | .blockEnd => true
  | _ => false

def isBlockEntry : Token → Bool
  | .blockEntry => true
  | _ => false

def isFlowEntry : Token → Bool
  | .flowEntry => true
  | _ => false

def isFlowSequenceEnd : Token → Bool
  | .flowSequenceEnd => true
  | _ => false

def isFlowMappingEnd : Token → Bool
  | .flowMappingEnd => true
  | _ => false

/-- The full tag of a tag token: its handle's prefix, then its suffix. -/
def fullTag (handle : Option String) (suffix : String) : ParseM String := do
  match handle with
  | none => return suffix
  | some h =>
    match (← get).handles.find? (·.1 == h) with
    | some (_, pre) => return pre ++ suffix
    | none => fail ("while parsing a node: found undefined tag handle " ++ h)

/-- Read a node's anchor and tag, in either order. -/
def properties : ParseM (Option String × Option String) := do
  match ← peek with
  | .anchor a =>
    discard next
    match ← peek with
    | .tag h s =>
      discard next
      return (some a, some (← fullTag h s))
    | _ => return (some a, none)
  | .tag h s =>
    discard next
    let t ← fullTag h s
    match ← peek with
    | .anchor a =>
      discard next
      return (some a, some t)
    | _ => return (none, some t)
  | _ => return (none, none)

mutual

/-- Read a node. `block` allows block collections; `indentless` allows a
block sequence at its key's indentation (the value of a block mapping). -/
def node : Nat → Bool → Bool → ParseM Unit
  | 0, _, _ => fail "the stream nests deeper than the reader goes"
  | n + 1, block, indentless => do
    if let .alias a ← peek then
      discard next
      emit (.alias a)
      return
    let (anchor, tag) ← properties
    let implicit := tag.isNone || tag == some "!"
    let t ← peek
    match t with
    | .blockEntry =>
      if indentless then
        emit (.sequenceStart anchor tag implicit)
        indentlessSequence n
      else contentOrEmpty anchor tag implicit block t
    | .scalar text plain =>
      discard next
      let (pi, qi) :=
        if (plain && tag.isNone) || tag == some "!" then (true, false)
        else if tag.isNone then (false, true)
        else (false, false)
      emit (.scalar anchor tag pi qi text)
    | .flowSequenceStart =>
      discard next
      emit (.sequenceStart anchor tag implicit)
      flowSequence n true
    | .flowMappingStart =>
      discard next
      emit (.mappingStart anchor tag implicit)
      flowMapping n true
    | .blockSequenceStart =>
      if block then
        discard next
        emit (.sequenceStart anchor tag implicit)
        blockSequence n
      else contentOrEmpty anchor tag implicit block t
    | .blockMappingStart =>
      if block then
        discard next
        emit (.mappingStart anchor tag implicit)
        blockMapping n
      else contentOrEmpty anchor tag implicit block t
    | _ => contentOrEmpty anchor tag implicit block t

/-- A node with properties and no content is an empty scalar; without
properties it is an error. -/
def contentOrEmpty (anchor tag : Option String) (implicit block : Bool) (t : Token) :
    ParseM Unit := do
  if anchor.isSome || tag.isSome then emit (.scalar anchor tag implicit false "")
  else
    fail ("while parsing a " ++ (if block then "block" else "flow") ++
      " node: expected the node content, but found " ++ t.name)

/-- The entries of a block sequence after its start. -/
def blockSequence : Nat → ParseM Unit
  | 0 => fail "the stream nests deeper than the reader goes"
  | n + 1 => do
    match ← peek with
    | .blockEntry =>
      discard next
      if ← peekIs fun t => isBlockEntry t || isBlockEnd t then emptyScalar
      else node n true false
      blockSequence n
    | .blockEnd =>
      discard next
      emit .sequenceEnd
    | t => fail ("while parsing a block collection: expected <block end>, but found " ++ t.name)

/-- The entries of a sequence at its key's indentation: it ends at the first
token that is no entry. -/
def indentlessSequence : Nat → ParseM Unit
  | 0 => fail "the stream nests deeper than the reader goes"
  | n + 1 => do
    match ← peek with
    | .blockEntry =>
      discard next
      if ← peekIs fun t => isBlockEntry t || isKey t || isValue t || isBlockEnd t then emptyScalar
      else node n true false
      indentlessSequence n
    | _ => emit .sequenceEnd

/-- The entries of a block mapping after its start: an optional key, then an
optional value, until the block ends. -/
def blockMapping : Nat → ParseM Unit
  | 0 => fail "the stream nests deeper than the reader goes"
  | n + 1 => do
    match ← peek with
    | .key =>
      discard next
      if ← peekIs fun t => isKey t || isValue t || isBlockEnd t then emptyScalar
      else node n true true
      blockMappingValue n
      blockMapping n
    | .blockEnd =>
      discard next
      emit .mappingEnd
    | t => fail ("while parsing a block mapping: expected <block end>, but found " ++ t.name)

/-- The value of a block mapping entry, empty when there is none. -/
def blockMappingValue : Nat → ParseM Unit
  | 0 => fail "the stream nests deeper than the reader goes"
  | n + 1 => do
    match ← peek with
    | .value =>
      discard next
      if ← peekIs fun t => isKey t || isValue t || isBlockEnd t then emptyScalar
      else node n true true
    | _ => emptyScalar

/-- The entries of a flow sequence after its `[`; `first` before the first entry. -/
def flowSequence : Nat → Bool → ParseM Unit
  | 0, _ => fail "the stream nests deeper than the reader goes"
  | n + 1, first => do
    if ← peekIs isFlowSequenceEnd then
      discard next
      emit .sequenceEnd
      return
    if !first then
      if ← peekIs isFlowEntry then discard next
      else fail ("while parsing a flow sequence: expected ',' or ']', but got " ++ (← peek).name)
    match ← peek with
    | .key =>
      -- a single pair `a: b` as an entry is a mapping of one entry
      discard next
      emit (.mappingStart none none true)
      if ← peekIs fun t => isValue t || isFlowEntry t || isFlowSequenceEnd t then emptyScalar
      else node n false false
      match ← peek with
      | .value =>
        discard next
        if ← peekIs fun t => isFlowEntry t || isFlowSequenceEnd t then emptyScalar
        else node n false false
      | _ => emptyScalar
      emit .mappingEnd
      flowSequence n false
    | .flowSequenceEnd =>
      discard next
      emit .sequenceEnd
    | _ =>
      node n false false
      flowSequence n false

/-- The entries of a flow mapping after its `{`; `first` before the first entry. -/
def flowMapping : Nat → Bool → ParseM Unit
  | 0, _ => fail "the stream nests deeper than the reader goes"
  | n + 1, first => do
    if ← peekIs isFlowMappingEnd then
      discard next
      emit .mappingEnd
      return
    if !first then
      if ← peekIs isFlowEntry then discard next
      else fail ("while parsing a flow mapping: expected ',' or '\x7d', but got " ++ (← peek).name)
    match ← peek with
    | .key =>
      discard next
      if ← peekIs fun t => isValue t || isFlowEntry t || isFlowMappingEnd t then emptyScalar
      else node n false false
      match ← peek with
      | .value =>
        discard next
        if ← peekIs fun t => isFlowEntry t || isFlowMappingEnd t then emptyScalar
        else node n false false
      | _ => emptyScalar
      flowMapping n false
    | .flowMappingEnd =>
      discard next
      emit .mappingEnd
    | _ =>
      -- a key without `:` has an empty value
      node n false false
      emptyScalar
      flowMapping n false

end

/-- Read the directives before an explicit document; they set the tag handles. -/
def directives : Nat → Option (Nat × Nat) → List (String × String) → ParseM Unit
  | 0, _, hs => modify fun p => { p with handles := hs ++ defaultHandles.filter (fun d => !hs.any (·.1 == d.1)) }
  | n + 1, version, hs => do
    match ← peek with
    | .directive _ (.version major minor) =>
      discard next
      if version.isSome then fail "found duplicate YAML directive"
      if major != 1 then fail "found incompatible YAML document (version 1.* is required)"
      directives n (some (major, minor)) hs
    | .directive _ (.tag handle pre) =>
      discard next
      if hs.any (·.1 == handle) then fail ("duplicate tag handle " ++ handle)
      directives n version (hs ++ [(handle, pre)])
    | .directive _ .other =>
      discard next
      directives n version hs
    | _ => directives 0 version hs

/-- The end of a document: an explicit `...` is taken. -/
def documentEnd : ParseM Unit := do
  if let .documentEnd ← peek then discard next
  emit .documentEnd

/-- The documents after the first, until the stream ends. -/
def documents : Nat → ParseM Unit
  | 0 => fail "the stream is longer than the reader can follow"
  | n + 1 => do
    -- extra document end markers are skipped
    let rec skipEnds : Nat → ParseM Unit
      | 0 => pure ()
      | k + 1 => do
        if let .documentEnd ← peek then
          discard next
          skipEnds k
    skipEnds (← get).tokens.size
    match ← peek with
    | .streamEnd =>
      discard next
      emit .streamEnd
    | _ =>
      directives (← get).tokens.size none []
      match ← peek with
      | .documentStart =>
        discard next
        emit (.documentStart true)
        match ← peek with
        | .directive _ _ | .documentStart | .documentEnd | .streamEnd => emptyScalar
        | _ => node (← get).tokens.size true false
        documentEnd
        documents n
      | t => fail ("expected '<document start>', but found " ++ t.name)

/-- The whole stream: an implicit first document if the stream does not
start with a directive or a document marker, then the others. -/
def stream : ParseM Unit := do
  discard next
  emit .streamStart
  match ← peek with
  | .directive _ _ | .documentStart | .streamEnd => pure ()
  | _ =>
    modify fun p => { p with handles := defaultHandles }
    emit (.documentStart false)
    node (← get).tokens.size true false
    documentEnd
  documents ((← get).tokens.size + 1)

end Parser

/-- The events of a stream as far as they are read: all of them, or, when
reading fails, those that a reader taking them one at a time gets before it
meets the failure, and the error. -/
structure Parsed where
  events : Array Event
  error : Option YamlError := none
deriving Inhabited

/-- The events of a stream of tokens, as far as they are read. An event is
read before the token after it, so the events before a failure are all there. -/
def Event.ofScanned (s : Scanned) : Parsed :=
  match Parser.stream.run.run { tokens := s.tokens, cutoff := s.error } with
  | (.ok (), p) => ⟨p.events, none⟩
  | (.error e, p) => ⟨p.events, some e⟩

end ChatSession.Yaml
