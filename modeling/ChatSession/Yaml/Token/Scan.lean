import ChatSession.Yaml.Token
import ChatSession.Yaml.Error
import ChatSession.Data.Encoding

/-!
Reading a YAML stream into tokens.

The reader walks the characters once, keeping its line and column (a
byte-order mark takes no column), the indentation of every open block
collection, how deep it is in flow collections, and, per flow level, the
place where a simple key may have started. A simple key is only known to be
one when its `:` is found: the `KEY` token (and, when it opens a block
mapping, the mapping's start) is then put in front of the key's first token.
A possible simple key lapses at the end of its line or after 1024
characters; one that had to be a key (at the mapping's indentation) is then
an error.

Indentation is read in block context only: a line that starts left of the
current block collection closes it (`BLOCK-END`). Tabs may separate tokens
within a line but never indent. Line breaks are line feed, carriage return
(alone or before a line feed, which reads as one break), next line U+0085,
and the line and paragraph separators U+2028 and U+2029.

Scalars are read with their escapes and folding applied: in a plain or
quoted scalar a single line break folds into a space and each further one is
kept; in a folded block scalar the same holds between lines that start with
no blank, and a literal block scalar keeps every break. Every loop is bounded
by the length of the stream: each step either reads a character or ends.
-/

namespace ChatSession.Yaml

def isBreak (c : Char) : Bool :=
  c == '\n' || c == '\r' || c == '\x85' || c == '\u2028' || c == '\u2029'

/-- A line break or the end of the stream. -/
def isBreakOrEnd (c : Char) : Bool := c == '\x00' || isBreak c

/-- A space, a line break or the end of the stream. -/
def isSpaceOrEnd (c : Char) : Bool := c == ' ' || isBreakOrEnd c

/-- A blank (space or tab), a line break or the end of the stream. -/
def isBlankOrEnd (c : Char) : Bool := c == '\t' || isSpaceOrEnd c

/-- A character of an anchor name, a directive name or a tag handle. -/
def isWordChar (c : Char) : Bool := c.isAlphanum || c == '-' || c == '_'

/-- A character that may stand in a tag's URI. -/
def isUriChar (c : Char) : Bool :=
  isWordChar c || "-;/?:@&=+$,_.!~*'()[]%".toList.contains c

def isHexDigit (c : Char) : Bool :=
  c.isDigit || ('a' ≤ c && c ≤ 'f') || ('A' ≤ c && c ≤ 'F')

def hexDigitValue (c : Char) : Nat :=
  if c.isDigit then c.toNat - '0'.toNat
  else if 'a' ≤ c && c ≤ 'f' then c.toNat - 'a'.toNat + 10
  else c.toNat - 'A'.toNat + 10

def hexValue (cs : List Char) : Nat := cs.foldl (fun n c => 16 * n + hexDigitValue c) 0

/-- Characters that no plain scalar starts with. -/
def isIndicator (c : Char) : Bool :=
  "-?:,[]\x7b\x7d#&*!|>'\"%@\x60".toList.contains c

/-- Characters that end a plain scalar inside a flow collection. -/
def isFlowIndicator (c : Char) : Bool := ",?[]\x7b\x7d".toList.contains c

/-- The character a simple escape of double-quoted text stands for. -/
def simpleEscape : Char → Option Char
  | '0' => some '\x00'
  | 'a' => some '\x07'
  | 'b' => some '\x08'
  | 't' | '\t' => some '\t'
  | 'n' => some '\n'
  | 'v' => some '\x0b'
  | 'f' => some '\x0c'
  | 'r' => some '\r'
  | 'e' => some '\x1b'
  | ' ' => some ' '
  | '"' => some '"'
  | '\\' => some '\\'
  | '/' => some '/'
  | 'N' => some '\x85'
  | '_' => some '\xa0'
  | 'L' => some '\u2028'
  | 'P' => some '\u2029'
  | _ => none

/-- The number of hexadecimal digits of a numeric escape. -/
def escapeWidth : Char → Option Nat
  | 'x' => some 2
  | 'u' => some 4
  | 'U' => some 8
  | _ => none

/-- Where a simple key may have started. -/
structure SimpleKey where
  tokenNumber : Nat
  required : Bool
  index : Nat
  line : Nat
  column : Nat
deriving Repr, Inhabited

/-- The tokens of a stream as far as they are read: all of them, or, when
reading fails, those that a reader taking them one at a time gets before it
meets the failure, and the error. -/
structure Scanned where
  tokens : Array Token
  error : Option YamlError := none
deriving Inhabited

structure Scanner where
  src : Array Char
  pos : Nat := 0
  line : Nat := 0
  column : Nat := 0
  flowLevel : Nat := 0
  indent : Int := -1
  indents : List Int := []
  allowSimpleKey : Bool := true
  keys : List (Nat × SimpleKey) := []
  tokens : Array Token := #[]
  done : Bool := false
deriving Inhabited

/-- Reading tokens: the state of the reader, or the first error. -/
abbrev ScanM := StateT Scanner (Except YamlError)

namespace Scanner

def fail {α : Type} (problem : String) : ScanM α := throw (.scanner problem)

/-- The character `k` places ahead; the end of the stream reads as NUL. -/
def peekAt (k : Nat) : ScanM Char := do
  let s ← get
  return s.src.getD (s.pos + k) '\x00'

def peek : ScanM Char := peekAt 0

def ahead (n : Nat) : ScanM String := do
  let s ← get
  return String.ofList ((List.range n).map fun k => s.src.getD (s.pos + k) '\x00')

/-- Read one character, keeping line and column. -/
def step (s : Scanner) : Scanner :=
  let c := s.src.getD s.pos '\x00'
  if isBreak c then { s with pos := s.pos + 1, line := s.line + 1, column := 0 }
  else if c == '\uFEFF' then { s with pos := s.pos + 1 }
  else { s with pos := s.pos + 1, column := s.column + 1 }

def forward (n : Nat) : ScanM Unit := modify fun s => Nat.repeat step n s

def take (n : Nat) : ScanM String := do
  let t ← ahead n
  forward n
  return t

/-- A bound on the steps of any loop: the length of the stream, plus one. -/
def fuel : ScanM Nat := return (← get).src.size + 1

/-- The number of characters from `k` places ahead on that satisfy `p`. -/
def countFrom (p : Char → Bool) (k : Nat) : Nat → ScanM Nat
  | 0 => pure 0
  | n + 1 => do
    if p (← peekAt k) then return (← countFrom p (k + 1) n) + 1 else return 0

/-- The number of characters from here on that satisfy `p`. -/
def count (p : Char → Bool) : ScanM Nat := do countFrom p 0 (← fuel)

def skipWhile (p : Char → Bool) : ScanM Unit := do forward (← count p)

def emit (t : Token) : ScanM Unit := modify fun s => { s with tokens := s.tokens.push t }

/-- Read a line break: a line feed for `\n`, `\r\n`, `\r` and U+0085, the
separator itself for U+2028 and U+2029, nothing if there is none. -/
def lineBreak : ScanM String := do
  let c ← peek
  if c == '\r' || c == '\n' || c == '\x85' then
    if c == '\r' && (← peekAt 1) == '\n' then forward 2 else forward 1
    return "\n"
  else if c == '\u2028' || c == '\u2029' then
    forward 1
    return String.singleton c
  else return ""

/-- A document marker (`---` or `...`) followed by a blank at the current place. -/
def atDocumentMarker : ScanM Bool := do
  let p ← ahead 3
  return (p == "---" || p == "...") && isBlankOrEnd (← peekAt 3)

/-! ### Simple keys and indentation -/

/-- Drop possible simple keys that can no longer be keys: those on an
earlier line or more than 1024 characters back. One that had to be a key is
an error. -/
def staleKeys : ScanM Unit := do
  let s ← get
  let stale := s.keys.filter fun (_, k) => k.line != s.line || s.pos - k.index > 1024
  if stale.any (·.2.required) then fail "could not find expected ':'"
  set { s with keys := s.keys.filter fun (_, k) => !(k.line != s.line || s.pos - k.index > 1024) }

/-- Drop the possible simple key of the current flow level; an error if it had to be a key. -/
def removeKey : ScanM Unit := do
  let s ← get
  match s.keys.find? (·.1 == s.flowLevel) with
  | some (_, k) =>
    if k.required then fail "could not find expected ':'"
    set { s with keys := s.keys.filter (·.1 != s.flowLevel) }
  | none => pure ()

/-- The next token may start a simple key: remember where. -/
def saveKey : ScanM Unit := do
  let s ← get
  let required := s.flowLevel == 0 && s.indent == (s.column : Int)
  if s.allowSimpleKey then
    removeKey
    let s ← get
    let k : SimpleKey := ⟨s.tokens.size, required, s.pos, s.line, s.column⟩
    set { s with keys := s.keys ++ [(s.flowLevel, k)] }

/-- Close the block collections indented more than `column`. -/
def unwindIndent (column : Int) : ScanM Unit := do
  if (← get).flowLevel != 0 then return
  let rec go : List Int → ScanM Unit
    | [] => pure ()
    | i :: rest => do
      let s ← get
      if s.indent > column then
        set { s with indent := i, indents := rest }
        emit .blockEnd
        go rest
      else pure ()
  go (← get).indents

/-- Open a block collection at `column` if it is indented more than the current one. -/
def addIndent (column : Int) : ScanM Bool := do
  let s ← get
  if s.indent < column then
    set { s with indents := s.indent :: s.indents, indent := column }
    return true
  else return false

/-! ### Between tokens -/

/-- Skip spaces, comments and line breaks up to the next token; a line break
in block context allows a simple key again. -/
def toNextToken : ScanM Unit := do
  let s ← get
  if s.pos == 0 && (← peek) == '\uFEFF' then forward 1
  let rec go : Nat → ScanM Unit
    | 0 => pure ()
    | n + 1 => do
      skipWhile (· == ' ')
      if (← peek) == '#' then skipWhile (fun c => !isBreakOrEnd c)
      if (← lineBreak) != "" then
        if (← get).flowLevel == 0 then modify fun s => { s with allowSimpleKey := true }
        go n
  go (← fuel)

/-! ### Directives -/

def directiveName : ScanM String := do
  let n ← count isWordChar
  if n == 0 then
    fail ("while scanning a directive: expected alphabetic or numeric character, but found " ++
      String.singleton (← peek))
  let name ← take n
  if !isSpaceOrEnd (← peek) then
    fail "while scanning a directive: expected alphabetic or numeric character"
  return name

def versionNumber : ScanM Nat := do
  if !(← peek).isDigit then fail "while scanning a directive: expected a digit"
  let n ← count Char.isDigit
  let ds ← take n
  return ds.toList.foldl (fun acc d => 10 * acc + (d.toNat - '0'.toNat)) 0

/-- Read a tag handle: `!`, `!!` or `!name!`. -/
def tagHandle (what : String) : ScanM String := do
  if (← peek) != '!' then fail ("while scanning a " ++ what ++ ": expected '!'")
  if (← peekAt 1) == ' ' then take 1
  else
    let n ← countFrom isWordChar 1 (← fuel)
    if (← peekAt (n + 1)) != '!' then
      forward (n + 1)
      fail ("while scanning a " ++ what ++ ": expected '!'")
    take (n + 2)

/-- Read `%xx` escapes of a URI as UTF-8 text. -/
def uriEscapes (what : String) : ScanM String := do
  let rec go : Nat → List UInt8 → ScanM (List UInt8)
    | 0, acc => pure acc
    | n + 1, acc => do
      if (← peek) != '%' then return acc
      forward 1
      let a ← peekAt 0
      let b ← peekAt 1
      if !(isHexDigit a && isHexDigit b) then
        fail ("while scanning a " ++ what ++
          ": expected URI escape sequence of 2 hexdecimal numbers")
      forward 2
      go n (acc ++ [(hexValue [a, b]).toUInt8])
  let bytes ← go (← fuel) []
  match Encoding.utf8.decode false bytes with
  | some t => return t
  | none => fail ("while scanning a " ++ what ++ ": invalid UTF-8 in URI escapes")

def tagUri (what : String) : ScanM String := do
  let rec go : Nat → String → ScanM String
    | 0, acc => pure acc
    | n + 1, acc => do
      let c ← peek
      if c == '%' then go n (acc ++ (← uriEscapes what))
      else if isUriChar c then
        forward 1
        go n (acc.push c)
      else pure acc
  let uri ← go (← fuel) ""
  if uri.isEmpty then
    fail ("while parsing a " ++ what ++ ": expected URI, but found " ++ String.singleton (← peek))
  return uri

/-- The rest of a directive's line: blanks and a comment, then a break. -/
def directiveLineEnd : ScanM Unit := do
  skipWhile (· == ' ')
  if (← peek) == '#' then skipWhile (fun c => !isBreakOrEnd c)
  if !isBreakOrEnd (← peek) then
    fail "while scanning a directive: expected a comment or a line break"
  discard lineBreak

def directive : ScanM Token := do
  forward 1
  let name ← directiveName
  let d ← if name == "YAML" then do
      skipWhile (· == ' ')
      let major ← versionNumber
      if (← peek) != '.' then fail "while scanning a directive: expected a digit or '.'"
      forward 1
      let minor ← versionNumber
      if !isSpaceOrEnd (← peek) then fail "while scanning a directive: expected a digit or ' '"
      pure (Directive.version major minor)
    else if name == "TAG" then do
      skipWhile (· == ' ')
      let handle ← tagHandle "directive"
      if (← peek) != ' ' then fail "while scanning a directive: expected ' '"
      skipWhile (· == ' ')
      let pre ← tagUri "directive"
      if !isSpaceOrEnd (← peek) then fail "while scanning a directive: expected ' '"
      pure (Directive.tag handle pre)
    else do
      skipWhile (fun c => !isBreakOrEnd c)
      pure Directive.other
  directiveLineEnd
  return .directive name d

/-! ### Anchors, aliases and tags -/

/-- Read an anchor or alias name after its `&` or `*`. -/
def anchorName (what : String) : ScanM String := do
  forward 1
  let n ← count isWordChar
  if n == 0 then fail ("while scanning an " ++ what ++ ": expected alphabetic or numeric character")
  let name ← take n
  let c ← peek
  if !(isBlankOrEnd c || "?:,]\x7d%@\x60".toList.contains c) then
    fail ("while scanning an " ++ what ++ ": expected alphabetic or numeric character")
  return name

/-- Read a tag: `!<uri>`, a lone `!`, `!suffix`, or `handle!suffix`. -/
def tag : ScanM Token := do
  let c ← peekAt 1
  let (handle, suffix) ← if c == '<' then do
      forward 2
      let suffix ← tagUri "tag"
      if (← peek) != '>' then fail "while parsing a tag: expected '>'"
      forward 1
      pure (none, suffix)
    else if isBlankOrEnd c then do
      forward 1
      pure (none, "!")
    else do
      -- a second `!` before the next blank makes the first part a handle
      let n ← countFrom (fun c => !(isSpaceOrEnd c) && c != '!') 1 (← fuel)
      let handle ← if (← peekAt (n + 1)) == '!' then tagHandle "tag" else do
        forward 1
        pure "!"
      let suffix ← tagUri "tag"
      pure (some handle, suffix)
  if !isSpaceOrEnd (← peek) then fail "while scanning a tag: expected ' '"
  return .tag handle suffix

/-! ### Block scalars -/

/-- Read the header of a block scalar: chomping (`+` keep, `-` strip) and an
indentation indicator, in either order. -/
def blockHeader : ScanM (Option Bool × Option Nat) := do
  let chompOf (c : Char) : Option Bool := if c == '+' then some true else some false
  let c ← peek
  let (chomp, incr) ← if c == '+' || c == '-' then do
      forward 1
      let d ← peek
      if d.isDigit then
        if d == '0' then fail "while scanning a block scalar: expected indentation indicator in the range 1-9, but found 0"
        forward 1
        pure (chompOf c, some (d.toNat - '0'.toNat))
      else pure (chompOf c, none)
    else if c.isDigit then do
      if c == '0' then fail "while scanning a block scalar: expected indentation indicator in the range 1-9, but found 0"
      forward 1
      let d ← peek
      if d == '+' || d == '-' then
        forward 1
        pure (chompOf d, some (c.toNat - '0'.toNat))
      else pure (none, some (c.toNat - '0'.toNat))
    else pure (none, none)
  if !isSpaceOrEnd (← peek) then
    fail "while scanning a block scalar: expected chomping or indentation indicators"
  return (chomp, incr)

/-- The rest of a block scalar's header line: blanks and a comment, then a break. -/
def blockHeaderLineEnd : ScanM Unit := do
  skipWhile (· == ' ')
  if (← peek) == '#' then skipWhile (fun c => !isBreakOrEnd c)
  if !isBreakOrEnd (← peek) then
    fail "while scanning a block scalar: expected a comment or a line break"
  discard lineBreak

/-- Leading empty lines of a block scalar without an indentation indicator:
their breaks, and the deepest indentation among them. -/
def blockIndentation : ScanM (List String × Nat) := do
  let rec go : Nat → List String → Nat → ScanM (List String × Nat)
    | 0, bs, m => pure (bs, m)
    | n + 1, bs, m => do
      let c ← peek
      if c == ' ' then
        forward 1
        go n bs (max m (← get).column)
      else if isBreak c then go n (bs ++ [← lineBreak]) m
      else pure (bs, m)
  go (← fuel) [] 0

/-- Empty lines inside a block scalar, up to the indentation `indent`. -/
def blockBreaks (indent : Nat) : ScanM (List String) := do
  let toIndent : ScanM Unit := do
    let n ← count (· == ' ')
    let s ← get
    forward (min n (indent - s.column))
  toIndent
  let rec go : Nat → List String → ScanM (List String)
    | 0, bs => pure bs
    | n + 1, bs => do
      if isBreak (← peek) then
        let b ← lineBreak
        toIndent
        go n (bs ++ [b])
      else pure bs
  go (← fuel) []

/-- Read a block scalar after its `|` (literal) or `>` (folded). -/
def blockScalar (folded : Bool) : ScanM Token := do
  forward 1
  let (chomp, incr) ← blockHeader
  blockHeaderLineEnd
  let minIndent : Nat := max 1 ((← get).indent + 1).toNat
  let (breaks, indent) ← match incr with
    | none => do
      let (bs, maxIndent) ← blockIndentation
      pure (bs, max minIndent maxIndent)
    | some i => do
      let indent := minIndent + i - 1
      pure (← blockBreaks indent, indent)
  let rec body : Nat → String → List String → String → ScanM (String × List String × String)
    | 0, text, bs, lb => pure (text, bs, lb)
    | n + 1, text, bs, lb => do
      if !((← get).column == indent && (← peek) != '\x00') then return (text, bs, lb)
      let text := text ++ String.join bs
      let leadingNonBlank := !((← peek) == ' ' || (← peek) == '\t')
      let line ← take (← count (fun c => !isBreakOrEnd c))
      let text := text ++ line
      let lb ← lineBreak
      let bs ← blockBreaks indent
      if (← get).column == indent && (← peek) != '\x00' then
        let c ← peek
        let text :=
          if folded && lb == "\n" && leadingNonBlank && !(c == ' ' || c == '\t') then
            if bs.isEmpty then text ++ " " else text
          else text ++ lb
        body n text bs lb
      else return (text, bs, lb)
  let (text, bs, lb) ← body (← fuel) "" breaks ""
  let text := if chomp != some false then text ++ lb else text
  let text := if chomp == some true then text ++ String.join bs else text
  return .scalar text false

/-! ### Quoted scalars -/

/-- Line breaks inside a quoted scalar, with the blanks around them; a
document marker at the start of a line is an error. -/
def quotedBreaks : ScanM (List String) := do
  let rec go : Nat → List String → ScanM (List String)
    | 0, bs => pure bs
    | n + 1, bs => do
      if ← atDocumentMarker then
        fail "while scanning a quoted scalar: found unexpected document separator"
      skipWhile (fun c => c == ' ' || c == '\t')
      if isBreak (← peek) then go n (bs ++ [← lineBreak]) else pure bs
  go (← fuel) []

/-- Read the part of a quoted scalar up to the next blank or break, with its
escapes (`''` in single quotes, backslash escapes in double quotes). -/
def quotedRun (double : Bool) : ScanM String := do
  let rec go : Nat → String → ScanM String
    | 0, acc => pure acc
    | n + 1, acc => do
      let plainLen ← count fun c => !(c == '\'' || c == '"' || c == '\\' || isBlankOrEnd c)
      let acc := acc ++ (← take plainLen)
      let c ← peek
      if !double && c == '\'' && (← peekAt 1) == '\'' then
        forward 2
        go n (acc.push '\'')
      else if (double && c == '\'') || (!double && (c == '"' || c == '\\')) then
        forward 1
        go n (acc.push c)
      else if double && c == '\\' then
        forward 1
        let e ← peek
        match simpleEscape e with
        | some r =>
          forward 1
          go n (acc.push r)
        | none =>
          match escapeWidth e with
          | some w =>
            forward 1
            let digits ← ahead w
            if !digits.toList.all isHexDigit then
              fail ("while scanning a double-quoted scalar: expected escape sequence of " ++
                toString w ++ " hexdecimal numbers")
            let code := hexValue digits.toList
            if code > 0x10FFFF then throw (.scalar (.badCodePoint code))
            forward w
            go n (acc ++ String.ofList (CodePoint.chars code))
          | none =>
            if isBreak e then
              discard lineBreak
              let bs ← quotedBreaks
              go n (acc ++ String.join bs)
            else fail ("while scanning a double-quoted scalar: found unknown escape character " ++
              String.singleton e)
      else pure acc
  go (← fuel) ""

/-- Blanks and line breaks inside a quoted scalar, folded: blanks before a
break go, one break is a space, more breaks are kept. -/
def quotedSpaces : ScanM String := do
  let blanks ← take (← count fun c => c == ' ' || c == '\t')
  let c ← peek
  if c == '\x00' then fail "while scanning a quoted scalar: found unexpected end of stream"
  else if isBreak c then
    let lb ← lineBreak
    let bs ← quotedBreaks
    let first := if lb != "\n" then lb else if bs.isEmpty then " " else ""
    return first ++ String.join bs
  else return blanks

/-- Read a quoted scalar from its opening quote. -/
def quoted (double : Bool) : ScanM Token := do
  let q ← peek
  forward 1
  let first ← quotedRun double
  let rec go : Nat → String → ScanM String
    | 0, acc => pure acc
    | n + 1, acc => do
      if (← peek) == q then return acc
      let sp ← quotedSpaces
      let run ← quotedRun double
      go n (acc ++ sp ++ run)
  let text ← go (← fuel) first
  forward 1
  return .scalar text false

/-! ### Plain scalars -/

/-- Blanks and breaks after a part of a plain scalar, folded; `none` when a
document marker follows a break, which ends the scalar. Reading a break
allows a simple key again. -/
def plainSpaces : ScanM (Option String) := do
  let blanks ← take (← count (· == ' '))
  let c ← peek
  if isBreak c then
    let lb ← lineBreak
    modify fun s => { s with allowSimpleKey := true }
    if ← atDocumentMarker then return none
    let rec go : Nat → List String → ScanM (Option (List String))
      | 0, bs => pure (some bs)
      | n + 1, bs => do
        let c ← peek
        if c == ' ' then
          forward 1
          go n bs
        else if isBreak c then
          let b ← lineBreak
          if ← atDocumentMarker then return none
          go n (bs ++ [b])
        else pure (some bs)
    match ← go (← fuel) [] with
    | none => return none
    | some bs =>
      let first := if lb != "\n" then lb else if bs.isEmpty then " " else ""
      return some (first ++ String.join bs)
  else return some blanks

/-- The length of the part of a plain scalar that starts here: up to a
blank, a `: ` (or `:` before a flow indicator in flow context), or in flow
context a flow indicator. -/
def plainRunLength : ScanM Nat := do
  let flow := (← get).flowLevel != 0
  let rec go : Nat → Nat → ScanM Nat
    | 0, k => pure k
    | n + 1, k => do
      let c ← peekAt k
      let next ← peekAt (k + 1)
      if isBlankOrEnd c || (c == ':' && (isBlankOrEnd next || (flow && isFlowIndicator next))) ||
          (flow && isFlowIndicator c) then pure k
      else go n (k + 1)
  go (← fuel) 0

/-- Read a plain scalar. In block context it goes on over the lines indented
more than the enclosing collection; a comment ends it. -/
def plain : ScanM Token := do
  let indent := (← get).indent + 1
  let rec go : Nat → String → String → ScanM String
    | 0, text, _ => pure text
    | n + 1, text, spaces => do
      if (← peek) == '#' then return text
      let len ← plainRunLength
      if len == 0 then return text
      modify fun s => { s with allowSimpleKey := false }
      let text := text ++ spaces ++ (← take len)
      match ← plainSpaces with
      | none => return text
      | some sp =>
        let s ← get
        if sp.isEmpty || (← peek) == '#' || (s.flowLevel == 0 && (s.column : Int) < indent) then
          return text
        go n text sp
  let text ← go (← fuel) "" ""
  return .scalar text true

/-! ### Fetching tokens -/

/-- The stream ends: close every block collection. -/
def streamEnd : ScanM Unit := do
  unwindIndent (-1)
  removeKey
  modify fun s => { s with allowSimpleKey := false, keys := [] }
  emit .streamEnd
  modify fun s => { s with done := true }

/-- A directive or a document marker: close every block collection first. -/
def atColumnZero (t : ScanM Token) : ScanM Unit := do
  unwindIndent (-1)
  removeKey
  modify fun s => { s with allowSimpleKey := false }
  emit (← t)

/-- `[` or `{`. -/
def flowStart (t : Token) : ScanM Unit := do
  saveKey
  modify fun s => { s with flowLevel := s.flowLevel + 1, allowSimpleKey := true }
  forward 1
  emit t

/-- `]` or `}`. -/
def flowEnd (t : Token) : ScanM Unit := do
  removeKey
  modify fun s => { s with flowLevel := s.flowLevel - 1, allowSimpleKey := false }
  forward 1
  emit t

/-- `,`. -/
def flowEntry : ScanM Unit := do
  modify fun s => { s with allowSimpleKey := true }
  removeKey
  forward 1
  emit .flowEntry

/-- `-` followed by a blank. -/
def blockEntry : ScanM Unit := do
  let s ← get
  if s.flowLevel == 0 then
    if !s.allowSimpleKey then fail "sequence entries are not allowed here"
    if ← addIndent s.column then emit .blockSequenceStart
  modify fun s => { s with allowSimpleKey := true }
  removeKey
  forward 1
  emit .blockEntry

/-- `?` of an explicit key. -/
def explicitKey : ScanM Unit := do
  let s ← get
  if s.flowLevel == 0 then
    if !s.allowSimpleKey then fail "mapping keys are not allowed here"
    if ← addIndent s.column then emit .blockMappingStart
  modify fun s => { s with allowSimpleKey := s.flowLevel == 0 }
  removeKey
  forward 1
  emit .key

/-- `:` of a value. If a simple key was possible on this level, it was one:
its `KEY` token (and a block mapping start) go in front of its first token. -/
def valueIndicator : ScanM Unit := do
  let s ← get
  match s.keys.find? (·.1 == s.flowLevel) with
  | some (_, k) =>
    set { s with keys := s.keys.filter (·.1 != s.flowLevel) }
    modify fun s => { s with tokens := s.tokens.insertIdxIfInBounds k.tokenNumber .key }
    if s.flowLevel == 0 then
      if ← addIndent k.column then
        modify fun s => { s with tokens := s.tokens.insertIdxIfInBounds k.tokenNumber .blockMappingStart }
    modify fun s => { s with allowSimpleKey := false }
  | none =>
    if s.flowLevel == 0 then
      if !s.allowSimpleKey then fail "mapping values are not allowed here"
      if ← addIndent s.column then emit .blockMappingStart
    modify fun s => { s with allowSimpleKey := s.flowLevel == 0 }
    removeKey
  forward 1
  emit .value

/-- A token that may start a simple key and allows none after it. -/
def keyCandidate (t : ScanM Token) : ScanM Unit := do
  saveKey
  modify fun s => { s with allowSimpleKey := false }
  emit (← t)

/-- A block scalar: a simple key may follow it. -/
def blockScalarToken (folded : Bool) : ScanM Unit := do
  modify fun s => { s with allowSimpleKey := true }
  removeKey
  emit (← blockScalar folded)

def plainStarts : ScanM Bool := do
  let c ← peek
  let next ← peekAt 1
  let flow := (← get).flowLevel != 0
  return !(isBlankOrEnd c || isIndicator c) ||
    (!isBlankOrEnd next && (c == '-' || (!flow && (c == '?' || c == ':'))))

/-- Read the next token (or tokens, when indentation closes collections). -/
def fetch : ScanM Unit := do
  toNextToken
  staleKeys
  unwindIndent (← get).column
  let s ← get
  let c ← peek
  let next ← peekAt 1
  let flow := s.flowLevel != 0
  if c == '\x00' then streamEnd
  else if c == '%' && s.column == 0 then atColumnZero directive
  else if c == '-' && s.column == 0 && (← atDocumentMarker) then
    atColumnZero (do forward 3; pure .documentStart)
  else if c == '.' && s.column == 0 && (← atDocumentMarker) then
    atColumnZero (do forward 3; pure .documentEnd)
  else if c == '[' then flowStart .flowSequenceStart
  else if c == '\x7b' then flowStart .flowMappingStart
  else if c == ']' then flowEnd .flowSequenceEnd
  else if c == '\x7d' then flowEnd .flowMappingEnd
  else if c == ',' then flowEntry
  else if c == '-' && isBlankOrEnd next then blockEntry
  else if c == '?' && (flow || isBlankOrEnd next) then explicitKey
  else if c == ':' && (flow || isBlankOrEnd next) then valueIndicator
  else if c == '*' then keyCandidate (.alias <$> anchorName "alias")
  else if c == '&' then keyCandidate (.anchor <$> anchorName "anchor")
  else if c == '!' then keyCandidate tag
  else if c == '|' && !flow then blockScalarToken false
  else if c == '>' && !flow then blockScalarToken true
  else if c == '\'' then keyCandidate (quoted false)
  else if c == '"' then keyCandidate (quoted true)
  else if ← plainStarts then keyCandidate plain
  else fail ("while scanning for the next token: found character " ++ String.singleton c ++
    " that cannot start any token")

/-- The tokens handed out so far, to a reader that takes them one at a time:
all of them, except from the earliest possible simple key on, which may still
get a `KEY` token put in front of it. -/
def handedOut (s : Scanner) : Array Token :=
  let live := s.keys.filter fun (_, k) => !(k.line != s.line || s.pos - k.index > 1024)
  match (live.map (·.2.tokenNumber)).min? with
  | some n => s.tokens.extract 0 n
  | none => s.tokens

/-- Read tokens until the stream ends or reading fails. -/
def fetchUntilError : Nat → Scanner → Scanned
  | 0, s => ⟨s.handedOut, some (.scanner "the stream is longer than the reader can follow")⟩
  | n + 1, s =>
    if s.done then ⟨s.tokens, none⟩
    else match fetch.run s with
      | .ok ((), s') => fetchUntilError n s'
      | .error e => ⟨s.handedOut, some e⟩

end Scanner

/-- A code point that a YAML stream may hold: tab, line breaks, printable
ASCII, next line, and the rest of Unicode but surrogates, U+FFFE and U+FFFF. -/
def isStreamPoint (n : Nat) : Bool :=
  n == 0x09 || n == 0x0A || n == 0x0D || (0x20 ≤ n && n ≤ 0x7E) || n == 0x85 ||
    (0xA0 ≤ n && n ≤ 0xD7FF) || (0xE000 ≤ n && n ≤ 0xFFFD) || 0x10000 ≤ n

/-- The tokens of a YAML stream, from `STREAM-START` to `STREAM-END`, as far
as they are read. The code points are checked first; the reader then walks
the text's characters, in which a surrogate or U+E000 (two characters each,
see `CodePoint`) can only come from an escape, and reads as text like any
other character. -/
def Token.scan (text : String) : Scanned :=
  let cs := text.toList
  match (CodePoint.points cs).find? (!isStreamPoint ·) with
  | some n => ⟨#[], some (.reader n)⟩
  | none =>
    let src := cs.toArray
    Scanner.fetchUntilError (2 * src.size + 4) { src, tokens := #[.streamStart] }

end ChatSession.Yaml
