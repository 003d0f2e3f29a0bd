import ChatSession.Schema.Issue
import ChatSession.Data.Blank
import ChatSession.Data.Encoding

/-!
Checking dynamic input against a record's schema, leniently.

A check turns a `Value` into a typed value or collects every `Issue` it finds.
Fields of a record are checked one after another and all their issues are
kept (`Checked` is an applicative that accumulates). One failure is not an
issue but stops the whole check: a list of posts whose id cannot key a
dictionary (`Halt`).

The lenient rules: text accepts text (and UTF-8 bytes); an integer accepts
integers, booleans, integral doubles within 64 bits and integer text (a plain
literal of at most 4300 characters, or looser text: blanks, a plus sign,
leading zeros, underscores between digits, a fraction of zeros); a
boolean accepts booleans, the integers and doubles 0 and 1, and the usual
words for yes and no; a list accepts lists, tuples and sets, a dictionary
only dictionaries.
-/

namespace ChatSession

/-- A failure that stops a check at once. -/
inductive Halt where
  | unhashableKey (typeName : String)
deriving Repr, DecidableEq, Inhabited

def Halt.message : Halt → String
  | .unhashableKey t => "unhashable type: '" ++ t ++ "'"

/-- The outcome of a check: a value, the issues found, or a halt. -/
inductive Checked (α : Type) where
  | ok (a : α)
  | invalid (issues : List Issue)
  | halted (h : Halt)
deriving Inhabited

namespace Checked

variable {α β : Type}

def map (f : α → β) : Checked α → Checked β
  | .ok a => .ok (f a)
  | .invalid is => .invalid is
  | .halted h => .halted h

/-- Check two parts in order: issues of both are kept; a halt stops at once. -/
def seq (mf : Checked (α → β)) (mx : Unit → Checked α) : Checked β :=
  match mf with
  | .halted h => .halted h
  | .ok f => map f (mx ())
  | .invalid is =>
    match mx () with
    | .halted h => .halted h
    | .invalid js => .invalid (is ++ js)
    | .ok _ => .invalid is

instance : Applicative Checked where
  pure := .ok
  map := map
  seq := seq

/-- Continue with a second check once the first has succeeded. -/
def andThen (m : Checked α) (f : α → Checked β) : Checked β :=
  match m with
  | .ok a => f a
  | .invalid is => .invalid is
  | .halted h => .halted h

/-- The same outcome, its issues placed one level deeper. -/
def under (p : PathItem) : Checked α → Checked α
  | .invalid is => .invalid (is.map (Issue.under p))
  | m => m

def toOption : Checked α → Option α
  | .ok a => some a
  | _ => none

end Checked

abbrev Check (α : Type) := Value → Checked α

namespace Check

/-- A single issue at the current place. -/
def fail {α : Type} (k : IssueKind) (v : Value) : Checked α := .invalid [⟨k, [], v⟩]

def any : Check Value := .ok

/-- Decode UTF-8 bytes, if they are valid (surrogates are not). -/
def utf8? (bs : List UInt8) : Option String := Encoding.utf8.decode false bs

def str : Check String
  | .str s => .ok s
  | .bytes b =>
    match utf8? b with
    | some s => .ok s
    | none => fail .stringUnicode (.bytes b)
  | v => fail .stringType v

def trim (cs : List Char) : List Char :=
  ((cs.dropWhile Blank.isWhiteSpace).reverse.dropWhile Blank.isWhiteSpace).reverse

/-- How text reads as a plain integer literal. -/
inductive LiteralRead where
  | value (n : Int)
  | tooLong
  | malformed
deriving Repr, DecidableEq, Inhabited

def digitsValue (ds : List Char) : Nat :=
  ds.foldl (fun acc d => 10 * acc + (d.toNat - '0'.toNat)) 0

/-- Read the whole text as a plain integer literal: an optional minus, then
`0` alone or digits not led by zero, and nothing after them. Digits that run
past 4300 characters, counted from the first character (a minus included),
make the literal too long, whatever follows them. -/
def literalInt (cs : List Char) : LiteralRead :=
  let (neg, body) := match cs with
    | '-' :: r => (true, r)
    | r => (false, r)
  let digits := body.takeWhile Char.isDigit
  let rest := body.drop digits.length
  match digits with
  | [] => .malformed
  | '0' :: more => if more.isEmpty && rest.isEmpty then .value 0 else .malformed
  | _ =>
    if (if neg then 1 else 0) + digits.length > 4300 then .tooLong
    else if rest.isEmpty then
      .value (if neg then -(digitsValue digits : Int) else digitsValue digits)
    else .malformed

/-- Drop a fraction made of zeros only: `12.00` is `12`. -/
def dropZeroFraction (cs : List Char) : List Char :=
  let whole := cs.takeWhile (· != '.')
  match cs.dropWhile (· != '.') with
  | '.' :: frac =>
    if !frac.isEmpty && frac.all (· == '0') && !whole.isEmpty then whole else cs
  | _ => cs

/-- Drop leading zeros and the underscores among them: text led by a zero
keeps what follows them (its last character if nothing does), text led by
another digit is kept whole, and other text is refused. -/
def dropLeadingZeros (cs : List Char) : Option (List Char) :=
  match cs with
  | '0' :: _ =>
    match cs.dropWhile fun c => c == '0' || c == '_' with
    | [] => cs.getLast?.map ([·])
    | rest => some rest
  | c :: _ => if c.isDigit then some cs else none
  | [] => none

/-- Every underscore stands between two digits. -/
def underscoresBetweenDigits (cs : List Char) : Bool :=
  let rec go (afterDigit : Bool) : List Char → Bool
    | [] => true
    | '_' :: rest => afterDigit && (rest.head?.map Char.isDigit).getD false && go false rest
    | c :: rest => go c.isDigit rest
  go false cs

/-- The integer written by text that is not a plain literal: blanks around
it, one sign, a fraction of zeros, leading zeros and underscores between
digits are allowed; what remains must be a plain literal within the limit. -/
def looseInt? (cs : List Char) : Option Int :=
  let (neg, body) := match dropZeroFraction (trim cs) with
    | '-' :: r => (true, r)
    | '+' :: r => (false, r)
    | r => (false, r)
  match dropLeadingZeros body with
  | some b =>
    if !underscoresBetweenDigits b then none
    else match literalInt ((if neg then ['-'] else []) ++ b.filter (· != '_')) with
      | .value n => some n
      | _ => none
  | none => none

def wordMin : Int := -9223372036854775808

def wordMax : Int := 9223372036854775807

/-- The integer a double stands for: it must be finite, integral, and
strictly between `-2^63` and `2^63`; otherwise the rule it breaks. -/
def floatInt (x : Float) : Except IssueKind Int :=
  if x.isNaN || x.isInf then .error .finiteNumber
  else match Value.floatToInt? x with
    | none => .error .intFromFloat
    | some n => if wordMin < n && n ≤ wordMax then .ok n else .error .intParsingSize

/-- The integer written by text. Text that is a plain literal as it stands
is read at once, and refused as too large when its digits run past the limit;
other text is read loosely (`looseInt?`). -/
def intText (v : Value) (s : String) : Checked Int :=
  match literalInt s.toList with
  | .value n => .ok n
  | .tooLong => fail .intParsingSize v
  | .malformed =>
    match looseInt? s.toList with
    | some n => .ok n
    | none => fail .intParsing v

/-- An integer; text is read as `intText` says, unless it holds a surrogate,
which no text reader takes. -/
def int : Check Int
  | .int n => .ok n
  | .bool b => .ok (if b then 1 else 0)
  | .float x =>
    match floatInt x with
    | .ok n => .ok n
    | .error k => fail k (.float x)
  | .str s => if CodePoint.hasSurrogate s then fail .stringUnicode (.str s) else intText (.str s) s
  | .bytes b =>
    match utf8? b with
    | some s => intText (.bytes b) s
    | none => fail .intParsing (.bytes b)
  | v => fail .intType v

def boolWord? (s : String) : Option Bool :=
  let w := s.toLower
  if ["1", "on", "t", "true", "y", "yes"].contains w then some true
  else if ["0", "off", "f", "false", "n", "no"].contains w then some false
  else none

/-- A boolean read from a word. -/
def boolText (v : Value) (s : String) : Checked Bool :=
  match boolWord? s with
  | some b => .ok b
  | none => fail .boolParsing v

/-- A boolean: 64-bit integers and doubles that stand for 0 or 1, and words
for yes and no. Integers beyond 64 bits, and doubles that stand for no 64-bit
integer, are of the wrong kind altogether; text that holds a surrogate is
not read. -/
def bool : Check Bool
  | .bool b => .ok b
  | .int n =>
    if wordMin ≤ n && n ≤ wordMax then
      if n == 0 then .ok false else if n == 1 then .ok true else fail .boolParsing (.int n)
    else fail .boolType (.int n)
  | .float x =>
    match floatInt x with
    | .ok 0 => .ok false
    | .ok 1 => .ok true
    | .ok _ => fail .boolParsing (.float x)
    | .error _ => fail .boolType (.float x)
  | .str s => if CodePoint.hasSurrogate s then fail .stringUnicode (.str s) else boolText (.str s) s
  | .bytes b =>
    match utf8? b with
    | some s => boolText (.bytes b) s
    | none => fail .boolParsing (.bytes b)
  | v => fail .boolType v

/-- Check every item of a list, each at its position. -/
def items {α : Type} (c : Check α) : List Value → Nat → Checked (List α)
  | [], _ => .ok []
  | x :: xs, i => List.cons <$> (c x).under (.index i) <*> items c xs (i + 1)

/-- A list whose items pass `c`; a tuple or a set gives its items in order. -/
def list {α : Type} (c : Check α) : Check (List α)
  | .list xs | .tuple xs | .set xs => items c xs 0
  | v => fail .listType v

/-- Check every entry of a dictionary: its key as text (issues at the key,
then `[key]`), then its value (issues at the key). -/
def entries {α : Type} (c : Check α) : List (Value × Value) → Checked (List (String × α))
  | [] => .ok []
  | (k, v) :: rest =>
    let here := PathItem.ofKey k
    List.cons <$> (Prod.mk <$> ((str k).under (.key "[key]")).under here <*> (c v).under here)
      <*> entries c rest

/-- Entries with distinct text keys: a later entry replaces the value of an
earlier one with the same key and keeps its place. -/
def distinct {α : Type} (es : List (String × α)) : List (String × α) :=
  es.foldl (fun acc (k, v) =>
    if acc.any (·.1 == k) then acc.map fun e => if e.1 == k then (k, v) else e
    else acc ++ [(k, v)]) []

/-- A dictionary with text keys whose values pass `c`. -/
def dict {α : Type} (c : Check α) : Check (List (String × α))
  | .dict kvs => (entries c kvs).map distinct
  | v => fail .dictType v

/-- Null, or a value that passes `c`. -/
def optional {α : Type} (c : Check α) : Check (Option α)
  | .null => .ok none
  | v => (c v).map some

/-- The fields of a record's input: a dictionary, or the record's type issue. -/
def fields {α : Type} (title : String) (body : List (Value × Value) → Checked α) : Check α
  | .dict kvs => body kvs
  | v => fail (.modelType title) v

/-- A field that may be left out. -/
def field {α : Type} (kvs : List (Value × Value)) (name : String) (dflt : α) (c : Check α) :
    Checked α :=
  match Value.field? kvs name with
  | some v => (c v).under (.key name)
  | none => .ok dflt

/-- A field that must be present. -/
def need {α : Type} (kvs : List (Value × Value)) (name : String) (c : Check α) : Checked α :=
  match Value.field? kvs name with
  | some v => (c v).under (.key name)
  | none => .invalid [⟨.missing, [.key name], .dict kvs⟩]

end Check

end ChatSession
