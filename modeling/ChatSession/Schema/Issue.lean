import ChatSession.Data.Literal

/-!
What is wrong with a record's input, and how it is reported.

An `Issue` names a rule that the input broke, where in the input (a path of
field names, list positions and dictionary keys) and the part of the input at
that place. A `Report` lists every issue of one record in the order the
fields are declared; its text is the report that messages embed:

    1 validation error for User
    user_id
      Field required [type=missing, input_value={'username': 'x'}, input_type=dict]

followed on each issue by a line that points to the rule's documentation.
-/

namespace ChatSession

/-- One step of a path into a record's input. -/
inductive PathItem where
  | key (name : String)
  | index (i : Int)
deriving Repr, DecidableEq, Inhabited

/-- Text with every surrogate replaced: its three UTF-8 bytes read as three
malformed sequences, so three replacement characters. -/
def lossyText (s : String) : String :=
  String.ofList ((CodePoint.ofString s).flatMap fun n =>
    if CodePoint.isSurrogate n then List.replicate 3 '\uFFFD' else CodePoint.chars n)

/-- The path item that a dictionary key stands at: text as itself (a
surrogate in it replaced, see `lossyText`), integers of 64 bits as their
integer, any other key as its literal. -/
def PathItem.ofKey : Value → PathItem
  | .str s => .key (lossyText s)
  | .bool b => .index (if b then 1 else 0)
  | .int n =>
    if -9223372036854775808 ≤ n ∧ n < 9223372036854775808 then .index n
    else .key (Value.int n).safeLiteral
  | v => .key v.safeLiteral

/-- Text of a path item inside a dotted path; a key that holds a dot is put
between backquotes, so that the path's own dots stay apart from it. -/
def PathItem.text : PathItem → String
  | .key s => if s.contains '.' then "\x60" ++ s ++ "\x60" else s
  | .index i => toString i

/-- The rules an input can break. -/
inductive IssueKind where
  | missing
  | stringType
  | stringUnicode
  | intType
  | intParsing
  | intParsingSize
  | intFromFloat
  | finiteNumber
  | boolType
  | boolParsing
  | listType
  | dictType
  | modelType (title : String)
  | greaterThanEqual (bound : Int)
  | valueError (reason : String)
deriving Repr, DecidableEq, Inhabited

namespace IssueKind

def code : IssueKind → String
  | .missing => "missing"
  | .stringType => "string_type"
  | .stringUnicode => "string_unicode"
  | .intType => "int_type"
  | .intParsing => "int_parsing"
  | .intParsingSize => "int_parsing_size"
  | .intFromFloat => "int_from_float"
  | .finiteNumber => "finite_number"
  | .boolType => "bool_type"
  | .boolParsing => "bool_parsing"
  | .listType => "list_type"
  | .dictType => "dict_type"
  | .modelType _ => "model_type"
  | .greaterThanEqual _ => "greater_than_equal"
  | .valueError _ => "value_error"

/-- The rule in words. -/
def message : IssueKind → String
  | .missing => "Field required"
  | .stringType => "Input should be a valid string"
  | .stringUnicode => "Input should be a valid string, unable to parse raw data as a unicode string"
  | .intType => "Input should be a valid integer"
  | .intParsing => "Input should be a valid integer, unable to parse string as an integer"
  | .intParsingSize => "Unable to parse input string as an integer, exceeded maximum size"
  | .intFromFloat => "Input should be a valid integer, got a number with a fractional part"
  | .finiteNumber => "Input should be a finite number"
  | .boolType => "Input should be a valid boolean"
  | .boolParsing => "Input should be a valid boolean, unable to interpret input"
  | .listType => "Input should be a valid list"
  | .dictType => "Input should be a valid dictionary"
  | .modelType title => "Input should be a valid dictionary or instance of " ++ title
  | .greaterThanEqual b => "Input should be greater than or equal to " ++ toString b
  | .valueError reason => "Value error, " ++ reason

end IssueKind

/-- A broken rule, where it was broken, and the input found there. -/
structure Issue where
  kind : IssueKind
  path : List PathItem
  input : Value
deriving Inhabited

/-- The same issue one level deeper in the input. -/
def Issue.under (p : PathItem) (i : Issue) : Issue := { i with path := p :: i.path }

/-- Every issue of one record, in field order. -/
structure Report where
  title : String
  issues : List Issue
deriving Inhabited

namespace Report

/-- The first line: how many issues, for which record. -/
def headline (r : Report) : String :=
  let n := r.issues.length
  toString n ++ " validation error" ++ (if n == 1 then "" else "s") ++ " for " ++ r.title

/-- The longest run of whole characters, from the front, whose UTF-8 bytes
fit in `limit`. -/
def fitBytes (limit : Nat) : List Char → List Char
  | [] => []
  | c :: cs => if c.utf8Size ≤ limit then c :: fitBytes (limit - c.utf8Size) cs else []

/-- A literal longer than 50 bytes is shortened to its first 25 and its last
24 bytes around `...`, cut between whole characters. -/
def clip (s : String) : String :=
  if s.utf8ByteSize ≤ 50 then s
  else
    let cs := s.toList
    String.ofList (fitBytes 25 cs) ++ "..." ++ String.ofList (fitBytes 24 cs.reverse).reverse

def issueLines (i : Issue) : List String :=
  let pathLine := if i.path.isEmpty then [] else [".".intercalate (i.path.map PathItem.text)]
  pathLine ++
    ["  " ++ i.kind.message ++ " [type=" ++ i.kind.code ++ ", input_value=" ++
        clip i.input.safeLiteral ++ ", input_type=" ++ i.input.typeName ++ "]",
     "    For further information visit https://errors.pydantic.dev/2.12/v/" ++ i.kind.code]

def text (r : Report) : String :=
  "\n".intercalate (r.headline :: r.issues.flatMap issueLines)

end Report

end ChatSession
