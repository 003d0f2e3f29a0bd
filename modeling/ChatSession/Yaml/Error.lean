import ChatSession.Data.Literal

/-!
Why a YAML stream gives no value.

Syntax errors come from the stage that finds them: a character a stream may
not hold, a token that cannot be read, events out of order, an alias without
its anchor or a second document, a node that no tag turns into a value. A
`ScalarError` is of another kind: the stream is well formed, but a scalar
that its tag gives to a number, truth value or timestamp does not read as
one. Readers of settings files ignore a syntax error and treat the file as
empty; a scalar error stops them.
-/

namespace ChatSession

/-- A scalar that its type refuses. -/
inductive ScalarError where
  | badInt (base : Nat) (text : String)
  | tooManyDigits (digits : Nat)
  | badFloat (text : String)
  | badBool (word : String)
  | empty
  | badTime (problem : String)
  | noTimestamp
  | badCodePoint (code : Nat)
deriving Repr, DecidableEq, Inhabited

def ScalarError.message : ScalarError → String
  | .badInt b t =>
    "invalid literal for int() with base " ++ toString b ++ ": " ++
      String.ofList ((Literal.quote t).toList.take 200)
  | .tooManyDigits n =>
    "Exceeds the limit (4300 digits) for integer string conversion: value has " ++ toString n ++
      " digits; use sys.set_int_max_str_digits() to increase the limit"
  | .badFloat t => "could not convert string to float: " ++ Literal.quote t
  | .badBool w => w
  | .empty => "string index out of range"
  | .badTime p => p
  | .noTimestamp => "'NoneType' object has no attribute 'groupdict'"
  | .badCodePoint code =>
    if code < Nat.pow 2 31 then "chr() arg not in range(0x110000)"
    else "Python int too large to convert to C int"

/-- Why a YAML stream gives no value: a fault of one of the stages that read it
(reader, scanner, parser, composer, constructor), a scalar that its type
refuses, or collections nested deeper than the composer has room for, the
innermost being a mapping when `inMapping`. -/
inductive YamlError where
  | reader (code : Nat)
  | scanner (problem : String)
  | parser (problem : String)
  | composer (problem : String)
  | constructor (problem : String)
  | scalar (e : ScalarError)
  | tooDeep (inMapping : Bool)
deriving Repr, DecidableEq, Inhabited

namespace YamlError

/-- Errors of the stream's syntax, as opposed to scalars that their type
refuses and documents nested too deep. -/
def isSyntax : YamlError → Bool
  | .scalar _ | .tooDeep _ => false
  | _ => true

def message : YamlError → String
  | .reader code =>
    "unacceptable character #x" ++ Literal.hexPadded 4 code ++ ": special characters are not allowed"
  | .scanner p | .parser p | .composer p | .constructor p => p
  | .scalar e => e.message
  | .tooDeep true => "maximum recursion depth exceeded while calling a Python object"
  | .tooDeep false => "maximum recursion depth exceeded in comparison"

end YamlError

end ChatSession
