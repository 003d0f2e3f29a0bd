/-!
Tokens of a YAML stream.

A stream is read into indicators (`-`, `?`, `:`, `,`, brackets), the block
structure that indentation stands for (the start and end of block
collections), directives and document markers, properties (anchors, aliases,
tags) and scalars. A scalar token holds its text with escapes and line
folding already applied, and says whether it was plain (unquoted, not a
block scalar), since only plain scalars are typed by their look.
-/

namespace ChatSession.Yaml

/-- What a directive says. -/
inductive Directive where
  | version (major minor : Nat)
  | tag (handle tagPrefix : String)
  | other
deriving Repr, DecidableEq, Inhabited

/-- One token of a YAML stream. -/
inductive Token where
  | streamStart
  | streamEnd
  | directive (name : String) (d : Directive)
  | documentStart
  | documentEnd
  | blockSequenceStart
  | blockMappingStart
  | blockEnd
  | flowSequenceStart
  | flowMappingStart
  | flowSequenceEnd
  | flowMappingEnd
  | blockEntry
  | flowEntry
  | key
  | value
  | alias (name : String)
  | anchor (name : String)
  | tag (handle : Option String) (suffix : String)
  | scalar (text : String) (plain : Bool)
deriving Repr, DecidableEq, Inhabited

namespace Token

def name : Token → String
  | .streamStart => "<stream start>"
  | .streamEnd => "<stream end>"
  | .directive _ _ => "<directive>"
  | .documentStart => "<document start>"
  | .documentEnd => "<document end>"
  | .blockSequenceStart => "<block sequence start>"
  | .blockMappingStart => "<block mapping start>"
  | .blockEnd => "<block end>"
  | .flowSequenceStart => "["
  | .flowMappingStart => "\x7b"
  | .flowSequenceEnd => "]"
  | .flowMappingEnd => "\x7d"
  | .blockEntry => "-"
  | .flowEntry => ","
  | .key => "?"
  | .value => ":"
  | .alias _ => "<alias>"
  | .anchor _ => "<anchor>"
  | .tag _ _ => "<tag>"
  | .scalar _ _ => "<scalar>"

end Token

end ChatSession.Yaml
