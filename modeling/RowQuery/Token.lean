/-! Tokens of the two notations: filters ("which rows") and order lists ("in what order"). -/

namespace RowQuery

inductive TokenKind where
  | openGroup
  | closeGroup
  | word
  | number
  | string
  | endOfInput
  deriving DecidableEq, Repr

def TokenKind.name : TokenKind → String
  | .openGroup => "'('"
  | .closeGroup => "')'"
  | .word => "word"
  | .number => "number"
  | .string => "string"
  | .endOfInput => "end of input"

/-- A number is not yet checked to be one, and a word may be a field, a keyword or a value: only
the place where a token stands decides. -/
inductive Token where
  | openGroup
  | closeGroup
  | word (text : String)
  | number (text : String)
  | string (text : String)
  deriving DecidableEq, Repr

namespace Token

def kind : Token → TokenKind
  | openGroup => .openGroup
  | closeGroup => .closeGroup
  | word _ => .word
  | number _ => .number
  | string _ => .string

def text? : Token → Option String
  | openGroup | closeGroup => none
  | word text | number text | string text => some text

def kindOf (t : Option Token) : TokenKind :=
  t.elim .endOfInput kind

end Token

end RowQuery
