import RowQuery.Token

/-! Why a text is refused, and where. Positions count characters. -/

namespace RowQuery

inductive KeywordKind where
  | connective
  | operator
  | orderDelimiter
  deriving DecidableEq, Repr

namespace KeywordKind

def name : KeywordKind → String
  | connective => "connective"
  | operator => "operator"
  | orderDelimiter => "order delimiter"

def label : KeywordKind → String
  | connective => "Connective"
  | operator => "Operator"
  | orderDelimiter => "OrderDelimiter"

end KeywordKind

/-- A refusal leaves no partial result. -/
inductive ParseError where
  | unexpectedToken (found : TokenKind) (expected : List TokenKind) (position : Nat)
  | unresolvedKeyword (kind : KeywordKind) (word : String) (position : Nat)
  | nestingTooDeep (limit : Nat) (position : Nat)
  deriving DecidableEq, Repr

namespace ParseError

def position : ParseError → Nat
  | unexpectedToken _ _ position => position
  | unresolvedKeyword _ _ position => position
  | nestingTooDeep _ position => position

def message : ParseError → String
  | unexpectedToken found expected position =>
    "unexpected " ++ found.name ++ " at position " ++ toString position ++ ", expected " ++
      " or ".intercalate (expected.map TokenKind.name)
  | unresolvedKeyword kind word position =>
    "unknown " ++ kind.name ++ " '" ++ word ++ "' at position " ++ toString position
  | nestingTooDeep limit position =>
    "groups nested deeper than " ++ toString limit ++ " levels at position " ++ toString position

end ParseError

/-- What can be wrong with a token of a kind that may stand where it does. -/
inductive Fault where
  | unknownWord (kind : KeywordKind) (word : String)
  | tooDeep (limit : Nat)
  deriving DecidableEq, Repr

def Fault.toError (position : Nat) : Fault → ParseError
  | unknownWord kind word => .unresolvedKeyword kind word position
  | tooDeep limit => .nestingTooDeep limit position

end RowQuery
