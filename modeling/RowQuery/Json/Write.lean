import RowQuery.Json.Token
import RowQuery.Json.Value

/-! Writing documents, on one line or with one item a line. -/

namespace RowQuery.Json

mutual

def tokensThen (rest : List Token) : Json → List Token
  | null => .null :: rest
  | bool b => .bool b :: rest
  | number n => .number n :: rest
  | text s => .text s :: rest
  | array items => .openArray :: itemTokensThen rest items
  | object members => .openObject :: memberTokensThen rest members

def itemTokensThen (rest : List Token) : List Json → List Token
  | [] => .closeArray :: rest
  | [j] => tokensThen (.closeArray :: rest) j
  | j :: k :: items => tokensThen (.comma :: itemTokensThen rest (k :: items)) j

def memberTokensThen (rest : List Token) : List (Option String × Json) → List Token
  | [] => .closeObject :: rest
  | [(key, j)] => .text key :: .colon :: tokensThen (.closeObject :: rest) j
  | (key, j) :: m :: members =>
    .text key :: .colon :: tokensThen (.comma :: memberTokensThen rest (m :: members)) j

end

def tokens (j : Json) : List Token :=
  tokensThen [] j

def compact (j : Json) : String :=
  String.ofList (j.tokens.flatMap Token.write)

def newline (depth : Nat) : List Char :=
  '\n' :: List.replicate (2 * depth) ' '

/-- Every item and member on a line of its own, two spaces further in than what holds it. -/
def layout : Nat → List Token → List Char
  | _, [] => []
  | depth, .openArray :: .closeArray :: rest => '[' :: ']' :: layout depth rest
  | depth, .openObject :: .closeObject :: rest => '\x7b' :: '\x7d' :: layout depth rest
  | depth, t :: rest =>
    match t with
    | .openArray | .openObject => t.write ++ newline (depth + 1) ++ layout (depth + 1) rest
    | .closeArray | .closeObject => newline (depth - 1) ++ t.write ++ layout (depth - 1) rest
    | .comma => t.write ++ newline depth ++ layout depth rest
    | .colon => t.write ++ ' ' :: layout depth rest
    | _ => t.write ++ layout depth rest

def pretty (j : Json) : String :=
  String.ofList (layout 0 j.tokens)

end RowQuery.Json
