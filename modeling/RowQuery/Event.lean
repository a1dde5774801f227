import RowQuery.Filter.Parse
import RowQuery.Order.Parse

/-! What a reader of texts reports while it works, in the order in which it happens. -/

namespace RowQuery

inductive Level where
  | trace
  | debug
  | info
  deriving DecidableEq, Repr

def Level.name : Level → String
  | .trace => "TRACE"
  | .debug => "DEBUG"
  | .info => "INFO"

/-- Sizes of texts count bytes, positions count characters. -/
inductive Event where
  | loadingVocabulary (path : String)
  | parsingFilter (size : Nat) (options : ParseOptions)
  | parsingOrder (size : Nat)
  | token (kind : TokenKind) (position : Nat)
  | filterParsed (conditions : Nat)
  | filterRejected (error : ParseError)
  | orderRejected (error : ParseError)
  deriving DecidableEq, Repr

namespace Event

def level : Event → Level
  | loadingVocabulary _ => .info
  | parsingFilter _ _ | parsingOrder _ | filterParsed _ | filterRejected _ | orderRejected _ =>
    .debug
  | token _ _ => .trace

def message : Event → String
  | loadingVocabulary _ => "loading vocabulary"
  | parsingFilter _ _ => "parsing filter"
  | parsingOrder _ => "parsing order list"
  | token _ _ => "token"
  | filterParsed _ => "filter parsed"
  | filterRejected _ => "filter rejected"
  | orderRejected _ => "order list rejected"

end Event

def ParseOptions.describe (options : ParseOptions) : String :=
  let maxDepth :=
    match options.maxDepth with
    | some limit => "Some(" ++ toString limit ++ ")"
    | none => "None"
  "ParseOptions \x7b handle_null_value: " ++ (if options.nullMarker then "true" else "false") ++
    ", max_depth: " ++ maxDepth ++ " \x7d"

def Reading.event (r : Reading) : Event :=
  .token r.kind r.start

def Filter.events (options : ParseOptions) (text : String) (r : Run (Option Clause)) : List Event :=
  let outcome : Event :=
    match r.result with
    | .ok c => .filterParsed ((c.map fun c => c.leaves.length).getD 0)
    | .error e => .filterRejected e
  .parsingFilter text.utf8ByteSize options :: (r.taken.map Reading.event ++ [outcome])

def Order.events (text : String) (r : Run (List OrderEntry)) : List Event :=
  let outcome : List Event :=
    match r.result with
    | .ok _ => []
    | .error e => [.orderRejected e]
  .parsingOrder text.utf8ByteSize :: (r.taken.map Reading.event ++ outcome)

end RowQuery
