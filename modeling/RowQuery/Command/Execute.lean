import RowQuery.Event
import RowQuery.Files
import RowQuery.Filter.Document
import RowQuery.Filter.Print
import RowQuery.Order.Document
import RowQuery.Order.Print
import RowQuery.Vocabulary.Document

/-! Commands: what is done with a text, and what is printed. -/

namespace RowQuery

/-- `filter` and `order` print what they read as a document, `check` only whether it can be read,
and `format` the filter as it is written most plainly. -/
inductive Command where
  | filter
  | order
  | check
  | format
  deriving DecidableEq, Repr

structure Request where
  command : Command
  text : String
  vocabulary : Option String := none
  options : ParseOptions := {}
  pretty : Bool := false

inductive CommandError where
  | parse (error : ParseError)
  | render (error : RenderError)
  | vocabulary (error : VocabularyError)
  | input (fault : FileFault)
  | noInput
  deriving DecidableEq, Repr

def CommandError.message : CommandError → String
  | parse error => "Parse error: " ++ error.message
  | render error => "Cannot render filter: " ++ error.message
  | vocabulary error => "Vocabulary error: " ++ error.message
  | input fault => "IO error: " ++ fault.message
  | noInput => "No input provided. Pass the text as an argument or pipe it to stdin."

namespace Vocabulary

def load (files : Files) (path : String) : Except VocabularyError Vocabulary :=
  match files path with
  | .ok text => read text
  | .error fault => .error (.unreadable path fault.message)

def loadOrPreset (files : Files) : Option String → Except VocabularyError Vocabulary
  | some path => load files path
  | none => .ok preset

end Vocabulary

namespace Request

def printJson (r : Request) (j : Json) : String :=
  if r.pretty then j.pretty else j.compact

def showFilter (r : Request) (v : Vocabulary) (c : Option Clause) : Except CommandError String :=
  match r.command with
  | .check =>
    let conditions := (c.map fun c => c.leaves.length).getD 0
    .ok ("Syntax is valid (" ++ toString conditions ++ " conditions)")
  | .format =>
    match c with
    | some c => (Filter.print v c).mapError .render
    | none => .ok ""
  | _ => .ok (r.printJson (c.elim .null Clause.toJson))

def executeWith (r : Request) (v : Vocabulary) : List Event × Except CommandError String :=
  match r.command with
  | .order =>
    let run := Order.run v r.text
    (Order.events r.text run,
      (run.result.mapError .parse).map fun entries =>
        r.printJson (.array (entries.map OrderEntry.toJson)))
  | _ =>
    let run := Filter.run v r.options r.text
    (Filter.events r.options r.text run, run.result.mapError .parse >>= r.showFilter v)

/-- The vocabulary is loaded before the text is looked at. -/
def executeLogged (files : Files) (r : Request) : List Event × Except CommandError String :=
  let loading := r.vocabulary.toList.map Event.loadingVocabulary
  match Vocabulary.loadOrPreset files r.vocabulary with
  | .error e => (loading, .error (.vocabulary e))
  | .ok v =>
    let (events, result) := r.executeWith v
    (loading ++ events, result)

def execute (files : Files) (r : Request) : Except CommandError String :=
  (r.executeLogged files).2

end Request

end RowQuery
