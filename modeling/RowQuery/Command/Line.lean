import RowQuery.Command.Arguments
import RowQuery.Command.Reference

/-! Running a command line: its arguments, the vocabulary that the environment names, the text that
comes in when none is given, and the files that can be read. -/

namespace RowQuery.Command

def versionLine : String := "sift 0.1.0"

structure Surroundings where
  vocabulary : Option String
  incoming : Except CommandError String
  files : Files

/-- A line that cannot be read is answered by neither a text nor an error of the commands. -/
inductive Outcome where
  | misused
  | printed (text : String)
  | failed (error : CommandError)
  deriving DecidableEq, Repr

def Outcome.exitCode : Outcome → Nat
  | printed _ => 0
  | failed _ => 1
  | misused => 2

/-- The named vocabulary wins over the one of the environment, which must not be the empty path. -/
def vocabularyOf (s : Surroundings) (g : Given) : Option (Option String) :=
  match g.vocabulary, s.vocabulary with
  | some path, _ => some (some path)
  | none, some path => if path.isEmpty then none else some (some path)
  | none, none => some none

/-- The incoming text is only looked at when none is given, and before the vocabulary is loaded. -/
def runGiven (s : Surroundings) (command : Command) (g : Given) (vocabulary : Option String) :
    Except CommandError String := do
  let text ← g.text.elim s.incoming .ok
  Request.execute s.files {
    command, text, vocabulary
    options := { nullMarker := g.nullMarker, maxDepth := g.maxDepth }
    pretty := g.pretty }

def awaitsText (args : List String) : Bool :=
  match readInvocation args with
  | some (.run _ given) => given.text.isNone
  | _ => false

def vocabularyPath? (vocabulary : Option String) (args : List String) : Option String :=
  match readInvocation args with
  | some (.run _ given) => given.vocabulary.or vocabulary
  | _ => none

def runLine (s : Surroundings) (args : List String) : Outcome :=
  match readInvocation args with
  | none => .misused
  | some .version => .printed (versionLine ++ "\n")
  | some .reference => .printed reference
  | some (.run command given) =>
    match vocabularyOf s given with
    | none => .misused
    | some vocabulary =>
      match runGiven s command given vocabulary with
      | .ok text => .printed (text ++ "\n")
      | .error e => .failed e

end RowQuery.Command
