import RowQuery.Command.Execute

/-! Arguments of the command line. Options may stand before and behind the text; two dashes end
them. -/

namespace RowQuery.Command

inductive Setting where
  | pretty
  | nullMarker
  | maxDepth
  | vocabulary
  deriving DecidableEq, Repr

def name : Command → String
  | filter => "filter"
  | order => "order"
  | check => "check"
  | format => "format"

def ofName? (s : String) : Option Command :=
  [filter, order, check, format].find? fun c => c.name == s

def settings : Command → List Setting
  | filter => [.pretty, .nullMarker, .maxDepth, .vocabulary]
  | order => [.pretty, .vocabulary]
  | check | format => [.nullMarker, .maxDepth, .vocabulary]

structure Given where
  text : Option String := none
  vocabulary : Option String := none
  maxDepth : Option Nat := none
  nullMarker : Bool := false
  pretty : Bool := false
  deriving DecidableEq, Repr

def limit? (s : String) : Option Nat :=
  let digits :=
    match s.toList with
    | '+' :: cs => cs
    | cs => cs
  if digits.isEmpty || !digits.all Char.isDigit then none
  else
    let n := digits.foldl (fun n c => 10 * n + (c.toNat - '0'.toNat)) 0
    if n < Nat.pow 2 64 then some n else none

namespace Given

def setText (g : Given) (s : String) : Option Given :=
  if g.text.isSome then none else some { g with text := some s }

def setFlag (g : Given) : Setting → Option Given
  | .pretty => if g.pretty then none else some { g with pretty := true }
  | .nullMarker => if g.nullMarker then none else some { g with nullMarker := true }
  | .maxDepth | .vocabulary => none

def setValue (g : Given) (value : String) : Setting → Option Given
  | .maxDepth =>
    if g.maxDepth.isSome then none
    else (limit? value).map fun n => { g with maxDepth := some n }
  | .vocabulary =>
    if g.vocabulary.isSome || value.isEmpty then none
    else some { g with vocabulary := some value }
  | .pretty | .nullMarker => none

end Given

/-- A single dash is a text. -/
def isOption (arg : String) : Bool :=
  arg.startsWith "-" && arg != "-"

def settingOf? (s : String) : Option Setting :=
  if s = "-p" ∨ s = "--pretty" then some .pretty
  else if s = "--null" then some .nullMarker
  else if s = "--max-depth" then some .maxDepth
  else if s = "--vocabulary" then some .vocabulary
  else none

def takesValue : Setting → Bool
  | .maxDepth | .vocabulary => true
  | .pretty | .nullMarker => false

def splitOption (arg : String) : String × Option String :=
  let cs := arg.toList
  match cs.dropWhile (· != '=') with
  | [] => (arg, none)
  | _ :: value => (String.ofList (cs.takeWhile (· != '=')), some (String.ofList value))

/-- Reads the arguments behind the name of a command that can be given `allowed`. -/
def readArguments (allowed : List Setting) (g : Given) : List String → Option Given
  | [] => some g
  | arg :: rest =>
    if arg = "--" then rest.foldlM Given.setText g
    else if isOption arg then
      let (option, assigned) := splitOption arg
      match (settingOf? option).filter allowed.contains, assigned, rest with
      | none, _, _ => none
      | some setting, some value, rest => do readArguments allowed (← g.setValue value setting) rest
      | some setting, none, rest =>
        if takesValue setting then
          match rest with
          | value :: rest =>
            if isOption value then none
            else do readArguments allowed (← g.setValue value setting) rest
          | [] => none
        else do readArguments allowed (← g.setFlag setting) rest
    else do readArguments allowed (← g.setText arg) rest

inductive Invocation where
  | version
  | reference
  | run (command : Command) (given : Given)
  deriving DecidableEq, Repr

/-- The reference takes neither options nor a text. Of several short options in one argument the
first decides. -/
def readInvocation : List String → Option Invocation
  | [] => none
  | first :: rest =>
    if first == "--version" || first.startsWith "-V" then some .version
    else if first = "docs" then
      match rest with
      | [] | ["--"] => some .reference
      | _ => none
    else do
      let command ← ofName? first
      let given ← readArguments command.settings {} rest
      some (.run command given)

end RowQuery.Command
