import RowQuery.Command.Line

/-! The program: reads what the command line asks for, and prints the outcome. -/

namespace RowQuery.Command

def faultOf (e : IO.Error) : FileFault :=
  match e with
  | .noFileOrDirectory _ _ _ => .notFound
  | .inappropriateType _ code _ => if code == 21 then .isADirectory else .notADirectory
  | e => .other (toString e)

def readIncoming : IO (Except CommandError String) := do
  let input ← IO.getStdin
  if ← input.isTty then
    return .error .noInput
  try
    return (decodeText (← input.readBinToEnd)).mapError .input
  catch e =>
    return .error (.input (faultOf e))

def readFile (path : String) : IO (Except FileFault String) := do
  try
    return decodeText (← IO.FS.readBinFile path)
  catch e =>
    return .error (faultOf e)

/-- The only file that may be read is the vocabulary, whose path the arguments settle. -/
def surroundings (args : List String) : IO Surroundings := do
  let vocabulary ← IO.getEnv "SIFT_VOCABULARY"
  let incoming ← if awaitsText args then readIncoming else pure (.ok "")
  let content ←
    match vocabularyPath? vocabulary args with
    | some path => readFile path
    | none => pure (.error .notFound)
  return { vocabulary, incoming, files := fun _ => content }

def runProgram (args : List String) : IO UInt32 := do
  let outcome := runLine (← surroundings args) args
  match outcome with
  | .printed text => (← IO.getStdout).putStr text
  | .failed e => (← IO.getStderr).putStrLn e.message
  | .misused =>
    (← IO.getStderr).putStrLn "Usage: sift <filter|order|check|format|docs> [OPTIONS] [TEXT]"
  return outcome.exitCode.toUInt32

end RowQuery.Command

def main (args : List String) : IO UInt32 :=
  RowQuery.Command.runProgram args
