/-! Reading texts from files. Faults are told apart as a system reports them. -/

namespace RowQuery

inductive FileFault where
  | notFound
  | notADirectory
  | isADirectory
  | nameTooLong
  | invalidName
  | notText
  | other (reason : String)
  deriving DecidableEq, Repr

def FileFault.message : FileFault → String
  | notFound => "No such file or directory (os error 2)"
  | notADirectory => "Not a directory (os error 20)"
  | isADirectory => "Is a directory (os error 21)"
  | nameTooLong => "File name too long (os error 36)"
  | invalidName => "file name contained an unexpected NUL byte"
  | notText => "stream did not contain valid UTF-8"
  | other reason => reason

def decodeText (bytes : ByteArray) : Except FileFault String :=
  (String.fromUTF8? bytes).elim (.error .notText) .ok

abbrev Files := String → Except FileFault String

end RowQuery
