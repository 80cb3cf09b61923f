/-!
# Errors of input and output

Why a file cannot be read or written.
-/

namespace FluentGen

/-- The reason why a file cannot be read or written. -/
inductive IoError where
  | notFound
  | alreadyExists
  | notADirectory
  | isADirectory
  | nameTooLong
  /-- A path contains a null character. -/
  | nullInPath
  /-- A file is no text. -/
  | notText
  | readOnly
deriving DecidableEq

/-- The wording of an error; the ones of the operating system come with their number. -/
def IoError.message : IoError → String
  | notFound => "No such file or directory (os error 2)"
  | alreadyExists => "File exists (os error 17)"
  | notADirectory => "Not a directory (os error 20)"
  | isADirectory => "Is a directory (os error 21)"
  | nameTooLong => "File name too long (os error 36)"
  | nullInPath => "file name contained an unexpected NUL byte"
  | notText => "stream did not contain valid UTF-8"
  | readOnly => "read-only"

end FluentGen
