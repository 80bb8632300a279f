/-!
# File errors

The ways in which an operation on files fails, with their messages.
-/

namespace ZigReflect

/-- Why an operation on a file fails. -/
inductive FileError where
  | notFound
  | denied
  | exists
  | notDirectory
  | isDirectory
  | nameTooLong
  /-- The bytes of the file are not UTF-8. -/
  | notText
  /-- The name has a character that no file name can have. -/
  | badName
  /-- A command or an argument has a character that none can have. -/
  | badArgument
deriving DecidableEq, Repr, Inhabited

/-- The message of a file error. -/
def FileError.message : FileError → String
  | .notFound => "No such file or directory (os error 2)"
  | .denied => "Permission denied (os error 13)"
  | .exists => "File exists (os error 17)"
  | .notDirectory => "Not a directory (os error 20)"
  | .isDirectory => "Is a directory (os error 21)"
  | .nameTooLong => "File name too long (os error 36)"
  | .notText => "stream did not contain valid UTF-8"
  | .badName => "file name contained an unexpected NUL byte"
  | .badArgument => "nul byte found in provided data"

end ZigReflect
