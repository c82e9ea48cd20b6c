/-!
This module contains the reasons why a file or a directory cannot be used.
-/

namespace DirectedMarkdown

/-- Why something cannot be done with a file. -/
inductive FileError where
  | notFound
  | alreadyThere
  | notDirectory
  | isDirectory
  | nameTooLong
  /-- The path holds the character that ends every path for the system. -/
  | nulInPath
  /-- The bytes are not a text. -/
  | notText
  /-- A reason that is only reported. -/
  | other (report : String)
  deriving DecidableEq

namespace FileError

def message : FileError → String
  | notFound => "No such file or directory (os error 2)"
  | alreadyThere => "File exists (os error 17)"
  | notDirectory => "Not a directory (os error 20)"
  | isDirectory => "Is a directory (os error 21)"
  | nameTooLong => "File name too long (os error 36)"
  | nulInPath => "file name contained an unexpected NUL byte"
  | notText => "stream did not contain valid UTF-8"
  | other report => report

end FileError

end DirectedMarkdown
