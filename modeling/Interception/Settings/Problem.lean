/-!
# Configuration problems

Why settings could not be had from a text, a file or the environment.
-/

set_option autoImplicit false

namespace Interception

/-- Why a path could not be read as text. -/
inductive ReadFailure where
  | notFound
  | isDirectory
  | notDirectory
  | nameTooLong
  | notUtf8
  /-- The path holds a character that ends every path. -/
  | nulInPath
  | other (text : String)
  deriving DecidableEq, Repr

def ReadFailure.message : ReadFailure → String
  | .notFound => "No such file or directory (os error 2)"
  | .isDirectory => "Is a directory (os error 21)"
  | .notDirectory => "Not a directory (os error 20)"
  | .nameTooLong => "File name too long (os error 36)"
  | .notUtf8 => "stream did not contain valid UTF-8"
  | .nulInPath => "file name contained an unexpected NUL byte"
  | .other text => text

inductive ConfigurationProblem where
  /-- The text is lower-cased and without surrounding blanks. -/
  | unknownFinalPolicy (text : String)
  | unknownDefaultResult (text : String)
  | unreadable (path : String) (cause : ReadFailure)
  /-- The document is not well formed, or a setting in it has an illegal value. -/
  | malformed (detail : String)
  | other (text : String)
  deriving DecidableEq, Repr

def ConfigurationProblem.message : ConfigurationProblem → String
  | .unknownFinalPolicy text => "unknown final method policy '" ++ text ++ "'"
  | .unknownDefaultResult text => "unknown default result '" ++ text ++ "'"
  | .unreadable path cause => "failed to read " ++ path ++ ": " ++ cause.message
  | .malformed detail => "failed to parse config: " ++ detail
  | .other text => text

end Interception
