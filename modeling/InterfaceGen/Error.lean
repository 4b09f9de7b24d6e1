import InterfaceGen.Source.Declaration
import InterfaceGen.Text.Escaped

/-!
# Errors

Everything that can go wrong, with the wording that a user reads (`Error.message`) and a one-line
description for the end of a failed run (`Error.summary`).
-/

namespace InterfaceGen

open Source Text

/-- What is wrong with a configuration. -/
inductive ConfigError where
  /-- The text is not one that can be read as a configuration. -/
  | malformed (detail : String)
  /-- The address prefix is neither empty, nor rooted, nor an absolute address. -/
  | badPrefix (given : String)
  deriving DecidableEq, Repr

/-- Everything that can go wrong. -/
inductive Error where
  /-- The source text has no declaration to use. -/
  | source (cause : SourceError)
  | config (cause : ConfigError)
  /-- A document is not JSON. -/
  | json (detail : String)
  /-- A file cannot be read or written. -/
  | io (detail : String)
  /-- A document has this many issues. -/
  | invalid (issues : Nat)
  /-- No sample has the name; `known` lists those there are. -/
  | unknownSample (name known : String)
  deriving DecidableEq, Repr

/-- The wording of a configuration error. -/
def ConfigError.message : ConfigError → String
  | malformed detail => detail
  | badPrefix given =>
    "api_prefix must be empty, start with '/', or be an absolute URL, got " ++ escaped given

/-- The wording of an error about the source text. -/
def Source.SourceError.message : SourceError → String
  | noDeclaration => "No interface or type block found."
  | missingOpenBrace name position =>
    "Malformed type block " ++ escaped name ++ " at line " ++ toString position.line ++
      ", column " ++ toString position.column ++ ": missing '\x7b'."
  | unbalancedBraces name position =>
    "Malformed type block " ++ escaped name ++ ": unbalanced braces, '\x7b' at line " ++
      toString position.line ++ ", column " ++ toString position.column ++ " is never closed."

/-- The line of debug text for an error about the source text. -/
def Source.SourceError.summary : SourceError → String
  | noDeclaration => "NoTypeBlock"
  | missingOpenBrace name position => "MissingOpenBrace" ++ located name position
  | unbalancedBraces name position => "UnbalancedBraces" ++ located name position
where
  /-- The data of an error with a name and a position. -/
  located (name : String) (position : Position) : String :=
    " \x7b name: " ++ escaped name ++ ", line: " ++ toString position.line ++ ", column: " ++
      toString position.column ++ " \x7d"

namespace Error

/-- Whether an error is about the source text. -/
def isParseError : Error → Bool
  | source _ => true
  | _ => false

/-- The wording of an error. -/
def message : Error → String
  | source cause => cause.message
  | config cause => "Config error: " ++ cause.message
  | json detail => "JSON error: " ++ detail
  | io detail => "I/O error: " ++ detail
  | invalid issues => "Validation failed with " ++ toString issues ++ " issue(s)"
  | unknownSample name known =>
    "Unknown sample " ++ escaped name ++ ", expected one of: " ++ known

/-- A one-line description of an error. Of errors whose details come from outside it gives the
kind alone. -/
def summary : Error → String
  | source cause => cause.summary
  | config _ => "Config"
  | json _ => "Json"
  | io _ => "Io"
  | invalid issues => "Validation(" ++ toString issues ++ ")"
  | unknownSample name known =>
    "UnknownSample \x7b name: " ++ escaped name ++ ", known: " ++ escaped known ++ " \x7d"

end Error

end InterfaceGen
