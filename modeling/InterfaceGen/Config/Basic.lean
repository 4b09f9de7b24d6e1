/-!
# Configuration

The settings shared by what is generated. Each has a default.
-/

namespace InterfaceGen

/-- The settings of a run. -/
structure Config where
  /-- What the address of a resource begins with. -/
  apiPrefix : String := "/api"
  /-- The module that the record type is imported from. -/
  schemaModule : String := "./schema"
  /-- The text of the button that submits a form. -/
  submitLabel : String := "Submit"
  deriving DecidableEq, Repr

namespace Config

/-- The characters of a text without the slashes at its end. -/
def dropSlashesRight (text : List Char) : List Char :=
  (text.reverse.dropWhile (· == '/')).reverse

/-- The prefix of addresses without the slashes at its end. -/
def apiBase (config : Config) : String :=
  String.ofList (dropSlashesRight config.apiPrefix.toList)

end Config

end InterfaceGen
