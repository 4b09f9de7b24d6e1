import InterfaceGen.Naming.Kebab
import InterfaceGen.Naming.Plural

/-!
# Names of a resource

The address under which records are served, and the names of the operations on them.
-/

namespace InterfaceGen

/-- The path of the records of a name: the plural in kebab case. -/
def resourcePath (name : String) : String :=
  "/" ++ kebab (plural name)

/-- The names of the operations on the records of a name. -/
structure OperationNames where
  create : String
  fetch : String
  list : String
  update : String
  delete : String
  deriving DecidableEq, Repr

namespace OperationNames

/-- The operation names for a record name. -/
def ofRecord (name : String) : OperationNames where
  create := "create" ++ name
  fetch := "fetch" ++ name
  list := "list" ++ plural name
  update := "update" ++ name
  delete := "delete" ++ name

/-- The names in the order in which the operations are written. -/
def toList (names : OperationNames) : List String :=
  [names.create, names.fetch, names.list, names.update, names.delete]

end OperationNames

end InterfaceGen
