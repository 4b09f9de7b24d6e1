import InterfaceGen.Config.Basic
import InterfaceGen.Naming.Resource
import InterfaceGen.Schema.Basic
import InterfaceGen.TypeScript.Import

/-!
# The client module

A module of functions that create, fetch, list, update and delete the records of a schema over
HTTP. They differ in their address, in what they send, and in what they give back.
-/

namespace InterfaceGen

open Text TypeScript

/-- One function of a client. -/
structure ClientOperation where
  name : String
  parameters : String
  /-- The lines that send the request and hold its answer in `res`. -/
  request : List String
  /-- The type of what the answer holds, unless it holds nothing. -/
  result : Option String
  /-- What is said to have failed when the answer is a failure. -/
  task : String
  deriving DecidableEq, Repr

namespace ClientOperation

/-- The lines of a function, with an empty line below it. -/
def lines (operation : ClientOperation) : List String :=
  ["export async function " ++ operation.name ++ "(" ++ operation.parameters ++ "): Promise<" ++
      operation.result.getD "void" ++ "> \x7b"] ++
    operation.request ++
    ["  if (!res.ok) throw new Error(`Failed to " ++ operation.task ++
      ": $\x7bres.status\x7d $\x7bres.statusText\x7d`);"] ++
    (match operation.result with
    | some result => ["  return (await res.json()) as " ++ result ++ ";"]
    | none => []) ++
    ["\x7d", ""]

end ClientOperation

/-- The module with the client for the records of a name. -/
structure ClientModule where
  /-- The name of the record type. -/
  record : String
  /-- The module that the record type is imported from. -/
  schemaModule : String
  /-- The address of the records. -/
  base : String
  deriving DecidableEq, Repr

/-- The client module of a schema. -/
def Schema.toClient (schema : Schema) (config : Config) : ClientModule where
  record := schema.name
  schemaModule := config.schemaModule
  base := config.apiBase ++ resourcePath schema.name

namespace ClientModule

/-- The lines of a request that sends a record as JSON. -/
def sendLines (address method : String) : List String :=
  ["  const res = await fetch(" ++ address ++ ", \x7b",
    "    method: " ++ quote method ++ ",",
    "    headers: \x7b \"Content-Type\": \"application/json\" \x7d,",
    "    body: JSON.stringify(data),",
    "  \x7d);"]

/-- The expression for the address of one record. -/
def recordAddress : String :=
  "`$\x7bBASE\x7d/$\x7bencodeURIComponent(id)\x7d`"

/-- The functions of a client, in the order in which they are written. -/
def operations (client : ClientModule) : List ClientOperation :=
  let record := client.record
  let names := OperationNames.ofRecord record
  [{ name := names.create
     parameters := "data: " ++ record
     request := sendLines "BASE" "POST"
     result := some record
     task := "create " ++ record },
   { name := names.fetch
     parameters := "id: string"
     request := ["  const res = await fetch(" ++ recordAddress ++ ");"]
     result := some record
     task := "fetch " ++ record },
   { name := names.list
     parameters := "query?: Record<string, string>"
     request := [
       "  const q = query ? \"?\" + new URLSearchParams(query).toString() : \"\";",
       "  const res = await fetch(`$\x7bBASE\x7d$\x7bq\x7d`);"]
     result := some (record ++ "[]")
     task := "list " ++ plural record },
   { name := names.update
     parameters := "id: string, data: Partial<" ++ record ++ ">"
     request := sendLines recordAddress "PUT"
     result := some record
     task := "update " ++ record },
   { name := names.delete
     parameters := "id: string"
     request := ["  const res = await fetch(" ++ recordAddress ++ ", \x7b method: \"DELETE\" \x7d);"]
     result := none
     task := "delete " ++ record }]

/-- The import of the record type. -/
def recordImport (client : ClientModule) : Import :=
  ⟨.types [client.record], client.schemaModule⟩

/-- The line that holds the address of the records. -/
def baseLine (client : ClientModule) : String :=
  "const BASE = " ++ quote client.base ++ ";"

/-- The lines of the module. -/
def lines (client : ClientModule) : List String :=
  ["// REST helpers for " ++ client.record ++ ".",
    "",
    client.recordImport.text,
    "",
    client.baseLine,
    ""] ++
    client.operations.flatMap (·.lines)

/-- The text of the module. -/
def print (client : ClientModule) : String :=
  joinLines client.lines

end ClientModule

end InterfaceGen
