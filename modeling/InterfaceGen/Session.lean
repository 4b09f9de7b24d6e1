import InterfaceGen.Artifact

/-!
# Sessions

A session follows a text that keeps changing, such as the contents of an editor, and holds what the
latest text gives. Nothing of an earlier text remains.
-/

namespace InterfaceGen

open Text

/-- What the text of a session gives. -/
inductive Outcome where
  /-- The text is blank, so there is nothing to show and nothing wrong. -/
  | blank
  | ready (schema : Schema) (files : List GeneratedFile)
  | failed (error : Error)
  deriving Repr

/-- What a text gives under a configuration. -/
def Outcome.ofText (config : Config) (text : String) : Outcome :=
  if trim text.toList = [] then blank
  else
    match Schema.ofSource text with
    | .error error => failed error
    | .ok schema => ready schema (schema.files config)

/-- A text and what it gives. -/
structure Session where
  config : Config
  source : String
  outcome : Outcome
  deriving Repr

namespace Session

/-- A session whose text is still empty. -/
def start (config : Config) : Session :=
  ⟨config, "", .blank⟩

/-- The session with another text. -/
def update (session : Session) (text : String) : Session :=
  ⟨session.config, text, .ofText session.config text⟩

/-- Whether there is nothing to show and nothing wrong. -/
def isBlank (session : Session) : Bool :=
  match session.outcome with
  | .blank => true
  | _ => false

/-- The schema of the text. -/
def schema? (session : Session) : Option Schema :=
  match session.outcome with
  | .ready schema _ => some schema
  | _ => none

/-- The files generated for the text. -/
def files? (session : Session) : Option (List GeneratedFile) :=
  match session.outcome with
  | .ready _ files => some files
  | _ => none

/-- What is wrong with the text. -/
def error? (session : Session) : Option Error :=
  match session.outcome with
  | .failed error => some error
  | _ => none

/-- The sessions on the way through some updates, from the first to the last. -/
def history (session : Session) : List String → List Session
  | [] => [session]
  | text :: rest => session :: (session.update text).history rest

end Session

end InterfaceGen
