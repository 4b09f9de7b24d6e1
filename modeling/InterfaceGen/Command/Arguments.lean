import InterfaceGen.Artifact

/-!
# Arguments

The command line: a verb with its options. The options for a configuration and for more log lines
may come before the verb or after it.

An option is written long or short, `--input FILE`, `--input=FILE`, `-i FILE`, `-iFILE` or
`-i=FILE`, and short options may share a dash, of which the last may take a value. A value in an
argument of its own does not begin with a dash, unless it is a dash. An option that takes a value is
given once on its side of the verb. In place of a verb may stand the word `help`, alone or with the
one word that help is asked on.
-/

namespace InterfaceGen.Command

/-- What the program is asked to do. -/
inductive Verb where
  | parse
  | generate
  | check
  | samples
  deriving DecidableEq, Repr

/-- The options there are. -/
inductive Flag where
  | config
  | verbose
  | help
  | input
  | output
  | only
  | data
  | name
  deriving DecidableEq, Repr

/-- An invocation of the program. -/
inductive Task where
  /-- Print the schema of a file in wire form. -/
  | parse (input : String)
  /-- Generate artifacts, all or only one, into a directory or onto the output. -/
  | generate (input : String) (output : Option String) (only : Option Artifact)
  /-- Check a document against the schema of a file. -/
  | check (input data : String)
  /-- List the samples, or print one of them. -/
  | samples (name : Option String)
  deriving DecidableEq, Repr

/-- A task with the file of the configuration to use. -/
structure Invocation where
  config : Option String
  task : Task
  deriving DecidableEq, Repr

/-- What the arguments ask for. -/
inductive Request where
  | run (invocation : Invocation)
  /-- Tell how the program is used. -/
  | help
  /-- The arguments make no sense. -/
  | refused
  deriving DecidableEq, Repr

/-- The verb of a word. -/
def Verb.ofWord? : String → Option Verb
  | "parse" => some parse
  | "generate" => some generate
  | "check" => some check
  | "samples" => some samples
  | _ => none

namespace Flag

/-- The option with a long name. -/
def ofWord? : String → Option Flag
  | "config" => some config
  | "verbose" => some verbose
  | "help" => some help
  | "input" => some input
  | "output" => some output
  | "only" => some only
  | "data" => some data
  | "name" => some name
  | _ => none

/-- The option with a letter. -/
def ofLetter? : Char → Option Flag
  | 'c' => some config
  | 'v' => some verbose
  | 'h' => some help
  | 'i' => some input
  | 'o' => some output
  | 'd' => some data
  | 'n' => some name
  | _ => none

/-- Whether an option may be given before the verb, or after a verb. -/
def isAccepted (verb : Option Verb) : Flag → Bool
  | config | verbose | help => true
  | input => verb == some .parse || verb == some .generate || verb == some .check
  | output | only => verb == some .generate
  | data => verb == some .check
  | name => verb == some .samples

/-- Whether a text can be the value of an option. Files have names, and there are only three
artifacts. -/
def allows (value : String) : Flag → Bool
  | name => true
  | only => value == "schema" || value == "form" || value == "api"
  | _ => value != ""

end Flag

/-- The artifact that a word asks for. -/
def artifactOfWord? : String → Option Artifact
  | "schema" => some .schema
  | "form" => some .form
  | "api" => some .client
  | _ => none

/-- The form of an argument. -/
inductive Argument where
  /-- A word that is no option. -/
  | word (text : String)
  /-- The mark after which there are no options. -/
  | endOfOptions
  | long (name : String) (value : Option String)
  | short (letters : List Char)
  deriving DecidableEq, Repr

/-- The form of an argument's text. -/
def Argument.ofText (text : String) : Argument :=
  match text.toList with
  | ['-', '-'] => endOfOptions
  | '-' :: '-' :: rest =>
    match rest.dropWhile (· != '=') with
    | _ :: value => long (String.ofList (rest.takeWhile (· != '='))) (some (String.ofList value))
    | [] => long (String.ofList rest) none
  | '-' :: letter :: rest => short (letter :: rest)
  | _ => word text

/-- What an argument amounts to where it stands. -/
inductive Step where
  | refused
  | help
  /-- There is nothing to note. -/
  | noted
  /-- Only the end of the arguments may follow. -/
  | finish
  /-- Only what help is asked on may follow. -/
  | helpOn
  | verb (verb : Verb)
  /-- An option that takes a value, which may come with it. -/
  | option (flag : Flag) (value : Option String)
  deriving DecidableEq, Repr

/-- What a long option amounts to. -/
def Step.ofLong (verb : Option Verb) (name : String) (value : Option String) : Step :=
  match Flag.ofWord? name with
  | none => refused
  | some flag =>
    if !flag.isAccepted verb then refused
    else
      match flag, value with
      | .verbose, none => noted
      | .help, none => help
      | .verbose, some _ | .help, some _ => refused
      | flag, value => option flag value

/-- What short options that share a dash amount to. -/
def Step.ofShort (verb : Option Verb) : List Char → Step
  | [] => noted
  | letter :: rest =>
    match Flag.ofLetter? letter with
    | none => refused
    | some flag =>
      if !flag.isAccepted verb then refused
      else
        match flag, rest with
        | .verbose, rest => ofShort verb rest
        | .help, _ => help
        | flag, [] => option flag none
        | flag, '=' :: value => option flag (some (String.ofList value))
        | flag, value => option flag (some (String.ofList value))

/-- What an argument amounts to before the verb, or after a verb. -/
def Step.ofText (current : Option Verb) (text : String) : Step :=
  match Argument.ofText text with
  | .endOfOptions => finish
  | .long name value => ofLong current name value
  | .short letters => ofShort current letters
  | .word word =>
    match current, Verb.ofWord? word with
    | none, some next => verb next
    | none, none => if word = "help" then helpOn else refused
    | some _, _ => refused

/-- Whether there is help on what some words name: the program, one of its verbs, or help itself. -/
def isTopic : List String → Bool
  | [] => true
  | [word] => word == "help" || (Verb.ofWord? word).isSome
  | _ => false

/-- Whether a text can be an argument that holds the value of the option before it. -/
def isValue (text : String) : Bool :=
  match Argument.ofText text with
  | .word _ => true
  | _ => false

/-- The options given on one side of the verb. -/
abbrev Given := List (Flag × String)

/-- The value given for an option. -/
def Given.value? (given : Given) (flag : Flag) : Option String :=
  List.lookup flag given

/-- The task of a verb, unless an option that it needs is missing. -/
def Task.ofGiven? (verb : Verb) (given : Given) : Option Task :=
  match verb with
  | .parse => (given.value? .input).map parse
  | .generate =>
    (given.value? .input).map fun input =>
      generate input (given.value? .output) ((given.value? .only).bind artifactOfWord?)
  | .check =>
    match given.value? .input, given.value? .data with
    | some input, some data => some (check input data)
    | _, _ => none
  | .samples => some (samples (given.value? .name))

/-- What the options before and after a verb ask for. The configuration after the verb counts
before that in front of it. -/
def Request.ofGiven (verb : Option Verb) (outer given : Given) : Request :=
  match verb with
  | none => refused
  | some verb =>
    match Task.ofGiven? verb given with
    | none => refused
    | some task => run ⟨(given.value? .config).or (outer.value? .config), task⟩

/-- The options given with one more, unless it has been given before or its value is none it can
have. -/
def Given.add? (given : Given) (flag : Flag) (value : String) : Option Given :=
  if (given.value? flag).isSome || !flag.allows value then none else some ((flag, value) :: given)

/-- What arguments ask for, given what has been read: the verb, the options in front of it, and
those on this side of it. -/
def Request.read (verb : Option Verb) (outer given : Given) : List String → Request
  | [] => ofGiven verb outer given
  | text :: rest =>
    match Step.ofText verb text with
    | .refused => refused
    | .help => help
    | .noted => read verb outer given rest
    | .finish => if rest = [] then ofGiven verb outer given else refused
    | .helpOn => if isTopic rest then help else refused
    | .verb verb => read (some verb) given [] rest
    | .option flag (some value) =>
      match given.add? flag value with
      | none => refused
      | some given => read verb outer given rest
    | .option flag none =>
      match rest with
      | [] => refused
      | value :: rest =>
        if isValue value then
          match given.add? flag value with
          | none => refused
          | some given => read verb outer given rest
        else refused

/-- What the arguments of the program ask for. -/
def Request.ofArguments (arguments : List String) : Request :=
  read none [] [] arguments

end InterfaceGen.Command
