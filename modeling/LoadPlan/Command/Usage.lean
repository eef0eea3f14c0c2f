import LoadPlan.Files.Tree
import LoadPlan.Number.Reader
import LoadPlan.Text.Quoted

/-!
# Reading a command line

A command line is a command with options before or behind its argument. An option has a long name,
some have a short one, and short ones can be written together and with their value. What is wrong
with a command line is one of the causes below, each with its wording.
-/

namespace LoadPlan.Command

/-- What can be asked for: help on the program, or a command. -/
inductive Topic where
  | program
  | generate
  | validate
  | check
  deriving DecidableEq, Repr

/-- The options of all commands. -/
inductive Flag where
  | version
  | help
  | output
  | threads
  | rampUp
  | loops
  | listener
  | verbose
  deriving DecidableEq, Repr

/-- The names of an option. -/
def Flag.names : Flag → List String
  | version => ["--version"]
  | help => ["--help"]
  | output => ["--output", "-o"]
  | threads => ["--threads"]
  | rampUp => ["--rampup"]
  | loops => ["--loops"]
  | listener => ["--listener-class"]
  | verbose => ["--verbose", "-v"]

/-- Whether an option has a value. -/
def Flag.takesValue : Flag → Bool
  | version | help | verbose => false
  | _ => true

/-- Whether an option ends the reading of the command line. -/
def Flag.isEager (f : Flag) : Bool :=
  f == .version || f == .help

/-- The options of a topic. -/
def Topic.flags : Topic → List Flag
  | program => [.version, .help]
  | generate => [.output, .threads, .rampUp, .loops, .listener, .verbose, .help]
  | validate => [.verbose, .help]
  | check => [.help]

/-- The word by which a command is called, with the name of the program. -/
def Topic.call : Topic → String
  | program => "cli"
  | generate => "cli generate"
  | validate => "cli validate"
  | check => "cli check"

/-- What a topic takes behind its options. -/
def Topic.metavars : Topic → String
  | program => "COMMAND [ARGS]..."
  | generate => "SCENARIO_FILE"
  | validate => "SCENARIO_FILE"
  | check => "JMX_FILE"

/-- The line that says how to use a topic. -/
def Topic.usage (t : Topic) : String :=
  "Usage: " ++ t.call ++ " [OPTIONS] " ++ t.metavars

/-- What is wrong with a command line. -/
inductive Misuse where
  /-- Nothing is asked for. -/
  | nothing
  | noSuchCommand (name : String)
  | noCommand
  | noSuchOption (name : String)
  | noValue (option : String)
  | unwantedValue (option : String)
  | notAnInteger (option : Flag) (found : String)
  | noArgument (metavar : String)
  | missingFile (label file : String)
  | directory (label file : String)
  | extraArguments (arguments : List String)
  deriving DecidableEq, Repr

/-- The names of an option in messages. -/
def Flag.label (f : Flag) : String :=
  String.intercalate " / " (f.names.map fun n => "'" ++ n ++ "'")

/-- The wording of a misuse. -/
def Misuse.message : Misuse → String
  | nothing => ""
  | noSuchCommand name => "No such command " ++ Text.quoted name ++ "."
  | noCommand => "Missing command."
  | noSuchOption name => "No such option " ++ Text.quoted name ++ "."
  | noValue option => "Option " ++ Text.quoted option ++ " requires an argument."
  | unwantedValue option => "Option " ++ Text.quoted option ++ " does not take a value."
  | notAnInteger option found =>
    "Invalid value for " ++ option.label ++ ": " ++ Text.quoted found ++ " is not a valid integer."
  | noArgument metavar => "Missing argument '" ++ metavar ++ "'."
  | missingFile label file =>
    "Invalid value for " ++ label ++ ": File " ++ Text.quoted file ++ " does not exist."
  | directory label file =>
    "Invalid value for " ++ label ++ ": File " ++ Text.quoted file ++ " is a directory."
  | extraArguments arguments =>
    "Got unexpected extra argument" ++ (if arguments.length = 1 then "" else "s") ++
      " (" ++ String.intercalate " " arguments ++ ")"

/-! ## Options and arguments -/

/-- The options that were given, with their values, and the arguments. -/
structure Words where
  given : List (Flag × String) := []
  arguments : List String := []
  deriving Repr

/-- The options of one word: those with their values, and one whose value is the next word, under
the name it has there. -/
structure Cluster where
  given : List (Flag × String) := []
  open? : Option (Flag × String) := none

/-- The option of a topic with a name. -/
def flagNamed? (t : Topic) (name : String) : Option Flag :=
  t.flags.find? fun f => f.names.contains name

/-- Whether a name is one of those with a single hyphen and letter. -/
def isShort (name : String) : Bool :=
  name.length == 2

/-- The options of a word of short ones, from a letter on. -/
def shortOptions (t : Topic) : List Char → Except Misuse Cluster
  | [] => .ok {}
  | c :: rest =>
    let name := String.ofList ['-', c]
    match flagNamed? t name with
    | none => .error (.noSuchOption name)
    | some flag =>
      if flag.takesValue then
        if rest.isEmpty then .ok { open? := some (flag, name) }
        else .ok { given := [(flag, String.ofList rest)] }
      else do
        let more ← shortOptions t rest
        return { more with given := (flag, "") :: more.given }

/-- The option of a word with a long name, and a value if there is an equals sign in it. -/
def longOption (t : Topic) (name : String) (value : Option String) : Except Misuse Cluster :=
  match (flagNamed? t name).filter fun _ => !isShort name with
  | none => .error (.noSuchOption name)
  | some flag =>
    match flag.takesValue, value with
    | true, some v => .ok { given := [(flag, v)] }
    | true, none => .ok { open? := some (flag, name) }
    | false, some _ => .error (.unwantedValue name)
    | false, none => .ok { given := [(flag, "")] }

/-- The name and the value of a word at its first equals sign. -/
def splitAtEquals (word : List Char) : String × Option String :=
  let name := word.takeWhile (· != '=')
  match word.dropWhile (· != '=') with
  | [] => (String.ofList name, none)
  | _ :: value => (String.ofList name, some (String.ofList value))

/-- The options of a word that starts with a hyphen. -/
def optionsOf (t : Topic) (word : String) : Except Misuse Cluster :=
  let (name, value) := splitAtEquals word.toList
  match longOption t name value with
  | .error (.noSuchOption n) =>
    match word.toList with
    | '-' :: '-' :: _ => .error (.noSuchOption n)
    | _ :: letters => shortOptions t letters
    | [] => .error (.noSuchOption n)
  | found => found

/-- Whether a word is read as options. -/
def isOption (word : String) : Bool :=
  match word.toList with
  | '-' :: _ :: _ => true
  | _ => false

/-- The options and arguments in words. Behind two hyphens there are only arguments, and for the
program as a whole also behind the first argument. -/
def words (t : Topic) : List String → Except Misuse Words
  | [] => .ok {}
  | word :: rest =>
    if word == "--" then .ok { arguments := rest }
    else if isOption word then
      match optionsOf t word with
      | .error m => .error m
      | .ok cluster =>
        match cluster.open? with
        | none => do
          let more ← words t rest
          return { more with given := cluster.given ++ more.given }
        | some (flag, name) =>
          match rest with
          | [] => .error (.noValue name)
          | value :: rest => do
            let more ← words t rest
            return { more with given := cluster.given ++ (flag, value) :: more.given }
    else if t == .program then .ok { arguments := word :: rest }
    else do
      let more ← words t rest
      return { more with arguments := word :: more.arguments }

/-- The option that ends the reading, if one was given: the first. -/
def Words.eager? (w : Words) : Option Flag :=
  (w.given.map (·.1)).find? (·.isEager)

/-- The value of an option that was given, the last one if it was given several times. -/
def Words.value? (w : Words) (f : Flag) : Option String :=
  (w.given.reverse.find? (·.1 == f)).map (·.2)

/-! ## Values -/

/-- Whether a text ends like the path of a directory. -/
def namesDirectory (s : String) : Bool :=
  match s.toList.reverse with
  | '/' :: _ => true
  | '.' :: '/' :: _ => true
  | _ => false

/-- What a path on the command line leads to. -/
def lookUp (files : Files.Tree) (s : String) : Option Files.Item :=
  if s.isEmpty then none
  else
    match files.find (.ofString s) with
    | .ok (.file bytes) => if namesDirectory s then none else some (.file bytes)
    | .ok .directory => some .directory
    | .error _ => none

/-- Checks a path for an output, which must be no directory. -/
def checkOutput (files : Files.Tree) (s : String) : Except Misuse Unit :=
  match lookUp files s with
  | some .directory => .error (.directory Flag.output.label s)
  | _ => .ok ()

/-- Checks a path for an input, which must be a file. -/
def checkInput (files : Files.Tree) (metavar s : String) : Except Misuse Unit :=
  let label := "'" ++ metavar ++ "'"
  match lookUp files s with
  | some (.file _) => .ok ()
  | some .directory => .error (.directory label s)
  | none => .error (.missingFile label s)

/-- Checks the value of an option. -/
def checkOption (files : Files.Tree) (w : Words) (f : Flag) : Except Misuse Unit :=
  match f, w.value? f with
  | .output, some s => checkOutput files s
  | .threads, some s | .rampUp, some s | .loops, some s =>
    if (Number.integer? s).isSome then .ok () else .error (.notAnInteger f s)
  | _, _ => .ok ()

/-- The argument of a command: the only one there is, checked after all options. -/
def argumentOf (files : Files.Tree) (t : Topic) (w : Words) : Except Misuse String := do
  (w.given.map (·.1)).forM (checkOption files w)
  match w.arguments with
  | [] => throw (.noArgument t.metavars)
  | file :: extra =>
    checkInput files t.metavars file
    if extra.isEmpty then return file else throw (.extraArguments extra)

end LoadPlan.Command
