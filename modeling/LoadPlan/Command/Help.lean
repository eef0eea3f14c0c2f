import LoadPlan.Command.Usage

/-!
# Help

What the program says about itself and its commands.
-/

namespace LoadPlan.Command

/-- The name and the version of the program. -/
def versionLine : String :=
  "jmeter-scenario, version 1.0.0"

/-- What a topic is about. -/
def Topic.about : Topic → List String
  | program =>
    ["  JMeter Scenario - Compile API test scenarios into JMeter JMX test plans.",
     "",
     "  A scenario file describes a test made of scenarios (thread groups) and",
     "  requests (HTTP samplers) with headers, parameters, bodies and assertions."]
  | generate =>
    ["  Generate a JMX test plan from a scenario file.",
     "",
     "  Settings from the file's \"settings\" section are overridden by the command-line",
     "  options.",
     "",
     "  Example:     jmeter-scenario generate petstore.yaml     jmeter-scenario",
     "  generate petstore.yaml -o out/petstore.jmx --threads 10"]
  | validate =>
    ["  Report what the compiler will drop or degrade in a scenario file.",
     "",
     "  Errors (the file cannot be loaded) exit with status 1; warnings and info",
     "  entries do not.",
     "",
     "  Example:     jmeter-scenario validate petstore.yaml"]
  | check =>
    ["  Check the structure of a generated JMX test plan.",
     "",
     "  Example:     jmeter-scenario check petstore.jmx"]

/-- The options of a topic. -/
def Topic.optionLines : Topic → List String
  | program =>
    ["  --version  Show the version and exit.",
     "  --help     Show this message and exit."]
  | generate =>
    ["  -o, --output FILE      Output JMX file (default: <test name>.jmx next to the",
     "                         scenario file)",
     "  --threads INTEGER      Threads per thread group",
     "  --rampup INTEGER       Ramp-up period in seconds",
     "  --loops INTEGER        Iterations per thread (-1 for infinite)",
     "  --listener-class TEXT  Backend listener client class name",
     "  -v, --verbose          Show debug logging",
     "  --help                 Show this message and exit."]
  | validate =>
    ["  -v, --verbose  Show debug logging",
     "  --help         Show this message and exit."]
  | check =>
    ["  --help  Show this message and exit."]

/-- The commands of a topic. -/
def Topic.commandLines : Topic → List String
  | program =>
    ["",
     "Commands:",
     "  check     Check the structure of a generated JMX test plan.",
     "  generate  Generate a JMX test plan from a scenario file.",
     "  validate  Report what the compiler will drop or degrade in a scenario..."]
  | _ => []

/-- The help on a topic. -/
def Topic.help (t : Topic) : List String :=
  [t.usage, ""] ++ t.about ++ ["", "Options:"] ++ t.optionLines ++ t.commandLines

/-- The lines that say what is wrong with a command line. -/
def misuseLines (t : Topic) (m : Misuse) : List String :=
  if m == .nothing then t.help
  else
    [t.usage, "Try '" ++ t.call ++ " --help' for help.", "", "Error: " ++ m.message]

end LoadPlan.Command
