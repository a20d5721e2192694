/-!
# CommandCompiler.CommandLine.Grammar

What may stand on the command line, and how it is explained.

* `OptionSpec`, `Arity`, `Grammar` : options and operands of a command;
* `Grammar.program`, `check`, `signatures` : the program itself and its two
  subcommands.
-/

namespace CommandCompiler.CommandLine

/-- What an option asks for. -/
inductive OptionKind
  | help
  | verbose
  | output
  deriving Repr, DecidableEq

/-- An option, with a short and a long name. -/
structure OptionSpec where
  kind : OptionKind
  short : String
  long : String
  takesValue : Bool
  deriving Repr, DecidableEq

/-- How an option is called in reports. -/
def OptionSpec.label (o : OptionSpec) : String := o.short ++ "/" ++ o.long

/-- How many operands a command takes. -/
inductive Arity
  | one
  | atMostOne
  /-- One, and everything after it, options included. -/
  | rest
  deriving Repr, DecidableEq

/-- A command: its name, its options, its operand, and the texts that explain it. -/
structure Grammar where
  name : String
  options : List OptionSpec
  operand : String
  arity : Arity
  usage : String
  description : List String
  deriving Repr, DecidableEq

/-- Lines of text, each ended by a line feed. -/
def unlines (lines : List String) : String := String.join (lines.map (· ++ "\n"))

namespace Grammar

/-- The line that sums a command up. -/
def usageText (g : Grammar) : String := unlines ["usage: " ++ g.usage]

/-- The whole explanation of a command. -/
def helpText (g : Grammar) : String := g.usageText ++ unlines ("" :: g.description)

/-- The option with a name. -/
def optionNamed? (g : Grammar) (name : String) : Option OptionSpec :=
  g.options.find? fun o => o.short == name || o.long == name

/-- Shows the explanation. Every command has it. -/
def helpOption : OptionSpec := ⟨.help, "-h", "--help", false⟩

/-- The program itself. -/
def program : Grammar where
  name := "plugsig"
  options := [helpOption, ⟨.verbose, "-v", "--verbose", false⟩]
  operand := "COMMAND"
  arity := .rest
  usage := "plugsig [-h] [-v] COMMAND ..."
  description :=
    ["plugsig: compile plugin command schemas into host signatures",
     "",
     "positional arguments:",
     "  COMMAND",
     "    check        Check command schema files for errors",
     "    signatures   Emit the signature artifact of a schema file",
     "",
     "options:",
     "  -h, --help     show this help message and exit",
     "  -v, --verbose  Enable debug logging"]

/-- Checks schema files. -/
def check : Grammar where
  name := "plugsig check"
  options := [helpOption]
  operand := "path"
  arity := .atMostOne
  usage := "plugsig check [-h] [path]"
  description :=
    ["Compile and lint command schema files, reporting every error and warning.",
     "",
     "positional arguments:",
     "  path        Schema file, or directory searched for *.yaml / *.yml files",
     "              (default: current directory)",
     "",
     "options:",
     "  -h, --help  show this help message and exit"]

/-- Compiles a schema file into its artifact. -/
def signatures : Grammar where
  name := "plugsig signatures"
  options := [helpOption, ⟨.output, "-o", "--output", true⟩]
  operand := "schema"
  arity := .one
  usage := "plugsig signatures [-h] [-o OUTPUT] schema"
  description :=
    ["Compile a command schema file and write its signature list as JSON.",
     "",
     "positional arguments:",
     "  schema                Schema file to compile",
     "",
     "options:",
     "  -h, --help            show this help message and exit",
     "  -o OUTPUT, --output OUTPUT",
     "                        Write the artifact to this file instead of standard",
     "                        output"]

end Grammar

end CommandCompiler.CommandLine
