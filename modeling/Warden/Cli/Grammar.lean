/-!
# The grammar of a command line

A command line is a tree of commands. Each command has a name, a one-line description, its
named options, its positional arguments and its subcommands. An option is a switch, takes one
value, or asks for help or for the version; it may be global, which makes it an option of
every command below the one that declares it; it may take its value from an environment
variable when it is absent from the line.

Every command gets `-h, --help` and `-V, --version`. A command with subcommands also gets a
`help` subcommand, which prints the help of the command named after it.

Options are listed in help by their place among the options of the command that declares
them, then by their short letter (lower case first) or, without one, by their long name; so
a subcommand's own options interleave with the global ones it inherits. `help`, `version` and
the `help` subcommand come last.
-/

namespace Warden

namespace Cli

/-- What an option does when it is given. -/
inductive Action where
  /-- Sets a switch. -/
  | flag
  /-- Takes one value, shown in help and errors as the placeholder. -/
  | value (placeholder : String)
  /-- Prints the command's help. -/
  | help
  /-- Prints the version. -/
  | version
  deriving DecidableEq, Repr

/-- How the value of an option is read. -/
inductive ValueKind where
  /-- Any text. -/
  | text
  /-- A path: any text but the empty one. -/
  | path
  /-- A signed 64-bit integer. -/
  | integer
  deriving DecidableEq, Repr

/-- A named option. -/
structure OptionSpec where
  /-- The long name, without the dashes; it also names the option. -/
  long : String
  short : Option Char
  action : Action
  kind : ValueKind
  help : String
  /-- The place among the options of the declaring command. -/
  order : Nat
  /-- Whether a value may be a negative number even though it starts with a dash. -/
  negativeNumbers : Bool
  /-- The variable that gives the value when the option is absent. -/
  env : Option String
  /-- Whether the option belongs to every command below. -/
  global : Bool
  deriving DecidableEq, Repr

namespace OptionSpec

/-- Whether the option takes a value. -/
def takesValue (o : OptionSpec) : Bool :=
  match o.action with
  | .value _ => true
  | _ => false

/-- The option as errors name it: `--config <CONFIG>`, `--verbose`. -/
def display (o : OptionSpec) : String :=
  match o.action with
  | .value p => "--" ++ o.long ++ " <" ++ p ++ ">"
  | _ => "--" ++ o.long

/-- The key that orders options in help. -/
def sortKey (o : OptionSpec) : Nat × String :=
  match o.short with
  | some c =>
    (o.order, String.ofList [c.toLower, if c.isLower then '0' else '1'])
  | none => (o.order, o.long)

/-- The help switch. -/
def helpSwitch : OptionSpec :=
  ⟨"help", some 'h', .help, .text, "Print help", 999, false, none, false⟩

/-- The version switch. -/
def versionSwitch : OptionSpec :=
  ⟨"version", some 'V', .version, .text, "Print version", 999, false, none, false⟩

end OptionSpec

/-- A required positional argument. -/
structure Positional where
  /-- The placeholder, such as `ID`. -/
  name : String
  help : String
  deriving DecidableEq, Repr

/-- A command with its options, positional arguments and subcommands. -/
structure CommandSpec where
  name : String
  about : String
  options : List OptionSpec
  positionals : List Positional
  subcommands : List CommandSpec
  /-- Whether a subcommand must be given; such a command given nothing prints its help. -/
  subcommandRequired : Bool

namespace CommandSpec

/-- The names of the subcommands, with the `help` subcommand when there are any. -/
def subcommandNames (c : CommandSpec) : List String :=
  if c.subcommands.isEmpty then [] else c.subcommands.map (·.name) ++ ["help"]

/-- The subcommand of a name. -/
def subcommand? (c : CommandSpec) (name : String) : Option CommandSpec :=
  c.subcommands.find? (·.name == name)

end CommandSpec

/-- Inserts an option before the first one with a greater key. -/
def insertOption (o : OptionSpec) : List OptionSpec → List OptionSpec
  | [] => [o]
  | p :: ps =>
    if o.sortKey.1 < p.sortKey.1 ∨ (o.sortKey.1 = p.sortKey.1 ∧ o.sortKey.2 < p.sortKey.2) then
      o :: p :: ps
    else p :: insertOption o ps

/-- Options in help order. -/
def sortOptions (os : List OptionSpec) : List OptionSpec := os.foldl (fun acc o => insertOption o acc) []

/-- A command as reached on the line: its grammar, the names leading to it from the program,
and the options it accepts, its own and those inherited from above. -/
structure Reached where
  spec : CommandSpec
  names : List String
  options : List OptionSpec
  /-- The global options of this command and of those above, passed on below. -/
  globals : List OptionSpec

namespace Reached

/-- The program's own command. -/
def top (c : CommandSpec) : Reached :=
  ⟨c, [c.name], c.options ++ [OptionSpec.helpSwitch, OptionSpec.versionSwitch],
    c.options.filter (·.global)⟩

/-- A subcommand reached from a command. -/
def down (r : Reached) (c : CommandSpec) : Reached :=
  let inherited := r.globals.filter (fun g => !(c.options.any (·.long == g.long)))
  ⟨c, r.names ++ [c.name], c.options ++ inherited ++ [OptionSpec.helpSwitch, OptionSpec.versionSwitch],
    inherited ++ c.options.filter (·.global)⟩

/-- The name used in usage lines: the names from the program down, separated by spaces. -/
def usageName (r : Reached) : String := " ".intercalate r.names

/-- The name used by the version line: the names joined by dashes. -/
def displayName (r : Reached) : String := "-".intercalate r.names

/-- The option of a long name. -/
def long? (r : Reached) (name : String) : Option OptionSpec := r.options.find? (·.long == name)

/-- The option of a short letter. -/
def short? (r : Reached) (c : Char) : Option OptionSpec := r.options.find? (·.short == some c)

end Reached

end Cli

end Warden
