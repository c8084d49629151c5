import Warden.Cli.Grammar

/-!
# Help pages, usage lines and error texts

A help page is the command's description, its usage line, and then its subcommands, its
positional arguments and its options, each section as two columns: the names padded to the
widest name of the section, two spaces, and the description. An option that can come from an
environment variable shows the variable and its current value.

There are two usage lines. The full one, used by help pages and most errors, is the command's
names, `[OPTIONS]`, the positional placeholders and `<COMMAND>` or `[COMMAND]`. The short one,
used once some arguments are known, is the command's names followed by the options and
positional arguments in play: the required ones and those already given.

An error text is `error: `, the message, its tips, the usage line when there is one, and a
pointer to `--help`.
-/

namespace Warden

namespace Cli

/-- Pads a text with spaces on the right to a number of characters. -/
def padRight (s : String) (width : Nat) : String :=
  s ++ String.ofList (List.replicate (width - s.length) ' ')

/-- Two aligned columns, each row indented by two spaces. -/
def columns (rows : List (String × String)) : String :=
  let width := rows.foldl (fun w r => max w r.1.length) 0
  "\n".intercalate (rows.map (fun (name, text) => "  " ++ padRight name width ++ "  " ++ text))

/-- The name column of an option: `-v, --verbose` or `    --config <CONFIG>`. -/
def optionName (o : OptionSpec) : String :=
  let shortPart := match o.short with
    | some c => "-" ++ String.singleton c ++ ", "
    | none => "    "
  let valuePart := match o.action with
    | .value p => " <" ++ p ++ ">"
    | _ => ""
  shortPart ++ "--" ++ o.long ++ valuePart

/-- The description column of an option, with its variable and the variable's value. -/
def optionText (env : String → Option String) (o : OptionSpec) : String :=
  match o.env with
  | some v => o.help ++ " [env: " ++ v ++ "=" ++ (env v).getD "" ++ "]"
  | none => o.help

namespace Reached

/-- Whether the command has options besides help and version. -/
def hasOptions (r : Reached) : Bool :=
  r.options.any (fun o => o.action != .help && o.action != .version)

/-- The full usage line. -/
def usage (r : Reached) : String :=
  let opts := if r.hasOptions then " [OPTIONS]" else ""
  let pos := String.join (r.spec.positionals.map (fun p => " <" ++ p.name ++ ">"))
  let sub := if r.spec.subcommands.isEmpty then ""
    else if r.spec.subcommandRequired then " <COMMAND>" else " [COMMAND]"
  r.usageName ++ opts ++ pos ++ sub

/-- The short usage line, given the names of the arguments already in play in the order they
came: options first, without repeats, then positional arguments in their order. -/
def shortUsage (r : Reached) (used : List String) : String :=
  let items := r.spec.positionals.map (·.name) ++ used
  let optionItems := items.filterMap (fun n => (r.options.find? (·.long == n)).map OptionSpec.display)
  let opts := optionItems.foldl (fun acc s => if acc.contains s then acc else acc ++ [s]) []
  let pos := (r.spec.positionals.filter (fun p => items.contains p.name)).map (fun p => "<" ++ p.name ++ ">")
  let sub := if r.spec.subcommandRequired then " <COMMAND>" else ""
  r.usageName ++ String.join ((opts ++ pos).map (" " ++ ·)) ++ sub

/-- The help page. -/
def helpPage (env : String → Option String) (r : Reached) : String :=
  let commands := if r.spec.subcommands.isEmpty then []
    else ["Commands:\n" ++ columns (r.spec.subcommands.map (fun c => (c.name, c.about)) ++
      [("help", "Print this message or the help of the given subcommand(s)")])]
  let arguments := if r.spec.positionals.isEmpty then []
    else ["Arguments:\n" ++ columns (r.spec.positionals.map (fun p => ("<" ++ p.name ++ ">", p.help)))]
  let options := if r.options.isEmpty then []
    else ["Options:\n" ++ columns ((sortOptions r.options).map (fun o => (optionName o, optionText env o)))]
  r.spec.about ++ "\n\nUsage: " ++ r.usage ++ "\n\n" ++ "\n\n".intercalate (commands ++ arguments ++ options)
    ++ "\n"

/-- The help page of the `help` subcommand of a command. -/
def helpCommandPage (r : Reached) : String :=
  "Print this message or the help of the given subcommand(s)\n\nUsage: " ++ r.usageName
    ++ " help [COMMAND]...\n\nArguments:\n  [COMMAND]...  Print help for the subcommand(s)\n"

/-- The version line. -/
def versionLine (r : Reached) (v : String) : String := r.displayName ++ " " ++ v ++ "\n"

end Reached

/-- A refusal of the command line, before it is rendered. -/
structure Refusal where
  message : String
  tips : List String
  usage : Option String
  deriving DecidableEq, Repr

namespace Refusal

/-- The error text. -/
def render (e : Refusal) : String :=
  let tips := if e.tips.isEmpty then "" else "\n" ++ String.join (e.tips.map ("\n  tip: " ++ ·))
  let usage := match e.usage with
    | some u => "\n\nUsage: " ++ u
    | none => ""
  "error: " ++ e.message ++ tips ++ usage ++ "\n\nFor more information, try '--help'.\n"

/-- The tip naming similar subcommands. -/
def similarSubcommands (names : List String) : String :=
  let quoted := ", ".intercalate (names.map (fun n => "'" ++ n ++ "'"))
  if names.length == 1 then "a similar subcommand exists: " ++ quoted
  else "some similar subcommands exist: " ++ quoted

/-- The tip for passing a dashed text as a value. -/
def asValue (arg : String) : String := "to pass '" ++ arg ++ "' as a value, use '-- " ++ arg ++ "'"

end Refusal

end Cli

end Warden
