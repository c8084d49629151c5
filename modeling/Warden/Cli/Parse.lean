import Warden.Cli.Help
import Warden.Cli.Program
import Warden.Text.Similarity

/-!
# Reading a command line

The words of a command line are read left to right, one command at a time. At each command a
word is, in this order of precedence:

* the value of the option just named, unless it looks like an option itself (a negative
  number is a value for an option that accepts one);
* a subcommand, which hands the rest of the line to that subcommand (`help` instead prints
  the help of the command the following words name);
* `--`, after which every word is a positional argument;
* `--name` or `--name=value`, a long option;
* `-abc`, one or more short options;
* otherwise a positional argument.

A value is checked when the next word arrives or the line ends, so a bad value is reported
unless an unknown argument comes first. Help and version are answered as soon as they are
read. When the words run out, the deepest command is checked first: a missing value, then
values from the environment, then whether the command needed a subcommand (a command given
nothing at all prints its help) and whether its positional arguments are all there.

Global options are read at every level; a value given on the line wins over one from the
environment, and a deeper command's value wins over an equally sourced one above it.
-/

namespace Warden

namespace Cli

/-! ## Integers -/

/-- Reads the digits of a signed 64-bit integer, failing at the first bad digit or at the
first digit that leaves the range. -/
def readDigits (negative : Bool) (acc : Int) : List Char → Except String Int
  | [] => .ok acc
  | c :: cs =>
    if !c.isDigit then .error "invalid digit found in string"
    else
      let d : Int := (c.toNat - '0'.toNat : Nat)
      let next := if negative then acc * 10 - d else acc * 10 + d
      if next > 9223372036854775807 then .error "number too large to fit in target type"
      else if next < -9223372036854775808 then .error "number too small to fit in target type"
      else readDigits negative next cs

/-- Reads a signed 64-bit integer in decimal, with an optional sign. -/
def parseSigned64 (s : String) : Except String Int :=
  match s.toList with
  | [] => .error "cannot parse integer from empty string"
  | ['+'] | ['-'] => .error "invalid digit found in string"
  | '+' :: cs => readDigits false 0 cs
  | '-' :: cs => readDigits true 0 cs
  | cs => readDigits false 0 cs

/-! ## Words -/

/-- Whether a text reads as a number: digits, at most one dot after the first character and
before any exponent, at most one exponent `e` after the first character and not last. -/
def looksNumeric (cs : List Char) : Bool :=
  let step := fun (st : Option (Nat × Bool × Option Nat)) (c : Char) =>
    match st with
    | none => none
    | some (i, dot, e) =>
      if c.isDigit then some (i + 1, dot, e)
      else if c == '.' && !dot && e.isNone && i > 0 then some (i + 1, true, e)
      else if c == 'e' && e.isNone && i > 0 then some (i + 1, dot, some i)
      else none
  match cs.foldl step (some (0, false, none)) with
  | some (_, _, e) => e != some (cs.length - 1)
  | none => false

/-- Whether a word is a negative number. -/
def isNegativeNumber (w : String) : Bool :=
  match w.toList with
  | '-' :: cs => !cs.isEmpty && looksNumeric cs
  | _ => false

/-- Whether a word is a long option. -/
def isLongWord (w : String) : Bool := w.startsWith "--" && w != "--"

/-- Whether a word is a group of short options. -/
def isShortWord (w : String) : Bool := w.startsWith "-" && !w.startsWith "--" && w.length > 1

/-- The name and attached value of a long option word. -/
def splitLong (w : String) : String × Option String :=
  let body := (w.drop 2).toString
  match body.splitOn "=" with
  | [name] => (name, none)
  | name :: rest => (name, some ("=".intercalate rest))
  | [] => (body, none)

/-! ## What was read -/

/-- How reading a line ends early: with a text for standard output (help, version), or with a
text for standard error (a help page in place of a missing command, or a refusal). -/
inductive Exit where
  | shown (text : String)
  | refused (text : String)
  deriving DecidableEq, Repr

/-- Where a value came from; the line outranks the environment. -/
inductive Source where
  | environment
  | line
  deriving DecidableEq, Repr

/-- A value held by an option or positional argument. -/
inductive Held where
  | switch
  | text (s : String)
  | integer (n : Int)
  deriving DecidableEq, Repr

/-- An argument that has been given, by name. -/
structure Given where
  name : String
  source : Source
  held : Held
  deriving DecidableEq, Repr

/-- The refusal of an option named without its value, or with an empty path. -/
def emptyValue (o : OptionSpec) : Exit :=
  .refused (Refusal.render ⟨"a value is required for '" ++ o.display ++ "' but none was supplied", [], none⟩)

/-- Reads the value of an option. -/
def readValue (o : OptionSpec) (v : String) : Except Exit Held :=
  match o.kind with
  | .text => .ok (.text v)
  | .path => if v.isEmpty then .error (emptyValue o) else .ok (.text v)
  | .integer =>
    match parseSigned64 v with
    | .ok n => .ok (.integer n)
    | .error why =>
      .error (.refused (Refusal.render
        ⟨"invalid value '" ++ v ++ "' for '" ++ o.display ++ "': " ++ why, [], none⟩))

/-- The reading of one command. -/
structure Level where
  env : String → Option String
  reached : Reached
  given : List Given
  /-- The option just named, with its value once read. -/
  pending : Option (OptionSpec × Option String)
  trailing : Bool

/-- Where reading a command stopped. -/
inductive Descent where
  /-- The words ran out. -/
  | stop
  /-- A subcommand was named; the rest of the words are its own. -/
  | into (c : CommandSpec) (rest : List String)
  /-- `help` was named, followed by these words. -/
  | help (rest : List String)

namespace Level

/-- A command about to be read. -/
def start (env : String → Option String) (r : Reached) : Level := ⟨env, r, [], none, false⟩

/-- The names of the arguments given so far, in order. -/
def used (lv : Level) : List String := lv.given.map (·.name)

/-- The number of positional arguments given. -/
def positionalCount (lv : Level) : Nat :=
  (lv.given.filter (fun g => lv.reached.spec.positionals.any (·.name == g.name))).length

/-- Whether a word names a subcommand here. -/
def isSubcommand (lv : Level) (w : String) : Bool := lv.reached.spec.subcommandNames.contains w

/-- A refusal with the full usage line. -/
def refuse (lv : Level) (message : String) (tips : List String) : Exit :=
  .refused (Refusal.render ⟨message, tips, some lv.reached.usage⟩)

/-- Refuses a second use of an option. -/
def unrepeated (lv : Level) (o : OptionSpec) : Except Exit Unit :=
  if lv.given.any (·.name == o.long) then
    .error (lv.refuse ("the argument '" ++ o.display ++ "' cannot be used multiple times") [])
  else .ok ()

/-- Gives an option a value. -/
def supply (lv : Level) (o : OptionSpec) (src : Source) (v : String) : Except Exit Level := do
  lv.unrepeated o
  let h ← readValue o v
  pure { lv with given := lv.given ++ [⟨o.long, src, h⟩] }

/-- Settles the option just named: its value is read, or it has none. -/
def settle (lv : Level) : Except Exit Level :=
  match lv.pending with
  | none => .ok lv
  | some (o, none) => .error (emptyValue o)
  | some (o, some v) => { lv with pending := none }.supply o .line v

/-- Settles the option just named when a refusal is already decided: an option used twice
loses its first use, and a bad value still counts as given. -/
def settleQuietly (lv : Level) : Level :=
  let lv' := { lv with pending := none }
  match lv.pending with
  | some (o, some v) =>
    if lv'.given.any (·.name == o.long) then { lv' with given := lv'.given.filter (·.name != o.long) }
    else
      match readValue o v with
      | .ok h => { lv' with given := lv'.given ++ [⟨o.long, .line, h⟩] }
      | .error _ => { lv' with given := lv'.given ++ [⟨o.long, .line, .text v⟩] }
  | _ => lv'

/-- Acts on an option that takes no value: help and version end the reading, a switch is set. -/
def act (lv : Level) (o : OptionSpec) : Except Exit Level := do
  let lv ← lv.settle
  match o.action with
  | .help => throw (.shown (lv.reached.helpPage lv.env))
  | .version => throw (.shown (lv.reached.versionLine version))
  | _ =>
    lv.unrepeated o
    pure { lv with given := lv.given ++ [⟨o.long, .line, .switch⟩] }

/-- The refusal of an unknown long option, offering a similar option of this command, or else
one of a subcommand named later on the line. -/
def unknownLong (lv : Level) (name : String) (rest : List String) : Exit :=
  let lv := lv.settleQuietly
  let best := (Text.similarNames name (lv.reached.options.map (·.long))).getLast?
  let viaSub : Option (Nat × String × String) := match best with
    | some _ => none
    | none =>
      lv.reached.spec.subcommands.foldl (fun acc c =>
        match (Text.similarNames name ((lv.reached.down c).options.map (·.long))).getLast?,
            rest.findIdx? (· == c.name) with
        | some f, some pos =>
          match acc with
          | some (p, _, _) => if pos < p then some (pos, c.name, f) else acc
          | none => some (pos, c.name, f)
        | _, _ => acc) none
  let trailingTip := best.isNone && !lv.trailing && !lv.reached.spec.positionals.isEmpty
  let tips := (match best with
      | some f => ["a similar argument exists: '--" ++ f ++ "'"]
      | none => []) ++
    (if trailingTip then [Refusal.asValue ("--" ++ name)] else []) ++
    (match viaSub with
      | some (_, sub, f) => ["'" ++ sub ++ " --" ++ f ++ "' exists"]
      | none => [])
  let used := match best with
    | some f => if lv.used.contains f then lv.used else lv.used ++ [f]
    | none => lv.used
  let usage := if used.isEmpty then lv.reached.usage else lv.reached.shortUsage used
  .refused (Refusal.render ⟨"unexpected argument '--" ++ name ++ "' found", tips, some usage⟩)

/-- The refusal of an unknown short option. -/
def unknownShort (lv : Level) (c : Char) : Exit :=
  let arg := "-" ++ String.singleton c
  let tips := if !lv.trailing && !lv.reached.spec.positionals.isEmpty then [Refusal.asValue arg] else []
  lv.refuse ("unexpected argument '" ++ arg ++ "' found") tips

/-- The refusal of a value attached to an option that takes none. -/
def unneeded (lv : Level) (o : OptionSpec) (v : String) : Exit :=
  let lv := lv.settleQuietly
  .refused (Refusal.render ⟨"unexpected value '" ++ v ++ "' for '" ++ o.display ++
    "' found; no more were expected", [], some (lv.reached.shortUsage (lv.used ++ [o.long]))⟩)

/-- The refusal of a word that is neither a subcommand nor a positional argument here. -/
def unmatched (lv : Level) (w : String) : Exit :=
  if lv.trailing && lv.isSubcommand w then
    lv.refuse "unexpected argument '--' found"
      ["subcommand '" ++ w ++ "' exists; to use it, remove the '--' before it"]
  else if !lv.reached.spec.subcommands.isEmpty then
    let close := Text.similarNames w lv.reached.spec.subcommandNames
    lv.refuse ("unrecognized subcommand '" ++ w ++ "'")
      (if close.isEmpty then [] else [Refusal.similarSubcommands close])
  else lv.refuse ("unexpected argument '" ++ w ++ "' found") []

/-- Takes a positional argument. -/
def positional (lv : Level) (w : String) : Except Exit Level :=
  match lv.reached.spec.positionals.drop lv.positionalCount with
  | p :: _ => do
    let lv ← lv.settle
    pure { lv with given := lv.given ++ [⟨p.name, .line, .text w⟩] }
  | [] => .error (lv.settleQuietly.unmatched w)

/-- Reads a long option word. -/
def long (lv : Level) (w : String) (rest : List String) : Except Exit Level :=
  let (name, attached) := splitLong w
  match lv.reached.long? name with
  | none => .error (lv.unknownLong name rest)
  | some o =>
    match o.action, attached with
    | .value _, some v => do
      let lv ← lv.settle
      lv.supply o .line v
    | .value _, none => do
      let lv ← lv.settle
      pure { lv with pending := some (o, none) }
    | _, some v => .error (lv.unneeded o v)
    | _, none => lv.act o

/-- Reads the letters of a short option word. -/
def shorts (lv : Level) : List Char → Except Exit Level
  | [] => .ok lv
  | c :: cs =>
    match lv.reached.short? c with
    | none => .error (lv.settleQuietly.unknownShort c)
    | some o =>
      if o.takesValue then
        if cs.isEmpty then do
          let lv ← lv.settle
          pure { lv with pending := some (o, none) }
        else do
          let lv ← lv.settle
          let v := match cs with
            | '=' :: vs => String.ofList vs
            | _ => String.ofList cs
          lv.supply o .line v
      else do
        let lv ← lv.act o
        lv.shorts cs

/-- Reads the words of this command until they run out or name a subcommand. -/
def scan (lv : Level) : List String → Except Exit (Level × Descent)
  | [] => .ok (lv, .stop)
  | w :: rest =>
    if lv.trailing then do
      let lv ← lv.positional w
      lv.scan rest
    else
      match lv.pending with
      | some (o, none) =>
        if w == "--" then scan { lv with trailing := true } rest
        else if isLongWord w then do
          let lv ← lv.long w rest
          lv.scan rest
        else if isShortWord w && !(o.negativeNumbers && isNegativeNumber w) then do
          let lv ← lv.shorts (w.toList.drop 1)
          lv.scan rest
        else scan { lv with pending := some (o, some w) } rest
      | _ =>
        if lv.isSubcommand w then
          if w == "help" then .ok (lv, .help rest)
          else
            match lv.reached.spec.subcommand? w with
            | some c => .ok (lv, .into c rest)
            | none => .ok (lv, .stop)
        else if w == "--" then scan { lv with trailing := true } rest
        else if isLongWord w then do
          let lv ← lv.long w rest
          lv.scan rest
        else if isShortWord w then do
          let lv ← lv.shorts (w.toList.drop 1)
          lv.scan rest
        else do
          let lv ← lv.positional w
          lv.scan rest

/-- Checks a command once the words below it are read: the option just named, values from
the environment, a missing subcommand, missing positional arguments. -/
def finish (lv : Level) (descended : Bool) : Except Exit Level := do
  let lv ← lv.settle
  let lv ← lv.reached.options.foldlM (fun (lv : Level) o =>
    match o.env with
    | some var =>
      if lv.given.any (·.name == o.long) then pure lv
      else
        match lv.env var with
        | some v => do
          let h ← readValue o v
          pure { lv with given := lv.given ++ [⟨o.long, .environment, h⟩] }
        | none => pure lv
    | none => pure lv) lv
  if !descended && lv.reached.spec.subcommandRequired then
    if lv.given.isEmpty then throw (.refused (lv.reached.helpPage lv.env))
    throw (lv.refuse ("'" ++ lv.reached.usageName ++
      "' requires a subcommand but one was not provided\n  [subcommands: " ++
      ", ".intercalate lv.reached.spec.subcommandNames ++ "]") [])
  let missing := lv.reached.spec.positionals.drop lv.positionalCount
  if !missing.isEmpty then
    throw (.refused (Refusal.render ⟨"the following required arguments were not provided:" ++
      String.join (missing.map (fun p => "\n  <" ++ p.name ++ ">")), [],
      some (lv.reached.shortUsage (lv.used ++ missing.map (·.name)))⟩))
  pure lv

end Level

/-- The help asked for by `help` and the names after it. -/
def helpFor (env : String → Option String) (r : Reached) (atHelp : Bool) : List String → Exit
  | [] => .shown (if atHelp then r.helpCommandPage else r.helpPage env)
  | n :: ns =>
    if atHelp then
      .refused (Refusal.render ⟨"unrecognized subcommand '" ++ n ++ "'", [],
        some (r.usageName ++ " help [COMMAND]...")⟩)
    else if n == "help" && !r.spec.subcommands.isEmpty then helpFor env r true ns
    else
      match r.spec.subcommand? n with
      | some c => helpFor env (r.down c) false ns
      | none => .refused (Refusal.render ⟨"unrecognized subcommand '" ++ n ++ "'", [], some r.usage⟩)

/-- Reads a command and those below it; gives the readings from this command down. -/
def readLevels : Nat → Level → List String → Except Exit (List Level)
  | 0, lv, _ => do
    let lv ← lv.finish false
    pure [lv]
  | fuel + 1, lv, words => do
    let (lv, d) ← lv.scan words
    match d with
    | .stop =>
      let lv ← lv.finish false
      pure [lv]
    | .help rest => throw (helpFor lv.env lv.reached false rest)
    | .into c rest =>
      let lv ← lv.settle
      let below ← readLevels fuel (Level.start lv.env (lv.reached.down c)) rest
      let lv ← lv.finish true
      pure (lv :: below)

/-! ## The request -/

/-- What the command line asks for. -/
inductive Request where
  | showConfig
  | configPath
  | validateConfig
  | listUsers (limit offset : Option Int)
  | showUser (id : String)
  deriving DecidableEq, Repr

/-- A read command line. -/
structure Invocation where
  verbose : Bool
  /-- The configuration file named on the line or by the environment. -/
  configFile : Option String
  request : Request
  deriving DecidableEq, Repr

/-- The value a global option ends with: a value from the line wins over one from the
environment, and otherwise the deeper command's value wins. -/
def globalValue (levels : List Level) (name : String) : Option Held :=
  (levels.foldl (fun acc lv =>
    match lv.given.find? (·.name == name) with
    | some g =>
      match acc with
      | some (src, _) => if src = .line ∧ g.source = .environment then acc else some (g.source, g.held)
      | none => some (g.source, g.held)
    | none => acc) (none : Option (Source × Held))).map (·.2)

/-- The value of an argument given to a command. -/
def heldBy (lv : Level) (name : String) : Option Held := (lv.given.find? (·.name == name)).map (·.held)

/-- The integer given to an option of a command. -/
def integerBy (lv : Level) (name : String) : Option Int :=
  match heldBy lv name with
  | some (.integer n) => some n
  | _ => none

/-- The request of the commands read. -/
def requestOf (levels : List Level) : Option Request :=
  match levels.map (·.reached.spec.name), levels.getLast? with
  | [_, "config"], _ => some .showConfig
  | [_, "config", "show"], _ => some .showConfig
  | [_, "config", "path"], _ => some .configPath
  | [_, "config", "validate"], _ => some .validateConfig
  | [_, "users", "list"], some lv => some (.listUsers (integerBy lv "limit") (integerBy lv "offset"))
  | [_, "users", "show"], some lv =>
    match heldBy lv "ID" with
    | some (.text id) => some (.showUser id)
    | _ => none
  | _, _ => none

/-- Reads a command line of the program, given the environment. -/
def readLine (env : String → Option String) (words : List String) : Except Exit Invocation := do
  let levels ← readLevels (words.length + 1) (Level.start env (Reached.top program)) words
  let configFile := match globalValue levels "config" with
    | some (.text s) => some s
    | _ => none
  match requestOf levels with
  | some r => pure ⟨(globalValue levels "verbose").isSome, configFile, r⟩
  | none => throw (.refused ((Reached.top program).helpPage env))

end Cli

end Warden
