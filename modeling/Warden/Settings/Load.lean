import Warden.Relaxed.Decode
import Warden.Settings.Config

/-!
# Loading the configuration file

The configuration file is read in the relaxed syntax into a `Config`, every group and setting
optional, and then validated. A failure to load is one of three kinds, each with its own
message prefix: the file could not be read, its text is not a configuration, or a setting is
out of bounds. Beyond these the reader may break down on a text (a fault), which stops the
whole run.
-/

namespace Warden

/-- Why a configuration could not be loaded. -/
inductive ConfigError where
  /-- The file could not be read or written; the text is the system's. -/
  | io (message : String)
  /-- The text is not a configuration; the text is the reader's report. -/
  | parse (message : String)
  /-- A setting is out of bounds. -/
  | validation (message : String)
  /-- The reader broke down on the text; nothing was loaded, and the run stops. -/
  | fault (message : String)
  deriving DecidableEq, Repr

namespace ConfigError

/-- The name of the failure. -/
def tag : ConfigError → String
  | io _ => "Io"
  | parse _ => "Parse"
  | validation _ => "Validation"
  | fault _ => "Panic"

/-- The message. -/
def message : ConfigError → String
  | io m => "IO error: " ++ m
  | parse m => "Parse error: " ++ m
  | validation m => "Validation error: " ++ m
  | fault m => m

end ConfigError

namespace Config

open Relaxed in
/-- Reads a list of texts. -/
def relaxedTexts (input : Array Char) : Node → Decode (List String) :=
  readList (readText "a string" input) input

open Relaxed in
/-- The relaxed record of session settings. -/
def relaxedAuth (input : Array Char) : Shape AuthSettings where
  name := "AuthSettings"
  fields := [
    ⟨"sessionTtlDays", .defaulted, fun a n => do return { a with sessionTtlDays := ← readU64 input n }⟩,
    ⟨"superAdminEmails", .defaulted, fun a n => do return { a with superAdminEmails := ← relaxedTexts input n }⟩,
    ⟨"sessionPrefix", .defaulted, fun a n => do return { a with sessionPrefix := ← readText "a string" input n }⟩]
  init := defaultAuth

open Relaxed in
/-- The relaxed record of token settings. -/
def relaxedGateway (input : Array Char) : Shape GatewaySettings where
  name := "LlmGatewaySettings"
  fields := [
    ⟨"tokenTtlSeconds", .defaulted, fun g n => do return { g with tokenTtlSeconds := ← readI64 input n }⟩,
    ⟨"allowedModelIds", .defaulted, fun g n => do return { g with allowedModelIds := ← relaxedTexts input n }⟩]
  init := defaultGateway

open Relaxed in
/-- The relaxed record of listing settings. -/
def relaxedListing (input : Array Char) : Shape Nat where
  name := "ListingSettings"
  fields := [⟨"defaultPageSize", .defaulted, fun _ n => readU64 input n⟩]
  init := 50

open Relaxed in
/-- The relaxed record of deadlines. -/
def relaxedTimeouts (input : Array Char) : Shape TimeoutSettings where
  name := "TimeoutSettings"
  fields := [
    ⟨"gatewaySecs", .defaulted, fun t n => do return { t with gatewaySecs := ← readU64 input n }⟩,
    ⟨"loginSecs", .defaulted, fun t n => do return { t with loginSecs := ← readU64 input n }⟩]
  init := defaultTimeouts

open Relaxed in
/-- The relaxed record of storage settings. -/
def relaxedStorage (input : Array Char) : Shape (Option String) where
  name := "StorageSettings"
  fields := [⟨"dataDir", .defaulted, fun _ n => readOption (readText "path string" input) n⟩]
  init := none

open Relaxed in
/-- The relaxed record of global switches. -/
def relaxedGlobal (input : Array Char) : Shape GlobalSettings where
  name := "GlobalSettings"
  fields := [
    ⟨"debug", .defaulted, fun g n => do return { g with debug := ← readBool input n }⟩,
    ⟨"logFormat", .defaulted, fun g n => do
      let i ← readVariant ["pretty", "json"] input n
      return { g with logFormat := if i = 1 then .json else .pretty }⟩]
  init := defaultGlobal

open Relaxed in
/-- The relaxed record of a configuration. -/
def relaxedShape (input : Array Char) : Shape Config where
  name := "Config"
  fields := [
    ⟨"auth", .defaulted, fun c n => do return { c with auth := ← (relaxedAuth input).read input n }⟩,
    ⟨"llmGateway", .defaulted, fun c n => do return { c with gateway := ← (relaxedGateway input).read input n }⟩,
    ⟨"listing", .defaulted, fun c n => do return { c with defaultPageSize := ← (relaxedListing input).read input n }⟩,
    ⟨"timeouts", .defaulted, fun c n => do return { c with timeouts := ← (relaxedTimeouts input).read input n }⟩,
    ⟨"storage", .defaulted, fun c n => do return { c with dataDir := ← (relaxedStorage input).read input n }⟩,
    ⟨"settings", .defaulted, fun c n => do return { c with global := ← (relaxedGlobal input).read input n }⟩]
  init := default

/-- Reads a configuration from the text of a file, without validating it. -/
def ofText (text : String) : Except ConfigError Config :=
  match Relaxed.readDocument text fun input n => (relaxedShape input).read input n with
  | .ok c => .ok c
  | .error (.report m) => .error (.parse m)
  | .error (.fault m) => .error (.fault m)

/-- Checks a configuration, as a load error. -/
def check (c : Config) : Except ConfigError Unit :=
  match c.validate with
  | .ok () => .ok ()
  | .error m => .error (.validation m)

/-- Loads a configuration from the text of a file: read, then validated. -/
def load (text : String) : Except ConfigError Config := do
  let c ← ofText text
  check c
  pure c

end Config

end Warden
