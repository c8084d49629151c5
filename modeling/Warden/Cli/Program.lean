import Warden.Cli.Grammar

/-!
# The command line of `llm-studio`

```
llm-studio [-v] [--config <CONFIG>] config [show | path | validate]
llm-studio [-v] [--config <CONFIG>] users list [--limit <LIMIT>] [--offset <OFFSET>]
llm-studio [-v] [--config <CONFIG>] users show <ID>
```

`--verbose` and `--config` are global. `--config` falls back to `LLM_STUDIO_CONFIG_PATH`.
`config` alone shows the configuration; `users` needs a subcommand. The page options take
signed integers, negative ones included.
-/

namespace Warden

namespace Cli

/-- The program's version. -/
def version : String := "0.1.0"

/-- The variable that names the configuration file. -/
def configPathVariable : String := "LLM_STUDIO_CONFIG_PATH"

/-- `-v, --verbose`. -/
def verboseOption : OptionSpec :=
  ⟨"verbose", some 'v', .flag, .text, "Verbose output", 0, false, none, true⟩

/-- `--config <CONFIG>`. -/
def configOption : OptionSpec :=
  ⟨"config", none, .value "CONFIG", .path, "Config file path (defaults to the state directory)", 1,
    false, some configPathVariable, true⟩

/-- `--limit <LIMIT>`. -/
def limitOption : OptionSpec :=
  ⟨"limit", none, .value "LIMIT", .integer, "Page size (non-positive uses the configured default)",
    0, true, none, false⟩

/-- `--offset <OFFSET>`. -/
def offsetOption : OptionSpec :=
  ⟨"offset", none, .value "OFFSET", .integer, "Rows to skip (negative reads as 0)", 1, true, none,
    false⟩

/-- A command with nothing of its own. -/
def leaf (name about : String) : CommandSpec := ⟨name, about, [], [], [], false⟩

/-- `config` and its subcommands. -/
def configCommand : CommandSpec :=
  ⟨"config", "Inspect configuration", [], [],
    [leaf "show" "Show the effective configuration", leaf "path" "Print the config file path",
      leaf "validate" "Validate the config file"], false⟩

/-- `users` and its subcommands. -/
def usersCommand : CommandSpec :=
  ⟨"users", "Inspect the local user directory", [], [],
    [⟨"list", "List users, newest first", [limitOption, offsetOption], [], [], false⟩,
      ⟨"show", "Show one user's profile", [], [⟨"ID", "Identity-provider uid"⟩], [], false⟩], true⟩

/-- The whole command line. -/
def program : CommandSpec :=
  ⟨"llm-studio", "LLM Studio - session and role administration", [verboseOption, configOption], [],
    [configCommand, usersCommand], true⟩

end Cli

end Warden
