import Warden.Host.Files
import Warden.Settings.Load

/-!
# The configuration file

The configuration lives in one file, by default `llm-studio.json` in the state directory.
Reading it fails as the file system does, or as the relaxed reader and the checks do; an
absent default file means the default configuration. Saving writes the pretty JSON text and
makes the missing directories above the file first.

The command line reads the file the same way, except that an absent file at any path means
the default configuration, and that the environment's overrides are applied before the
configuration is checked once more.
-/

namespace Warden

namespace Config

/-- The failure of a file-system call while handling the configuration file. -/
def ioError (e : IoFailure) : ConfigError := .io e.message

/-- Reads and checks the configuration file at a path. -/
def loadFile (fs : Files) (path : String) : Except ConfigError Config :=
  match fs.read (fs.resolve path) with
  | .ok text => load text
  | .error e => .error (ioError e)

/-- The configuration of the default file, or the default configuration when there is none. -/
def loadDefault (env : String → Option String) (fs : Files) : Except ConfigError Config :=
  let path := defaultPath env
  if fs.present (fs.resolve path) then loadFile fs path else .ok default

/-- Writes a configuration file, making the directories above it first. -/
def saveFile (fs : Files) (path : String) (c : Config) : Except ConfigError Files := do
  let p := fs.resolve path
  let fs' ← (fs.createDirAll p.dropLast).mapError ioError
  (fs'.write p c.fileText).mapError ioError

/-- The configuration the command line works with: the file at a path if there is one, else
the default, with the environment's overrides, checked. -/
def loadEffective (env : String → Option String) (fs : Files) (path : String) :
    Except ConfigError Config := do
  let c ← if fs.present (fs.resolve path) then loadFile fs path else pure default
  let c := c.withEnvOverrides env
  check c
  pure c

end Config

end Warden
