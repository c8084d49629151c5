import Warden.Text.Blank
import Warden.Text.Lower

/-!
# Model providers and capabilities

The model providers that the gateway knows, and the capabilities a model may
declare. Both are read leniently from administrator input: blanks around the text are
dropped, letter case is ignored, one conventional prefix may stand in front
(`provider_type_`, `capability-`, …), and separators are forgiven (a provider name may carry
any `_` and `-`, a capability name may write `-` for `_`). Capabilities also accept short
aliases such as `image` and `stream`.
-/

namespace Warden

/-- Drops the first of the given prefixes that the text starts with, if any. -/
def dropFirstPrefix (prefixes : List String) (s : String) : String :=
  match prefixes.find? (fun p => p.toList.isPrefixOf s.toList) with
  | some p => String.ofList (s.toList.drop p.length)
  | none => s

/-- A model provider. Providers are ordered as listed. -/
inductive Provider where
  | dashscope
  | openrouter
  deriving DecidableEq, Repr, Inhabited

namespace Provider

/-- The name of a provider. -/
def name : Provider → String
  | dashscope => "dashscope"
  | openrouter => "openrouter"

/-- Position of a provider in the order of providers. -/
def rank : Provider → Nat
  | dashscope => 0
  | openrouter => 1

/-- The prefixes that may stand before a provider name. -/
def prefixes : List String := ["provider_type_", "provider-type-", "provider_", "provider-"]

/-- Reads a provider: trimmed, lowercased, one prefix dropped, then every `_` and `-`
removed. -/
def parse? (s : String) : Option Provider :=
  let bare := dropFirstPrefix prefixes (Text.lowercase (Text.trim s))
  match String.ofList (bare.toList.filter (fun c => c ≠ '_' && c ≠ '-')) with
  | "dashscope" => some dashscope
  | "openrouter" => some openrouter
  | _ => none

/-- The provider with a given exact name. -/
def ofName? (s : String) : Option Provider :=
  [dashscope, openrouter].find? (·.name == s)

end Provider

/-- A capability that a model declares. -/
inductive Capability where
  | text
  | images
  | audio
  | video
  | tools
  | promptCache
  | streaming
  | reasoning
  deriving DecidableEq, Repr, Inhabited

namespace Capability

/-- The name of a capability. -/
def name : Capability → String
  | text => "text"
  | images => "images"
  | audio => "audio"
  | video => "video"
  | tools => "tools"
  | promptCache => "prompt_cache"
  | streaming => "streaming"
  | reasoning => "reasoning"

/-- Every capability, in declaration order. -/
def all : List Capability :=
  [text, images, audio, video, tools, promptCache, streaming, reasoning]

/-- The prefixes that may stand before a capability name. -/
def prefixes : List String :=
  ["model_capability_", "model-capability-", "capability_", "capability-"]

/-- The capability of a name or alias, after `-` is read as `_`. -/
def ofWord? : String → Option Capability
  | "text" => some text
  | "images" | "image" => some images
  | "audio" => some audio
  | "video" => some video
  | "tools" | "tool" => some tools
  | "prompt_cache" | "promptcache" => some promptCache
  | "streaming" | "stream" => some streaming
  | "reasoning" | "reason" => some reasoning
  | _ => none

/-- Reads a capability: trimmed, lowercased, one prefix dropped, `-` read as `_`. -/
def parse? (s : String) : Option Capability :=
  let bare := dropFirstPrefix prefixes (Text.lowercase (Text.trim s))
  ofWord? (String.ofList (bare.toList.map (fun c => if c = '-' then '_' else c)))

/-- The capability with a given exact name. -/
def ofName? (s : String) : Option Capability := all.find? (·.name == s)

end Capability

end Warden
