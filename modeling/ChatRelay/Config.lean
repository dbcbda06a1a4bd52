import ChatRelay.Failure
import ChatRelay.Number.Decimal
import ChatRelay.Options
import ChatRelay.Path
import ChatRelay.Url

/-!
# Configuration

The service is configured by environment variables. `Config.read` checks all of them, so that
every issue is reported at once, and fills in what is not set. A numeral may be written in any of
the forms that `Number.ofNumeral?` reads.
-/

namespace ChatRelay

/-- The configuration of the service. -/
structure Config where
  debugging : Bool
  port : Number
  root : Text
  project : Text
  location : Text
  accessToken : Option Text
  base : Option Text
  options : Options
  toolsPath : Text
  toolsEnabled : List Text
  toolsDisabled : List Text
  authToken : Option Text

/-- The variables of an environment. -/
abbrev Environment := List (Text × Text)

namespace Config

/-- What the variables say, before anything is filled in. -/
structure Variables where
  project : Text
  location : Text
  model : Option Text
  accessToken : Option Text
  base : Option Text
  maxTokens : Option Number
  temperature : Option Number
  topK : Option Number
  topP : Option Number
  debugging : Option Text
  port : Option Number
  toolsPath : Option Text
  toolsEnabled : Option Text
  toolsDisabled : Option Text
  authToken : Option Text

open Check

/-- A URL. -/
def url : Check Text := fun path found =>
  match found with
  | some (.str s) => .flag s (if Url.isValid s then [] else [⟨path, .invalidUrl⟩])
  | _ => wrongKind .string path found

/-- A numeral, checked as the number that it denotes. -/
def numeral (check : Check Number) : Check Number := fun path found =>
  match found with
  | some (.str s) => check path (some (.num ((Number.ofNumeral? s).getD .nan)))
  | found => check path found

/-- The variables of the service. -/
def checkVariables : Check Variables := object fun path ms =>
  Variables.mk <$> field nonEmptyString path ms "VERTEX_AI_ANTHROPIC_PROJECT_ID"
    <*> field nonEmptyString path ms "VERTEX_AI_ANTHROPIC_LOCATION"
    <*> field (optional nonEmptyString) path ms "VERTEX_AI_ANTHROPIC_MODEL"
    <*> field (optional string) path ms "VERTEX_AI_ANTHROPIC_ACCESS_TOKEN"
    <*> field (optional url) path ms "VERTEX_AI_ANTHROPIC_BASE_URL"
    <*> field (optional (numeral positive)) path ms "VERTEX_AI_ANTHROPIC_MAX_TOKENS"
    <*> field (optional (numeral fraction)) path ms "VERTEX_AI_ANTHROPIC_TEMPERATURE"
    <*> field (optional (numeral positive)) path ms "VERTEX_AI_ANTHROPIC_TOP_K"
    <*> field (optional (numeral fraction)) path ms "VERTEX_AI_ANTHROPIC_TOP_P"
    <*> field (optional string) path ms "DEBUG"
    <*> field (optional (numeral positive)) path ms "PORT"
    <*> field (optional string) path ms "TOOLS_CONFIG_PATH"
    <*> field (optional string) path ms "TOOLS_ENABLED"
    <*> field (optional string) path ms "TOOLS_DISABLED"
    <*> field (optional string) path ms "API_AUTH_TOKEN"

/-- Whether a value of a switch means on. -/
def isOn (value : Text) : Bool :=
  (["1", "true", "yes"] : List Text).contains value.trim.toLowerAscii

/-- The names in a list that is separated by commas; blank ones are left out. -/
def names (value : Option Text) : List Text :=
  (Text.splitOn (Text.unit ',') (value.getD [])).filterMap Text.trimmed?

/-- The port of the service where none is given. -/
def defaultPort : Number := .ofNat 3000

/-- The path of the tools file where none is given. -/
def defaultToolsPath : Text := "./tools.config.yaml"

/-- The options that hold for all requests; what no variable sets is built in. -/
def Variables.options (v : Variables) : Options where
  model := .value (.str (v.model.getD builtInModel))
  maxTokens := .value (.num (v.maxTokens.getD builtInMaxTokens))
  temperature := .value (.num (v.temperature.getD builtInTemperature))
  topK := .value (.num (v.topK.getD builtInTopK))
  topP := .ofOption (v.topP.map .num)

/-- The configuration of a service that runs in a directory. -/
def ofVariables (root : Text) (v : Variables) : Config where
  debugging := (v.debugging.map isOn).getD false
  port := v.port.getD defaultPort
  root := root
  project := v.project
  location := v.location
  accessToken := v.accessToken.bind Text.trimmed?
  base := v.base
  options := v.options
  toolsPath := Path.resolve root (v.toolsPath.getD defaultToolsPath)
  toolsEnabled := names v.toolsEnabled
  toolsDisabled := names v.toolsDisabled
  authToken := v.authToken.bind Text.trimmed?

/-- The configuration that an environment gives. -/
def read (root : Text) (env : Environment) : Except Failure Config :=
  match (checkVariables [] (some (.obj (env.map fun (name, value) => (name, .str value))))).toExcept with
  | .ok v => .ok (ofVariables root v)
  | .error issues => .error (.invalid issues)

end Config

end ChatRelay
