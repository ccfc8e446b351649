/-
How to reach an engine: its address, the name and password to give, and how
long to wait for an answer. A configuration is checked before it is used, and
the first thing wrong with it is reported.
-/
import DocSearch.Environment
import DocSearch.Text.Blank
import DocSearch.Url

namespace DocSearch

/-- Why a configuration cannot be used. -/
inductive ConfigError where
  /-- There is no address. -/
  | noUrl
  /-- The address starts with neither `http://` nor `https://`. -/
  | scheme (given : String)
  /-- There is a name without a password, or the other way round. -/
  | halfCredentials
  /-- No time is given to answer. -/
  | zeroTimeout
  /-- The environment names no address. -/
  | urlUnset
  /-- The environment's timeout is no number of seconds. -/
  | timeout (text : String)
  /-- The address names no engine. -/
  | address (cause : Url.UrlError)
  /-- A reason that was given from outside. -/
  | reported (message : String)
  deriving DecidableEq

namespace ConfigError

/-- How the reason is reported. -/
def message : ConfigError → String
  | noUrl => "No URL provided"
  | scheme given => "Invalid URL (expected http:// or https://): " ++ given
  | halfCredentials => "Basic auth needs both a username and a password"
  | zeroTimeout => "Request timeout must be greater than zero"
  | urlUnset => Environment.variableName "URL" ++ " is not set"
  | timeout text => "Invalid " ++ Environment.variableName "TIMEOUT_SECS" ++ ": " ++ text
  | address cause => "Invalid URL: " ++ cause.message
  | reported message => message

end ConfigError

/-- How to reach an engine. -/
structure ConnectionConfig where
  /-- The address, as it was given. -/
  url : String
  /-- The name to give. -/
  username : Option String := none
  /-- The password to give. -/
  password : Option String := none
  /-- How many nanoseconds an answer may take. -/
  timeout : Nat := 30000000000
  deriving DecidableEq

namespace ConnectionConfig

/-- Gives a name and a password. -/
def withBasicAuth (config : ConnectionConfig) (username password : String) : ConnectionConfig :=
  { config with username := some username, password := some password }

/-- The name and the password, if both are there. -/
def credentials (config : ConnectionConfig) : Option (String × String) :=
  match config.username, config.password with
  | some username, some password => some (username, password)
  | _, _ => none

/-- Whether an address starts the way it has to. -/
def hasScheme (url : String) : Bool :=
  "http://".toList.isPrefixOf url.toList || "https://".toList.isPrefixOf url.toList

/-- Checks a configuration. -/
def validate (config : ConnectionConfig) : Except ConfigError Unit :=
  let url := Text.trim config.url
  if url = "" then .error .noUrl
  else if !hasScheme url then .error (.scheme url)
  else if config.username.isSome != config.password.isSome then .error .halfCredentials
  else if config.timeout = 0 then .error .zeroTimeout
  else .ok ()

/-- Checks that an engine can be reached through a configuration. -/
def checkReachable (config : ConnectionConfig) : Except ConfigError Unit := do
  config.validate
  (Url.check (Text.trim config.url)).mapError .address

/-- The number of seconds a text gives: digits behind an optional plus sign. -/
def seconds? (text : String) : Option Nat :=
  let digits := match text.toList with
    | '+' :: digits => digits
    | digits => digits
  if !digits.isEmpty && digits.all Char.isDigit
      && Text.Numeral.value digits < 0x10000000000000000 then
    some (Text.Numeral.value digits)
  else none

/-- The timeout that an environment asks for, in nanoseconds. -/
def timeoutOf (env : Environment) : Except ConfigError Nat :=
  match env.setting? "TIMEOUT_SECS" with
  | none => .ok 30000000000
  | some text =>
    match seconds? text with
    | some seconds => .ok (1000000000 * seconds)
    | none => .error (.timeout text)

/-- The configuration that an environment asks for. -/
def ofEnvironment (env : Environment) : Except ConfigError ConnectionConfig :=
  match env.setting? "URL" with
  | none => .error .urlUnset
  | some url => do
    let timeout ← timeoutOf env
    let config : ConnectionConfig :=
      { url, username := env.setting? "USERNAME", password := env.setting? "PASSWORD", timeout }
    config.validate
    .ok config

end ConnectionConfig

end DocSearch
