/-
A logger and what sets it up. Its settings are read from the environment once,
by the first call that needs them; reading them puts their level in force.
Until then warnings are written and debugging is off. Reading settings by hand
puts their level in force as well, but does not count as that first call.
-/
import DocSearch.Environment
import DocSearch.Log.Entry

namespace DocSearch.Log

/-- How a log is kept. -/
structure Settings where
  debug : Bool := false
  level : Level := .warn
  format : Format := .compact
  timestamps : Bool := true
  deriving DecidableEq

namespace Settings

/-- The level that holds when none is named. -/
def levelFor (debug : Bool) : Level := if debug then .debug else .warn

/-- The settings that an environment asks for; what it says wrongly counts as unsaid. -/
def ofEnvironment (env : Environment) : Settings :=
  let debug := (env.flag? "DEBUG").getD false
  { debug
    level := ((env.setting? "LOG_LEVEL").bind Level.parse?).getD (levelFor debug)
    format := ((env.setting? "LOG_FORMAT").bind Format.parse?).getD .compact
    timestamps := (env.flag? "LOG_TIMESTAMPS").getD true }

end Settings

/-- The state of a logger. -/
structure Logger where
  /-- The settings, once they are read. -/
  settings? : Option Settings := none
  level : Level := .warn
  debug : Bool := false
  deriving DecidableEq

namespace Logger

/-- Reads settings from an environment and puts their level in force. -/
def load (logger : Logger) (env : Environment) : Settings × Logger :=
  let settings := Settings.ofEnvironment env
  (settings, { logger with level := settings.level, debug := settings.debug })

/-- The logger's own settings, read now if they were not yet. -/
def config (logger : Logger) (env : Environment) : Settings × Logger :=
  match logger.settings? with
  | some settings => (settings, logger)
  | none =>
    let (settings, loaded) := logger.load env
    (settings, { loaded with settings? := some settings })

/-- The logger once its settings are read. -/
def ready (logger : Logger) (env : Environment) : Logger := (logger.config env).2

/-- Whether entries of a level are written. -/
def enabled (logger : Logger) (level : Level) : Bool := level.passes logger.level

/-- Puts a level in force. -/
def setLevel (logger : Logger) (level : Level) : Logger := { logger with level }

/-- Turns debugging on or off; turning it on lets at least its entries through. -/
def setDebug (logger : Logger) (on : Bool) : Logger :=
  if on && Level.debug.severity < logger.level.severity then
    { logger with debug := on, level := .debug }
  else { logger with debug := on }

/-- The line of an entry under the given settings, at the given time. -/
def lineWith (settings : Settings) (time : String) (entry : Entry) : String :=
  entry.line settings.format (if settings.timestamps then some time else none)

/-- The line that is written for an entry, if any, and the logger after it. -/
def write (logger : Logger) (env : Environment) (time : String) (entry : Entry) :
    Option String × Logger :=
  let (settings, logger) := logger.config env
  (if logger.enabled entry.level then some (lineWith settings time entry) else none, logger)

/-- Settings once read stay. -/
theorem config_ready (logger : Logger) (env later : Environment) :
    (logger.ready env).config later = ((logger.config env).1, logger.ready env) := by
  simp only [ready, config]
  cases h : logger.settings? <;> simp [load, h]

end Logger

end DocSearch.Log
