/-
Settings of a server, read from variables.

A variable that is blank counts as not set. Only the database URL has to
be set; of several faults the one reported is the first in the order of
the fields.
-/
import TableApi.Numeric.Decimal
import TableApi.Numeric.Range
import TableApi.Text.Ascii
import TableApi.Text.Blank

namespace TableApi

inductive LogFormat where
  | pretty
  | json
deriving DecidableEq

structure DatabaseSettings where
  url : String
  maxConnections : Nat
  /-- In milliseconds. -/
  idleTimeout : Nat
  /-- In milliseconds. -/
  connectTimeout : Nat
  ssl : Bool

structure ServerSettings where
  host : String
  port : Nat

structure LogSettings where
  format : LogFormat
  /-- Where log files are written, if anywhere. -/
  directory : Option String
  filter : String

structure Settings where
  database : DatabaseSettings
  server : ServerSettings
  log : LogSettings

inductive SettingsError where
  | missing (key : String)
  | invalidNumber (key value : String)
  | invalidValue (key value : String)
deriving DecidableEq

namespace SettingsError

def message : SettingsError → String
  | missing v => "required environment variable " ++ v ++ " is not set"
  | invalidNumber v value =>
      "environment variable " ++ v ++ " is not a valid number: '" ++ value ++ "'"
  | invalidValue v value => "invalid value for " ++ v ++ ": '" ++ value ++ "'"

end SettingsError

/-- The address to listen on. -/
def ServerSettings.address (s : ServerSettings) : String :=
  s.host ++ ":" ++ String.ofList (Decimal.digits s.port)

namespace Settings

/-- Variables by name. -/
abbrev Variables := String → Option String

/-- The value of a variable, unless it is blank. -/
def value? (vars : Variables) (name : String) : Option String :=
  (vars name).filter fun v => !Text.isAllBlank v.toList

def required (vars : Variables) (name : String) : Except SettingsError String :=
  match value? vars name with
  | some v => .ok v
  | none => .error (.missing name)

/-- A number up to `bound`; white space around it is ignored. -/
def number (vars : Variables) (name : String) (bound default : Nat) :
    Except SettingsError Nat :=
  match value? vars name with
  | none => .ok default
  | some v =>
      match Decimal.boundedNat? bound (Text.trim v.toList) with
      | some n => .ok n
      | none => .error (.invalidNumber name v)

/-- The meaning of a word as yes or no. -/
def flagOfWord? (word : String) : Option Bool :=
  if word ∈ ["true", "1", "yes"] then some true
  else if word ∈ ["false", "0", "no"] then some false
  else none

/-- A word for yes or no, in letters of any case, `false` if not set;
white space around it is ignored. -/
def flag (vars : Variables) (name : String) : Except SettingsError Bool :=
  match value? vars name with
  | none => .ok false
  | some v =>
      let word := String.ofList (Text.asciiLower (Text.trim v.toList))
      match flagOfWord? word with
      | some b => .ok b
      | none => .error (.invalidValue name word)

/-- The log format of a word. -/
def formatOfWord? (word : String) : Option LogFormat :=
  if word ∈ ["pretty", "text"] then some .pretty
  else if word = "json" then some .json
  else none

/-- The name of a log format, in letters of any case; white space around
it is not ignored. -/
def logFormat (vars : Variables) (name : String) : Except SettingsError LogFormat :=
  match value? vars name with
  | none => .ok .pretty
  | some v =>
      let word := String.ofList (Text.asciiLower v.toList)
      match formatOfWord? word with
      | some f => .ok f
      | none => .error (.invalidValue name word)

/-- The settings that variables give. -/
def ofVariables (vars : Variables) : Except SettingsError Settings := do
  let url ← required vars "DATABASE_URL"
  let maxConnections ← number vars "DATABASE_MAX_CONNECTION" nat32Max 10
  let idleTimeout ← number vars "DATABASE_IDLE_TIMEOUT" nat64Max 10000
  let connectTimeout ← number vars "DATABASE_CONNECTION_TIMEOUT" nat64Max 10000
  let ssl ← flag vars "SSL"
  let port ← number vars "PORT" nat16Max 4000
  let format ← logFormat vars "LOG_FORMAT"
  return {
    database := ⟨url, maxConnections, idleTimeout, connectTimeout, ssl⟩
    server := ⟨(value? vars "HOST").getD "0.0.0.0", port⟩
    log := ⟨format, value? vars "LOG_DIR", (value? vars "LOG_LEVEL").getD "info"⟩ }

end Settings

end TableApi
