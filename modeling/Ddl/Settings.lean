import Ddl.Separated
import Ddl.Text.Numeral
import Ddl.Text.Quoted

/-! Settings of the service are read from its environment. -/

namespace Ddl

/-- The variables of an environment with their values. -/
abbrev Environment := List (Text × Text)

/-- The settings of the service. -/
structure Settings where
  /-- The name of the level from which on messages are logged. -/
  logLevel : Text
  /-- The greatest number of characters that a statement may have. -/
  maxLength : Int
  /-- The origins whose pages may use the service. -/
  corsOrigins : List Text
  /-- The address at which the service listens. -/
  apiHost : Text
  /-- The number under which the service listens at its address. -/
  apiPort : Int
  deriving DecidableEq

/-- Why an environment gives no settings. -/
inductive SettingsError where
  /-- A text stands where an integer is needed. -/
  | notInteger (text : Text)
  /-- An integer has too many digits. -/
  | tooManyDigits (count : Nat)
  deriving DecidableEq

/-- What is said about an environment that gives no settings. -/
def SettingsError.message : SettingsError → Text
  -- A long text is shown by its beginning, cut after it is quoted.
  | notInteger text =>
    "invalid literal for int() with base 10: ".toList ++ (Quoted.encode text).take 200
  | tooManyDigits count =>
    "Exceeds the limit (".toList ++ Text.ofNat Numeral.maxDigits ++
      " digits) for integer string conversion: value has ".toList ++ Text.ofNat count ++
      " digits; use sys.set_int_max_str_digits() to increase the limit".toList

namespace Settings

/-- The origins in a list separated by commas, without white space around them or blank ones. -/
def origins (text : Text) : List Text :=
  ((Separated.parts (· == ',') text).map Text.trim).filter (· ≠ [])

/-- The integer that a text writes. -/
def integer (text : Text) : Except SettingsError Int :=
  (Numeral.integer text).mapError fun
    | .malformed => .notInteger text
    | .tooLong count => .tooManyDigits count

/-- The settings of an environment without variables. -/
def defaults : Settings where
  logLevel := "INFO".toList
  maxLength := 100000
  corsOrigins := ["http://localhost:3000".toList, "http://localhost:5173".toList]
  apiHost := "0.0.0.0".toList
  apiPort := 8000

/-- The value of a variable, unless the environment leaves it out. -/
def value? (environment : Environment) (name : String) : Option Text :=
  environment.lookup name.toList

/-- The settings that an environment gives. -/
def ofEnvironment (environment : Environment) : Except SettingsError Settings := do
  -- The greatest length is read first, so its error is the one that shows when both are faulty.
  let maxLength ← ((value? environment "DDL_MAX_LENGTH").map integer).getD (.ok defaults.maxLength)
  let apiPort ← ((value? environment "API_PORT").map integer).getD (.ok defaults.apiPort)
  return {
    logLevel := (value? environment "LOG_LEVEL").getD defaults.logLevel
    maxLength := maxLength
    corsOrigins := ((value? environment "CORS_ORIGINS").map origins).getD defaults.corsOrigins
    apiHost := (value? environment "API_HOST").getD defaults.apiHost
    apiPort := apiPort }

end Settings

end Ddl
