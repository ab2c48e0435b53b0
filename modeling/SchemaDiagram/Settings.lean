import SchemaDiagram.Text.Integer
import SchemaDiagram.Text.Quoted

/-! Settings of a run, read from the environment. -/
namespace SchemaDiagram

/-- What a run is for. -/
inductive Mode where
  | development
  | production
  | testing
deriving DecidableEq

structure Settings where
  mode : Mode
  secretKey : Text
  logLevel : Text
  scriptPattern : Text
  relationsPattern : Text
  watermark : Text
  host : Text
  port : Int
  maxContentLength : Int
deriving DecidableEq

namespace Settings

/-- Why a setting is no number. -/
inductive Fault where
  | noInteger (value : Text)
  | tooManyDigits (count : Nat)
deriving DecidableEq

/-- The most digits that a number may have. -/
def digitLimit : Nat := 4300

def Fault.message : Fault → Text
  | noInteger value =>
    "invalid literal for int() with base 10: ".toList ++ (Text.quoted value).take 200
  | tooManyDigits count =>
    "Exceeds the limit (4300 digits) for integer string conversion: value has ".toList
      ++ Text.ofNat count ++ " digits; use sys.set_int_max_str_digits() to increase the limit".toList

def integer (value : Text) : Except Fault Int :=
  match Text.signed? value with
  | none => .error (.noInteger value)
  | some (negative, digits) =>
    if digitLimit < digits.length then .error (.tooManyDigits digits.length)
    else .ok (if negative then -(Text.ofDigits digits : Int) else Text.ofDigits digits)

/-- The names and values that a run finds. -/
abbrev Environment := List (Text × Text)

/-- The secret of a run that is given none; it is not for production. -/
def openSecret : Text := "dev-secret-key-change-in-production".toList

def defaultWatermark : Text := "%% Generated by ddl-to-er".toList

/-- Any name but the three known ones means development. -/
def modeOf (name : Text) : Mode :=
  if name == "production".toList then .production
  else if name == "testing".toList then .testing
  else .development

/-- The settings of an environment; of two faulty numbers the port is told. -/
def ofEnvironment (env : Environment) : Except Fault Settings := do
  let value := fun (name unset : String) => (env.lookup name.toList).getD unset.toList
  let mode := modeOf (value "FLASK_ENV" "development")
  let port ← integer (value "PORT" "5000")
  let maxContentLength ← integer (value "MAX_CONTENT_LENGTH" "16777216")
  return {
    mode, port, maxContentLength
    secretKey := (env.lookup "SECRET_KEY".toList).getD openSecret
    logLevel := value "LOG_LEVEL" (if mode = .development then "DEBUG" else "INFO")
    scriptPattern := value "SQL_GLOB" "*.sql"
    relationsPattern := value "RELATIONS_GLOB" "*.dbml"
    watermark := (env.lookup "WATERMARK".toList).getD defaultWatermark
    host := value "HOST" (if mode = .production then "0.0.0.0" else "127.0.0.1") }

/-- A diagram as it is exported, with the watermark behind it. -/
def exported (s : Settings) (diagram : Text) : Text := diagram ++ ['\n'] ++ s.watermark ++ ['\n']

/-- What keeps a production run from starting. -/
def objection? (s : Settings) : Option Text :=
  if s.mode = .production ∧ s.secretKey = openSecret then
    some "SECRET_KEY must be set in production".toList
  else none

end Settings
end SchemaDiagram
