import Promotion.Check.Field
import Promotion.Json.Shown
import Promotion.Text.Letter

/-! The settings of the program: their standard values, and reading them from given values and
from the environment. -/
namespace Promotion

inductive Environment where
  | local
  | test
  | production
  deriving DecidableEq, Repr

namespace Environment

def all : List Environment := [.local, .test, .production]

def word : Environment → String
  | .local => "local"
  | .test => "test"
  | .production => "prod"

end Environment

structure Settings where
  environment : Environment
  appName : String
  logLevel : String
  structuredLogs : Bool
  requestIdHeader : String
  apiBaseUrl : String
  apiTimeout : Amount
  apiToken : Option String
  apiMaxRetries : Int
  defaultSalience : Int
  maxGraphNodes : Int
  enforceWindow : Bool
  deriving DecidableEq

namespace Settings

def standard : Settings where
  environment := .local
  appName := "promotion-rule-builder"
  logLevel := "INFO"
  structuredLogs := true
  requestIdHeader := "X-Request-ID"
  apiBaseUrl := "http://127.0.0.1:8000/api"
  apiTimeout := .real (.ofInt 10)
  apiToken := none
  apiMaxRetries := 0
  defaultSalience := 10
  maxGraphNodes := 500
  enforceWindow := false

/-- The levels that a log may be set to. -/
def levelNames : List String := ["DEBUG", "INFO", "WARNING", "ERROR", "CRITICAL"]

/-- An environment by its word, in any case. -/
def checkEnvironment (json : Json) : Checked Environment :=
  let given := json.plain
  match Environment.all.find? fun e => e.word == Text.lower given with
  | some e => .valid e
  | none =>
    let words := Json.strings (Environment.all.map Environment.word)
    Checked.reject (.rejected s!"app_env must be one of {words.shown}, got '{given}'")

/-- The name of a level, in any case and with blanks around it. -/
def checkLevel (json : Json) : Checked String :=
  (Check.text json).andThen fun s =>
    let name := Text.upper (Text.strip s)
    if levelNames.contains name then .valid name
    else Checked.reject (.rejected s!"app_log_level must be a standard logging level, got '{s}'")

/-- An address of the web; slashes at its end are dropped. -/
def checkBaseUrl (json : Json) : Checked String :=
  (Check.text json).andThen fun s =>
    if "http://".toList.isPrefixOf s.toList || "https://".toList.isPrefixOf s.toList then
      .valid (Text.dropTrailing '/' s)
    else Checked.reject (.rejected s!"api_base_url must use http:// or https://, got '{s}'")

def checkPositive (json : Json) : Checked Int :=
  (Check.whole json).andThen fun n =>
    if n < 1 then Checked.reject (.rejected "must be a positive integer") else .valid n

def checkRetries (json : Json) : Checked Int :=
  (Check.whole json).andThen fun n =>
    if n < 0 then Checked.reject (.rejected "api_max_retries cannot be negative") else .valid n

/-- Why settings cannot be read. -/
inductive Fault where
  | environmentNotText
  | invalid (issues : List Issue)
  deriving DecidableEq, Repr

/-- Settings from the values that are given; all others have their standard values. -/
def ofFields (fields : Fields) : Checked Settings :=
  Settings.mk
    <$> Check.optional fields "app_env" standard.environment checkEnvironment
    <*> Check.optional fields "app_name" standard.appName Check.text
    <*> Check.optional fields "app_log_level" standard.logLevel checkLevel
    <*> Check.optional fields "observability_structured_logs" standard.structuredLogs Check.truth
    <*> Check.optional fields "observability_request_id_header" standard.requestIdHeader Check.text
    <*> Check.optional fields "api_base_url" standard.apiBaseUrl checkBaseUrl
    <*> Check.optional fields "api_timeout_seconds" standard.apiTimeout
      (fun json => (Check.double json).map .real)
    <*> Check.optional fields "api_token" standard.apiToken (Check.orNull Check.text)
    <*> Check.optional fields "api_max_retries" standard.apiMaxRetries checkRetries
    <*> Check.optional fields "default_salience" standard.defaultSalience checkPositive
    <*> Check.optional fields "max_graph_nodes" standard.maxGraphNodes checkPositive
    <*> Check.optional fields "enforce_validity_window" standard.enforceWindow Check.truth

/-- The names that settings go by. -/
def names : List String :=
  ["app_env", "app_name", "app_log_level", "observability_structured_logs",
    "observability_request_id_header", "api_base_url", "api_timeout_seconds", "api_token",
    "api_max_retries", "default_salience", "max_graph_nodes", "enforce_validity_window"]

/-- The value of a variable of the environment, by a name in small letters; of several variables
the last one counts. -/
def fromEnvironment? (environment : List (String × String)) (name : String) : Option String :=
  (environment.reverse.find? fun entry => Text.lower entry.1 == name).map (·.2)

/-- The values of all settings: those that are given come before those of the environment. -/
def gather (given : Fields) (environment : List (String × String)) : Fields :=
  names.filterMap fun name =>
    match given.get? name with
    | some json => some (name, json)
    | none => (fromEnvironment? environment name).map fun value => (name, .str value)

/-- Settings from given values and the environment. -/
def read (given : Fields) (environment : List (String × String)) : Except Fault Settings :=
  let fields := gather given environment
  match fields.get? "app_env" with
  | none | some (.str _) =>
    match ofFields fields with
    | .valid settings => .ok settings
    | .invalid issues => .error (.invalid issues)
  | some _ => .error .environmentNotText

def toJson (s : Settings) : Json :=
  .obj [("app_env", .str s.environment.word), ("app_name", .str s.appName),
    ("app_log_level", .str s.logLevel), ("observability_structured_logs", .bool s.structuredLogs),
    ("observability_request_id_header", .str s.requestIdHeader),
    ("api_base_url", .str s.apiBaseUrl), ("api_timeout_seconds", s.apiTimeout.toJson),
    ("api_token", Json.ofOption .str s.apiToken), ("api_max_retries", .int s.apiMaxRetries),
    ("default_salience", .int s.defaultSalience), ("max_graph_nodes", .int s.maxGraphNodes),
    ("enforce_validity_window", .bool s.enforceWindow)]

end Settings
end Promotion
