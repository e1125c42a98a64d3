import Promotion.Settings

/-! The settings that a run goes by. They are assigned without a check, so that each may hold any
value. -/
namespace Promotion

structure ActiveSettings where
  logLevel : Json
  structuredLogs : Json
  requestIdHeader : Json
  apiBaseUrl : Json
  apiTimeout : Json
  apiToken : Json
  apiMaxRetries : Json
  defaultSalience : Json
  maxGraphNodes : Json
  enforceWindow : Json
  deriving DecidableEq

namespace Settings

/-- Settings that were read, as those of a run. -/
def active (s : Settings) : ActiveSettings where
  logLevel := .str s.logLevel
  structuredLogs := .bool s.structuredLogs
  requestIdHeader := .str s.requestIdHeader
  apiBaseUrl := .str s.apiBaseUrl
  apiTimeout := s.apiTimeout.toJson
  apiToken := Json.ofOption .str s.apiToken
  apiMaxRetries := .int s.apiMaxRetries
  defaultSalience := .int s.defaultSalience
  maxGraphNodes := .int s.maxGraphNodes
  enforceWindow := .bool s.enforceWindow

end Settings

namespace ActiveSettings

def standard : ActiveSettings := Settings.standard.active

/-- The settings with one of them changed; nothing for a name that is none of theirs. Names that
start with an underscore are free, and no setting goes by them. -/
def assign? (s : ActiveSettings) (name : String) (value : Json) : Option ActiveSettings :=
  match name with
  | "app_env" => some s
  | "app_name" => some s
  | "app_log_level" => some { s with logLevel := value }
  | "observability_structured_logs" => some { s with structuredLogs := value }
  | "observability_request_id_header" => some { s with requestIdHeader := value }
  | "api_base_url" => some { s with apiBaseUrl := value }
  | "api_timeout_seconds" => some { s with apiTimeout := value }
  | "api_token" => some { s with apiToken := value }
  | "api_max_retries" => some { s with apiMaxRetries := value }
  | "default_salience" => some { s with defaultSalience := value }
  | "max_graph_nodes" => some { s with maxGraphNodes := value }
  | "enforce_validity_window" => some { s with enforceWindow := value }
  | name => if name.toList.head? = some '_' then some s else none

end ActiveSettings
end Promotion
