import Promotion.Log.Setup
import Promotion.Proofs.Client.Request
import Promotion.Proofs.Http.Scheme

/-! What settings are good for once they were read: a log can be set up with them, and a client made
with them has an address of the web. -/
namespace Promotion

namespace Settings
variable {fields given : Fields} {environment : List (String × String)} {s : Settings}

/-- Every setting is the value that its own check gives. -/
structure Passed (fields : Fields) (s : Settings) : Prop where
  environment :
    Check.optional fields "app_env" standard.environment checkEnvironment = .valid s.environment
  appName : Check.optional fields "app_name" standard.appName Check.text = .valid s.appName
  logLevel : Check.optional fields "app_log_level" standard.logLevel checkLevel = .valid s.logLevel
  structuredLogs : Check.optional fields "observability_structured_logs" standard.structuredLogs
    Check.truth = .valid s.structuredLogs
  requestIdHeader : Check.optional fields "observability_request_id_header"
    standard.requestIdHeader Check.text = .valid s.requestIdHeader
  apiBaseUrl :
    Check.optional fields "api_base_url" standard.apiBaseUrl checkBaseUrl = .valid s.apiBaseUrl
  apiTimeout : Check.optional fields "api_timeout_seconds" standard.apiTimeout
    (fun json => (Check.double json).map .real) = .valid s.apiTimeout
  apiToken : Check.optional fields "api_token" standard.apiToken (Check.orNull Check.text) =
    .valid s.apiToken
  apiMaxRetries : Check.optional fields "api_max_retries" standard.apiMaxRetries checkRetries =
    .valid s.apiMaxRetries
  defaultSalience : Check.optional fields "default_salience" standard.defaultSalience
    checkPositive = .valid s.defaultSalience
  maxGraphNodes : Check.optional fields "max_graph_nodes" standard.maxGraphNodes checkPositive =
    .valid s.maxGraphNodes
  enforceWindow : Check.optional fields "enforce_validity_window" standard.enforceWindow
    Check.truth = .valid s.enforceWindow

lemma ofFields_eq_valid_iff : ofFields fields = .valid s ↔ Passed fields s := by
  constructor
  · intro h
    simp only [ofFields, Checked.seq_eq_valid_iff, Checked.map_eq_valid_iff] at h
    -- One pair of witnesses for each field, the last field first.
    obtain ⟨_, _, ⟨_, _, ⟨_, _, ⟨_, _, ⟨_, _, ⟨_, _, ⟨_, _, ⟨_, _, ⟨_, _, ⟨_, _, ⟨_, _,
      ⟨_, h₁, rfl⟩, h₂, rfl⟩, h₃, rfl⟩, h₄, rfl⟩, h₅, rfl⟩, h₆, rfl⟩, h₇, rfl⟩, h₈, rfl⟩, h₉, rfl⟩,
      h₁₀, rfl⟩, h₁₁, rfl⟩, h₁₂, rfl⟩ := h
    exact ⟨h₁, h₂, h₃, h₄, h₅, h₆, h₇, h₈, h₉, h₁₀, h₁₁, h₁₂⟩
  · rintro ⟨h₁, h₂, h₃, h₄, h₅, h₆, h₇, h₈, h₉, h₁₀, h₁₁, h₁₂⟩
    rw [ofFields, h₁, h₂, h₃, h₄, h₅, h₆, h₇, h₈, h₉, h₁₀, h₁₁, h₁₂]
    rfl

lemma passed_of_read (h : read given environment = .ok s) :
    Passed (gather given environment) s := by
  rw [← ofFields_eq_valid_iff]
  simp only [read] at h
  split at h
  · split at h
    · next hvalid => exact Except.ok.inj h ▸ hvalid
    · cases h
  · split at h
    · next hvalid => exact Except.ok.inj h ▸ hvalid
    · cases h
  · cases h

/-! ### The level of the log -/

lemma mem_of_checkLevel {json : Json} {name : String} (h : checkLevel json = .valid name) :
    name ∈ levelNames := by
  obtain ⟨word, -, hlevel⟩ := Checked.andThen_eq_valid_iff.mp h
  dsimp only at hlevel
  split at hlevel
  · next hmem => exact Checked.valid.inj hlevel ▸ List.contains_iff_mem.mp hmem
  · cases hlevel

lemma mem_levelNames (h : read given environment = .ok s) : s.logLevel ∈ levelNames := by
  rcases Check.optional_eq_valid_iff.mp (passed_of_read h).logLevel with
    ⟨json, -, hcheck⟩ | ⟨-, hsame⟩
  · exact mem_of_checkLevel hcheck
  · rw [← hsame]
    simp [levelNames, standard]

/-- An address that begins with one of the two schemes of the web. -/
def IsWeb (address : String) : Prop :=
  ∃ name ∈ ["http".toList, "https".toList], ∃ rest, address.toList = name ++ ':' :: rest

/-- The scheme is not touched by slashes that are dropped at the end. -/
lemma IsWeb.dropTrailing {address : String} (h : IsWeb address) :
    IsWeb (Text.dropTrailing '/' address) := by
  obtain ⟨name, hname, rest, haddress⟩ := h
  refine ⟨name, hname, ?_⟩
  unfold Text.dropTrailing
  rw [String.toList_ofList, haddress, List.reverse_append, List.reverse_cons, List.append_assoc,
    List.dropWhile_append]
  split
  · exact ⟨[], by simp⟩
  · exact ⟨(rest.reverse.dropWhile (· == '/')).reverse, by simp⟩

end Settings

end Promotion
