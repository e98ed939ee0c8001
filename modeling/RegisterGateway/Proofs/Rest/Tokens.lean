import RegisterGateway.Proofs.Config.Validity
import RegisterGateway.Proofs.Rest.Presetting

/-!
# Which tokens open the HTTP interface

A token that a request presents loses the blanks around it, while configured tokens are kept as they
have been written. So a configured token opens the interface exactly if its trimmed form has been
configured too, and an interface whose only token has a blank at its front is open to nobody.
-/

namespace RegisterGateway

/-! ## Tokens that are configured and presented -/

/-- A request asks for something else than the health of the gateway, and presents a text as its
bearer token. -/
structure Rest.Request.Presents (request : Request) (text : String) : Prop where
  other : request.target.path ≠ "/api/v1/health"
  header : request.header? "authorization" = some ("Bearer " ++ text)

/-- A token has been configured that is not blank, and that a header can carry. -/
structure Config.RestSettings.Offers (settings : RestSettings) (token : String) : Prop where
  configured : token ∈ settings.tokens
  filled : Text.isAllBlank token = false
  visible : Rest.isVisible token = true

namespace Rest

variable {request : Request} {text : String}

theorem bearerToken?_of_presents (presents : request.Presents text)
    (visible : isVisible text = true) : bearerToken? request = some text := by
  have carried : isVisible ("Bearer " ++ text) = true := by
    rw [isVisible, String.toList_append, List.all_append, Bool.and_eq_true]
    exact ⟨by decide, visible⟩
  have scheme : "Bearer ".toList.isPrefixOf ("Bearer " ++ text).toList = true := by
    rw [String.toList_append, List.isPrefixOf_iff_prefix]
    exact List.prefix_append _ _
  have rest : String.ofList (("Bearer " ++ text).toList.drop "Bearer ".length) = text := by
    rw [String.toList_append, ← String.length_toList, List.drop_left, String.ofList_toList]
  rw [bearerToken?, Request.textHeader?, presents.header, Option.filter_some, if_pos carried,
    Option.bind_some]
  simp only [if_pos scheme, rest]

/-- An interface that asks for a token lets those requests through whose bearer token, without the
blanks around it, is one of the configured ones. -/
theorem isLetThrough_ofSettings_iff {settings : Config.RestSettings}
    (asks : settings.authEnabled = true) (memories : Config.Memories)
    (other : request.target.path ≠ "/api/v1/health") :
    isLetThrough (.ofSettings settings memories) request = true ↔
      ∃ text, bearerToken? request = some text ∧ Text.isAllBlank text = false ∧
        Text.trim text ∈ settings.tokens := by
  rw [isLetThrough_iff, or_iff_right other, Interface.Authorises]
  simp only [Interface.ofSettings, Access.TokenSet.make, asks, Bool.true_eq_false, false_or]
  refine exists_congr fun text => and_congr_right fun _ => and_congr_right fun filled => ?_
  -- That blank tokens are left out makes no difference: a text that is not blank is none of them.
  rw [List.mem_filter, Text.isAllBlank_trim, filled]
  exact and_iff_left rfl

end Rest

namespace Config

variable {config : Config}

/-- A valid configuration whose interface asks for a token has one that is not blank. -/
theorem exists_token_of_validate (valid : config.validate = .ok ())
    (serves : config.rest.enabled = true) (asks : config.rest.authEnabled = true) :
    ∃ token ∈ config.rest.tokens, Text.isAllBlank token = false := by
  have faultless := validate_eq_ok_iff.1 valid
  simp only [faults, List.append_eq_nil_iff] at faultless
  have ofRest : config.rest.faults = [] := faultless.1.2
  rw [RestSettings.faults, if_pos serves, List.append_eq_nil_iff, Fault.when_eq_nil_iff,
    Fault.when_eq_nil_iff, asks, Bool.true_and, List.all_eq_false] at ofRest
  simpa only [Bool.not_eq_true] using ofRest.2

/-- A configured token that can be presented opens the interface of a valid configuration exactly if
its trimmed form is configured too; a request to another path than that of the health is let through
only with a text that is some configured token, blanks around both aside. So the configured tokens
are of use, if each of them can be presented and is there in its trimmed form. -/
theorem configured_token_opens_iff (valid : config.validate = .ok ())
    (serves : config.rest.enabled = true) (asks : config.rest.authEnabled = true)
    (memories : Memories) :
    (∀ token request, config.rest.Offers token → request.Presents token →
        (Rest.isLetThrough (.ofSettings config.rest memories) request = true ↔
          Text.trim token ∈ config.rest.tokens)) ∧
      (∀ request, request.target.path ≠ "/api/v1/health" →
        Rest.isLetThrough (.ofSettings config.rest memories) request = true →
          ∃ text token, Rest.bearerToken? request = some text ∧ token ∈ config.rest.tokens ∧
            Text.isAllBlank token = false ∧ Text.trim text = Text.trim token) ∧
      ((∀ token ∈ config.rest.tokens, Rest.isVisible token = true) →
        (∀ token, config.rest.Offers token → Text.trim token ∈ config.rest.tokens) →
          ∃ token, config.rest.Offers token ∧ ∀ request, request.Presents token →
            Rest.isLetThrough (.ofSettings config.rest memories) request = true) := by
  have opens {token : String} {request : Rest.Request} (offered : config.rest.Offers token)
      (presents : request.Presents token) :
      Rest.isLetThrough (.ofSettings config.rest memories) request = true ↔
        Text.trim token ∈ config.rest.tokens := by
    rw [Rest.isLetThrough_ofSettings_iff asks memories presents.other,
      Rest.bearerToken?_of_presents presents offered.visible]
    simp [offered.filled]
  refine ⟨fun token request => opens, fun request other through => ?_, fun visible trimmed => ?_⟩
  · obtain ⟨text, presented, filled, known⟩ :=
      (Rest.isLetThrough_ofSettings_iff asks memories other).1 through
    refine ⟨text, Text.trim text, presented, known, ?_, (Text.trim_trim text).symm⟩
    rw [Text.isAllBlank_trim, filled]
  · obtain ⟨token, configured, filled⟩ := exists_token_of_validate valid serves asks
    have offered : config.rest.Offers token := ⟨configured, filled, visible token configured⟩
    exact ⟨token, offered, fun request presents =>
      (opens offered presents).2 (trimmed token offered)⟩

/-- A memory and a route to it, and an HTTP interface with one token. -/
def withToken (token : String) : Config where
  memories := .ofList [("m", { isDefault := true, coils := { size := 8 } })]
  routing := .ofList [(1, "m")]
  rest := { enabled := true, tokens := [token] }

/-- A request for the state of the broker session, with a bearer token. -/
def askingWith (token : String) : Rest.Request where
  method := "GET"
  target := ⟨"/api/v1/diagnostics/mqtt", ""⟩
  headers := [("Authorization", "Bearer " ++ token)]

theorem presents_askingWith (token : String) : (askingWith token).Presents token :=
  ⟨show "/api/v1/diagnostics/mqtt" ≠ "/api/v1/health" by decide, by
    simp [Rest.Request.header?, askingWith]⟩

/-- A token without blanks around it opens the interface. -/
theorem tidy_token_opens :
    (withToken "secret").validate = .ok () ∧ (withToken "secret").rest.Offers "secret" ∧
      Rest.isLetThrough (.ofSettings (withToken "secret").rest (withToken "secret").memories)
        (askingWith "secret") = true := by
  have valid : (withToken "secret").validate = .ok () := by decide +kernel
  have offered : (withToken "secret").rest.Offers "secret" :=
    ⟨List.mem_singleton.2 rfl, by decide, by decide⟩
  obtain ⟨opens, -, -⟩ :=
    configured_token_opens_iff valid rfl rfl (withToken "secret").memories
  exact ⟨valid, offered,
    (opens "secret" _ offered (presents_askingWith "secret")).2 (by decide +kernel)⟩

/-- A token with a blank in front of it keeps everybody out, although the configuration is valid:
the request that presents it as it is configured, and any other request. -/
theorem spaced_token_locks_out :
    (withToken " secret").validate = .ok () ∧ (withToken " secret").rest.Offers " secret" ∧
      (askingWith " secret").Presents " secret" ∧
      ∀ request : Rest.Request, request.target.path ≠ "/api/v1/health" →
        Rest.isLetThrough (.ofSettings (withToken " secret").rest (withToken " secret").memories)
          request = false := by
  refine ⟨by decide +kernel, ⟨List.mem_singleton.2 rfl, by decide, by decide⟩,
    presents_askingWith " secret", fun request other => Bool.eq_false_iff.2 fun through => ?_⟩
  obtain ⟨text, -, -, known⟩ := (Rest.isLetThrough_ofSettings_iff rfl _ other).1 through
  have same : Text.trim text = " secret" := List.mem_singleton.1 known
  have trimmed : Text.trim " secret" = " secret" := by rw [← same, Text.trim_trim]
  exact absurd trimmed (by decide +kernel)

end Config

end RegisterGateway
