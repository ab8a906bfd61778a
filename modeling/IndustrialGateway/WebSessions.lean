import IndustrialGateway.Lib.PyJson
import IndustrialGateway.WebApi

/-!
# Sessions of the web API

All sessions share one token, which the application hands out to whoever logs in.
As long as nobody presents a token that the signer accepts without having been
handed it, a request is served exactly when its cookie was handed out before, and
every other request is turned away and changes nothing.
-/

namespace IndustrialGateway

namespace WebApi

open ConfigService

variable {F : Type} [PyRuntime F]

/-- The token that an answer sets. -/
def CookieChange.token? : CookieChange → Option String
  | .set token => some token
  | _ => none

def handedTo (app : App F) : Request F → Option String
  | .login username password => (login app username password).cookie.token?
  | _ => none

/-- The tokens in the answers to some requests. -/
def handedOut (app : App F) (requests : List (Request F)) : List String :=
  requests.filterMap (handedTo app)

/-- A token that the signer accepts was handed out before it is presented. -/
def Unforged (app : App F) (requests : List (Request F)) : Prop :=
  ∀ (i : Nat) token endpoint, requests[i]? = some (.gated (some token) endpoint) →
    (app.serializer.loads app.authSettings.sessionSecret token).isSome →
      token ∈ handedOut app (requests.take i)

omit [PyRuntime F] in
theorem cookie_handled (failure : Failure) : (handled failure : Response F).cookie = .keep := by
  cases failure with
  | http statusCode error message => rfl
  | raised exc =>
    rw [handled]
    split
    · rfl
    · split <;> rfl

omit [PyRuntime F] in
theorem cookie_errorResponse (app : App F) (failure : Failure) :
    (errorResponse app failure).cookie = .keep := by
  rw [errorResponse]
  split
  · exact cookie_handled failure
  · rw [outerResponse]
    split
    · exact cookie_handled _
    · rfl

omit [PyRuntime F] in
/-- An answer that cannot be rendered loses its cookie. -/
theorem token_contentResponse {app : App F} {content : Content F} {cookie : CookieChange}
    {token : String} (h : (contentResponse app content cookie).cookie.token? = some token) :
    cookie.token? = some token := by
  rw [contentResponse] at h
  split at h
  · exact h
  · rw [cookie_errorResponse] at h
    cases h

omit [PyRuntime F] in
/-- The answer of the session check is plain ASCII. -/
theorem errorResponse_loginRequired (app : App F) :
    errorResponse app loginRequired = handled loginRequired := by
  have hwritten : app.renderer.render (errorContent "unauthorized" "Login required") = none :=
    app.renderer.render_ascii [("error", "unauthorized"), ("message", "Login required")] (by decide)
  rw [errorResponse, loginRequired, handled, hwritten]

omit [PyRuntime F] in
/-- Only a login with the right name and password is answered with a token. -/
theorem handedTo_eq_some {app : App F} {request : Request F} {token : String}
    (h : handedTo app request = some token) : token = createSessionToken app ∧
      ∃ username password, request = .login username password ∧
        verifyLogin app.authSettings username password = .ok true := by
  cases request with
  | logout => cases h
  | gated cookie endpoint => cases h
  | login username password =>
    rw [handedTo, login] at h
    rcases hverify : verifyLogin app.authSettings username password with exc | _ | _
    · rw [hverify, cookie_errorResponse] at h
      cases h
    · rw [hverify, cookie_errorResponse] at h
      cases h
    · rw [hverify] at h
      cases token_contentResponse h
      exact ⟨rfl, username, password, rfl, hverify⟩

omit [PyRuntime F] in
theorem mem_handedOut {app : App F} {requests : List (Request F)} {token : String}
    (h : token ∈ handedOut app requests) : token = createSessionToken app ∧
      ∃ username password, .login username password ∈ requests ∧
        verifyLogin app.authSettings username password = .ok true := by
  obtain ⟨request, hmem, hhanded⟩ := List.mem_filterMap.mp h
  obtain ⟨htoken, username, password, rfl, hverify⟩ := handedTo_eq_some hhanded
  exact ⟨htoken, username, password, hmem, hverify⟩

theorem run_concat (app : App F) (m : RuntimeManager F) (requests : List (Request F))
    (request : Request F) :
    run app m (requests ++ [request]) = (handle app (run app m requests) request).2 :=
  List.foldl_append ..

variable {app : App F}
  (hsigner : app.serializer.loads app.authSettings.sessionSecret (createSessionToken app) =
    some (.dict (sessionData app.authSettings).entries))
  (hnonempty : createSessionToken app ≠ "")

include hsigner hnonempty in
theorem requireSession_token :
    requireSession app (some (createSessionToken app)) = .ok (sessionData app.authSettings) := by
  have huser : isText (OrderedDict.lookup "username" (sessionData app.authSettings : Settings F).entries)
      app.authSettings.username = true := decide_eq_true rfl
  rw [requireSession, if_neg hnonempty, readSessionToken, hsigner]
  exact if_pos huser

omit hsigner hnonempty in
/-- What has not been handed out is turned away. -/
theorem requireSession_unknown {requests : List (Request F)} (hunforged : Unforged app requests)
    {i : Nat} {cookie : Option String} {endpoint : Endpoint F}
    (hrequest : requests[i]? = some (.gated cookie endpoint))
    (hunknown : ∀ token ∈ handedOut app (requests.take i), cookie ≠ some token) :
    requireSession app cookie = .error loginRequired := by
  cases cookie with
  | none => rfl
  | some token =>
    rw [requireSession]
    split
    · rfl
    · have hnone : app.serializer.loads app.authSettings.sessionSecret token = none := by
        rw [← Option.not_isSome_iff_eq_none]
        exact fun hsome => hunknown token (hunforged i token endpoint hrequest hsome) rfl
      rw [readSessionToken, hnone]

/-- A request is served in full when its cookie was handed out before, and else it is
answered with 401 and changes nothing. Without a right login nothing ever changes. -/
theorem session_gate (app : App F)
    (hsigner : app.serializer.loads app.authSettings.sessionSecret (createSessionToken app) =
      some (.dict (sessionData app.authSettings).entries))
    (hnonempty : createSessionToken app ≠ "") (m : RuntimeManager F) (requests : List (Request F))
    (hunforged : Unforged app requests) :
    (∀ i cookie endpoint, requests[i]? = some (.gated cookie endpoint) →
      ((∃ token ∈ handedOut app (requests.take i), cookie = some token) →
        handle app (run app m (requests.take i)) (.gated cookie endpoint) =
          serve app (sessionData app.authSettings) endpoint (run app m (requests.take i))) ∧
      ((∀ token ∈ handedOut app (requests.take i), cookie ≠ some token) →
        handle app (run app m (requests.take i)) (.gated cookie endpoint) =
          (handled loginRequired, run app m (requests.take i)))) ∧
    ((∀ username password, .login username password ∈ requests →
      verifyLogin app.authSettings username password ≠ .ok true) → run app m requests = m) := by
  have hrefused : ∀ i cookie endpoint, requests[i]? = some (.gated cookie endpoint) →
      (∀ token ∈ handedOut app (requests.take i), cookie ≠ some token) →
      handle app (run app m (requests.take i)) (.gated cookie endpoint) =
        (handled loginRequired, run app m (requests.take i)) := by
    intro i cookie endpoint hrequest hunknown
    rw [handle, requireSession_unknown hunforged hrequest hunknown]
    exact congrArg (·, run app m (requests.take i)) (errorResponse_loginRequired app)
  refine ⟨fun i cookie endpoint hrequest => ⟨?_, hrefused i cookie endpoint hrequest⟩, fun hlogins => ?_⟩
  · rintro ⟨token, htoken, rfl⟩
    obtain ⟨rfl, -⟩ := mem_handedOut htoken
    rw [handle, requireSession_token hsigner hnonempty]
  · -- no token is handed out, so every request of the run is turned away
    have hnone : ∀ i token, token ∉ handedOut app (requests.take i) := by
      intro i token htoken
      obtain ⟨-, username, password, hlogin, hverify⟩ := mem_handedOut htoken
      exact hlogins username password (List.mem_of_mem_take hlogin) hverify
    have hsame : ∀ i, run app m (requests.take i) = m := by
      intro i
      induction i with
      | zero => rfl
      | succ i ih =>
        cases hget : requests[i]? with
        | none =>
          have hlength := List.getElem?_eq_none_iff.mp hget
          rw [List.take_of_length_le (Nat.le_succ_of_le hlength)]
          rw [List.take_of_length_le hlength] at ih
          exact ih
        | some request =>
          rw [List.take_add_one, hget, Option.toList_some, run_concat]
          cases request with
          | login username password => exact ih
          | logout => exact ih
          | gated cookie endpoint =>
            rw [hrefused i cookie endpoint hget fun token htoken => absurd htoken (hnone i token)]
            exact ih
    have hall := hsame requests.length
    rwa [List.take_length] at hall

/-- The JSON of an answer is written with `allow_nan=False`. -/
def strictRenderer : Renderer F where
  render
    | .json value =>
      if value.finite then none
      else some ⟨.valueError, "Out of range float values are not JSON compliant"⟩
    | .csv _ => none
  render_ascii fields _ := by
    have hfinite : PyValue.finite (.dict (fields.map fun field =>
        (field.1, (.str field.2 : PyValue F)))) = true := by
      rw [PyValue.finite, PyValue.finiteDict_iff]
      rintro _ hmem
      obtain ⟨field, -, rfl⟩ := List.mem_map.mp hmem
      rfl
    exact if_pos hfinite

/-- An application with the default login; its signer knows its own token. -/
def defaultApp : App WholeFloat where
  authSettings := ⟨"admin", "admin", "secret"⟩
  serializer := {
    dumps := fun _ _ => "eyJ1c2VybmFtZSI6ImFkbWluIn0.c2lnbmF0dXJl"
    loads := fun _ token =>
      if token = "eyJ1c2VybmFtZSI6ImFkbWluIn0.c2lnbmF0dXJl" then
        some (.dict [("username", .str "admin")])
      else none }
  renderer := strictRenderer
  decodeError := fun _ => "'utf-8' codec can't decode byte"

/-- A manager that has not been started. -/
def newManager : RuntimeManager WholeFloat where
  store := .initialized
  driverRegistry := defaultDriverRegistry
  sinkRegistry := defaultSinkRegistry

/-- A deletion without a session, a wrong and a right login, and a deletion with a session. -/
def visit : List (Request WholeFloat) :=
  [.gated none (.config (.deletePluginRoute 1)), .login "admin" "guess", .login "admin" "admin",
    .gated (some (createSessionToken defaultApp)) (.config (.deletePluginRoute 1))]

theorem visit_gated :
    (handle defaultApp newManager (.gated none (.config (.deletePluginRoute 1)))).1.statusCode = 401 ∧
      handle defaultApp (run defaultApp newManager (visit.take 3))
        (.gated (some (createSessionToken defaultApp)) (.config (.deletePluginRoute 1))) =
        serve defaultApp (sessionData defaultApp.authSettings) (.config (.deletePluginRoute 1))
          (run defaultApp newManager (visit.take 3)) := by
  have hhanded : createSessionToken defaultApp ∈ handedOut defaultApp (visit.take 3) :=
    List.mem_filterMap.mpr ⟨.login "admin" "admin", by simp [visit], by decide⟩
  have hunforged : Unforged defaultApp visit := by
    intro i token endpoint hrequest _
    rcases i with _ | _ | _ | _ | i <;> cases hrequest
    exact hhanded
  obtain ⟨hgate, -⟩ := session_gate defaultApp rfl (by decide) newManager visit hunforged
  refine ⟨?_, (hgate 3 _ _ rfl).1 ⟨_, hhanded, rfl⟩⟩
  have hrefused := (hgate 0 _ _ rfl).2 fun token htoken => absurd htoken List.not_mem_nil
  exact congrArg (fun answer => answer.1.statusCode) hrefused

end WebApi

end IndustrialGateway
