import ChatRelay.Proofs.Result
import ChatRelay.Proofs.Text.Cutting
import ChatRelay.Server

/-!
# Who may ask for a turn

The header of a request is cut at every space and only its first two words are looked at. So a header
grants the token exactly if the token has no space in it and the header is `Bearer` and the token, or
goes on behind the token with a space (`presents_iff`): what stands behind that space makes no
difference, and a token with a space in it is granted by no header at all.

A request for a turn whose header grants the token has its body checked; every other one is answered
at once, and the service is left as it was (`handle_authorized`).
-/

namespace ChatRelay

namespace Server

/-! ## Headers -/

/-- The unit between the words of a header. -/
def space : CodeUnit := Text.unit ' '

/-- The header that presents a token and nothing else. -/
def bearer (token : Text) : Text := "Bearer " ++ token

/-- A header grants a token that is one word, if it presents it, maybe with more words behind. -/
inductive Grants (token : Text) : Text → Prop
  | exact : space ∉ token → Grants token (bearer token)
  | more (rest : Text) : space ∉ token → Grants token (bearer token ++ space :: rest)

theorem splitOn_bearer (rest : Text) :
    Text.splitOn space (bearer rest) = ("Bearer" : Text) :: Text.splitOn space rest := by
  have hword : space ∉ ("Bearer" : Text) := by decide
  exact Text.splitOn_terminated hword rest

theorem presents_bearer {token rest : Text} {words : List Text}
    (h : Text.splitOn space rest = token :: words) : presents token (bearer rest) = true := by
  have hwords : Text.splitOn (Text.unit ' ') (bearer rest) = ("Bearer" : Text) :: token :: words := by
    rw [← h]
    exact splitOn_bearer rest
  rw [presents, hwords]
  exact decide_eq_true ⟨rfl, rfl⟩

/-- Only a header that grants the token presents it to the service. -/
theorem presents_iff (token header : Text) : presents token header = true ↔ Grants token header := by
  constructor
  · intro h
    unfold presents at h
    split at h
    · rename_i scheme value words hwords
      obtain ⟨rfl, rfl⟩ := of_decide_eq_true h
      obtain ⟨-, ⟨-, hnone⟩ | ⟨rest, rfl, hrest⟩⟩ := Text.splitOn_eq_cons hwords
      · cases hnone
      · obtain ⟨hword, ⟨rfl, -⟩ | ⟨more, rfl, -⟩⟩ := Text.splitOn_eq_cons hrest
        · exact .exact hword
        · exact .more more hword
    · cases h
  · intro h
    cases h with
    | exact hword => exact presents_bearer (Text.splitOn_of_not_mem hword)
    | more rest hword =>
        rw [bearer, List.append_assoc]
        exact presents_bearer (Text.splitOn_terminated hword rest)

/-! ## Requests -/

/-- The token of a configuration is the value of its variable without white space around it. -/
theorem authToken_of_variables (root : Text) (v : Config.Variables) (token : Text) :
    (Settings.of (.ofVariables root v)).authToken = some token ↔
      ∃ value, v.authToken = some value ∧ value.trim = token ∧ token ≠ [] := by
  constructor
  · intro h
    obtain ⟨t, htrimmed, hfilled⟩ := Option.bind_eq_some_iff.mp h
    obtain ⟨value, hvalue, ht⟩ := Option.bind_eq_some_iff.mp htrimmed
    obtain ⟨htrim, hne⟩ := Text.trimmed?_eq_some.mp ht
    rw [nonEmpty?_of_ne_nil hne] at hfilled
    obtain rfl := Option.some.inj hfilled
    exact ⟨value, hvalue, htrim, hne⟩
  · rintro ⟨value, hvalue, htrim, hne⟩
    simp only [Settings.of, Config.ofVariables, hvalue, Option.bind_some,
      Text.trimmed?_eq_some.mpr ⟨htrim, hne⟩, nonEmpty?_of_ne_nil hne]

/-- A request whose header grants a token. -/
def Granted (token : Text) (r : HttpRequest) : Prop :=
  ∃ header, r.header? "authorization" = some header ∧ Grants token header

theorem isAuthorized_iff {settings : Settings} {token : Text}
    (htoken : settings.authToken = some token) (r : HttpRequest) :
    isAuthorized settings r = true ↔ Granted token r := by
  simp only [isAuthorized, htoken, Granted]
  cases r.header? "authorization" with
  | none => simp
  | some header => simp [presents_iff]

/-- The places where a turn is asked for, and how it is answered there. -/
inductive TurnAt : Text → (ChatRequest → Route) → Prop
  | complete : TurnAt "/api/chat" .complete
  | stream : TurnAt "/api/chat/stream" .stream

variable {settings : Settings} {r : HttpRequest} {place : Text} {accepted : ChatRequest → Route}

theorem route_turn (hmethod : r.method = "POST")
    (hplace : (Url.path? r.target).bind Url.place? = some place) (hturn : TurnAt place accepted) :
    route settings r = turnRoute settings r accepted := by
  have hget : ("POST" : Text) ≠ "GET" := by decide
  have hhead : ("POST" : Text) ≠ "HEAD" := by decide
  rw [route, hplace]
  cases hturn with
  | complete => simp [hmethod, hget, hhead]
  | stream =>
      have hother : ("/api/chat/stream" : Text) ≠ "/api/chat" := by decide
      simp [hmethod, hget, hhead, hother]

/-- A request for a turn whose body can be read has its body checked if its header grants the token.
Every other one is unauthorized, whatever its body is, and nothing else happens. -/
theorem handle_authorized {token : Text} {body : Option Json}
    (htoken : settings.authToken = some token) (hmethod : r.method = "POST")
    (hplace : (Url.path? r.target).bind Url.place? = some place) (hturn : TurnAt place accepted)
    (hbody : intake r = .ok body) :
    (Granted token r → route settings r =
      match ChatRequest.read body with
      | .ok input => accepted input
      | .error issues => .answered (invalidBody issues)) ∧
    (¬ Granted token r → ∀ service memory timestamp answer signal,
      handle settings service memory timestamp r answer signal = (unauthorized, [], memory)) := by
  have hroute : route settings r = turnRoute settings r accepted :=
    route_turn hmethod hplace hturn
  rw [turnRoute, hbody] at hroute
  have hiff := isAuthorized_iff htoken r
  constructor
  · intro hgranted
    rw [hroute, hiff.mpr hgranted]
    rfl
  · intro hrefused service memory timestamp answer signal
    have hnot : isAuthorized settings r = false :=
      Bool.eq_false_iff.mpr fun hpass => hrefused (hiff.mp hpass)
    have hanswered : route settings r = .answered unauthorized := by
      rw [hroute, hnot]
      rfl
    rw [handle, hanswered]

/-- A service that asks for a token. -/
def guardedBy (token : Text) : Settings := ⟨false, .null, [], some token⟩

/-- A request for a turn with a header of its own. -/
def askingWith (header : Text) : HttpRequest :=
  ⟨"POST", "/api/chat", [("content-type", "application/json"), ("authorization", header)],
    Utf8.encode "\x7b\"input\":\"hi\"\x7d"⟩

theorem handle_authorized_extraWord :
    route (guardedBy "secret") (askingWith "Bearer secret extra")
        = .complete { input := some (Text.ofString "hi") } ∧
      ∀ service memory timestamp answer signal,
        handle (guardedBy "two words") service memory timestamp (askingWith "Bearer two words")
          answer signal = (unauthorized, [], memory) := by
  have hplace : (Url.path? "/api/chat").bind Url.place? = some (Text.ofString "/api/chat") := by
    decide +kernel
  have hextra : (intake (askingWith "Bearer secret extra")).toOption
      = some (some (.obj [("input", .str "hi")])) := by
    decide +kernel
  have htwo : (intake (askingWith "Bearer two words")).toOption
      = some (some (.obj [("input", .str "hi")])) := by
    decide +kernel
  have hread : (ChatRequest.read (some (.obj [("input", .str "hi")]))).toOption
      = some { input := some (Text.ofString "hi") } := by
    decide +kernel
  have hsecret : (guardedBy "secret").authToken = some (Text.ofString "secret") := rfl
  have htwoWords : (guardedBy "two words").authToken = some (Text.ofString "two words") := rfl
  constructor
  · have hgranted : Granted "secret" (askingWith "Bearer secret extra") :=
      ⟨"Bearer secret extra", by decide +kernel, .more "extra" (by decide)⟩
    obtain ⟨hpass, -⟩ := handle_authorized hsecret rfl hplace .complete
      (Except.eq_ok_of_toOption hextra)
    rw [hpass hgranted, Except.eq_ok_of_toOption hread]
  · have hrefused : ¬ Granted "two words" (askingWith "Bearer two words") := by
      rintro ⟨header, -, hgrants⟩
      have hspace : space ∈ ("two words" : Text) := by decide
      cases hgrants with
      | exact hword => exact hword hspace
      | more _ hword => exact hword hspace
    obtain ⟨-, hanswered⟩ := handle_authorized htwoWords rfl hplace .complete
      (Except.eq_ok_of_toOption htwo)
    exact hanswered hrefused

/-- The header of that request is not the one that presents the token alone, and the other one is. -/
theorem extraWord_not_exact :
    ¬ ∀ token header : Text, token.trim = token → token ≠ [] →
      (presents token header = true ↔ header = bearer token) := by
  intro hexact
  have hextra := (hexact "secret" "Bearer secret extra" (by decide) (by decide)).mp (by decide)
  exact absurd hextra (by decide)

end Server

end ChatRelay
