/-
PackageRelease/Service/Request.lean

What the metadata service is asked.

The endpoint is the host of the credentials, without the slashes at its end,
and a path.  A request names the coordinates in its body, and in its
authorization the user and the password.

An answer may redirect the request to another address.  The request that then
follows keeps its body behind a status of 307 or 308, and is a plain question
behind one of 301 to 303; it keeps its authorization as long as the host is the
same.
-/
import PackageRelease.Coordinates
import PackageRelease.Service.Url
import PackageRelease.Settings
import PackageRelease.Text.Base64

namespace PackageRelease

namespace Service

/-! ### Endpoint -/

/-- The path of the endpoint. -/
def endpointPath : String := "/add_version/detail"

/-- The text without the slashes at its end. -/
def withoutSlashes (text : List Char) : List Char := (text.reverse.dropWhile (· = '/')).reverse

/-- The address that coordinates are sent to. -/
def endpoint (host : String) : String :=
  "http://" ++ String.ofList (withoutSlashes host.toList) ++ endpointPath

/-! ### Requests -/

/-- A request as the service sees it; what is absent is `none`. -/
structure Request where
  method : String
  target : String
  host : String
  authorization : Option String
  contentType : Option String
  body : Option String
deriving DecidableEq, Repr

/-- The first line of a request. -/
def Request.line (request : Request) : String :=
  request.method ++ " " ++ request.target ++ " HTTP/1.1"

/-- The words that name a user and a password. -/
def authorization (username : String) (password : Secret) : String :=
  "Basic " ++ Base64.encode (Utf8.encode (username ++ ":" ++ password.exposed))

/-- The request that sends coordinates to an address. -/
def request (url : Url) (credentials : Credentials) (coordinates : Coordinates) : Request where
  method := "POST"
  target := String.ofList url.target
  host := url.hostHeader
  authorization := some (authorization credentials.username credentials.password)
  contentType := some "application/json"
  body := some coordinates.toJson.compact

/-! ### Redirects -/

/-- An answer that names another address to ask. -/
structure Redirect where
  status : Nat
  /-- The address that it names, as seen from the one that was asked. -/
  location : Url
  isRedirect : status ∈ [301, 302, 303, 307, 308]
deriving DecidableEq, Repr

/-- What was asked is asked again as it is, with its body. -/
def Redirect.repeats (redirect : Redirect) : Bool :=
  redirect.status == 307 || redirect.status == 308

/-- The request that a redirected one is followed by.  A body is sent again only if the redirect
asks for that, and another host does not get the authorization. -/
def Request.redirected (request : Request) (redirect : Redirect) : Request where
  method := if redirect.repeats then request.method else "GET"
  target := String.ofList redirect.location.target
  host := redirect.location.hostHeader
  authorization :=
    if redirect.location.hostHeader = request.host then request.authorization else none
  contentType := if redirect.repeats then request.contentType else none
  body := if redirect.repeats then request.body else none

end Service

end PackageRelease
