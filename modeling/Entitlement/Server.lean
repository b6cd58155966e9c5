import Entitlement.Credentials.Store
import Entitlement.Http.Proxy
import Entitlement.Server.Payload

-- The registration server: which requests do what a registration asks of it.
-- A system that is registered authenticates with its username and password and, if it has one, with its token.
-- Every response may bring a new token, which is kept before the response is looked at any further, whether the
-- server refused or not.
namespace Entitlement

structure Server where
  baseUrl : String
  language : Option String
  store : CredentialStore
  route : Http.Route

namespace Server

open Host

def endpoint (baseUrl path : String) (pairs : List (String × String)) : Result Url :=
  let text := String.ofList (Text.dropEnd (· = '/') baseUrl.toList) ++ path
  match Url.parse text with
  | .ok url => .ok (if pairs.isEmpty then url else url.addPairs pairs)
  | .error fault => .error (.config ("invalid server URL '" ++ text ++ "': " ++ fault.message))

def ofSettings (s : Settings) (store : CredentialStore) : Operation Server := do
  pure ⟨s.baseUrl, s.language, store, ← Http.Route.choose⟩

def tokenHeader : String := "system-token"

def commonHeaders (language : Option String) : List (String × String) :=
  [("content-type", "application/json"),
    ("accept", "application/json,application/vnd.scc.suse.com.v4+json"),
    ("user-agent", "entitle/0.10.0")]
    ++ (language.map fun l => ("accept-language", l)).toList

def systemHeaders (c : Credentials) : List (String × String) :=
  ("authorization", Http.basicAuthorization c.username c.password)
    :: (c.token.map fun token => (tokenHeader, token)).toList

def regcodeHeaders (regcode : String) : List (String × String) :=
  [("authorization", "Token token=" ++ regcode)]

inductive Authentication where
  | system
  | regcode (regcode : String)

def refusalFields : List String := ["error", "localized_error"]

def readRefusal : Json.Reader (Option String × Option String) := fun room node => do
  let (fields, room) ← Json.Fields.ofNode? refusalFields refusalFields.length room node
  some (← fields.nullable "error" room Json.Reader.string,
    ← fields.nullable "localized_error" room Json.Reader.string)

-- What a refusal says: the localized error before the error, blank ones not counted; else what its status
-- stands for.
def refusalMessage (status : Nat) (body : Bytes) : String :=
  let (error, localized) := (Json.ofBytes? readRefusal body).getD (none, none)
  let said := ([localized, error].filterMap id).find? fun message => !Text.isBlankText message
  (said <|> Http.reason? status).getD "unexpected response"

def refusal (status : Nat) (body : Bytes) : Error := .api status (refusalMessage status body)

def newToken? (r : Http.Response) : Option String := do
  let token := Text.trim (← Http.readableValue? (← r.header? tokenHeader))
  if token.isEmpty then none else some token

-- Keeps the token that a response brings. That it cannot be kept is no failure.
def keepToken (s : Server) (r : Http.Response) : Operation Unit := do
  match newToken? r with
  | none => pure ()
  | some token => match ← (s.store.updateToken token).run with
    | .ok () => pure ()
    | .error e => debug ("failed to persist rotated system token error=" ++ e.message)

-- A request that can be sent: to a server of the web, with values that may stand in headers.
def checkRequest (request : Http.Request) : Result Unit :=
  if !request.headers.all fun h => Http.isHeaderValue h.2 then .error (.transport "builder error")
  else if !Http.Route.isProxyScheme request.url then
    .error (.transport ("builder error for url (" ++ request.url.render ++ ")"))
  else .ok ()

def headersFor (s : Server) : Authentication → Action (List (String × String))
  | .system => do return commonHeaders s.language ++ systemHeaders (← s.store.system)
  | .regcode regcode => pure (commonHeaders s.language ++ regcodeHeaders regcode)

-- A user in the address of a server authenticates too; the address that is asked for does not name it.
def moveLogin (url : Url) (headers : List (String × String)) : Url × List (String × String) :=
  match Http.Route.loginIn? url with
  | some login => ({ url with username := "", password := "" }, ("authorization", login) :: headers)
  | none => (url, headers)

def send (s : Server) (method : Http.Method) (path : String) (authentication : Authentication)
    (pairs : List (String × String)) (body : Option String) : Action Bytes := do
  let url ← liftExcept (endpoint s.baseUrl path pairs)
  debug ("sending registration request method=" ++ method.name ++ " url=" ++ url.render)
  let (url, headers) := moveLogin url (← s.headersFor authentication)
  let request : Http.Request := ⟨method, url, headers, body⟩
  liftExcept (checkRequest request)
  match ← ask (.exchange ⟨request, s.route.proxyFor url⟩) with
  | none => throw (.transport ("error sending request for url (" ++ url.render ++ ")"))
  | some response =>
    s.keepToken response
    if !response.isWhole then throw (.transport "error decoding response body")
    else if response.isSuccess then pure response.body
    else throw (refusal response.status response.body)

def exchange (s : Server) (method : Http.Method) (path : String) (authentication : Authentication)
    (payload : Json) (format : Json.Format α) : Action α := do
  liftExcept (format.decode (← s.send method path authentication [] (some payload.compact)))

def get (s : Server) (path : String) (pairs : List (String × String)) (format : Json.Format α) : Action α := do
  liftExcept (format.decode (← s.send .get path .system pairs none))

def announcePath : String := "/connect/subscriptions/systems"

def systemPath : String := "/connect/systems"

def productsPath : String := "/connect/systems/products"

def activationsPath : String := "/connect/systems/activations"

def migrationsPath (target : Option Product) : String :=
  productsPath ++ if target.isSome then "/offline_migrations" else "/migrations"

def synchronizePath : String := productsPath ++ "/synchronize"

-- What the server does for a registration. A downgrade is an upgrade to what is installed.
def perform (s : Server) : (call : Registration.ServerCall) → Action call.Reply
  | .announce regcode info => s.exchange .post announcePath (.regcode regcode) info.toJson Login.format
  | .updateSystem info => discard (s.send .put systemPath .system [] (some info.toJson.compact))
  | .activate p regcode email =>
    s.exchange .post productsPath .system (Payload.activation p regcode email) Service.format
  | .upgrade p | .downgrade p => s.exchange .put productsPath .system (Payload.product p) Service.format
  | .deactivate p => s.exchange .delete productsPath .system (Payload.product p) Service.format
  | .productTree p => s.get productsPath p.query Product.format
  | .activations => s.get activationsPath [] Activation.format.list
  | .migrations installed target =>
    s.exchange .post (migrationsPath target) .system (Payload.migrations installed target)
      MigrationPath.format.list
  | .synchronize products =>
    s.exchange .post synchronizePath .system (Payload.synchronization products) Product.format.list
  | .deregister => discard (s.send .delete systemPath .system [] none)

end Server
end Entitlement
