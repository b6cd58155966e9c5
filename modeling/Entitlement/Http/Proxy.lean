import Entitlement.Credentials.ProxyLogin
import Entitlement.Text.Base64

-- Which proxy a request goes through.
-- The environment names proxies by the scheme of the server. If the user keeps a login to a proxy, the first proxy
-- that the environment names serves all requests with that login.
namespace Entitlement.Http

def basicAuthorization (user password : String) : String :=
  "Basic " ++ String.ofList (Text.Base64.encode (Text.encode (user ++ ":" ++ password)))

inductive Route where
  | direct
  | through (proxy : Proxy)
  | byScheme (http https : Option Proxy)
deriving DecidableEq

namespace Route

def proxyFor (route : Route) (url : Url) : Option Proxy :=
  match route with
  | direct => none
  | through proxy => some proxy
  | byScheme http https => if url.scheme = "https" then https else http

-- Whether proxies may be used. They are unless the value says something else than yes.
def proxiesEnabled (value : Option String) : Bool :=
  match value with
  | none => true
  | some value =>
    let word := String.ofList ((Text.trimmed value.toList).map Char.toLower)
    word = "yes" || word = "true" || word = "1"

def proxyAddress (text : String) : Except Url.Fault Url :=
  match Url.parse text with
  | .ok url => if url.host.isSome then .ok url else Url.parse ("http://" ++ text)
  | .error .noScheme => Url.parse ("http://" ++ text)
  | .error fault => .error fault

def isProxyScheme (url : Url) : Bool := url.scheme = "http" || url.scheme = "https"

def loginIn? (url : Url) : Option String :=
  if url.username.isEmpty && url.password.isEmpty then none
  else
    let plain (text : String) : String := Text.decodeLenient (Text.percentDecode text.toList)
    some (basicAuthorization (plain url.username) (plain url.password))

def ofVariable (value : Option String) : Option Proxy := do
  let url ← (proxyAddress (← value)).toOption
  if isProxyScheme url then some ⟨url, loginIn? url⟩ else none

open Host

def firstSet : List String → Operation (Option String)
  | [] => pure none
  | name :: rest => do
    match ← environment name with
    | some value => pure (some value)
    | none => firstSet rest

def withLogin : Operation (Option Proxy) := do
  match ← firstSet ["https_proxy", "HTTPS_PROXY", "http_proxy", "HTTP_PROXY"] with
  | none => pure none
  | some address =>
    if Text.isBlankText address then pure none
    else match ← ProxyLogin.defaultPath with
      | none => pure none
      | some path =>
        if ← fileExists path then
          match ← (ProxyLogin.ofFile path).run with
          | .error e => do
            debug ("no proxy credentials in curlrc error=" ++ e.message)
            pure none
          | .ok login => match proxyAddress address with
            | .ok url => pure (some ⟨url, some (basicAuthorization login.user login.password)⟩)
            | .error _ => do
              warn "ignoring invalid proxy URL"
              pure none
        else pure none

def choose : Operation Route := do
  if proxiesEnabled (← environment "PROXY_ENABLED") then
    match ← withLogin with
    | some proxy => pure (if isProxyScheme proxy.address then .through proxy else .direct)
    | none => do
      let http ← firstSet ["HTTP_PROXY", "http_proxy"]
      let https ← firstSet ["HTTPS_PROXY", "https_proxy"]
      pure (.byScheme (ofVariable http) (ofVariable https))
  else pure .direct

end Route
end Entitlement.Http
