import Entitlement.Host.Inquiry

-- The login to a proxy, in the configuration file of the user's transfer tool.
-- A line gives it as `proxy-user "user:password"`, with any number of hyphens in front and of blanks and equals
-- signs between. The last colon ends the user.
namespace Entitlement

structure ProxyLogin where
  user : String
  password : String
deriving DecidableEq

namespace ProxyLogin

open Host

def unquote? (cs : List Char) : Option (List Char) :=
  match cs with
  | '"' :: rest => if rest.getLast? = some '"' then some rest.dropLast else none
  | _ => none

def ofLine? (line : List Char) : Option ProxyLogin := do
  let rest ← Text.stripStart "proxy-user".toList ((Text.trimmed line).dropWhile (· = '-'))
  let value := Text.dropEnd Text.isBlank (rest.dropWhile fun c => c = ' ' || c = '=')
  let (user, password) ← Text.splitLast ':' (← unquote? value)
  if user.isEmpty || password.isEmpty then none else some ⟨String.ofList user, String.ofList password⟩

def ofText? (text : String) : Option ProxyLogin := (Text.lines text.toList).findSome? ofLine?

def defaultPath : Operation (Option String) := do
  pure ((← home).map fun path => Path.join path ".curlrc")

def ofFile (path : String) : Action ProxyLogin := do
  match ofText? (← orFail ("failed to read curlrc: " ++ path) (readText path)) with
  | some login => pure login
  | none => throw .noProxyCredentials

end ProxyLogin
end Entitlement
