import Entitlement.Json.Decode
import Entitlement.Text.Quoted
import Entitlement.Text.Split

-- The login of a system: how the server announces it, and the file that keeps it.
-- A credentials file has a line `name=value` for each value. Values are trimmed; a line without a value counts
-- for nothing, and of several lines of one name the last counts.
namespace Entitlement

structure Login where
  login : String
  password : String
deriving DecidableEq, Inhabited

structure Credentials where
  username : String
  password : String
  token : Option String
deriving DecidableEq, Inhabited

namespace Login

def shape : Json.RecordShape := ⟨"SystemLogin", [.required "login" .text, .required "password" .text]⟩

def fieldNames : List String := shape.fieldNames

def read : Json.Reader Login := fun room node => do
  let (fields, room) ← Json.Fields.ofNode? fieldNames fieldNames.length room node
  some {
    login := ← fields.required "login" room Json.Reader.string
    password := ← fields.required "password" room Json.Reader.string }

def format : Json.Format Login := ⟨read, .record shape.name, [shape]⟩

def toJson (l : Login) : Json := .object [("login", .string l.login), ("password", .string l.password)]

def display (l : Login) : String :=
  "SystemLogin \x7b login: " ++ Text.quoted l.login ++ ", password: \"<redacted>\" \x7d"

def credentials (l : Login) : Credentials := ⟨l.login, l.password, none⟩

end Login

namespace Credentials

def display (c : Credentials) : String :=
  "Credentials \x7b username: " ++ Text.quoted c.username
    ++ ", password: \"<redacted>\", system_token: "
    ++ (if c.token.isSome then "Some(\"<redacted>\")" else "None") ++ " \x7d"

def render (c : Credentials) : String :=
  "username=" ++ c.username ++ "\n" ++ "password=" ++ c.password ++ "\n"
    ++ (match c.token with
      | some token => "system_token=" ++ token ++ "\n"
      | none => "")

def assignment (line : List Char) : Option (String × String) :=
  match Text.splitFirst '=' line with
  | some (name, value) =>
    let value := Text.trimmed value
    if value.isEmpty then none
    else some (String.ofList (Text.trimmed name), String.ofList value)
  | none => none

def lookUp (assignments : List (String × String)) (name : String) : Option String :=
  (assignments.reverse.find? fun a => a.1 == name).map (·.2)

-- Reads a credentials file; it must have a username and a password.
def parse? (text : String) : Option Credentials := do
  let assignments := (Text.lines text.toList).filterMap assignment
  some ⟨← lookUp assignments "username", ← lookUp assignments "password",
    lookUp assignments "system_token"⟩

end Credentials
end Entitlement
