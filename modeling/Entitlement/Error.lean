
-- Why an operation on a system's registration fails, and how each cause is worded.
-- A failed step of a migration wraps the error that stopped it. `codes` of commands and of server answers
-- are looked up through such wrappers.
namespace Entitlement

inductive Error where
  | systemNotRegistered
  | baseProductDeactivation
  | cannotDetectBaseProduct
  | unsupportedOperation (text : String)
  | invalidTriplet (text : String)
  | treeTooDeep (root : String) (limit : Nat)
  | missingCredentials (path : String)
  | malformedCredentials (path : String)
  | noProxyCredentials
  | api (code : Nat) (message : String)
  | command (line : String) (exitCode : Int) (output : String)
  | productStep (action product : String) (source : Error)
  | transport (text : String)
  | json (text : String)
  | xml (text : String)
  | config (text : String)
  | io (context cause : String)
deriving DecidableEq

namespace Error

def message : Error → String
  | systemNotRegistered => "system is not registered, use the register command first"
  | baseProductDeactivation => "the base product cannot be deactivated"
  | cannotDetectBaseProduct => "unable to detect the installed base product"
  | unsupportedOperation text => text
  | invalidTriplet text =>
    "invalid product '" ++ text ++ "', <internal name>/<version>/<architecture> format expected"
  | treeTooDeep root limit =>
    "extension tree of " ++ root ++ " exceeds the maximum depth of " ++ toString limit
  | missingCredentials path => "credentials file is missing: " ++ path
  | malformedCredentials path => "cannot parse credentials file: " ++ path
  | noProxyCredentials => "unable to read proxy credentials from curlrc"
  | api code message => "registration server returned '" ++ message ++ "' (" ++ toString code ++ ")"
  | command line exitCode output =>
    "command '" ++ line ++ "' failed\nError: returned " ++ toString exitCode ++ " with '" ++ output ++ "'"
  | productStep action product source => action ++ " " ++ product ++ " failed: " ++ source.message
  | transport text => "request failed: " ++ text
  | json text => "invalid JSON payload: " ++ text
  | xml text => "invalid XML output: " ++ text
  | config text => "invalid configuration: " ++ text
  | io context cause => context ++ ": " ++ cause

def causes : Error → List String
  | productStep _ _ source => source.message :: source.causes
  | json text => [text]
  | io _ cause => [cause]
  | _ => []

def exitCode : Error → Option Int
  | command _ code _ => some code
  | productStep _ _ source => source.exitCode
  | _ => none

def apiCode : Error → Option Nat
  | api code _ => some code
  | productStep _ _ source => source.apiCode
  | _ => none

end Error

abbrev Result (α : Type) := Except Error α

end Entitlement
