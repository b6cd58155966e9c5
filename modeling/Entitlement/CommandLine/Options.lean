import Entitlement.CommandLine.Grammar
import Entitlement.Settings.File

-- The options of the program and its commands.
-- The options that hold for all commands may stand before the command or behind it. Behind it they win.
namespace Entitlement.CommandLine

structure MigrateOptions where
  migration : Option Nat
  nonInteractive : Bool
  product : Option Triplet
  disableRepositories : Bool
  autoAgreeWithLicenses : Bool
  allowVendorChange : Bool
  downloadOnly : Bool
  noRecommends : Bool
  dryRun : Bool
deriving DecidableEq

inductive Command where
  | register (regcode : String) (product : Option Triplet) (email instanceData namespaceName : Option String)
  | deregister (product : Option Triplet)
  | activate (product : Triplet) (regcode : String)
  | deactivate (product : Triplet)
  | status
  | listExtensions
  | keepalive
  | cleanup
  | migrations (product : Option Triplet)
  | migrate (options : MigrateOptions)
  | rollback
  | completions (shell : Shell)
deriving DecidableEq

def Command.name : Command → String
  | register _ _ _ _ _ => "register"
  | deregister _ => "deregister"
  | activate _ _ => "activate"
  | deactivate _ => "deactivate"
  | status => "status"
  | listExtensions => "list-extensions"
  | keepalive => "keepalive"
  | cleanup => "cleanup"
  | migrations _ => "migrations"
  | migrate _ => "migrate"
  | rollback => "rollback"
  | completions _ => "completions"

structure Options where
  config : String
  root : Option String
  url : Option String
  insecure : Bool
  debug : Bool
  quiet : Bool
  json : Bool
  command : Command
deriving DecidableEq

def switch (name : String) : OptionRule := ⟨name, none, none⟩

def valued (name : String) (kind : ValueKind) : OptionRule := ⟨name, none, some kind⟩

def lettered (name : String) (letter : Char) (kind : ValueKind) : OptionRule := ⟨name, some letter, some kind⟩

def commonRules : List OptionRule :=
  [valued "config" .path, valued "root" .path, valued "url" .text, switch "insecure", switch "debug",
    switch "quiet", switch "json", ⟨"help", some 'h', none⟩]

def migrateRules : List OptionRule :=
  [valued "migration" .number, switch "non-interactive", valued "product" .triplet, switch "disable-repos",
    switch "auto-agree-with-licenses", switch "allow-vendor-change", switch "download-only",
    switch "no-recommends", switch "dry-run"]

structure CommandRule where
  name : String
  options : List OptionRule
  operands : List (String × ValueKind)

def commandRules : List CommandRule := [
  ⟨"register", [lettered "regcode" 'r' .text, lettered "product" 'p' .triplet, lettered "email" 'e' .text,
    valued "instance-data" .path, valued "namespace" .text], []⟩,
  ⟨"deregister", [lettered "product" 'p' .triplet], []⟩,
  ⟨"activate", [lettered "regcode" 'r' .text], [("product", .triplet)]⟩,
  ⟨"deactivate", [], [("product", .triplet)]⟩,
  ⟨"status", [], []⟩,
  ⟨"list-extensions", [], []⟩,
  ⟨"keepalive", [], []⟩,
  ⟨"cleanup", [], []⟩,
  ⟨"migrations", [valued "product" .triplet], []⟩,
  ⟨"migrate", migrateRules, []⟩,
  ⟨"rollback", [], []⟩,
  ⟨"completions", [], [("shell", .shell)]⟩]

def exclusions : List (String × String) := [("debug", "quiet")]

def CommandRule.grammar (rule : CommandRule) : Grammar :=
  ⟨commonRules ++ rule.options, rule.operands, [], exclusions⟩

def programGrammar : Grammar := ⟨commonRules, [], commandRules.map (·.name), exclusions⟩

def commandOf (name : String) (m : Matches) : Option Command :=
  match name with
  | "register" => some (.register ((m.text? "regcode").getD "") (m.triplet? "product") (m.text? "email")
      (m.text? "instance-data") (m.text? "namespace"))
  | "deregister" => some (.deregister (m.triplet? "product"))
  | "activate" => (m.triplet? "product").map fun product => .activate product ((m.text? "regcode").getD "")
  | "deactivate" => (m.triplet? "product").map .deactivate
  | "status" => some .status
  | "list-extensions" => some .listExtensions
  | "keepalive" => some .keepalive
  | "cleanup" => some .cleanup
  | "migrations" => some (.migrations (m.triplet? "product"))
  | "migrate" => some (.migrate {
      migration := m.number? "migration"
      nonInteractive := m.isOn "non-interactive"
      product := m.triplet? "product"
      disableRepositories := m.isOn "disable-repos"
      autoAgreeWithLicenses := m.isOn "auto-agree-with-licenses"
      allowVendorChange := m.isOn "allow-vendor-change"
      downloadOnly := m.isOn "download-only"
      noRecommends := m.isOn "no-recommends"
      dryRun := m.isOn "dry-run" })
  | "rollback" => some .rollback
  | "completions" => (m.shell? "shell").map .completions
  | _ => none

-- The options of a command, where `inner` was given behind the command and `outer` before it.
def optionsOf (outer inner : Matches) (command : Command) : Options :=
  let m := inner ++ outer
  {
    config := (m.text? "config").getD Settings.defaultPath
    root := m.text? "root"
    url := m.text? "url"
    insecure := m.isOn "insecure"
    debug := m.isOn "debug"
    quiet := m.isOn "quiet"
    json := m.isOn "json"
    command := command }

def Options.ofArguments (arguments : List String) : Except Refusal Options := do
  let (outerScan, subcommand) ← programGrammar.scan programGrammar.start arguments
  match subcommand with
  | none =>
    let _ ← programGrammar.finish outerScan false
    throw .missingSubcommand
  | some (name, rest) =>
    let some rule := commandRules.find? fun rule => rule.name == name | throw .unknownSubcommand
    let (innerScan, _) ← rule.grammar.scan rule.grammar.start rest
    let inner ← rule.grammar.finish innerScan false
    let outer ← programGrammar.finish outerScan true
    match commandOf name inner with
    | some command => pure (optionsOf outer inner command)
    | none => throw .missingOperand

end Entitlement.CommandLine
