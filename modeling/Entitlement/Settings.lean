import Entitlement.Host.Path
import Entitlement.Toml.Document

-- The settings of a system's registration, and the file that keeps them.
-- The file is a TOML document. Settings that it does not name have their default, and it may name others. The
-- root of the file system is never kept.
namespace Entitlement

structure Settings where
  url : String := "https://scc.suse.com"
  language : Option String := none
  insecure : Bool := false
  namespaceName : Option String := none
  autoAgreeWithLicenses : Bool := false
  uptimeTracking : Bool := false
  noServiceRefresh : Bool := false
  autoImportKeys : Bool := false
  skipServiceInstall : Bool := false
  root : String := "/"
deriving DecidableEq

namespace Settings

def defaults : Settings := {}

def baseUrl (s : Settings) : String := String.ofList (Text.dropEnd (· == '/') s.url.toList)

def rootPath (s : Settings) (path : String) : String := Path.below s.root path

def text? (entries : Toml.Entries) (key : String) (absent : Option String) : Option (Option String) :=
  match entries.get? key with
  | none => some absent
  | some (.text s) => some (some s)
  | some _ => none

def flag? (entries : Toml.Entries) (key : String) : Option Bool :=
  match entries.get? key with
  | none => some false
  | some (.bool b) => some b
  | some _ => none

-- The settings that a row of entries names; nothing if an entry is of the wrong kind.
def ofEntries? (entries : Toml.Entries) : Option Settings := do
  some {
    url := (← text? entries "url" none).getD defaults.url
    language := ← text? entries "language" none
    insecure := ← flag? entries "insecure"
    namespaceName := ← text? entries "namespace" none
    autoAgreeWithLicenses := ← flag? entries "auto_agree_with_licenses"
    uptimeTracking := ← flag? entries "enable_system_uptime_tracking"
    noServiceRefresh := ← flag? entries "no_zypper_refs"
    autoImportKeys := ← flag? entries "auto_import_repo_keys"
    skipServiceInstall := ← flag? entries "skip_service_install"
    root := defaults.root }

def parse? (text : String) : Option Settings := (Toml.read? text).bind ofEntries?

def textEntry (key : String) (value : Option String) : Toml.Entries :=
  (value.map fun value => (key, .text value)).toList

def toEntries (s : Settings) : Toml.Entries :=
  textEntry "url" s.url ++ textEntry "language" s.language ++ [("insecure", .bool s.insecure)]
    ++ textEntry "namespace" s.namespaceName
    ++ [("auto_agree_with_licenses", .bool s.autoAgreeWithLicenses),
      ("enable_system_uptime_tracking", .bool s.uptimeTracking),
      ("no_zypper_refs", .bool s.noServiceRefresh), ("auto_import_repo_keys", .bool s.autoImportKeys),
      ("skip_service_install", .bool s.skipServiceInstall)]

def entryLine : String × Toml.Item → List Char
  | (key, .text value) => key.toList ++ [' ', '=', ' '] ++ Toml.writeQuoted value ++ ['\n']
  | (key, .bool value) => key.toList ++ [' ', '=', ' '] ++ (if value then "true" else "false").toList ++ ['\n']
  | _ => []

def render (s : Settings) : String := String.ofList (s.toEntries.flatMap entryLine)

end Settings
end Entitlement
