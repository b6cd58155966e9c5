
-- What a TOML document holds, and how its tables grow line by line.
-- Only texts and truth values keep their content; of numbers and dates nothing but their presence matters here. A
-- table remembers how it came to be: a header may define a table that another header implied, and a dotted key
-- may extend a table that dotted keys made. Nothing else can be defined twice.
namespace Entitlement.Toml

inductive Origin where
  | header
  | implied
  | dotted
deriving DecidableEq

inductive Item where
  | text (s : String)
  | bool (b : Bool)
  | scalar
  | array
  | inline
  | table (origin : Origin) (entries : List (String × Item))
  -- The last table first.
  | tables (elements : List (List (String × Item)))

abbrev Entries := List (String × Item)

namespace Entries

def get? (entries : Entries) (key : String) : Option Item :=
  (entries.find? fun e => e.1 == key).map (·.2)

def set (key : String) (item : Item) : Entries → Entries
  | [] => [(key, item)]
  | (other, old) :: rest =>
    if other = key then (key, item) :: rest else (other, old) :: set key item rest

-- Changes the table at the end of a path, and makes the tables on the way that are missing. A path leads
-- through the last element of an array of tables. Only a header's path leads through tables of headers.
def modifyAt (origin : Origin) (change : Entries → Option Entries) : List String → Entries → Option Entries
  | [], entries => change entries
  | key :: path, entries => match entries.get? key with
    | none => (modifyAt origin change path []).map fun new => entries.set key (.table origin new)
    | some (.table old inner) =>
      if origin = .dotted ∧ old = .header then none
      else (modifyAt origin change path inner).map fun new => entries.set key (.table old new)
    | some (.tables (last :: before)) =>
      (modifyAt origin change path last).map fun new => entries.set key (.tables (new :: before))
    | some _ => none

def insertNew (key : String) (item : Item) (entries : Entries) : Option Entries :=
  match entries.get? key with
  | none => some (entries.set key item)
  | some _ => none

def setDotted (path : List String) (key : String) (item : Item) (entries : Entries) : Option Entries :=
  match path.getLast? with
  | none => insertNew key item entries
  | some last =>
    let parent (tables : Entries) : Option Entries :=
      match tables.get? last with
      | none => (insertNew key item []).map fun new => tables.set last (.table .dotted new)
      | some (.table .dotted inner) =>
        (insertNew key item inner).map fun new => tables.set last (.table .dotted new)
      | _ => none
    modifyAt .dotted parent path.dropLast entries

def defineTable (path : List String) (key : String) (entries : Entries) : Option Entries :=
  let define (parent : Entries) : Option Entries :=
    match parent.get? key with
    | none => some (parent.set key (.table .header []))
    | some (.table .implied inner) => some (parent.set key (.table .header inner))
    | some _ => none
  modifyAt .implied define path entries

def appendTable (path : List String) (key : String) (entries : Entries) : Option Entries :=
  let append (parent : Entries) : Option Entries :=
    match parent.get? key with
    | none => some (parent.set key (.tables [[]]))
    | some (.tables elements) => some (parent.set key (.tables ([] :: elements)))
    | some _ => none
  modifyAt .implied append path entries

end Entries
end Entitlement.Toml
