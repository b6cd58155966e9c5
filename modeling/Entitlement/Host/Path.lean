import Entitlement.Text.Split

-- Paths of files, as texts.
-- A path is a row of names with slashes between, absolute if a slash begins it. Empty names and the name `.` say
-- nothing, save for a `.` at the very start; `..` stands for the directory above.
namespace Entitlement.Path

def isIdle (name : List Char) : Bool := name = [] || name = ['.']

def isAbsolute (path : String) : Bool := path.toList.head? = some '/'

-- Puts a path behind a directory. An absolute path stands for itself.
def join (directory path : String) : String :=
  if isAbsolute path then path
  else match directory.toList.getLast? with
    | none => path
    | some '/' => directory ++ path
    | some _ => directory ++ "/" ++ path

def joinNames (names : List (List Char)) : List Char :=
  match names with
  | [] => []
  | name :: rest => name ++ rest.flatMap ('/' :: ·)

def dropIdleEnd (names : List (List Char)) : List (List Char) :=
  (names.reverse.dropWhile isIdle).reverse

-- An absolute path without its root: the names from the first to the last that say something. Any other path
-- stays as it is.
def withoutRoot (path : String) : String :=
  if isAbsolute path then
    let names := (Text.split '/' path.toList).dropWhile isIdle
    String.ofList (joinNames (dropIdleEnd names))
  else path

def below (root path : String) : String := join root (withoutRoot path)

-- The directory that holds a path. A path without names, or with nothing but the root, has none.
def parent? (path : String) : Option String :=
  if isAbsolute path then
    match dropIdleEnd ((Text.split '/' path.toList).drop 1) with
    | [] => none
    | names => some ("/" ++ String.ofList (joinNames (dropIdleEnd names.dropLast)))
  else
    match Text.split '/' path.toList with
    | [[]] => none
    | first :: rest =>
      match dropIdleEnd rest with
      | [] => some ""
      | rest => some (String.ofList (joinNames (first :: dropIdleEnd rest.dropLast)))
    | [] => none

def isRoot (path : String) : Bool :=
  isAbsolute path && (Text.split '/' path.toList).all isIdle

end Entitlement.Path
