import Entitlement.Host.Path
import Entitlement.Text.Utf8

-- A file system: files and directories by their location, which is the row of names from the root.
-- A path is followed name by name from the root, or from the current directory if it is relative. Only what is
-- at its end need not exist. New files have the mode 644.
namespace Entitlement

inductive Obstacle where
  | notFound
  | alreadyThere
  | notDirectory
  | isDirectory
  | nameTooLong
  | zeroByte
  | notText
  | denied
deriving DecidableEq

def Obstacle.message : Obstacle → String
  | notFound => "No such file or directory (os error 2)"
  | alreadyThere => "File exists (os error 17)"
  | notDirectory => "Not a directory (os error 20)"
  | isDirectory => "Is a directory (os error 21)"
  | nameTooLong => "File name too long (os error 36)"
  | zeroByte => "file name contained an unexpected NUL byte"
  | notText => "stream did not contain valid UTF-8"
  | denied => "Permission denied (os error 13)"

abbrev Location := List String

inductive Entry where
  | file (content : Bytes) (mode : Nat)
  | directory
deriving DecidableEq

structure FileSystem where
  entries : List (Location × Entry)
  current : Location

namespace FileSystem

def plainMode : Nat := 0o644

def lookUp (fs : FileSystem) (place : Location) : Option Entry :=
  if place = [] then some .directory else (fs.entries.find? fun e => e.1 == place).map (·.2)

def put (fs : FileSystem) (place : Location) (entry : Entry) : FileSystem :=
  { fs with entries := (place, entry) :: fs.entries.filter fun e => e.1 != place }

def drop (fs : FileSystem) (place : Location) : FileSystem :=
  { fs with entries := fs.entries.filter fun e => e.1 != place }

def longestName : Nat := 255

def longestPath : Nat := 4095

def follow (fs : FileSystem) (directory : Location) : List (List Char) → Except Obstacle Location
  | [] => .ok directory
  | name :: rest =>
    if Path.isIdle name then follow fs directory rest
    else if name = ['.', '.'] then follow fs directory.dropLast rest
    else
      let text := String.ofList name
      let place := directory ++ [text]
      if text.utf8ByteSize > longestName then .error .nameTooLong
      else match rest with
        | [] => .ok place
        | _ => match fs.lookUp place with
          | some .directory => follow fs place rest
          | some (.file _ _) => .error .notDirectory
          | none => .error .notFound

-- Checks what a path must not be, whatever there is in the file system.
def checkPath (path : String) : Except Obstacle Unit :=
  if path.toList.contains '\x00' then .error .zeroByte
  else if path.isEmpty then .error .notFound
  else if path.utf8ByteSize > longestPath then .error .nameTooLong
  else .ok ()

def start (fs : FileSystem) (path : String) : Location := if Path.isAbsolute path then [] else fs.current

def locate (fs : FileSystem) (path : String) : Except Obstacle Location := do
  checkPath path
  follow fs (fs.start path) (Text.split '/' path.toList)

-- Whether a path must lead to a directory by the way it ends.
def wantsDirectory (path : String) : Bool :=
  match (Text.split '/' path.toList).getLast? with
  | some name => Path.isIdle name || name = ['.', '.']
  | none => false

def entry (fs : FileSystem) (path : String) : Except Obstacle Entry := do
  let place ← fs.locate path
  match fs.lookUp place with
  | some entry => pure entry
  | none => throw .notFound

def pathExists (fs : FileSystem) (path : String) : Bool := (fs.entry path).toBool

def readFile (fs : FileSystem) (path : String) : Except Obstacle Bytes := do
  match ← fs.entry path with
  | .file content _ => pure content
  | .directory => throw .isDirectory

def writeFile (fs : FileSystem) (path : String) (content : Bytes) : Except Obstacle FileSystem := do
  let place ← fs.locate path
  match fs.lookUp place with
  | some (.file _ mode) => pure (fs.put place (.file content mode))
  | some .directory => throw .isDirectory
  | none => if wantsDirectory path then throw .isDirectory else pure (fs.put place (.file content plainMode))

def makeDirectories (fs : FileSystem) (directory : Location) : List (List Char) → Except Obstacle FileSystem
  | [] => .ok fs
  | name :: rest =>
    if Path.isIdle name then makeDirectories fs directory rest
    else if name = ['.', '.'] then makeDirectories fs directory.dropLast rest
    else
      let text := String.ofList name
      let place := directory ++ [text]
      if text.utf8ByteSize > longestName then .error .nameTooLong
      else match fs.lookUp place with
        | some .directory => makeDirectories fs place rest
        | some (.file _ _) =>
          .error (if rest.all Path.isIdle && !rest.contains ['.'] then .alreadyThere else .notDirectory)
        | none => makeDirectories (fs.put place .directory) place rest

-- Makes a directory and those above it. The empty path needs none.
def createDirectories (fs : FileSystem) (path : String) : Except Obstacle FileSystem :=
  if path.isEmpty then .ok fs
  else do
    checkPath path
    makeDirectories fs (fs.start path) (Text.split '/' path.toList)

def install (fs : FileSystem) (path : String) (content : Bytes) : Except Obstacle FileSystem := do
  let fs ← match Path.parent? path with
    | some parent => fs.createDirectories parent
    | none => pure fs
  fs.writeFile path content

def setMode (fs : FileSystem) (path : String) (mode : Nat) : Except Obstacle FileSystem := do
  let place ← fs.locate path
  match fs.lookUp place with
  | some (.file content _) => pure (fs.put place (.file content mode))
  | some .directory => pure fs
  | none => throw .notFound

def removeFile (fs : FileSystem) (path : String) : Except Obstacle FileSystem := do
  let place ← fs.locate path
  match fs.lookUp place with
  | some (.file _ _) => pure (fs.drop place)
  | some .directory => throw .isDirectory
  | none => throw .notFound

end FileSystem
end Entitlement
