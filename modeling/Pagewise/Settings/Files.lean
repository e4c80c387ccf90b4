import Pagewise.Settings.Decode

/-!
# Settings from files

A file system is a tree of directories, one of them the current one. A path is walked name by name,
from the root or from the current directory; what cannot be walked, and what is no text at the end
of it, is an error of its own kind.
-/

namespace Pagewise

/-- A file with its bytes, or a directory with what is in it. -/
inductive FileTree where
  | file (bytes : List UInt8)
  | directory (entries : List (String × FileTree))

/-- Why a file could not be read. -/
inductive ReadError where
  | nulInPath
  | notFound
  | notDirectory
  | isDirectory
  | nameTooLong
  | notUtf8
deriving DecidableEq, Repr

/-- The text for people. -/
def ReadError.message : ReadError → String
  | .nulInPath => "file name contained an unexpected NUL byte"
  | .notFound => "No such file or directory (os error 2)"
  | .notDirectory => "Not a directory (os error 20)"
  | .isDirectory => "Is a directory (os error 21)"
  | .nameTooLong => "File name too long (os error 36)"
  | .notUtf8 => "stream did not contain valid UTF-8"

namespace FileTree

/-- The greatest number of bytes in a name. -/
def maxName : Nat := 255

/-- The greatest number of bytes in a path. -/
def maxPath : Nat := 4095

/-- Walks names one after the other. The directories on the way are kept for `..`, innermost
first; above the root is the root. -/
def walk (above : List FileTree) (here : FileTree) : List String → Except ReadError FileTree
  | [] => .ok here
  | name :: rest =>
    match here with
    | .file _ => .error .notDirectory
    | .directory entries =>
      if name = "." then walk above here rest
      else if name = ".." then
        match above with
        | [] => walk [] here rest
        | parent :: above => walk above parent rest
      else if maxName < name.utf8ByteSize then .error .nameTooLong
      else match Keyed.get? name entries with
        | none => .error .notFound
        | some next => walk (here :: above) next rest

/-- The names of a path. A slash at the end asks for a directory, as a point does. -/
def names (path : String) : List String :=
  let parts := path.splitOn "/"
  parts.filter (· ≠ "") ++ (if parts.getLast? = some "" then ["."] else [])

end FileTree

/-- A tree of files, and the names on the way from its root to the current directory. -/
structure FileSystem where
  root : FileTree
  current : List String

namespace FileSystem

/-- The names from the root on to what a path tells. Without a slash in front it starts at the
current directory. -/
def route (files : FileSystem) (path : String) : List String :=
  if path.toList.head? = some '/' then FileTree.names path
  else files.current ++ FileTree.names path

/-- What is at a path. -/
def find (files : FileSystem) (path : String) : Except ReadError FileTree :=
  if path.toList.contains (Char.ofNat 0) then .error .nulInPath
  else if path = "" then .error .notFound
  else if FileTree.maxPath < path.utf8ByteSize then .error .nameTooLong
  else FileTree.walk [] files.root (files.route path)

/-- The text of the file at a path. -/
def read (files : FileSystem) (path : String) : Except ReadError String :=
  match files.find path with
  | .error e => .error e
  | .ok (.directory _) => .error .isDirectory
  | .ok (.file bytes) =>
    match String.fromUTF8? ⟨bytes.toArray⟩ with
    | some text => .ok text
    | none => .error .notUtf8

end FileSystem

/-- Why there are no settings. -/
inductive SettingsError where
  /-- The file at a path was not read. -/
  | read (path : String) (cause : ReadError)
  /-- The text is no TOML, or does not describe settings. -/
  | parse
deriving DecidableEq, Repr

/-- The text for people. -/
def SettingsError.message : SettingsError → String
  | .read path cause => "Failed to read config file " ++ path ++ ": " ++ cause.message
  | .parse => "Failed to parse config: the text does not describe settings"

namespace Settings

/-- The settings that a text describes. -/
def parse (text : String) : Except SettingsError Settings :=
  match ofText? text with
  | some s => .ok s
  | none => .error .parse

/-- The settings in the file at a path. -/
def load (files : FileSystem) (path : String) : Except SettingsError Settings :=
  match files.read path with
  | .ok text => parse text
  | .error cause => .error (.read path cause)

end Settings

end Pagewise
