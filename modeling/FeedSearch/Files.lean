-- Text files, by the paths under which a program finds them.

namespace FeedSearch

/-! ## Faults -/

/-- Why a file cannot be read. -/
inductive FileFault where
  | missing
  | directory
  | notDirectory
  | denied
  | badName
  | nameTooLong
  | notText
  deriving DecidableEq, Repr

/-- The words of the system for a fault. -/
def FileFault.message : FileFault → String
  | .missing => "No such file or directory (os error 2)"
  | .directory => "Is a directory (os error 21)"
  | .notDirectory => "Not a directory (os error 20)"
  | .denied => "Permission denied (os error 13)"
  | .badName => "file name contained an unexpected NUL byte"
  | .nameTooLong => "File name too long (os error 36)"
  | .notText => "stream did not contain valid UTF-8"

/-- The files that can be read. -/
structure Files where
  read : String → Except FileFault String

namespace Files

def none : Files := ⟨fun _ => .error .missing⟩

/-- Files that have been read before, each with what came of it. -/
def ofTable (table : List (String × Except FileFault String)) : Files :=
  ⟨fun path => (table.lookup path).getD (.error .missing)⟩

/-- Whether there is a file or a directory at a path. -/
def isThere (files : Files) (path : String) : Bool :=
  match files.read path with
  | .error .missing => false
  | .error .notDirectory => false
  | .error .badName => false
  | .error .nameTooLong => false
  | _ => true

/-! ## Trees -/

/-- A tree of files: each with the names on the way to it, and its text. There may be directories in
which no file is known. The way up from the top leads out of a tree that is not `whole`. -/
structure Tree where
  whole : Bool
  files : List (List String × String)
  directories : List (List String)
  deriving DecidableEq, Repr

/-- The most octets of a name. -/
def maxName : Nat := 255

/-- The most octets of a path. -/
def maxPath : Nat := 4095

namespace Tree

def names (path : String) : List String := (path.splitOn "/").filter fun n => !n.isEmpty && n != "."

/-- A directory with files in it. -/
def ofList (files : List (String × String)) : Tree where
  whole := false
  files := files.map fun (path, text) => (names path, text)
  directories := []

/-- What every machine has under the root of all paths. -/
def machine : Tree where
  whole := true
  files := [(["dev", "null"], "")]
  directories := [
    ["bin"], ["boot"], ["etc"], ["home"], ["lib"], ["media"], ["mnt"], ["opt"], ["proc"], ["root"],
    ["run"], ["sbin"], ["srv"], ["sys"], ["tmp"], ["usr"], ["var"]]

/-- A directory is what is known as one, or has something in it; the top always is one. -/
def isDirectory (t : Tree) (place : List String) : Bool :=
  place.isEmpty || t.directories.contains place ||
    t.files.any fun e => place.isPrefixOf e.1 && place.length < e.1.length

def isFile (t : Tree) (place : List String) : Bool := t.files.any (·.1 == place)

/-- The way up from a place; nothing stands for all that is out of the tree. -/
def parent (t : Tree) (place : List String) : Option (List String) :=
  if place.isEmpty && !t.whole then Option.none else some place.dropLast

/-- Follows the parts of a path from a place. Out of the tree, nothing is in sight. -/
def follow (t : Tree) (place : Option (List String)) :
    List String → Except FileFault (Option (List String))
  | [] => .ok place
  | part :: rest =>
    let stays := part.isEmpty || part == "."
    match place with
    | Option.none => if stays || part == ".." then t.follow place rest else .error .missing
    | some names =>
      if !t.isDirectory names then .error .notDirectory
      else if stays then t.follow place rest
      else if part == ".." then t.follow (t.parent names) rest
      else if maxName < part.utf8ByteSize then .error .nameTooLong
      else
        let next := names ++ [part]
        if t.isDirectory next || t.isFile next then t.follow (some next) rest else .error .missing

/-- The text at the end of the parts of a path that starts at the top. -/
def readFrom (t : Tree) (parts : List String) : Except FileFault String := do
  match ← t.follow (some []) parts with
  | Option.none => throw .directory
  | some place =>
    if t.isDirectory place then throw .directory
    match t.files.lookup place with
    | some text => return text
    | Option.none => throw .missing

/-- The text at a path. A slash at its front leads to the root of all paths. -/
def read (t : Tree) (path : String) : Except FileFault String := do
  if path.isEmpty then throw .missing
  if path.contains '\x00' then throw .badName
  if maxPath < path.utf8ByteSize then throw .nameTooLong
  let start := if path.startsWith "/" then machine else t
  start.readFrom (path.splitOn "/")

end Tree

def ofTree (t : Tree) : Files := ⟨t.read⟩

end Files

end FeedSearch
