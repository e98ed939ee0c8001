import RegisterGateway.Ordered.Table

/-!
# Files by path

What reading and writing a file comes to, on a table of the files and directories that are
known. A path is followed name by name from the working directory or the root, and what a
name is looked up in must be a directory, also where the name only leads back. Above the
working directory nothing but the directories themselves is known.
-/

namespace RegisterGateway.Config

/-- What a path may name. -/
inductive FileEntry where
  | directory
  | content (bytes : List UInt8)
  deriving DecidableEq, Repr

/-- Why a file cannot be read or written. -/
inductive FileError where
  | notFound
  | isDirectory
  | notDirectory
  | notText
  deriving DecidableEq, Repr

def FileError.message : FileError → String
  | .notFound => "No such file or directory (os error 2)"
  | .isDirectory => "Is a directory (os error 21)"
  | .notDirectory => "Not a directory (os error 20)"
  | .notText => "stream did not contain valid UTF-8"

/-- The names that lead to an entry: from the working directory on or, behind an empty name,
from the root on. Only the first ones may be two dots. -/
abbrev Place := List String

namespace Place

def path (place : Place) : String :=
  String.intercalate "/" place

/-- Whether a place is the working directory, one above it, or the root. -/
def isAncestor (place : Place) : Bool :=
  place.all (fun name => name = "" ∨ name = "..")

/-- The directory that a place is in; the root is in itself. -/
def parent (place : Place) : Place :=
  if place = [""] then place
  else if place.isAncestor then place ++ [".."]
  else place.dropLast

/-- Where a name leads; an empty name and a single dot lead nowhere else, two dots back. -/
def step (place : Place) (name : String) : Place :=
  if name = "" ∨ name = "." then place
  else if name = ".." then place.parent
  else place ++ [name]

def start (path : String) : Place :=
  if path.startsWith "/" then [""] else []

/-- The places on the way to the end of a path, in order, and the end itself. -/
def along (path : String) : List Place :=
  let names := path.splitOn "/"
  (List.range names.length).map (fun count => (names.take (count + 1)).foldl step (start path))

end Place

/-- Files and directories by the paths of their places. -/
structure Files where
  entries : Table String FileEntry := .empty
  deriving DecidableEq

namespace Files

def entryAt (files : Files) (place : Place) : Except FileError FileEntry :=
  if place.isAncestor then .ok .directory
  else match files.entries.find? place.path with
    | some entry => .ok entry
    | none => .error .notFound

/-- Looks a name up in a place, which must be a directory. -/
def enter (files : Files) (place : Place) (name : String) : Except FileError Place := do
  match ← files.entryAt place with
  | .directory => .ok (place.step name)
  | .content _ => .error .notDirectory

/-- Where some names of a path lead, each looked up in what the one before it names. -/
def follow (files : Files) (path : String) (names : List String) : Except FileError Place :=
  if path.isEmpty then .error .notFound
  else names.foldlM files.enter (Place.start path)

def find (files : Files) (path : String) : Except FileError FileEntry := do
  files.entryAt (← files.follow path (path.splitOn "/"))

/-- Whether a path names anything. -/
def isPresent (files : Files) (path : String) : Bool :=
  (files.find path).isOk

def read (files : Files) (path : String) : Except FileError String := do
  match ← files.find path with
  | .directory => .error .isDirectory
  | .content bytes =>
    match String.fromUTF8? ⟨bytes.toArray⟩ with
    | some text => .ok text
    | none => .error .notText

/-- The files after a text has been written to a path. The directory must be there, and the
last name may not be one that names a directory by its form. -/
def write (files : Files) (path : String) (text : String) : Except FileError Files := do
  let names := ((path.splitOn "/").reverse.dropWhile String.isEmpty).reverse
  let place ← files.follow path names
  let namesDirectory := path.endsWith "/" || names.getLast?.any (fun name =>
    name = "." ∨ name = "..")
  match namesDirectory, files.entryAt place with
  | true, _ | _, .ok .directory => .error .isDirectory
  | _, _ => .ok ⟨files.entries.insert place.path (.content text.toUTF8.toList)⟩

/-- The files of a list; the directories on the way to them are there as well. -/
def ofList (entries : List (String × FileEntry)) : Files :=
  entries.foldl (fun files entry =>
    let places := Place.along entry.1
    let around := (places.dropLast.filter (fun place => !place.isAncestor)).foldl
      (fun table place => table.insert place.path .directory) files.entries
    ⟨around.insert ((places.getLast?.getD []).path) entry.2⟩) {}

end Files

end RegisterGateway.Config
