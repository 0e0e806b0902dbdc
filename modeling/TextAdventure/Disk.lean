/-!
# Disks

The files that a run can read and write, named by paths.  A directory is there when some file lies
in it; the working directory is there at any rate, and so are the directories around it.

Main results:

- Inductive `FileError` with `FileError.text`: why a file cannot be read or written.
- Definition `Disk.follow`: the place that the names of a path lead to.
- Definitions `Disk.read` and `Disk.write`.
-/

namespace TextAdventure

/-- Why a file cannot be read or written. -/
inductive FileError where
  | notFound
  | notDirectory
  | isDirectory
  | nameTooLong
  /-- No path can hold the character that ends a path in memory. -/
  | nulInName
  /-- The bytes of the file are not text. -/
  | notText
deriving Repr, DecidableEq

/-- An error as the operating system words it. -/
def FileError.text : FileError → String
  | notFound => "No such file or directory (os error 2)"
  | notDirectory => "Not a directory (os error 20)"
  | isDirectory => "Is a directory (os error 21)"
  | nameTooLong => "File name too long (os error 36)"
  | nulInName => "file name contained an unexpected NUL byte"
  | notText => "stream did not contain valid UTF-8"

/-- The names along a path from the working directory.  A place outside of it begins with one name
`..` for each directory to leave, or with `/` for the root. -/
abbrev Names := List String

/-- The files of a disk with their texts. -/
structure Disk where
  files : List (Names × String)
deriving Repr, DecidableEq, Inhabited

namespace Disk

/-! ## Paths -/

/-- Split a path at its slashes. -/
def splitPath (pending : List Char) : List Char → List String
  | [] => [String.ofList pending.reverse]
  | c :: rest =>
    if c = '/' then String.ofList pending.reverse :: splitPath [] rest
    else splitPath (c :: pending) rest

/-- The names of a path. -/
def namesOf (path : String) : Names :=
  (splitPath [] path.toList).filter (· ≠ "")

/-- A path ends in a slash, so that it has to name a directory. -/
def endsInSlash (path : String) : Bool :=
  path.toList.getLast? == some '/'

/-- Where the names of a path are looked up: at the root or in the working directory. -/
def base (path : String) : Names :=
  if path.toList.head? = some '/' then ["/"] else []

/-- A place is one of the directories around the working directory, or the root. -/
def isAround (place : Names) : Bool :=
  place.all fun name => name == ".." || name == "/"

/-- The directory that holds a place; that of the root is the root. -/
def parent (place : Names) : Names :=
  if place = ["/"] then ["/"] else if isAround place then place ++ [".."] else place.dropLast

/-- The longest name of a file in bytes. -/
def nameLimit : Nat := 255

/-- The longest path in bytes. -/
def pathLimit : Nat := 4095

/-! ## Looking up -/

/-- The text of a file. -/
def text? (disk : Disk) (place : Names) : Option String :=
  disk.files.lookup place

/-- A directory is there when some file lies in it; the working directory and those around it are
there at any rate. -/
def hasDirectory (disk : Disk) (place : Names) : Bool :=
  isAround place || disk.files.any fun (file, _) => place.isPrefixOf file && file != place

/-- The place of a name in a directory. -/
def enter (directory : Names) (name : String) : Except FileError Names :=
  if name = "." then .ok directory
  else if name = ".." then .ok (parent directory)
  else if nameLimit < name.utf8ByteSize then .error .nameTooLong
  else .ok (directory ++ [name])

/-- Follow names from a directory on.  Every name but the last has to be that of a directory. -/
def follow (disk : Disk) (directory : Names) : Names → Except FileError Names
  | [] => .ok directory
  | name :: rest => do
    let place ← enter directory name
    if rest.isEmpty || disk.hasDirectory place then disk.follow place rest
    else if (disk.text? place).isSome then throw .notDirectory
    else throw .notFound

/-- Follow names to a directory. -/
def followToDirectory (disk : Disk) (directory : Names) (names : Names) :
    Except FileError Names :=
  disk.follow directory (names ++ ["."])

/-- Refuse a text that cannot be a path. -/
def checkPath (path : String) : Except FileError Unit :=
  if path.toList.contains '\x00' then .error .nulInName
  else if path = "" then .error .notFound
  else if pathLimit < path.utf8ByteSize then .error .nameTooLong
  else .ok ()

/-- The place to read for a path. -/
def placeToRead (disk : Disk) (path : String) : Except FileError Names := do
  checkPath path
  if endsInSlash path then disk.followToDirectory (base path) (namesOf path)
  else disk.follow (base path) (namesOf path)

/-- The place to write for a path.  Where it ends in a slash, the directories before its last name
are looked up all the same. -/
def placeToWrite (disk : Disk) (path : String) : Except FileError Names := do
  checkPath path
  if endsInSlash path then
    let _ ← disk.followToDirectory (base path) (namesOf path).dropLast
    throw .isDirectory
  else disk.follow (base path) (namesOf path)

/-! ## Reading and writing -/

/-- The text of the file at a path. -/
def read (disk : Disk) (path : String) : Except FileError String := do
  let place ← disk.placeToRead path
  if disk.hasDirectory place then throw .isDirectory
  match disk.text? place with
  | some text => return text
  | none => throw .notFound

/-- The files with the text of one of them replaced, or added at the end. -/
def put (files : List (Names × String)) (place : Names) (text : String) : List (Names × String) :=
  if (files.lookup place).isSome then
    files.map fun (file, old) => if file == place then (file, text) else (file, old)
  else files ++ [(place, text)]

/-- The disk after a file has been written. -/
def write (disk : Disk) (path text : String) : Except FileError Disk := do
  let place ← disk.placeToWrite path
  if disk.hasDirectory place then throw .isDirectory
  return ⟨put disk.files place text⟩

/-- A place lies in the working directory. -/
def isInside (place : Names) : Bool :=
  place.head?.all fun name => name != ".." && name != "/"

/-- The files in the working directory that are new or whose text differs from that on another
disk. -/
def changesSince (disk before : Disk) : List (Names × String) :=
  disk.files.filter fun (file, text) => isInside file && before.text? file != some text

end Disk

end TextAdventure
