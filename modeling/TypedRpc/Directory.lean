import TypedRpc.Text.Split

/-!
Files by path. A directory holds files, each at the names that lead to it, in the order in which they were first
written. A path is read from the directory, unless it begins with a slash; it is followed name by name, and each
name but the last has to be that of a directory. The directories above are there, and files may be written in them.
-/

namespace TypedRpc

open TypedRpc.Text

/-- Why a file cannot be read or written. -/
inductive FileError where
  | notFound
  | notDirectory
  | isDirectory
  | noSpace
  | nameTooLong
  | nulInName
  deriving DecidableEq, Repr

/-- The text of a file error. -/
def FileError.message : FileError → String
  | .notFound => "No such file or directory (os error 2)"
  | .notDirectory => "Not a directory (os error 20)"
  | .isDirectory => "Is a directory (os error 21)"
  | .noSpace => "No space left on device (os error 28)"
  | .nameTooLong => "File name too long (os error 36)"
  | .nulInName => "file name contained an unexpected NUL byte"

/-! ## Paths -/

/-- The names from a directory, or from the one above all others, to a file or a directory. -/
abbrev Names := List String

/-- The name of the directory above all others. -/
def rootName : String := "/"

/-- A path: where it begins, the names in it, and whether a slash ends it. -/
structure Path where
  absolute : Bool
  steps : List String
  closed : Bool
  deriving DecidableEq, Repr

namespace Path

/-- The greatest number of bytes in a path. -/
def maxSize : Nat := 4095

/-- The greatest number of bytes in a name. -/
def maxNameSize : Nat := 255

/-- A path as it is written; doubled slashes count once. -/
def ofText (text : String) : Path :=
  let pieces := (splitWhere (· == '/') text.toList).map String.ofList
  ⟨text.toList.head? == some '/', pieces.filter (!·.isEmpty), pieces.getLast? == some ""⟩

/-- A path that a file may be asked for by. -/
def parse (text : String) : Except FileError Path :=
  if text.toList.contains '\x00' then .error .nulInName
  else if maxSize < text.utf8ByteSize then .error .nameTooLong
  else if text.isEmpty then .error .notFound
  else .ok (ofText text)

/-- The names from which a path leads on. -/
def start (path : Path) : Names :=
  if path.absolute then [rootName] else []

/-- The names that lead to the directory above one; none is above the root. -/
def above (here : Names) : Names :=
  if here == [rootName] then here
  else
    match here.getLast? with
    | none => [".."]
    | some last => if last == ".." then here ++ [".."] else here.dropLast

/-- A name that leads to a directory from every directory: to the same one, or to the one above. -/
def isDots (name : String) : Bool :=
  name == "." || name == ".."

/-- Where a name leads from a directory. -/
def step (here : Names) (name : String) : Names :=
  if name == "." then here else if name == ".." then above here else here ++ [name]

/-- Where a path leads when all names along it are those of directories. -/
def names (path : Path) : Names :=
  path.steps.foldl step path.start

/-- The paths to all that is met along a path. -/
def along (path : Path) : List Path :=
  (List.range (path.steps.length + 1)).map fun count => { path with steps := path.steps.take count, closed := false }

/-- A path as it is written. -/
def print (path : Path) : String :=
  (if path.absolute then "/" else "") ++ "/".intercalate path.steps ++ (if path.closed then "/" else "")

/-- The names before the last of a path, and the last. -/
def splitLast? (path : Path) : Option (List String × String) :=
  path.steps.getLast?.map fun last => (path.steps.dropLast, last)

end Path

/-- The device that takes and gives nothing. -/
def nullDevice : Names := [rootName, "dev", "null"]

/-- The device that has no space left. -/
def fullDevice : Names := [rootName, "dev", "full"]

/-! ## Directories -/

/-- A directory. -/
structure Directory where
  files : List (Names × String)
  /-- Directories below it, and others that are known. -/
  folders : List Names

namespace Directory

/-- A directory without files. -/
def empty : Directory :=
  ⟨[], []⟩

/-- The content of the file at the end of some names. -/
def content? (directory : Directory) (names : Names) : Option String :=
  directory.files.lookup names

/-- The names lead to a directory: to the one itself, up from it, to the one above all others, to one that is
listed, or to one that holds a file. -/
def isDirectory (directory : Directory) (names : Names) : Bool :=
  names.all (· == "..") || names == [rootName] || directory.folders.contains names
    || directory.files.any fun file => names.isPrefixOf file.1 && names != file.1

/-- Goes to a directory from the one it is in. -/
def enter (directory : Directory) (here : Names) (name : String) : Except FileError Names :=
  let there := Path.step here name
  if Path.isDots name then .ok there
  else if Path.maxNameSize < name.utf8ByteSize then .error .nameTooLong
  else if directory.isDirectory there then .ok there
  else if (directory.content? there).isSome then .error .notDirectory
  else .error .notFound

/-- Goes from directory to directory. -/
def follow (directory : Directory) (here : Names) (steps : List String) : Except FileError Names :=
  steps.foldlM directory.enter here

/-- The names of the file that a path asks for, from the directory that holds it. -/
def fileAt (directory : Directory) (here : Names) (name : String) : Except FileError Names :=
  if Path.isDots name then .error .isDirectory
  else if Path.maxNameSize < name.utf8ByteSize then .error .nameTooLong
  else if directory.isDirectory (here ++ [name]) then .error .isDirectory
  else .ok (here ++ [name])

/-- The content of the file at a path. -/
def read (directory : Directory) (text : String) : Except FileError String := do
  let path ← Path.parse text
  match path.splitLast? with
  | none => throw .isDirectory
  | some (before, last) =>
    let names ← directory.fileAt (← directory.follow path.start before) last
    match directory.content? names with
    | none => throw .notFound
    | some content => if path.closed then throw .notDirectory else return content

/-- Sets a file: in its place if there is one, at the end otherwise. -/
def setFile (names : Names) (content : String) : List (Names × String) → List (Names × String)
  | [] => [(names, content)]
  | (other, old) :: rest =>
    if other = names then (names, content) :: rest else (other, old) :: setFile names content rest

/-- Writes a file at a path; what ends in a slash is no file, whether it is there or not. -/
def write (directory : Directory) (text content : String) : Except FileError Directory := do
  let path ← Path.parse text
  match path.splitLast? with
  | none => throw .isDirectory
  | some (before, last) =>
    let here ← directory.follow path.start before
    if path.closed then throw .isDirectory
    let names ← directory.fileAt here last
    if names == fullDevice then throw .noSpace
    return { directory with files := setFile names content directory.files }

/-! ## A working directory -/

/-- The directories right below the root of a host. -/
def hostFolders : List Names :=
  ["bin", "boot", "dev", "etc", "home", "lib", "media", "mnt", "opt", "proc", "root", "run", "sbin", "srv", "sys",
    "tmp", "usr", "var"].map fun name => [rootName, name]

/-- A working directory with some files by path, on a host with the usual directories. -/
def working (files : List (String × String)) : Directory :=
  ⟨files.map (fun (path, content) => ((Path.ofText path).names, content)) ++ [(nullDevice, "")], hostFolders⟩

/-- The file lies in the directory itself or below it. -/
def holds (names : Names) : Bool :=
  names.head? != some ".." && names.head? != some rootName

end Directory

end TypedRpc
