/-!
# Source/Files — a tree of files

A tree holds the contents of files under the names of their directories and their own.  A name in a
path is looked up in the directory that the names before it lead to; a path that leaves the tree
leads nowhere.
-/

namespace ApiContract

/-- Why the contents or the text of a file could not be had. -/
inductive FileFault where
  | missing | isDirectory | notDirectory | nameTooLong | badName | denied | notText
  /-- Any other reason, as it is told. -/
  | other (reason : String)
  deriving DecidableEq

/-- The wording of a fault. -/
def FileFault.message : FileFault → String
  | missing => "No such file or directory (os error 2)"
  | isDirectory => "Is a directory (os error 21)"
  | notDirectory => "Not a directory (os error 20)"
  | nameTooLong => "File name too long (os error 36)"
  | badName => "file name contained an unexpected NUL byte"
  | denied => "Permission denied (os error 13)"
  | notText => "stream did not contain valid UTF-8"
  | other reason => reason

/-- The names along a path, empty ones and dots too. -/
def pathNames (path : String) : List String := path.splitOn "/"

/-- The names that lead somewhere: all but the empty ones and single dots. -/
def properNames (path : String) : List String :=
  (pathNames path).filter fun n => !n.isEmpty && n != "."

/-- The contents of files, by the names that lead to them. -/
structure Files where
  entries : List (List String × ByteArray)

namespace Files

/-- The tree of named contents; of one name the last counts. -/
def ofList (files : List (String × ByteArray)) : Files :=
  ⟨(files.map fun f => (properNames f.1, f.2)).reverse⟩

/-- The tree with other contents under a name. -/
def write (t : Files) (name : String) (contents : ByteArray) : Files :=
  ⟨(properNames name, contents) :: t.entries⟩

/-- The contents of the file that names lead to. -/
def file? (t : Files) (names : List String) : Option ByteArray := t.entries.lookup names

/-- Whether names lead to a directory: to the root or to one that a file lies in. -/
def isDirectory (t : Files) (names : List String) : Bool :=
  names.isEmpty || t.entries.any fun e => names.length < e.1.length && names.isPrefixOf e.1

/-- The longest name, and the longest path, in bytes. -/
def nameLimit : Nat := 255

/-- The limit of a path. -/
def pathLimit : Nat := 4095

/-- The place that further names lead to. -/
def walk (t : Files) (place : List String) : List String → Except FileFault (List String)
  | [] => if t.isDirectory place || (t.file? place).isSome then .ok place else .error .missing
  | name :: rest =>
    if t.isDirectory place then
      if name.isEmpty || name = "." then walk t place rest
      else if name = ".." then
        (if place.isEmpty then .error .missing else walk t place.dropLast rest)
      else if name.utf8ByteSize > nameLimit then .error .nameTooLong
      else walk t (place ++ [name]) rest
    else if (t.file? place).isSome then .error .notDirectory
    else .error .missing

/-- The contents of the file at a path. -/
def read (t : Files) (path : String) : Except FileFault ByteArray := do
  if path.contains '\x00' then throw .badName
  if path.isEmpty || path.startsWith "/" then throw .missing
  if path.utf8ByteSize > pathLimit then throw .nameTooLong
  match t.file? (← t.walk [] (pathNames path)) with
  | some contents => .ok contents
  | none => .error .isDirectory

end Files

/-- The text that the contents of a file encode. -/
def textOfContents (contents : ByteArray) : Except FileFault String :=
  match String.fromUTF8? contents with
  | some s => .ok s
  | none => .error .notText

/-- How files are read: the contents at a path, or why there are none. -/
abbrev ReadFile := String → Except FileFault ByteArray

/-- The text of the file at a path. -/
def readText (read : ReadFile) (path : String) : Except FileFault String :=
  do textOfContents (← read path)

end ApiContract
