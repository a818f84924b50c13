/-
# Folders and paths

A `Folder` is what stands in the working directory: files with their content and
directories.  `Folder.open?` follows a path through it name by name:

| name | leads to |
| --- | --- |
| empty or `.` | the same directory |
| `..` | the directory above |
| other | what has this name in the directory |

Only a directory has names in it.  Of the world outside the folder nothing is
known but its directories on the way up.  What is not a file at the end of the
path cannot be read, and every refusal has its number and wording.
-/

import Lexis.Text.Utf8

namespace Lexis

/-- What a path can stand for. -/
inductive Node where
  | file (content : Bytes)
  | directory
  deriving DecidableEq, Repr

/-- Why a path does not open.  A system can have any reason; those that a folder has are
`missing`, `notDirectory`, `isDirectory` and `nameTooLong`. -/
structure Refusal where
  /-- The number that the system gives to the reason. -/
  number : Nat
  /-- Its wording. -/
  text : String
  deriving DecidableEq, Repr

namespace Refusal

/-- A name on the path stands for nothing. -/
def missing : Refusal := ⟨2, "No such file or directory"⟩

/-- A name on the path is looked up in a file. -/
def notDirectory : Refusal := ⟨20, "Not a directory"⟩

/-- The path ends at a directory. -/
def isDirectory : Refusal := ⟨21, "Is a directory"⟩

/-- The path or a name on it is too long. -/
def nameTooLong : Refusal := ⟨36, "File name too long"⟩

end Refusal

/-- The files and directories below the working directory, by the names that
lead to them.  A directory with something in it need not be listed. -/
structure Folder where
  entries : List (List String × Node)

/-- A place that part of a path leads to. -/
inductive Place where
  /-- What these names lead to from the working directory. -/
  | inside (names : List String)
  /-- A directory that is not in the working directory. -/
  | outside

namespace Folder

/-- The names of a path. -/
def names (path : String) : List String := (path.toList.splitOn '/').map String.ofList

/-- Whether a name leads nowhere but to its own directory. -/
def isSelf (name : String) : Bool := name == "" || name == "."

/-- What stands in a folder because `node` stands where some names lead to from
`path`: the node and each directory that a `..` leaves. -/
def along (path : List String) (node : Node) : List String → List (List String × Node)
  | [] => [(path, node)]
  | name :: names =>
    if isSelf name then along path node names
    else if name ≠ ".." then along (path ++ [name]) node names
    else if path.isEmpty then []
    else (path, .directory) :: along path.dropLast node names

/-- The folder with these paths in it; of two paths to one place the later counts. -/
def ofPaths (paths : List (String × Node)) : Folder :=
  ⟨(paths.flatMap fun entry => along [] entry.2 (names entry.1)).reverse⟩

/-- What some names lead to. -/
def node? (folder : Folder) (path : List String) : Option Node :=
  match folder.entries.lookup path with
  | some node => some node
  | none =>
    if path.isEmpty || folder.entries.any (path.isPrefixOf ·.1) then some .directory else none

/-- The longest name, in bytes. -/
def maxName : Nat := 255

/-- The longest path, in bytes. -/
def maxPath : Nat := 4095

/-- Where a name leads from a place. -/
def step (folder : Folder) : Place → String → Except Refusal Place
  | .outside, name =>
    if isSelf name || name == ".." then .ok .outside
    else if maxName < name.utf8ByteSize then .error .nameTooLong
    else .error .missing
  | .inside path, name =>
    match folder.node? path with
    | none => .error .missing
    | some (.file _) => .error .notDirectory
    | some .directory =>
      if isSelf name then .ok (.inside path)
      else if name = ".." then .ok (if path.isEmpty then .outside else .inside path.dropLast)
      else if maxName < name.utf8ByteSize then .error .nameTooLong
      else if (folder.node? (path ++ [name])).isNone then .error .missing
      else .ok (.inside (path ++ [name]))

/-- The content of the file at the end of a path. -/
def open? (folder : Folder) (path : String) : Except Refusal Bytes :=
  if path = "" then .error .missing
  else if maxPath < path.utf8ByteSize then .error .nameTooLong
  else
    let first := if path.toList.head? = some '/' then .outside else .inside []
    match (names path).foldlM folder.step first with
    | .error cause => .error cause
    | .ok .outside => .error .isDirectory
    | .ok (.inside place) =>
      match folder.node? place with
      | some (.file content) => .ok content
      | some .directory => .error .isDirectory
      | none => .error .missing

/-- The content of the file that some names lead to. -/
def file? (folder : Folder) (path : List String) : Option Bytes :=
  match folder.node? path with
  | some (.file content) => some content
  | _ => none

end Folder
end Lexis
