/-
# File trees

Files and directories below a working directory, held in memory, with what reading and writing
a path comes to. The command line is a function of such reads. Nothing is known of what lies
outside the working directory, except that the way up from it leads to directories.
-/
import BindingAudit.Text.Path

namespace BindingAudit

/-- Why a path cannot be read or written. -/
inductive FileFault where
  | notFound
  | alreadyExists
  | notDirectory
  | isDirectory
  | nameTooLong
  /-- The path holds a character that ends a path. -/
  | interiorNul
  deriving DecidableEq, Repr

/-- The wording of a fault, with its number in the operating system if it comes from there. -/
def FileFault.message : FileFault → String
  | .notFound => "No such file or directory (os error 2)"
  | .alreadyExists => "File exists (os error 17)"
  | .notDirectory => "Not a directory (os error 20)"
  | .isDirectory => "Is a directory (os error 21)"
  | .nameTooLong => "File name too long (os error 36)"
  | .interiorNul => "file name contained an unexpected NUL byte"

/-- What stands at a place. -/
inductive FileNode where
  | file (content : List UInt8)
  | directory
  deriving DecidableEq, Repr

/-- Where a path leads. -/
inductive Place where
  /-- The names on the way down from the working directory. -/
  | below (names : List String)
  /-- A directory outside the working directory. -/
  | outside
  deriving DecidableEq, Repr

/-- The directory that a place is in. -/
def Place.parent : Place → Place
  | .below [] => .outside
  | .below names => .below names.dropLast
  | .outside => .outside

/-- What stands below the working directory, by the names on the way there. -/
structure FileTree where
  nodes : List (List String × FileNode)

namespace FileTree

/-- The greatest number of bytes of one name. -/
def maxNameBytes : Nat := 255

/-- The greatest number of bytes of a path. -/
def maxPathBytes : Nat := 4095

/-- An empty working directory. -/
def empty : FileTree := ⟨[]⟩

/-- What stands at a place. -/
def nodeAt? (t : FileTree) : Place → Option FileNode
  | .below [] => some .directory
  | .below names => t.nodes.lookup names
  | .outside => some .directory

/-- Puts something at a list of names. -/
def put (t : FileTree) (names : List String) (node : FileNode) : FileTree :=
  ⟨(names, node) :: t.nodes.filter fun e => e.1 != names⟩

/-- Follows one part of a path. There has to be a directory to follow it from, while what it
leads to may be missing. -/
def follow (t : FileTree) (here : Place) (part : String) : Except FileFault Place :=
  match t.nodeAt? here with
  | none => .error .notFound
  | some (.file _) => .error .notDirectory
  | some .directory =>
      if part = "" ∨ part = "." then .ok here
      else if part = ".." then .ok here.parent
      else if maxNameBytes < part.utf8ByteSize then .error .nameTooLong
      else match here with
        | .below names => .ok (.below (names ++ [part]))
        | .outside => .error .notFound

/-- What is wrong with a path before any part of it is followed. -/
def pathFault? (path : String) : Option FileFault :=
  if path.toList.contains '\x00' then some .interiorNul
  else if path.isEmpty then some .notFound
  else if maxPathBytes < path.utf8ByteSize then some .nameTooLong
  else none

/-- Where a path starts from. -/
def start (path : String) : Place := if path.startsWith "/" then .outside else .below []

/-- The place that a path leads to. -/
def locate (t : FileTree) (path : String) : Except FileFault Place :=
  match pathFault? path with
  | some fault => .error fault
  | none => (Text.pathParts path).foldlM t.follow (start path)

/-- The content of the file at a path. -/
def read (t : FileTree) (path : String) : Except FileFault (List UInt8) :=
  match t.locate path with
  | .error fault => .error fault
  | .ok place =>
      match t.nodeAt? place with
      | none => .error .notFound
      | some .directory => .error .isDirectory
      | some (.file content) => .ok content

/-- Writes a file, in place of one that stands there already. A path that ends in a slash can
only be that of a directory; it is refused as soon as the way to its last name is clear, whatever
that name is. -/
def write (t : FileTree) (path : String) (content : List UInt8) : Except FileFault FileTree :=
  match pathFault? path with
  | some fault => .error fault
  | none =>
      if path.endsWith "/" then
        let way := (Text.pathParts (Text.withoutFinalSlashes path)).dropLast
        match (way ++ ["."]).foldlM t.follow (start path) with
        | .error fault => .error fault
        | .ok _ => .error .isDirectory
      else match (Text.pathParts path).foldlM t.follow (start path) with
        | .error fault => .error fault
        | .ok .outside => .error .isDirectory
        | .ok (.below names) =>
            match t.nodeAt? (.below names) with
            | some .directory => .error .isDirectory
            | _ => .ok (t.put names (.file content))

/-- Makes a directory where nothing stands yet, in a directory that is there. Slashes at the end
of the path do not matter. -/
def makeDirectory (t : FileTree) (path : String) : Except FileFault FileTree :=
  match pathFault? path with
  | some fault => .error fault
  | none =>
      match (Text.pathParts (Text.withoutFinalSlashes path)).foldlM t.follow (start path) with
      | .error fault => .error fault
      | .ok .outside => .error .alreadyExists
      | .ok (.below names) =>
          match t.nodeAt? (.below names) with
          | some _ => .error .alreadyExists
          | none => .ok (t.put names .directory)

end FileTree

end BindingAudit
