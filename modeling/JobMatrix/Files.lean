/-!
A folder of plain files, as a program started in it sees it: a relative path is walked one
component at a time, `.` components stay in place but must stand in a folder, and a path that
leaves the folder reaches folders but none of the files. The faults are those of the operating system, with its
numbers.
-/

namespace JobMatrix

inductive FileFault where
  | notFound
  | isDirectory
  | notDirectory
  | other (message : String)
  deriving DecidableEq, Repr

def FileFault.message : FileFault → String
  | .notFound => "No such file or directory (os error 2)"
  | .isDirectory => "Is a directory (os error 21)"
  | .notDirectory => "Not a directory (os error 20)"
  | .other m => m

structure Folder where
  files : List (String × String)

namespace Folder

/-- Where a walk along a path has come to: the folder, one of its files, or a folder above it,
which holds none of the files. -/
inductive Place where
  | top
  | file (content : String)
  | above

/-- Takes one component of a path from a place. Only a folder can be entered, even by `.`; an
empty component, as in `a//b` or `a/`, is `.`. -/
def enter (f : Folder) : Place → String → Except FileFault Place
  | .file _, _ => .error .notDirectory
  | p, "" => .ok p
  | p, "." => .ok p
  | _, ".." => .ok .above
  | .top, name =>
    match f.files.find? (·.1 == name) with
    | some (_, content) => .ok (.file content)
    | none => .error .notFound
  | .above, _ => .error .notFound

/-- The content of the file a path names, walking its components from the folder, or from a
folder above it for a path that starts with `/`. The empty path names nothing. -/
def read (f : Folder) (path : String) : Except FileFault String :=
  if path.isEmpty then .error .notFound
  else do
    let start := if path.startsWith "/" then Place.above else .top
    match ← (path.splitOn "/").foldlM f.enter start with
    | .file content => .ok content
    | .top => .error .isDirectory
    | .above => .error .isDirectory

end Folder

/-- The last component of a path, if it is a name: `.` components are skipped, and `..` or a
path of no names has none. -/
def fileName? (path : String) : Option String :=
  match ((path.splitOn "/").filter fun p => !p.isEmpty && p != ".").getLast? with
  | some ".." => none
  | n => n

/-- The stem of a name: the part before its last dot, unless that dot starts the name. -/
def stemOf (name : String) : String :=
  if name == ".." then name
  else
    match (name.splitOn ".").reverse with
    | _ :: before :: more =>
      let stem := ".".intercalate (before :: more).reverse
      if stem.isEmpty then name else stem
    | _ => name

def fileStem? (path : String) : Option String :=
  (fileName? path).map stemOf

end JobMatrix
