/-! # Directories

A `Directory` holds the texts of files by their paths. Paths are relative; `.` and repeated slashes do not matter, and
`..` leads back. -/

namespace StrategyHost

inductive FileError where
  | notFound | alreadyThere | notDirectory | isDirectory
deriving DecidableEq, Repr, Inhabited

namespace FileError

def message : FileError → String
  | notFound => "No such file or directory (os error 2)"
  | alreadyThere => "File exists (os error 17)"
  | notDirectory => "Not a directory (os error 20)"
  | isDirectory => "Is a directory (os error 21)"

end FileError

abbrev FilePath := List String

namespace FilePath

/-- Follows one more name from a path, which is kept last name first. -/
def follow (path : FilePath) (name : String) : FilePath :=
  if name = "" || name = "." then path
  else if name = ".." then path.drop 1
  else name :: path

/-- The names of a path. An absolute one begins with an empty name, and leads out of every directory. -/
def ofString (path : String) : FilePath :=
  let names := ((path.splitOn "/").foldl follow []).reverse
  if path.startsWith "/" then "" :: names else names

/-- What stands behind the last point of a file name, unless the name begins there. -/
def extension? (path : FilePath) : Option String := do
  let name ← path.getLast?
  let parts := name.splitOn "."
  let last ← parts.getLast?
  if parts.length < 2 || parts.dropLast = [""] then none else some last

end FilePath

structure Directory where
  files : List (FilePath × String)
deriving Repr, Inhabited

namespace Directory

def ofList (files : List (String × String)) : Directory := ⟨files.map fun (p, text) => (.ofString p, text)⟩

def isFile (d : Directory) (p : FilePath) : Bool := (d.files.lookup p).isSome

/-- Directories are there as far as files lie in them. -/
def isDirectory (d : Directory) (p : FilePath) : Bool :=
  p.isEmpty || d.files.any fun (q, _) => p.isPrefixOf q && p.length < q.length

def throughFile (d : Directory) (p : FilePath) : Bool := (List.range p.length).any fun n => d.isFile (p.take n)

def read (d : Directory) (path : String) : Except FileError String :=
  let p := FilePath.ofString path
  match d.files.lookup p with
  | some text => if path = "" then .error .notFound else .ok text
  | none =>
    if path = "" then .error .notFound
    else if d.throughFile p then .error .notDirectory
    else if d.isDirectory p then .error .isDirectory
    else .error .notFound

def write (d : Directory) (path text : String) : Directory :=
  let p := FilePath.ofString path
  if d.isFile p then ⟨d.files.map fun (q, old) => if q = p then (q, text) else (q, old)⟩
  else ⟨d.files ++ [(p, text)]⟩

/-- Opens a file for appending, and makes it, and the directories around it, if they are missing. -/
def openForAppend (d : Directory) (path : String) : Except FileError (String × Directory) :=
  let p := FilePath.ofString path
  if path = "" then .error .notFound
  else
    match d.files.lookup p with
    | some text => .ok (text, d)
    | none =>
      if d.isFile p.dropLast then .error .alreadyThere
      else if d.throughFile p then .error .notDirectory
      else if d.isDirectory p then .error .isDirectory
      else .ok ("", d.write path "")

end Directory

end StrategyHost
