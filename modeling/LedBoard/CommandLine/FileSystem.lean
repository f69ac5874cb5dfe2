import LedBoard.CommandLine.Path
import LedBoard.CommandLine.System
import LedBoard.Text.Terminator

/-!
# A file system

Files stand in a tree of folders, in which a path is followed name by name from the root or from
the working folder. Every name but the last leads through a folder, a point stays where it is,
and two points lead back, at the root to the root itself.

* `FileSystem.follow`: the place that a path leads to;
* `FileSystem.read`: reads a file;
* `FileSystem.openLog`: makes the folders around a file, and then the file.
-/

namespace LedBoard.CommandLine

/-- A place in the tree: the names on the way from the root. -/
abbrev Place := List String

/-- The files and the folders. -/
structure FileSystem where
  /-- The folder where relative paths start. -/
  workingFolder : Place
  files : List (Place × Text.Octets)
  /-- Further folders; there are also those around a file or a folder. -/
  folders : List Place

namespace FileSystem

variable (fs : FileSystem)

/-- The greatest number of octets of a name. -/
def nameLimit : Nat := 255

/-- A path has fewer octets than this. -/
def pathLimit : Nat := 4096

/-- A file stands at the place. -/
def isFile (place : Place) : Bool := (fs.files.lookup place).isSome

/-- A folder stands at the place. -/
def isFolder (place : Place) : Bool :=
  (fs.workingFolder :: fs.folders).any place.isPrefixOf ||
    fs.files.any fun (file, _) => place.isPrefixOf file.dropLast

/-- What stands at the place is not a folder. -/
def whyNoFolder (place : Place) : Trouble :=
  if fs.isFile place then .notFolder else .notFound

/-! ## Following paths -/

/-- Follows a name from a place on. -/
def enter (here : Place) (name : String) : Except Trouble Place :=
  if !fs.isFolder here then .error (fs.whyNoFolder here)
  else if name = "." then .ok here
  else if name = ".." then .ok here.dropLast
  else if nameLimit < name.utf8ByteSize then .error .nameTooLong
  else .ok (here ++ [name])

/-- Where a path starts. -/
def start (path : String) : Place := if Path.isAbsolute path then [] else fs.workingFolder

/-- Follows names from where a path starts. A path that is empty or too long is not followed, nor
    is one that holds a NUL character. -/
def walk (path : String) (names : List String) : Except Trouble Place :=
  if Text.holdsNul path then .error .nulInPath
  else if pathLimit ≤ path.utf8ByteSize then .error .nameTooLong
  else if path.isEmpty then .error .notFound
  else names.foldlM fs.enter (fs.start path)

/-- The place that a path leads to, whether anything stands there or not. A slash at the end
    leads through a folder, as a point does. -/
def follow (path : String) : Except Trouble Place :=
  fs.walk path (Path.names path ++ if Path.endsInSlash path then ["."] else [])

/-- The place for something new at the end of a path: its last name, if that leads anywhere, is
    followed from a folder. -/
def newPlace (path : String) : Except Trouble Place := fs.walk path (Path.names path)

/-! ## Files -/

/-- Reads a file. -/
def read (path : String) : Except Trouble Text.Octets := do
  let place ← fs.follow path
  if fs.isFolder place then .error .isFolder
  else
    match fs.files.lookup place with
    | some octets => .ok octets
    | none => .error .notFound

/-- Makes a folder. -/
def makeFolder (path : String) : Except Trouble FileSystem := do
  let place ← fs.newPlace path
  if Path.endsInFolder path || fs.isFile place || fs.isFolder place then .error .exists
  else .ok { fs with folders := place :: fs.folders }

/-- A folder stands where the path leads to. -/
def leadsToFolder (path : String) : Bool :=
  match fs.follow path with
  | .ok place => fs.isFolder place
  | .error _ => false

/-- Makes a folder where there is none. -/
def ensureFolder (path : String) : Except Trouble FileSystem :=
  match fs.makeFolder path with
  | .error .exists => if fs.leadsToFolder path then .ok fs else .error .exists
  | other => other

/-- Makes the folder of the first path, and before it those of the further paths, which stand
    around it, as far as they are missing. -/
def ensureFolders : List String → Except Trouble FileSystem
  | [] => .ok fs
  | path :: around =>
    match fs.ensureFolder path with
    | .error .notFound => do (← ensureFolders around).ensureFolder path
    | other => other

/-- Opens a file to write at its end, which makes it if it is missing. -/
def openEnd (path : String) : Except Trouble FileSystem := do
  -- the last name, whatever it is, is looked for in a folder
  let _ ← fs.walk path ((Path.names path).dropLast ++ ["."])
  if Path.endsInFolder path then
    let _ ← fs.follow path
    .error .isFolder
  else if Path.endsInSlash path then .error .isFolder
  else
    let place ← fs.newPlace path
    if fs.isFolder place then .error .isFolder
    else if fs.isFile place then .ok fs
    else .ok { fs with files := (place, []) :: fs.files }

/-- Opens a log: first makes the folders around it, then the file. -/
def openLog (path : String) : Except Trouble FileSystem := do
  (← fs.ensureFolders (Path.around path)).openEnd path

end FileSystem

/-- Opens the file where the lines typed at the console are kept, in a folder. It holds texts. -/
def FileSystem.openHistory (fs : FileSystem) (home : String) : Except Trouble Unit := do
  let path := home ++ "/.wingbit_history"
  let octets ← (← fs.openEnd path).read path
  if (Text.decode? octets).isSome then .ok () else .error .notText

/-- A system of a file system, of the values of its variables, and of what its clock shows. -/
def System.ofFiles (environment : List (String × String)) (now : Time.Moment) :
    System FileSystem where
  read := FileSystem.read
  openLog := FileSystem.openLog
  openHistory fs := fs.openHistory ((environment.lookup "HOME").getD ".")
  lookup name := environment.lookup name
  now

end LedBoard.CommandLine
