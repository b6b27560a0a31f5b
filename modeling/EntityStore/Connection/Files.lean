import EntityStore.Text.LineEnd
import EntityStore.Text.Parts
import EntityStore.Text.Utf8
import EntityStore.Text.WordChar

/-!
# Files

The files that settings and commands read, by their path. Paths are relative to one directory, and
two paths that differ in doubled slashes or single points name the same file.
-/

namespace EntityStore

inductive FileEntry where
  | file (bytes : List UInt8)
  | directory
  deriving Repr

/-- Why a file cannot be opened. -/
inductive FileFault where
  | missing
  | isDirectory
  | notDirectory
  | tooLong
  deriving DecidableEq, Repr

def FileFault.message (path : String) : FileFault → String
  | missing => "[Errno 2] No such file or directory: " ++ quoted path
  | isDirectory => "[Errno 21] Is a directory: " ++ quoted path
  | notDirectory => "[Errno 20] Not a directory: " ++ quoted path
  | tooLong => "[Errno 36] File name too long: " ++ quoted path

/-- Why a file has no text. -/
inductive TextFault where
  | unopened (fault : FileFault)
  | undecodable (fault : Utf8.Fault)
  deriving DecidableEq, Repr

structure Files where
  entries : List (String × FileEntry) := []

namespace Files

def parts (path : String) : List String :=
  (splitText '/' path).filter fun part => !part.isEmpty && part ≠ "."

/-- The shortest way to write a path; two slashes in front stay, of more one stays. -/
def normalPath (path : String) : String :=
  let root :=
    if ¬ path.startsWith "/" then ""
    else if path.startsWith "//" ∧ ¬ path.startsWith "///" then "//"
    else "/"
  let body := root ++ String.intercalate "/" (parts path)
  if body.isEmpty then "." else body

/-- A path in which every step up has taken back the step before it. -/
def resolved (path : String) : String :=
  let steps := (parts path).foldl (fun taken part =>
    if part = ".." then taken.dropLast else taken ++ [part]) []
  let body := String.intercalate "/" steps
  if path.startsWith "/" then "/" ++ body else if body.isEmpty then "." else body

def find? (fs : Files) (path : String) : Option FileEntry := fs.entries.lookup (normalPath path)

/-- Whether something lies below a path. -/
def hasBelow (fs : Files) (path : String) : Bool :=
  fs.entries.any fun (p, _) => (normalPath path ++ "/").isPrefixOf p

def isDirectory (fs : Files) (path : String) : Bool :=
  match fs.find? path with
  | some .directory => true
  | some (.file _) => false
  | none => normalPath path = "." || normalPath path = "/" || fs.hasBelow path

/-- The path of the directory that holds a path. -/
def parent (path : String) : String :=
  let normal := normalPath path
  let above := String.intercalate "/" (parts path).dropLast
  if normal.startsWith "/" then "/" ++ above else if above.isEmpty then "." else above

/-- Whether a part in front of the last names a file. -/
def passesFile (fs : Files) (path : String) : Bool :=
  fs.entries.any fun (p, entry) =>
    match entry with
    | .file _ => (p ++ "/").isPrefixOf (normalPath path)
    | .directory => false

/-- Names of files have at most 255 bytes. -/
def isTooLong (path : String) : Bool := (parts path).any (255 < ·.utf8ByteSize)

def read (fs : Files) (path : String) : Except FileFault (List UInt8) :=
  match fs.find? path with
  | some (.file bytes) => .ok bytes
  | _ =>
    if isTooLong path then .error .tooLong
    else if fs.isDirectory path then .error .isDirectory
    else if fs.passesFile path then .error .notDirectory
    else .error .missing

def exists? (fs : Files) (path : String) : Bool :=
  (fs.find? path).isSome || fs.isDirectory path

def readText (fs : Files) (path : String) : Except TextFault String :=
  match fs.read path with
  | .error fault => .error (.unopened fault)
  | .ok bytes =>
    match Utf8.fault? bytes with
    | some fault => .error (.undecodable fault)
    | none => .ok (String.ofList (plainLineEnds ((Utf8.decode? bytes).getD "").toList))

end Files

end EntityStore
