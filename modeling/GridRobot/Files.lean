import GridRobot.Text.Decimal
import GridRobot.Text.Quoted

/-! Paths, and the files that can be seen through them. -/
namespace GridRobot

/-- Names separated by slashes, from the root or from the working directory. -/
structure FilePath where
  /-- The slashes that the path starts with: two of them differ from one. -/
  rootSlashes : Nat
  names : List String
  deriving DecidableEq, Repr

namespace FilePath

/-- What stands between the slashes. -/
def segments : List Char → List (List Char)
  | [] => [[]]
  | c :: r =>
    match c == '/', segments r with
    | true, ss => [] :: ss
    | false, [] => [[c]]
    | false, s :: ss => (c :: s) :: ss

/-- A third slash makes the second one meaningless. -/
def leadingSlashes : List Char → Nat
  | '/' :: '/' :: '/' :: _ => 1
  | '/' :: '/' :: _ => 2
  | '/' :: _ => 1
  | _ => 0

/-- Doubled slashes, slashes at the end, and dots that stand alone do not matter. -/
def ofText (s : String) : FilePath :=
  ⟨leadingSlashes s.toList,
    ((segments s.toList).map String.ofList).filter fun n => n != "" && n != "."⟩

/-- A path as it was written; a slash at its end asks for a directory. -/
def verbatim (s : String) : FilePath :=
  let names := ((segments s.toList).map String.ofList).filter (· != "")
  ⟨leadingSlashes s.toList,
    if names ≠ [] ∧ s.toList.getLast? = some '/' then names ++ ["."] else names⟩

def absolute (names : List String) : FilePath := ⟨1, names⟩

def text (p : FilePath) : String :=
  let body := "/".intercalate p.names
  if p.rootSlashes = 0 ∧ p.names = [] then "."
  else String.ofList (List.replicate p.rootSlashes '/') ++ body

end FilePath

/-- What a name in a directory stands for. -/
inductive FileEntry where
  | directory
  | file (bytes : List UInt8)
  deriving DecidableEq, Repr

/-- The entries by their names from the root, and the names of the working directory. -/
structure FileTree where
  entry? : List String → Option FileEntry
  workingDirectory : List String

/-- Why there is no file at a path. -/
inductive NoFile where
  | missing
  | belowFile
  | directory
  | tooLong
  /-- A path with a null character in it is not looked for at all. -/
  | nullCharacter
  deriving DecidableEq, Repr

namespace NoFile

def reason : NoFile → String
  | missing => "No such file or directory"
  | belowFile => "Not a directory"
  | directory => "Is a directory"
  | tooLong => "File name too long"
  | nullCharacter => "embedded null byte"

/-- The system's number for it, if the system was asked. -/
def number? : NoFile → Option Nat
  | missing => some 2
  | belowFile => some 20
  | directory => some 21
  | tooLong => some 36
  | nullCharacter => none

/-- The reason, with its number and the path between quotes if it has a number. -/
def message (e : NoFile) (path : String) : String :=
  match e.number? with
  | none => e.reason
  | some n =>
    "[Errno " ++ String.ofList (Decimal.ofNat n) ++ "] " ++ e.reason ++ ": " ++ Quoted.quote path

end NoFile

/-- A path that cannot be used, and why. -/
structure FileError where
  path : String
  cause : NoFile
  deriving DecidableEq, Repr

def FileError.message (e : FileError) : String := e.cause.message e.path

namespace FileTree

/-- Most bytes of a name in a directory. -/
def nameLimit : Nat := 255

/-- Most bytes of a whole path. -/
def pathLimit : Nat := 4095

def hasNull (path : String) : Bool := path.toList.contains (Char.ofNat 0)

/-- Why a path is turned down before anything is looked up. -/
def refusal? (path : String) : Option NoFile :=
  if hasNull path then some .nullCharacter
  else if path = "" then some .missing
  else if pathLimit < path.utf8ByteSize then some .tooLong
  else none

/-- One name further; a dot stays, and two dots go back. -/
def enter (t : FileTree) (place : List String) (name : String) : Except NoFile (List String) :=
  match t.entry? place with
  | none => .error .missing
  | some (.file _) => .error .belowFile
  | some .directory =>
    if name = "." then .ok place
    else if name = ".." then .ok place.dropLast
    else if nameLimit < name.utf8ByteSize then .error .tooLong
    else if (t.entry? (place ++ [name])).isSome then .ok (place ++ [name])
    else .error .missing

/-- Where a path leads; every name but the last must be a directory's. -/
def locate (t : FileTree) (p : FilePath) : Except NoFile (List String) :=
  p.names.foldlM t.enter (if p.rootSlashes = 0 then t.workingDirectory else [])

/-- The file at a path, with the text by which the path is asked for. -/
def contents (t : FileTree) (text : String) (p : FilePath) : Except NoFile (List UInt8) :=
  match refusal? text with
  | some e => .error e
  | none => do
    match t.entry? (← t.locate p) with
    | some (.file bytes) => return bytes
    | some .directory => .error .directory
    | none => .error .missing

def read (t : FileTree) (p : FilePath) : Except NoFile (List UInt8) := t.contents p.text p

/-- The file that a text names as it stands. -/
def readVerbatim (t : FileTree) (text : String) : Except NoFile (List UInt8) :=
  t.contents text (.verbatim text)

def IsFile (t : FileTree) (p : FilePath) : Prop := (t.read p).isOk

instance (t : FileTree) (p : FilePath) : Decidable (t.IsFile p) := by
  unfold IsFile; infer_instance

/-- Whether there is a file; where a name is too long, that cannot be said. -/
def hasFile (t : FileTree) (p : FilePath) : Except FileError Bool :=
  match t.read p with
  | .error .tooLong => .error ⟨p.text, .tooLong⟩
  | r => .ok r.isOk

/-- The names of a path from the root, with dots resolved but nothing looked up. -/
def resolve (t : FileTree) (p : FilePath) : List String :=
  p.names.foldl (fun place name => if name = ".." then place.dropLast else place ++ [name])
    (if p.rootSlashes = 0 then t.workingDirectory else [])

end FileTree
end GridRobot
