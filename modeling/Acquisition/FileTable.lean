import Acquisition.Effect
import Acquisition.Text.Path
/-! The machine's files through their paths: directories, links to inodes and texts, why a path
cannot be opened, descriptors and the exclusive flock each file has. -/
namespace Acquisition

structure FileTable where
  directories : List String := []
  /-- The file each path links, by inode; paths are kept in their shortest form. -/
  links : String → Option Nat := fun _ => none
  /-- The text of each file. -/
  texts : Nat → String := fun _ => ""
  /-- The number of files made so far: the next file made is this inode. -/
  inodes : Nat := 0
  /-- The file each open descriptor reads. -/
  descriptors : Nat → Option Nat := fun _ => none
  /-- The number of descriptors opened so far: the next one opened is this one. -/
  opened : Nat := 0
  /-- The descriptor holding each file's exclusive flock. -/
  flocks : Nat → Option Nat := fun _ => none
  /-- The id of this process, written into the files it locks. -/
  pid : Nat := 0

namespace FileTable

/-- The file linked at a path. Paths name the same file when their shortest
forms agree. -/
def link (t : FileTable) (path : String) : Option Nat := t.links (Text.cleanPath path)

def read? (t : FileTable) (path : String) : Option String := (t.link path).map t.texts

def setText (t : FileTable) (inode : Nat) (text : String) : FileTable :=
  { t with texts := fun i => if i = inode then text else t.texts i }

def create (t : FileTable) (path text : String) : FileTable :=
  { t.setText t.inodes text with
    links := fun p => if p = Text.cleanPath path then some t.inodes else t.links p
    inodes := t.inodes + 1 }

def write (t : FileTable) (path text : String) : FileTable :=
  match t.link path with
  | some inode => t.setText inode text
  | none => t.create path text

def isDirectory (t : FileTable) (path : String) : Bool :=
  path.isEmpty || path == "." || path == ".." || path == "/" || t.directories.contains path

/-- Why a file at `path` cannot be opened for writing, if it cannot. -/
def openError? (t : FileTable) (path : String) : Option String :=
  let parts := path.splitOn "/"
  let parents := (List.range (parts.length - 1)).map fun k => "/".intercalate (parts.take (k + 1))
  let blocked := parents.find? fun p => !t.isDirectory p
  match blocked with
  | some p => if (t.read? p).isSome then some "not a directory" else some "no such file or directory"
  | none =>
    if path.isEmpty then some "no such file or directory"
    else if t.isDirectory path then some "is a directory" else none

/-- Why a file cannot be read. -/
inductive ReadFailure where
  | missing
  | notDirectory
  | isDirectory
  deriving DecidableEq

def ReadFailure.message (path : String) : ReadFailure → String
  | .missing => "open " ++ path ++ ": no such file or directory"
  | .notDirectory => "open " ++ path ++ ": not a directory"
  | .isDirectory => "read " ++ path ++ ": is a directory"

/-- Why the file at `path` cannot be read, if it cannot. -/
def readFailure? (t : FileTable) (path : String) : Option ReadFailure :=
  if (t.read? path).isSome then none
  else if !path.isEmpty && t.isDirectory (Text.cleanPath path) then some .isDirectory
  else match t.openError? path with
    | some "not a directory" => some .notDirectory
    | _ => some .missing

/-! ### Open files -/

/-- Opens the file at `path` for reading and writing, making an empty one if
there is none: the new descriptor, or why the file cannot be opened. -/
def openFile (t : FileTable) (path : String) : Except String (Nat × FileTable) :=
  match t.openError? path with
  | some e => .error ("open " ++ path ++ ": " ++ e)
  | none =>
    let (inode, t) := match t.link path with
      | some inode => (inode, t)
      | none => (t.inodes, t.create path "")
    .ok (t.opened, { t with
      descriptors := fun d => if d = t.opened then some inode else t.descriptors d
      opened := t.opened + 1 })

def readAt (t : FileTable) (fd : Nat) : String :=
  match t.descriptors fd with
  | some inode => t.texts inode
  | none => ""

def truncate (t : FileTable) (fd : Nat) : FileTable :=
  match t.descriptors fd with
  | some inode => t.setText inode ""
  | none => t

def writeAt (t : FileTable) (fd : Nat) (text : String) : FileTable :=
  match t.descriptors fd with
  | some inode => t.setText inode (String.ofList (text.toList ++ (t.texts inode).toList.drop text.length))
  | none => t

/-- Takes the exclusive flock of the file open on a descriptor without
waiting; `none` while another descriptor holds it. -/
def flock (t : FileTable) (fd : Nat) : Option FileTable :=
  match t.descriptors fd with
  | none => none
  | some inode =>
    match t.flocks inode with
    | some holder => if holder = fd then some t else none
    | none => some { t with flocks := fun i => if i = inode then some fd else t.flocks i }

/-- Lets go of the flock a descriptor holds, if it holds one. -/
def unflock (t : FileTable) (fd : Nat) : FileTable :=
  match t.descriptors fd with
  | some inode =>
    if t.flocks inode = some fd then { t with flocks := fun i => if i = inode then none else t.flocks i }
    else t
  | none => t

def close (t : FileTable) (fd : Nat) : FileTable :=
  { t.unflock fd with descriptors := fun d => if d = fd then none else t.descriptors d }

end FileTable

end Acquisition
