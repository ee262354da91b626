import SmuTelemetry.Files.Tree
import SmuTelemetry.Text.Utf8

/-!
Access to files: whole reads, directory listings, and reads and writes at a position
through an open handle. A handle names what was opened, not the path, so it stays valid
when the tree changes.
-/

namespace SmuTelemetry

set_option autoImplicit false

inductive Handle where
  | file (id : FileId)
  | device (device : Device)
  | directory
deriving DecidableEq, Repr

namespace Handle

def ofNode : Node → Handle
  | .directory => directory
  | .file id => file id
  | .device which => device which

def readAt (tree : FileTree) (handle : Handle) (position count : Nat) : Except OsError Bytes :=
  match handle with
  | file id => .ok ((tree.contents id).read position count)
  | device .null => .ok []
  | device .zero | device .full => .ok (List.replicate count 0)
  | directory => .error .isDirectory

def writeAt (tree : FileTree) (handle : Handle) (position : Nat) (bytes : Bytes) :
    Except OsError Nat × FileTree :=
  match handle with
  | file id => (.ok bytes.length, tree.setContent id ((tree.contents id).write position bytes))
  | device .null | device .zero => (.ok bytes.length, tree)
  | device .full => (.error .noSpace, tree)
  | directory => (.error .isDirectory, tree)

end Handle

namespace FileTree

def openRead (tree : FileTree) (path : String) : Except Fault Handle :=
  (tree.resolve path).map Handle.ofNode

/-- Opens a path for reading and writing, which directories refuse. -/
def openReadWrite (tree : FileTree) (path : String) : Except Fault Handle :=
  match tree.resolve path with
  | .error fault => .error fault
  | .ok .directory => .error (.os .isDirectory)
  | .ok node => .ok (Handle.ofNode node)

/-- All bytes of a file. A device of endless zeros exhausts memory. -/
def readBytes (tree : FileTree) (path : String) : Except Fault Bytes :=
  match tree.resolve path with
  | .error fault => .error fault
  | .ok .directory => .error (.os .isDirectory)
  | .ok (.file id) => .ok (tree.contents id).toBytes
  | .ok (.device .null) => .ok []
  | .ok (.device _) => .error (.os .outOfMemory)

def readText (tree : FileTree) (path : String) : Except Fault (List Char) :=
  match tree.readBytes path with
  | .error fault => .error fault
  | .ok bytes => match Text.Utf8.decode? bytes with
    | some text => .ok text
    | none => .error .notText

def list (tree : FileTree) (path : String) : Except Fault (List String) :=
  match tree.place path with
  | .error fault => .error fault
  | .ok place => match tree.node? place with
    | some .directory => .ok (tree.namesIn place)
    | some _ => .error (.os .notDirectory)
    | none => .error (.os .noEntry)

end FileTree

def joinPath (base name : String) : String :=
  match base.toList.getLast? with
  | none => name
  | some '/' => base ++ name
  | some _ => base ++ "/" ++ name

end SmuTelemetry
