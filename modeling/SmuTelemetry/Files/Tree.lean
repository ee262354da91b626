import SmuTelemetry.Error
import SmuTelemetry.Files.Content
import SmuTelemetry.Text.Blank

/-!
A tree of files. Directories, files and a few devices have a place in the tree; the
contents of a file are kept apart from its place, under an identity that is never used
again, so an open file outlives its removal from the tree.
-/

namespace SmuTelemetry

set_option autoImplicit false

/-- Where a node is: the names from the top of the tree down. -/
abbrev Place := List String

abbrev FileId := Nat

inductive Device where
  /-- Takes all writes and reads as empty. -/
  | null
  /-- Takes all writes and reads as zeros. -/
  | zero
  /-- Refuses all writes and reads as zeros. -/
  | full
deriving DecidableEq, Repr

inductive Node where
  | directory
  | file (id : FileId)
  | device (device : Device)
deriving DecidableEq, Repr

structure FileTree where
  /-- All nodes below the top, older ones first. -/
  nodes : List (Place × Node) := []
  /-- Where paths without a leading slash start. -/
  workingPlace : Place := []
  contents : FileId → Content := fun _ => Content.filled 0 0
  /-- Identities from this one on are unused. -/
  nextId : FileId := 0

inductive Change where
  | store (path : String) (content : Content)
  | makeDirectory (path : String)
  | linkDevice (path : String) (device : Device)
  | remove (path : String)

namespace FileTree

/-- The node at a place; the top of the tree is a directory. -/
def node? (tree : FileTree) (place : Place) : Option Node :=
  if place = [] then some .directory else tree.nodes.lookup place

def parts (path : String) : List String :=
  (Text.splitOn '/' path.toList).map String.ofList

def maxPathSize : Nat := 4095

def maxNameSize : Nat := 255

/-- Follows one part of a path from a place. Every place but the last must be a directory;
an empty part and a single point stay where they are, and only a directory looks at the
size of a name. -/
def follow (tree : FileTree) (place : Place) (part : String) : Except OsError Place :=
  match tree.node? place with
  | some .directory =>
      if part = "" ∨ part = "." then .ok place
      else if part = ".." then .ok place.dropLast
      else if maxNameSize < part.utf8ByteSize then .error .nameTooLong
      else
        let next := place ++ [part]
        if (tree.node? next).isSome then .ok next else .error .noEntry
  | some _ => .error .notDirectory
  | none => .error .noEntry

def start (tree : FileTree) (path : String) : Place :=
  if path.toList.head? = some '/' then [] else tree.workingPlace

/-- The place that a path leads to. A path as such is checked before any part of it. -/
def place (tree : FileTree) (path : String) : Except Fault Place :=
  if path.toList.contains (Char.ofNat 0) then .error .zeroInPath
  else if path = "" then .error (.os .noEntry)
  else if maxPathSize < path.utf8ByteSize then .error (.os .nameTooLong)
  else ((parts path).foldlM tree.follow (tree.start path)).mapError Fault.os

def resolve (tree : FileTree) (path : String) : Except Fault Node :=
  match tree.place path with
  | .error fault => .error fault
  | .ok place => match tree.node? place with
    | some node => .ok node
    | none => .error (.os .noEntry)

def exists? (tree : FileTree) (path : String) : Bool := (tree.resolve path).toOption.isSome

def namesIn (tree : FileTree) (place : Place) : List String :=
  tree.nodes.filterMap fun entry =>
    match entry.1.getLast? with
    | some name => if entry.1.dropLast = place then some name else none
    | none => none

/-- The place a path stands for when nothing of it need exist. -/
def target (tree : FileTree) (path : String) : Place :=
  tree.start path ++ (parts path).filter fun part => part ≠ "" ∧ part ≠ "."

def add (tree : FileTree) (place : Place) (node : Node) : FileTree :=
  if (tree.node? place).isSome then tree
  else { tree with nodes := tree.nodes ++ [(place, node)] }

def makeDirectories (tree : FileTree) (place : Place) : FileTree :=
  (List.range place.length).foldl
    (fun tree depth => tree.add (place.take (depth + 1)) .directory) tree

def setContent (tree : FileTree) (id : FileId) (content : Content) : FileTree :=
  { tree with contents := fun other => if other = id then content else tree.contents other }

/-- Writes a whole file. A file that exists keeps its identity, so those who hold it open see
the new contents; a device takes the bytes. -/
def store (tree : FileTree) (place : Place) (content : Content) : FileTree :=
  let tree := tree.makeDirectories place.dropLast
  match tree.node? place with
  | some (.file id) => tree.setContent id content
  | some _ => tree
  | none =>
      let id := tree.nextId
      { (tree.setContent id content).add place (.file id) with nextId := id + 1 }

def remove (tree : FileTree) (place : Place) : FileTree :=
  { tree with nodes := tree.nodes.filter fun entry => !place.isPrefixOf entry.1 }

def apply (tree : FileTree) : Change → FileTree
  | .store path content => tree.store (tree.target path) content
  | .makeDirectory path => tree.makeDirectories (tree.target path)
  | .linkDevice path device =>
      let place := tree.target path
      (tree.makeDirectories place.dropLast).add place (.device device)
  | .remove path => tree.remove (tree.target path)

/-- The tree with a directory made and taken as the place where relative paths start. -/
def enter (tree : FileTree) (path : String) : FileTree :=
  let place := tree.target path
  { tree.makeDirectories place with workingPlace := place }

end FileTree

end SmuTelemetry
