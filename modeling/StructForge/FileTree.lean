import StructForge.Nesting
import StructForge.Text.Utf8

/-!
# Files and directories

A tree of files and directories, named by paths. A path is followed part by part as far as there is something: every
part but the last has to be a directory, and a part of more than 255 bytes is refused, as is a path of 4096 or more.
`find` says what a path leads to, and where it ends if it leads nowhere. Writing a file makes the directories it needs
from there on, up to `maxNewDirectories` of them.

The tree only knows what it is told of: a path that leads out of it names nothing.
-/

namespace StructForge

open Text

/-! ## Paths -/

/-- A path: its root, which is empty for a path from the working directory, and its parts. -/
structure Path where
  root : Text
  parts : List Text
  deriving DecidableEq

namespace Path

/-- The path of a text. Empty parts and single dots do not count, and two slashes in front are a root of their own. -/
def ofText (t : Text) : Path :=
  let root : Text :=
    match t with
    | '/' :: '/' :: '/' :: _ => "/"
    | '/' :: '/' :: _ => "//"
    | '/' :: _ => "/"
    | _ => ""
  ⟨root, (splitOn '/' t).filter fun part => part ≠ [] && part ≠ ['.']⟩

/-- The text of a path. -/
def text (p : Path) : Text :=
  match p.root ++ join "/" p.parts with
  | [] => "."
  | t => t

/-- A path from another; a path with a root stays as it is. -/
def append (base p : Path) : Path := if p.root.isEmpty then ⟨base.root, base.parts ++ p.parts⟩ else p

/-- The path of the directory that a path lies in. -/
def parent (p : Path) : Path := ⟨p.root, p.parts.dropLast⟩

/-- The path of something in the directory that a path names. -/
def child (p : Path) (part : Text) : Path := ⟨p.root, p.parts ++ [part]⟩

end Path

/-! ## Trees -/

/-- What a path can name. -/
inductive Node where
  | directory
  | file (content : Utf8.Bytes)
  deriving DecidableEq

/-- Files and directories with their paths, the latest first. The directories above each are in the tree without
being listed. -/
structure FileTree where
  entries : List (Path × Node) := []

/-- Why a path cannot be followed or a file cannot be written. -/
inductive PathFault where
  | missing
  | exists
  | notADirectory
  | isADirectory
  | nameTooLong
  deriving DecidableEq

/-- A fault, and the path at which it shows. -/
structure PathError where
  fault : PathFault
  path : Path
  deriving DecidableEq

/-- Why a file is not written. -/
inductive WriteFailure where
  | refused (error : PathError)
  | tooDeep
  deriving DecidableEq

/-- The number of a fault. -/
def PathFault.number : PathFault → Nat
  | .missing => 2
  | .exists => 17
  | .notADirectory => 20
  | .isADirectory => 21
  | .nameTooLong => 36

/-- The description of a fault. -/
def PathFault.description : PathFault → Text
  | .missing => "No such file or directory"
  | .exists => "File exists"
  | .notADirectory => "Not a directory"
  | .isADirectory => "Is a directory"
  | .nameTooLong => "File name too long"

/-- The complaint about a path. -/
def PathError.message (e : PathError) : Text :=
  "[Errno " ++ ofNat e.fault.number ++ "] " ++ e.fault.description ++ ": " ++ quoted e.path.text

namespace FileTree

/-- What is at a place, which is a path without `..`. -/
def at? (tree : FileTree) (place : Path) : Option Node :=
  match tree.entries.find? (·.1 = place) with
  | some (_, node) => some node
  | none =>
    if place.parts.isEmpty then some .directory
    else if tree.entries.any fun (p, _) => p.root = place.root && place.parts.isPrefixOf p.parts then some .directory
    else none

/-- The greatest length of a part in bytes. -/
def maxPartLength : Nat := 255

/-- Whether a part has too many bytes. -/
def isTooLongPart (part : Text) : Bool := (Utf8.encode part).length > maxPartLength

/-- Whether a place is the working directory, above which nothing is known. -/
def isStart (place : Path) : Bool := place.root.isEmpty && place.parts.isEmpty

/-- What following a path leads to. -/
inductive Found where
  | directory (place : Path)
  | file (place : Path) (content : Utf8.Bytes)
  /-- Nothing: the first of the parts that are left is not in the directory. -/
  | missing (directory : Path) (left : List Text)
  deriving DecidableEq

/-- Follows parts from the directory at a place. -/
def follow (tree : FileTree) (place : Path) : List Text → Except PathFault Found
  | [] => .ok (.directory place)
  | part :: rest =>
    if part = ['.', '.'] then
      if isStart place then .ok (.missing place (part :: rest)) else tree.follow place.parent rest
    else if isTooLongPart part then .error .nameTooLong
    else
      match tree.at? (place.child part) with
      | none => .ok (.missing place (part :: rest))
      | some .directory => tree.follow (place.child part) rest
      | some (.file content) =>
        if rest.isEmpty then .ok (.file (place.child part) content) else .error .notADirectory

/-- A bound for the length of the text of a path in bytes. -/
def maxPathLength : Nat := 4096

/-- What a path leads to. -/
def find (tree : FileTree) (p : Path) : Except PathFault Found :=
  if (Utf8.encode p.text).length ≥ maxPathLength then .error .nameTooLong else tree.follow ⟨p.root, []⟩ p.parts

/-! ## Writing -/

/-- The tree with something at a place. -/
def insert (tree : FileTree) (place : Path) (node : Node) : FileTree := ⟨(place, node) :: tree.entries⟩

/-- The tree with a directory at a place, if that is new. -/
def insertNew (tree : FileTree) (isNew : Bool) (place : Path) : FileTree :=
  if isNew then tree.insert place .directory else tree

/-- Makes directories one below the other from the directory at a place, which may be new itself and is then not in the
tree yet; `shown` is the path that led to it. -/
def makeBelow (tree : FileTree) (shown place : Path) (isNew : Bool) : List Text → Except PathError FileTree
  | [] => .ok (tree.insertNew isNew place)
  | part :: rest =>
    if part = ['.', '.'] then
      if isStart place then .error ⟨.missing, shown.child part⟩
      else makeBelow (tree.insertNew isNew place) (shown.child part) place.parent false rest
    else if isTooLongPart part then .error ⟨.nameTooLong, shown.child part⟩
    else
      match if isNew then none else tree.at? (place.child part) with
      | none => makeBelow tree (shown.child part) (place.child part) true rest
      | some .directory => makeBelow tree (shown.child part) (place.child part) false rest
      | some (.file _) => .error ⟨.exists, shown.child part⟩

/-- How many directories are made one below the other. -/
def maxNewDirectories : Nat := 990

/-- The tree with a directory, and those above it. -/
def makeDirectories (tree : FileTree) (p : Path) : Except WriteFailure FileTree :=
  match tree.find p with
  | .error fault => .error (.refused ⟨fault, p⟩)
  | .ok (.directory _) => .ok tree
  | .ok (.file _ _) => .error (.refused ⟨.exists, p⟩)
  | .ok (.missing place left) =>
    if left.length > maxNewDirectories then .error .tooDeep
    else
      let shown : Path := ⟨p.root, p.parts.take (p.parts.length - left.length)⟩
      (tree.makeBelow shown place false left).mapError .refused

/-- The tree with the directories that `makeBelow` makes, as far as it gets. -/
def reachBelow (tree : FileTree) (place : Path) (isNew : Bool) : List Text → FileTree
  | [] => tree.insertNew isNew place
  | part :: rest =>
    if part = ['.', '.'] then
      if isStart place then tree.insertNew isNew place
      else reachBelow (tree.insertNew isNew place) place.parent false rest
    else if isTooLongPart part then tree.insertNew isNew place
    else
      match if isNew then none else tree.at? (place.child part) with
      | none => reachBelow tree (place.child part) true rest
      | some .directory => reachBelow tree (place.child part) false rest
      | some (.file _) => tree.insertNew isNew place

/-- The tree with the directories that `makeDirectories` makes, as far as it gets. -/
def reachDirectories (tree : FileTree) (p : Path) : FileTree :=
  match tree.find p with
  | .ok (.missing place left) => if left.length > maxNewDirectories then tree else tree.reachBelow place false left
  | _ => tree

/-- The tree with a file of some content in a directory that exists. -/
def writeInPlace (tree : FileTree) (p : Path) (content : Text) : Except PathFault FileTree :=
  match tree.find p with
  | .error fault => .error fault
  | .ok (.directory _) => .error .isADirectory
  | .ok (.file place _) => .ok (tree.insert place (.file (Utf8.encode content)))
  | .ok (.missing place [part]) => .ok (tree.insert (place.child part) (.file (Utf8.encode content)))
  | .ok (.missing _ _) => .error .missing

/-! ## Changes -/

/-- The files of a tree, each once and with its latest content. -/
def files (tree : FileTree) : List (Path × Utf8.Bytes) :=
  (tree.entries.map (·.1)).eraseDups.filterMap fun place =>
    match tree.at? place with
    | some (.file content) => some (place, content)
    | _ => none

/-- The files of a tree that are not in an older one with the same content. -/
def changedSince (tree old : FileTree) : List (Path × Utf8.Bytes) :=
  tree.files.filter fun (place, content) => old.at? place ≠ some (.file content)

end FileTree

end StructForge
