import DocLinks.FileSystem
import DocLinks.Text.Utf8

namespace DocLinks

inductive DiskNode where
  | file (bytes : List UInt8)
  /-- Exists, and cannot be opened. -/
  | socket
  | link (target : Text)
  | directory (entries : List (Text × DiskNode))

namespace DiskNode

def entry? (name : Text) : DiskNode → Option DiskNode
  | .directory entries => entries.lookup name
  | _ => none

/-- The node at a list of names, links not followed. -/
def at? : List Text → DiskNode → Option DiskNode
  | [], node => some node
  | name :: names, node => (node.entry? name).bind (at? names)

def isDirectory : DiskNode → Bool
  | .directory _ => true
  | _ => false

/-- The entries of a directory; a node of another kind has none. -/
def entries : DiskNode → List (Text × DiskNode)
  | .directory entries => entries
  | _ => []

/-- Puts a node at a list of names, or takes away what is there. Directories on the way are made
when a node is put. -/
def update (new : Option DiskNode) : List Text → DiskNode → DiskNode
  | [], node => new.getD node
  | [name], node =>
      let others := node.entries.filter fun entry => entry.1 ≠ name
      match new with
      | some new => .directory ((name, new) :: others)
      | none => .directory others
  | name :: names, node =>
      let others := node.entries.filter fun entry => entry.1 ≠ name
      match node.entry? name, new with
      | some child, _ => .directory ((name, update new names child) :: others)
      | none, some _ => .directory ((name, update new names (.directory [])) :: others)
      | none, none => node

end DiskNode

/-- A disk, by the directory at its root. -/
structure Disk where
  root : DiskNode

namespace Disk

def empty : Disk :=
  ⟨.directory []⟩

/-- The names of a path, empty ones left out. A separator at the end asks for a directory, as a
dot behind it would. -/
def namesOf (t : Text) : List Text :=
  let names := (Text.splitAll '/' t).filter fun name => !name.isEmpty
  if !names.isEmpty ∧ t.getLast? = some '/' then names ++ [['.']] else names

def maxName : Nat := 255

/-- The bytes that the longest path takes, its end mark included. -/
def maxPath : Nat := 4096

def maxLinks : Nat := 40

/-- Walks the names from the directory `here`, whose names are listed from the last to the first,
and follows at most `links` symbolic links. -/
def walk (disk : Disk) (links : Nat) (here : List Text) (names : List Text) :
    Except ReadFailure DiskNode :=
  match disk.root.at? here.reverse with
  | none => .error .noSuchFile
  | some node =>
      match names with
      | [] => .ok node
      | name :: names =>
          if !node.isDirectory then .error .notADirectory
          else if name = ['.'] then disk.walk links here names
          else if name = ['.', '.'] then disk.walk links here.tail names
          else if maxName < Text.utf8Length name then .error .nameTooLong
          else
            match node.entry? name with
            | none => .error .noSuchFile
            | some (.link target) =>
                match links with
                | 0 => .error .tooManyLinks
                | links + 1 =>
                    disk.walk links (if target.head? = some '/' then [] else here)
                      (namesOf target ++ names)
            | some _ => disk.walk links (name :: here) names
  termination_by (links, names.length)

def find (disk : Disk) (path : Path) : Except ReadFailure DiskNode :=
  if '\x00' ∈ path.text then .error .interiorNul
  else if maxPath ≤ Text.utf8Length path.text then .error .nameTooLong
  else if path.text = [] then .error .noSuchFile
  else disk.walk maxLinks [] (namesOf path.text)

/-- What a program sees of the disk. -/
def fileSystem (disk : Disk) : FileSystem where
  isPresent path := (disk.find path).toBool
  isDirectory path :=
    match disk.find path with
    | .ok node => node.isDirectory
    | .error _ => false
  readBytes path :=
    match disk.find path with
    | .error failure => .error failure
    | .ok (.file bytes) => .ok bytes
    | .ok (.directory _) => .error .isADirectory
    | .ok .socket => .error .noSuchDevice
    | .ok (.link _) => .error .noSuchFile

def write (disk : Disk) (path : Path) (node : DiskNode) : Disk :=
  ⟨disk.root.update (some node) (namesOf path.text)⟩

def remove (disk : Disk) (path : Path) : Disk :=
  ⟨disk.root.update none (namesOf path.text)⟩

end Disk

end DocLinks
