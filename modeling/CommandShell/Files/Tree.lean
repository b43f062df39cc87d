import CommandShell.Files.Path
import CommandShell.Text.Utf8

/-!
The files of a system. A place is the list of names that leads to a node from the root; a node is a
folder, a file or a link. A closed folder can be neither listed nor entered, and a closed file
cannot be opened.
-/

namespace CommandShell

/-- The names that lead to a node from the root. -/
abbrev Place := List Text

/-- What may be done with a file. -/
inductive Access
  | plain
  | program
  | closed
  deriving DecidableEq, Repr

/-- What can stand at a place. -/
inductive Node
  | folder (closed : Bool)
  | file (content : Bytes) (access : Access)
  | link (target : Text)
  deriving DecidableEq, Repr

/-- The nodes of a system, and the folder where paths without a root start. -/
structure Files where
  nodes : List (Place × Node) := []
  here : Place := []
  deriving Repr

namespace Files

/-- The node at a place. There is always a root. -/
def node? (files : Files) (place : Place) : Option Node :=
  if place = [] then some (.folder false)
  else (files.nodes.find? (·.1 = place)).map (·.2)

def put (files : Files) (place : Place) (node : Node) : Files :=
  if files.nodes.any (·.1 = place) then
    { files with
      nodes := files.nodes.map fun entry => if entry.1 = place then (place, node) else entry }
  else { files with nodes := files.nodes ++ [(place, node)] }

/-- The files without a place and all that lies in it. -/
def prune (files : Files) (place : Place) : Files :=
  { files with nodes := files.nodes.filter fun entry => !place.isPrefixOf entry.1 }

/-- The names and nodes in a folder, in the order of their names. -/
def entries (files : Files) (place : Place) : List (Text × Node) :=
  let inside := files.nodes.filterMap fun (other, node) =>
    match other.getLast? with
    | some name => if other.dropLast = place then some (name, node) else none
    | none => none
  inside.mergeSort fun a b => Text.ble a.1 b.1

def placeText (place : Place) : Text := '/' :: Text.join "/" place

def hereText (files : Files) : Text := placeText files.here

/-- The files with a folder at a place and at each place on the way to it where there is nothing. -/
def plantFolders (files : Files) : (front rest : Place) → Files
  | _, [] => files
  | front, name :: rest =>
    let place := front ++ [name]
    let files := if (files.node? place).isNone then files.put place (.folder false) else files
    plantFolders files place rest

/-- The files with a node planted at a place, and folders on the way to it. A folder planted over a
folder keeps what lies in it. -/
def plant (files : Files) (place : Place) (node : Node) : Files :=
  let files := files.plantFolders [] place.dropLast
  match files.node? place, node with
  | some (.folder _), .folder false => files
  | some (.folder _), .folder true => files.put place node
  | some (.folder _), _ => (files.prune place).put place node
  | _, _ => files.put place node

end Files

end CommandShell
