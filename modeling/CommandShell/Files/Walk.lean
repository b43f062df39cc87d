import CommandShell.Files.Tree
import CommandShell.Fault

/-!
Where a path leads. A path is followed name by name from the root or from the current folder. Every
folder on the way must be open, links are followed at their place, and the way back from a folder
leads to the folder it really lies in.
-/

namespace CommandShell.Files

/-- One step along a path. A slash at the end of a path asks for a folder. -/
inductive Step
  | stay
  | up
  | name (name : Text)
  | folder
  deriving DecidableEq, Repr

/-- The steps of a path behind its root. -/
def steps (path : Text) : List Step :=
  let parts := (Text.splitOn '/' path).filter (!·.isEmpty)
  let walked := parts.map fun part =>
    if part = ['.'] then Step.stay else if part = ['.', '.'] then Step.up else Step.name part
  if path.getLast? = some '/' && !parts.isEmpty then walked ++ [.folder] else walked

/-- What is found at the end of a path: a node, or a folder where a name is free. -/
inductive Spot
  | node (place : Place)
  | free (folder : Place) (name : Text)
  deriving DecidableEq, Repr

/-- The bytes that a text takes. -/
def byteSize (t : Text) : Nat := t.foldl (fun size c => size + c.utf8Size) 0

/-- The most bytes of a name. -/
def nameLimit : Nat := 255

/-- A path must have fewer bytes than this. -/
def pathLimit : Nat := 4096

/-- The most links on one way. -/
def linkLimit : Nat := 40

/-- Where a path starts. -/
def start (path : Text) (here : Place) : Place := if Path.isAbsolute path then [] else here

/-- Follows steps from a place up to a link, from where `jump` goes on. A link at the end is followed
only on demand. -/
def pass (files : Files) (follow : Bool) (jump : Place → List Step → Except FileProblem Spot)
    (place : Place) : List Step → Except FileProblem Spot
  | [] => .ok (.node place)
  | step :: rest =>
    match files.node? place, step with
    | some (.folder _), .folder => pass files follow jump place rest
    | some (.folder true), _ => .error .denied
    | some (.folder false), .stay => pass files follow jump place rest
    | some (.folder false), .up => pass files follow jump place.dropLast rest
    | some (.folder false), .name name =>
      if byteSize name > nameLimit then .error .nameTooLong
      else match files.node? (place ++ [name]) with
        | none => if rest.isEmpty then .ok (.free place name) else .error .notFound
        | some (.link target) =>
          if rest.isEmpty && !follow then .ok (.node (place ++ [name]))
          else jump (start target place) (steps target ++ rest)
        | some _ => pass files follow jump (place ++ [name]) rest
    | _, _ => .error .notDirectory

/-- Follows steps from a place, over at most so many links. -/
def walk (files : Files) (follow : Bool) : (links : Nat) → Place → List Step → Except FileProblem Spot
  | 0 => pass files follow fun _ _ => .error .linkLoop
  | links + 1 => pass files follow (walk files follow links)

/-- Where a path leads. -/
def spot (files : Files) (follow : Bool) (path : Text) : Except FileProblem Spot :=
  if path.isEmpty then .error .notFound
  else if byteSize path ≥ pathLimit then .error .nameTooLong
  else walk files follow linkLimit (start path files.here) (steps path)

/-- The place and node at the end of a path, links followed. -/
def find (files : Files) (path : Text) : Except FileProblem (Place × Node) := do
  match ← files.spot true path with
  | .free _ _ => .error .notFound
  | .node place =>
    match files.node? place with
    | some node => return (place, node)
    | none => .error .notFound

/-- Whether there is something at a path. Only problems other than absence are reported. -/
def occupied (files : Files) (path : Text) : Except FileProblem Bool :=
  match files.find path with
  | .ok _ => .ok true
  | .error problem => if problem.meansAbsent then .ok false else .error problem

/-- Whether there is a folder at a path. Only problems other than absence are reported. -/
def folderAt (files : Files) (path : Text) : Except FileProblem Bool :=
  match files.find path with
  | .ok (_, .folder _) => .ok true
  | .ok _ => .ok false
  | .error problem => if problem.meansAbsent then .ok false else .error problem

def isThere (files : Files) (path : Text) : Bool := (files.find path).toOption.isSome

def isFile (files : Files) (path : Text) : Bool :=
  match files.find path with
  | .ok (_, .file _ _) => true
  | _ => false

def isFolder (files : Files) (path : Text) : Bool :=
  match files.find path with
  | .ok (_, .folder _) => true
  | _ => false

/-- Whether a path leads to something that may be executed or entered. -/
def isRunnable (files : Files) (path : Text) : Bool :=
  match files.find path with
  | .ok (_, .file _ access) => access = .program
  | .ok (_, .folder closed) => !closed
  | _ => false

def read (files : Files) (path : Text) : Except FileProblem Bytes := do
  match ← files.find path with
  | (_, .file _ .closed) => .error .denied
  | (_, .file content _) => return content
  | (_, .folder true) => .error .denied
  | (_, .folder false) => .error .isDirectory
  | (_, .link _) => .error .linkLoop

/-- The files with the content of the file at a path changed; a file that is not there is made. -/
def change (files : Files) (path : Text) (edit : Bytes → Bytes) : Except FileProblem Files := do
  match ← files.spot true path with
  | .free folder name => return files.put (folder ++ [name]) (.file (edit []) .plain)
  | .node place =>
    match files.node? place with
    | some (.file _ .closed) => .error .denied
    | some (.file content access) => return files.put place (.file (edit content) access)
    | some (.folder _) => .error .isDirectory
    | _ => .error .notFound

/-- The files with new content in the file at a path. -/
def write (files : Files) (path : Text) (content : Bytes) : Except FileProblem Files :=
  files.change path fun _ => content

/-- The files with content added to the file at a path. -/
def append (files : Files) (path : Text) (content : Bytes) : Except FileProblem Files :=
  files.change path (· ++ content)

def makeFolder (files : Files) (path : Text) : Except FileProblem Files := do
  match ← files.spot false path with
  | .free folder name => return files.put (folder ++ [name]) (.folder false)
  | .node _ => .error .exists

/-- The files with a new folder at a path, unless there is a folder already. -/
def ensureFolder (files : Files) (path : Text) : Except FileProblem Files :=
  match files.makeFolder path with
  | .ok files => .ok files
  | .error .notFound => .error .notFound
  | .error problem => do if ← files.folderAt path then return files else .error problem

/-- The files with folders made at a path and on the way to it, and the path that was refused. What
was made before stays. -/
def ensureFolders (files : Files) (root : Text) :
    (reversed : List Text) → Files × Except (FileProblem × Text) Unit
  | [] =>
    let path := Path.text ⟨root, []⟩
    match files.ensureFolder path with
    | .ok files => (files, .ok ())
    | .error problem => (files, .error (problem, path))
  | name :: above =>
    let path := Path.text ⟨root, (name :: above).reverse⟩
    match files.ensureFolder path with
    | .ok files => (files, .ok ())
    | .error .notFound =>
      match ensureFolders files root above with
      | (files, .error refused) => (files, .error refused)
      | (files, .ok ()) =>
        match files.ensureFolder path with
        | .ok files => (files, .ok ())
        | .error problem => (files, .error (problem, path))
    | .error problem => (files, .error (problem, path))

def list (files : Files) (path : Text) : Except FileProblem (Place × List (Text × Node)) := do
  match ← files.find path with
  | (_, .folder true) => .error .denied
  | (place, .folder false) => return (place, files.entries place)
  | _ => .error .notDirectory

/-- The files with the current folder moved to a path. -/
def enter (files : Files) (path : Text) : Except FileProblem Files := do
  match ← files.find path with
  | (_, .folder true) => .error .denied
  | (place, .folder false) => return { files with here := place }
  | _ => .error .notDirectory

/-- Whether an entry of a folder is a folder, links followed. -/
def entryIsFolder (files : Files) (folder : Text) (name : Text) : Node → Bool
  | .folder _ => true
  | .file _ _ => false
  | .link _ => files.isFolder (Path.join folder name)

/-- Whether an entry of a folder is a file that may be executed, links followed. -/
def entryIsProgram (files : Files) (folder : Text) (name : Text) : Node → Bool
  | .folder _ => false
  | .file _ access => access = .program && files.isRunnable (Path.join folder name)
  | .link _ => files.isFile (Path.join folder name) && files.isRunnable (Path.join folder name)

end CommandShell.Files
