import CommandShell.Text.Basic

/-!
Paths. A path as it is typed is a text; a `Path` has its parts apart, without empty ones and without
those that mean the same folder. A part `..` stays, because it is not known where a link leads.
-/

namespace CommandShell

/-- A path by its parts. The root is empty for a path that starts at the current folder. -/
structure Path where
  root : Text
  parts : List Text
  deriving DecidableEq, Repr

namespace Path

/-- Whether a typed path starts at the root. -/
def isAbsolute (path : Text) : Bool := path.head? = some '/'

/-- A typed path behind another one, unless it starts at the root itself. -/
def join (base path : Text) : Text :=
  if isAbsolute path then path
  else if base.isEmpty || base.getLast? = some '/' then base ++ path
  else base ++ '/' :: path

/-- The root of a typed path: two slashes are a root of their own, and more than two are one. -/
def rootOf (path : Text) : Text :=
  match path.takeWhile (· = '/') with
  | [] => []
  | ['/', '/'] => "//"
  | _ => "/"

def partsOf (path : Text) : List Text :=
  (Text.splitOn '/' path).filter fun part => !part.isEmpty && part ≠ ['.']

def ofText (path : Text) : Path := ⟨rootOf path, partsOf path⟩

/-- A path as text. The current folder is a dot. -/
def text (path : Path) : Text :=
  match path.root, path.parts with
  | [], [] => "."
  | root, parts => root ++ Text.join "/" parts

def child (path : Path) (name : Text) : Path := { path with parts := path.parts ++ [name] }

def parent (path : Path) : Path := { path with parts := path.parts.dropLast }

/-- A path behind another one, unless it starts at the root itself. -/
def append (base path : Path) : Path :=
  if path.root.isEmpty then { base with parts := base.parts ++ path.parts } else path

end Path

end CommandShell
