import CommandShell.Drawing.StyledText

/-!
Trees of labels, drawn with guides from each label to the ones below it.
-/

namespace CommandShell

/-- A label with the trees below it. -/
inductive Tree
  | node (label : StyledText) (children : List Tree)

namespace Tree

def leaf (label : StyledText) : Tree := node label []

/-- Rows behind a guide, which differs between the first row and the others. -/
def guided (first later : Text) : List Row → List Row
  | [] => []
  | row :: rows => (Row.ofText first ++ row) :: rows.map (Row.ofText later ++ ·)

def guideCells : Nat := 4

mutual
/-- The cells that a tree takes, where it has room. -/
def cells : Tree → Nat
  | node label children => max label.drawing.cells (cellsBelow children)

/-- The cells that the trees below a label take with their guides. -/
def cellsBelow : List Tree → Nat
  | [] => 0
  | tree :: trees => max (guideCells + cells tree) (cellsBelow trees)
end

mutual
def rows (room : Nat) : Tree → List Row
  | node label children => label.drawing.rows room ++ rowsBelow (room - guideCells) children

/-- The rows of the trees below a label. -/
def rowsBelow (room : Nat) : List Tree → List Row
  | [] => []
  | [last] => guided "└── " "    " (rows room last)
  | tree :: trees => guided "├── " "│   " (rows room tree) ++ rowsBelow room trees
end

def drawing (tree : Tree) : Drawing where
  cells := tree.cells
  rows room := tree.rows room

end Tree

end CommandShell
