import CommandShell.Drawing.Markup
import CommandShell.Settings

/-!
Panels: rows in a box with round corners, with a title in the upper edge and a footer in the lower
one. How a panel looks is given by the settings under a name, and what the settings leave open by
the style named `default`.
-/

namespace CommandShell

/-- The fault of a value that is no text where the words of a style are needed. -/
def Json.styleFault (value : Json) : Fault :=
  match value with
  | .list _ | .record _ => .wrongKind ("unhashable type: '" ++ value.kindName ++ "'")
  | value => .lacking ("'" ++ value.kindName ++ "' object has no attribute 'strip'")

/-- A value from the settings as the style of a text. Words that are not understood give none. -/
def Json.textStyle : Json → Except Fault Style
  | .text words => Style.findOrPlain words
  | value => .error value.styleFault

/-- A value from the settings as a style that must be one. -/
def Json.exactStyle : Json → Except Fault Style
  | .text words => Style.findExactly words
  | value => .error value.styleFault

/-- How a panel looks, in values from the settings, and what one drawing can give it besides: a
footer, and a width and a height of its own. -/
structure PanelStyle where
  border : Json
  padding : Option (List Json)
  titleStyle : Json
  titleSide : Json
  expands : Json
  footer : Json := .null
  footerSide : Json := "center"
  width : Json := .null
  height : Json := .null

namespace PanelStyle

def field? (value : Json) (name : Text) : Except Fault (Option Json) :=
  match value with
  | .record fields => .ok (Table.get? fields name)
  | value => .error (.lacking ("'" ++ value.kindName ++ "' object has no attribute 'get'"))

/-- The items of a value that is a row of items. -/
def items : Json → Except Fault (Option (List Json))
  | .null => .ok none
  | .list items => .ok (some items)
  | .text t => .ok (some (t.map fun c => .text [c]))
  | .record fields => .ok (some (fields.map fun (name, _) => .text name))
  | value => .error (.wrongKind ("'" ++ value.kindName ++ "' object is not iterable"))

/-- A panel style by its value and the value to fall back on. -/
def ofValue (value fallback : Json) : Except Fault PanelStyle := do
  let chosen (name : Text) (default : Json) : Except Fault Json := do
    let own ← field? value name
    let other ← field? fallback name
    return (own.orElse fun () => other).getD default
  let padding ← items (← chosen "padding" .null)
  return {
    padding
    border := ← chosen "border_style" "#888888"
    titleStyle := (← field? value "title_style").getD .null
    titleSide := ← chosen "title_align" "left"
    expands := ← chosen "expand" (.bool false) }

def ofName (settings : Settings) (name : Text) : Except Fault PanelStyle :=
  let fallback := ((settings.panelStyles.get? "default").map PanelChoice.json).getD .null
  ofValue (((settings.panelStyles.get? name).map PanelChoice.json).getD fallback) fallback

/-- The padding that one drawing is given: a number for all sides, or a row of numbers. -/
def givenPadding (value : Json) : Except Fault (List Json) := do
  if value.int?.isSome then return [value]
  match ← items value with
  | some items => return items
  | none => .error (.wrongKind ("object of type '" ++ value.kindName ++ "' has no len()"))

/-- A panel style with one value given anew, by the name that the value has in the settings. What
only colours the content changes nothing, and a box of another shape cannot be given. -/
def change (style : PanelStyle) (name : Text) (value : Json) : Except Fault PanelStyle :=
  match String.ofList name with
  | "border_style" => .ok { style with border := value }
  | "padding" => do return { style with padding := some (← givenPadding value) }
  | "title_align" => .ok { style with titleSide := value }
  | "expand" => .ok { style with expands := value }
  | "subtitle" => .ok { style with footer := value }
  | "subtitle_align" => .ok { style with footerSide := value }
  | "width" => .ok { style with width := value }
  | "height" => .ok { style with height := value }
  | "highlight" | "safe_box" => .ok style
  | "box" => .error (.lacking ("'" ++ value.kindName ++ "' object has no attribute 'substitute'"))
  | _ => .error (.wrongKind ("unexpected keyword argument " ++ Text.quoted name))

end PanelStyle

/-- The box of a panel: the style of its edges, the blanks to the left and to the right, the empty
rows above and below, whether blanks are kept at all, and whether the panel takes all the room there
is. Less than no blanks give the content room that is cut off behind it. Of the room in all a panel
may take only a part, and its rows between the edges may be so many. -/
structure Box where
  room : Nat
  border : Style := .plain
  left : Int := 1
  right : Int := 1
  top : Nat := 0
  bottom : Nat := 0
  padded : Bool := true
  expands : Bool := false
  most : Nat := room
  height : Option Nat := none

namespace Box

/-- The blanks above, to the right, below and to the left: one, two or four numbers. -/
def sides : List Json → Except Fault (Json × Json × Json × Json)
  | [all] => .ok (all, all, all, all)
  | [top, right] => .ok (top, right, top, right)
  | [top, right, bottom, left] => .ok (top, right, bottom, left)
  | given => .error (.badValue ("1, 2 or 4 integers required for padding; " ++
      Text.ofNat given.length ++ " given"))

def count (value : Json) : Except Fault Int :=
  match value.int? with
  | some n => .ok n
  | none => .error (.wrongKind "padding must be a number")

/-- A number of rows; what counts as false is none. -/
def rowCount (value : Json) : Except Fault Nat :=
  if value.isTrue then Int.toNat <$> count value else .ok 0

def edge (box : Box) (t : Text) : Row := [⟨box.border, t⟩]

/-- A caption on one line, between blanks. -/
def spaced (box : Box) (caption : StyledText) : StyledText :=
  let oneLine := caption.text.map fun c => if c = '\n' then ' ' else c
  let spaced := (({ caption with text := oneLine } : StyledText).untab.indent 1).extend 1
  { spaced with stretches := ⟨0, spaced.text.length, box.border⟩ :: spaced.stretches }

/-- A caption in so many cells, at a side, with the edge beside it. -/
def placed (box : Box) (side : Json) (room : Nat) (caption : StyledText) : StyledText :=
  let gap := room - caption.cells
  let line (n : Nat) (after : StyledText) : StyledText :=
    after.append (List.replicate n '─') box.border
  let behind (n : Nat) : StyledText :=
    let moved := caption.stretches.map fun stretch =>
      { stretch with start := stretch.start + n, stop := stretch.stop + n }
    let before := line n {}
    { caption with
      text := before.text ++ caption.text, stretches := before.stretches ++ moved }
  match side with
  | .text ['l', 'e', 'f', 't'] => line gap caption
  | .text ['c', 'e', 'n', 't', 'e', 'r'] => line (gap - gap / 2) (behind (gap / 2))
  | _ => behind gap

/-- The cells of an edge that a caption leaves to the edge. -/
def edgeBesideCaption : Nat := 2

/-- An edge between two corners with so many cells between them, and a caption in it if there is one
and it has room. -/
def captioned (box : Box) (width : Nat) (left right : Char) (side : Json) :
    Option StyledText → Row
  | none => box.edge (left :: List.replicate width '─' ++ [right])
  | some caption =>
    if width ≤ edgeBesideCaption then box.edge (left :: List.replicate width '─' ++ [right])
    else
      let room := width - edgeBesideCaption
      box.edge [left, '─'] ++ ((box.placed side room caption).fit room).runs ++
        box.edge ['─', right]

/-- The cells between the side edges. -/
def width (box : Box) (title : Option StyledText) (content : Drawing) : Nat :=
  let most : Int := (box.most - 2 : Nat)
  let extra := box.left + box.right
  let least : Nat :=
    if box.expands || (box.padded && most - extra < 1) then box.most - 2
    else if box.padded then (min most (content.cells + extra)).toNat
    else min (box.most - 2) content.cells
  match title with
  | none => least
  | some title => min (box.room - 2) (max least (title.cells + 2))

/-- Rows of so many cells, as many as they must be: cut off, or with empty ones below. -/
def sized (height : Option Nat) (cells : Nat) (rows : List Row) : List Row :=
  match height with
  | none => rows
  | some n => rows.take n ++ List.replicate (n - rows.length) (Row.blanks .plain cells)

def contentRows (box : Box) (width : Nat) (content : Drawing) : List Row :=
  if width = 0 then []
  else if !box.padded then sized box.height width (content.rowsIn width)
  else
    let blank := Row.blanks .plain width
    let inside := (width - box.left - box.right).toNat
    let rows := sized (box.height.map (· - (box.top + box.bottom))) inside (content.rowsIn inside)
    let lines := rows.map fun row =>
      Row.fit .plain width
        (Row.blanks .plain box.left.toNat ++ row ++ Row.blanks .plain box.right.toNat)
    sized box.height width
      (List.replicate box.top blank ++ lines ++ List.replicate box.bottom blank)

end Box

namespace PanelStyle

/-- The title of a panel: in the style for titles if there is one, else with markup. -/
def title (style : PanelStyle) (t : Text) : Except Fault (Option StyledText) := do
  if t.isEmpty then return none
  if !style.titleStyle.isTrue then return some (← Markup.read t)
  let title := StyledText.ofText t
  return if title.text.isEmpty then none else some title

def footerText (style : PanelStyle) : Except Fault (Option StyledText) :=
  match style.footer with
  | .text [] => .ok none
  | .text t => some <$> Markup.read t
  | value =>
    if value.isTrue then
      .error (.lacking ("'" ++ value.kindName ++ "' object has no attribute 'copy'"))
    else .ok none

/-- The most cells that a panel may take of so much room. -/
def most (style : PanelStyle) (room : Nat) : Except Fault Nat :=
  match style.width with
  | .null => .ok room
  | width => (fun n => min room n.toNat) <$> Box.count width

/-- The rows between the edges, if their number is given. -/
def innerHeight (style : PanelStyle) : Except Fault (Option Nat) :=
  if style.height.isTrue then (fun n => some (n - 2).toNat) <$> Box.count style.height
  else .ok none

/-- The rows of content in a panel with a title, which is left out if it is empty. Of several
mistakes the first one is reported, in the order in which the parts are drawn. -/
def rows (style : PanelStyle) (room : Nat) (title : Text) (content : Except Fault Drawing) :
    Except Fault (List Row) := do
  let (top, right, bottom, left) ← Box.sides (style.padding.getD [.int 0, .int 1])
  let padded := [top, right, bottom, left].any Json.isTrue
  let border ← style.border.exactStyle
  let most ← style.most room
  let title ← style.title title
  let left ← if padded then Box.count left else .ok 0
  let right ← if padded then Box.count right else .ok 0
  let content ← content
  let height ← style.innerHeight
  if let some fault := content.flaw then throw fault
  let top ← Box.rowCount top
  let bottom ← Box.rowCount bottom
  let box : Box :=
    { room, border, left, right, top, bottom, padded, expands := style.expands.isTrue, most, height }
  let caption := title.map box.spaced
  let width := box.width caption content
  if title.isSome && Box.edgeBesideCaption < width then
    if style.titleStyle.isTrue then discard style.titleStyle.exactStyle
    if let some fault := title.bind (·.flaw) then throw fault
  let footer ← style.footerText
  if Box.edgeBesideCaption < width then
    if let some fault := footer.bind (·.flaw) then throw fault
  let lines := (box.contentRows width content).map fun row =>
    box.edge "│" ++ row ++ box.edge "│"
  return box.captioned width '╭' '╮' style.titleSide caption :: lines ++
    [box.captioned width '╰' '╯' style.footerSide (footer.map box.spaced)]

end PanelStyle

end CommandShell
