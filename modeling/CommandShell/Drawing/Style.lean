import CommandShell.Drawing.Colour
import CommandShell.Drawing.StyleNames
import CommandShell.Table

/-!
Styles of text. A style sets a colour, a colour behind the letters, and switches kinds of emphasis
on or off; what it does not set it leaves to the style below it. A style is written as words.
-/

namespace CommandShell

/-- What a style can switch on or off. -/
inductive Emphasis
  | bold
  | dim
  | italic
  | underline
  | blink
  | fastBlink
  | reverse
  | conceal
  | strike
  | doubleUnderline
  | frame
  | encircle
  | overline
  deriving DecidableEq, Repr

namespace Emphasis

/-- The kinds of emphasis in the order in which a terminal is told of them. -/
def all : List Emphasis :=
  [bold, dim, italic, underline, blink, fastBlink, reverse, conceal, strike, doubleUnderline, frame,
   encircle, overline]

def name : Emphasis → Text
  | bold => "bold"
  | dim => "dim"
  | italic => "italic"
  | underline => "underline"
  | blink => "blink"
  | fastBlink => "blink2"
  | reverse => "reverse"
  | conceal => "conceal"
  | strike => "strike"
  | doubleUnderline => "underline2"
  | frame => "frame"
  | encircle => "encircle"
  | overline => "overline"

def code : Emphasis → Text
  | bold => "1"
  | dim => "2"
  | italic => "3"
  | underline => "4"
  | blink => "5"
  | fastBlink => "6"
  | reverse => "7"
  | conceal => "8"
  | strike => "9"
  | doubleUnderline => "21"
  | frame => "51"
  | encircle => "52"
  | overline => "53"

def shortNames : Table Emphasis :=
  [("d", dim), ("b", bold), ("i", italic), ("u", underline), ("r", reverse), ("c", conceal),
   ("s", strike), ("uu", doubleUnderline), ("o", overline)]

def ofWord? (word : Text) : Option Emphasis :=
  (all.find? fun emphasis => emphasis.name = word).orElse fun () => shortNames.get? word

end Emphasis

/-- A style. -/
structure Style where
  colour : Option Colour := none
  behind : Option Colour := none
  emphases : Emphasis → Option Bool := fun _ => none
  link : Option Text := none

namespace Style

def plain : Style := {}

/-- The style that only sets a numbered colour. -/
def ofColour (name : Text) (number : Nat) : Style := { colour := some ⟨name, .numbered number⟩ }

/-- The style with a kind of emphasis switched. -/
def switch (style : Style) (emphasis : Emphasis) (on : Bool) : Style :=
  { style with
    emphases := fun other => if other = emphasis then some on else style.emphases other }

/-- Whether a style sets nothing. -/
def isPlain (style : Style) : Bool :=
  style.colour.isNone && style.behind.isNone && style.link.isNone &&
    Emphasis.all.all fun emphasis => (style.emphases emphasis).isNone

/-- A style with another one over it. -/
def under (style above : Style) : Style where
  colour := above.colour.orElse fun () => style.colour
  behind := above.behind.orElse fun () => style.behind
  emphases emphasis := (above.emphases emphasis).orElse fun () => style.emphases emphasis
  link := above.link.orElse fun () => style.link

/-- The style as words: its emphasis, its colours and its link. -/
def name (style : Style) : Text :=
  let emphases := Emphasis.all.flatMap fun emphasis =>
    match style.emphases emphasis with
    | none => []
    | some true => [emphasis.name]
    | some false => [("not " : Text) ++ emphasis.name]
  let behind := style.behind.map fun colour => ("on " : Text) ++ colour.name
  let link := style.link.map fun link => ("link " : Text) ++ link
  match emphases ++ (style.colour.map (·.name)).toList ++ behind.toList ++ link.toList with
  | [] => "none"
  | words => Text.join " " words

/-- The codes that set a style on a terminal. Links are not shown. -/
def codes (style : Style) : List Text :=
  ((Emphasis.all.filter fun emphasis => style.emphases emphasis = some true).map
      Emphasis.code) ++
    ((style.colour.map fun colour => colour.codes false).getD []) ++
    ((style.behind.map fun colour => colour.codes true).getD [])

/-- A text between the codes that set a style and the code that ends it. -/
def wrap (style : Style) (t : Text) : Text :=
  if t.isEmpty || style.codes.isEmpty then t
  else "\x1b[" ++ Text.join ";" style.codes ++ 'm' :: t ++ "\x1b[0m"

/-- The colour that a word names; `place` says for messages what it would have been. -/
def readColour (word place : Text) : Except StyleProblem Colour :=
  (Colour.read word).mapError fun
    | .unknown reason =>
      .unknown ("unable to parse " ++ Text.quoted word ++ " as " ++ place ++ "; " ++ reason)
    | problem => problem

/-- Adds what words say to a style, or says what is wrong with them. -/
def addWords (style : Style) : List Text → Except StyleProblem Style
  | [] => .ok style
  | word :: rest =>
    let lower := Text.lowercase word
    if lower = "on".toList then
      match rest with
      | [] => .error (.unknown "color expected after 'on'")
      | colour :: rest =>
        match readColour colour "background color" with
        | .ok colour => { style with behind := some colour }.addWords rest
        | .error problem => .error problem
    else if lower = "not".toList then
      match rest with
      | [] => .error (.unknown "expected style attribute after 'not', found ''")
      | word :: rest =>
        match Emphasis.ofWord? word with
        | some emphasis => (style.switch emphasis false).addWords rest
        | none =>
          .error (.unknown ("expected style attribute after 'not', found " ++ Text.quoted word))
    else if lower = "link".toList then
      match rest with
      | [] => .error (.unknown "URL expected after 'link'")
      | link :: rest => { style with link := some link }.addWords rest
    else
      match Emphasis.ofWord? lower with
      | some emphasis => (style.switch emphasis true).addWords rest
      | none =>
        match readColour lower "color" with
        | .ok colour => { style with colour := some colour }.addWords rest
        | .error problem => .error problem

/-- The style that words describe, or what is wrong with them. -/
def read (words : Text) : Except StyleProblem Style :=
  if Text.trim words = "none".toList then .ok plain else plain.addWords (Text.words words)

/-- The style of a name, or the one that words describe. -/
def find (given : Text) : Except StyleProblem Style := read (StyleName.words given)

/-- The style of a name or of words; the plain style for words that are not understood. -/
def findOrPlain (given : Text) : Except Fault Style :=
  match find given with
  | .ok style => .ok style
  | .error (.unknown _) => .ok plain
  | .error (.badNumber written) => .error (.notNumber written)

/-- The style of a name or of words, which must be one. -/
def findExactly (given : Text) : Except Fault Style :=
  (find given).mapError (StyleProblem.fault fun reason =>
    .missingStyle ("Failed to get style " ++ Text.quoted given ++ "; " ++ reason))

/-- Words in the form that `name` gives them; words that are not understood in small letters. -/
def normalize (words : Text) : Except Fault Text :=
  match read words with
  | .ok style => .ok style.name
  | .error (.unknown _) => .ok (Text.lowercase (Text.trim words))
  | .error (.badNumber written) => .error (.notNumber written)

end Style

end CommandShell
