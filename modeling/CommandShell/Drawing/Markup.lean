import CommandShell.Drawing.Constant
import CommandShell.Drawing.StyledText
import CommandShell.Drawing.Symbols
import CommandShell.Fault

/-!
Markup: text with tags in square brackets. A tag opens a style, a tag with a slash closes the style
that it names or the latest one, and a backslash before a bracket takes its meaning away. Symbols
are written by name.
-/

namespace CommandShell.Markup

/-- A part of a text with markup: text that may hold names of symbols, or a tag with the offset that
it stands at. -/
inductive Part
  | plain (text : Text)
  | literal (text : Text)
  | tag (offset : Nat) (name : Text) (parameter : Option Text)
  deriving DecidableEq, Repr

def startsTag (c : Char) : Bool :=
  ('a' ≤ c && c ≤ 'z') || c == '#' || c == '/' || c == '@'

/-- The tag behind an opening bracket, and what follows its closing bracket. -/
def tag? : Text → Option (Text × Text)
  | [] => none
  | c :: t =>
    if startsTag c then
      let body := t.takeWhile fun d => d != '[' && d != ']'
      match t.drop body.length with
      | ']' :: rest => some (c :: body, rest)
      | _ => none
    else none

theorem length_lt_of_tag? {t tag rest : Text} (found : tag? t = some (tag, rest)) :
    rest.length < t.length := by
  cases t with
  | nil => simp [tag?] at found
  | cons c t =>
    unfold tag? at found
    dsimp only at found
    split at found
    · split at found
      · next later here =>
        obtain ⟨-, rfl⟩ : _ = tag ∧ later = rest := by simpa using found
        have same := congrArg List.length here
        simp only [List.length_drop, List.length_cons] at same ⊢
        omega
      · simp at found
    · simp at found

/-- A tag by what stands between its brackets. -/
def ofBody (offset : Nat) (body : Text) : Part :=
  match Text.partition? "=" body with
  | some (name, parameter) => .tag offset name (some parameter)
  | none => .tag offset body none

/-- A tag behind backslashes. Two of them stand for one, and one before the bracket makes the tag
text. -/
def escaped (offset slashes : Nat) (body : Text) : List Part :=
  (if slashes / 2 = 0 then [] else [.literal (List.replicate (slashes / 2) '\\')]) ++
    [if slashes % 2 = 1 then .literal ('[' :: body ++ [']']) else ofBody (offset + slashes) body]

/-- Parts with a character in front that belongs to no tag. -/
def consPlain (c : Char) : List Part → List Part
  | .plain t :: parts => .plain (c :: t) :: parts
  | parts => .plain [c] :: parts

/-- The tag that a text starts with, with the number of backslashes before it, and what follows. -/
def leadingTag? (t : Text) : Option (Nat × Text × Text) :=
  let slashes := (t.takeWhile (· = '\\')).length
  match t.drop slashes with
  | '[' :: inner => (tag? inner).map fun (body, rest) => (slashes, body, rest)
  | _ => none

theorem length_lt_of_leadingTag? {t body rest : Text} {slashes : Nat}
    (found : leadingTag? t = some (slashes, body, rest)) : rest.length < t.length := by
  unfold leadingTag? at found
  dsimp only at found
  split at found
  · next inner here =>
    obtain ⟨⟨body', rest'⟩, inside, same⟩ := Option.map_eq_some_iff.mp found
    obtain ⟨-, -, rfl⟩ : _ = slashes ∧ body' = body ∧ rest' = rest := by simpa using same
    have shorter := length_lt_of_tag? inside
    have lengths := congrArg List.length here
    simp only [List.length_drop, List.length_cons] at lengths
    omega
  · simp at found

/-- The parts of a text from an offset on. -/
def partsFrom (offset : Nat) (t : Text) : List Part :=
  match _found : leadingTag? t with
  | some (slashes, body, rest) =>
    escaped offset slashes body ++ partsFrom (offset + slashes + body.length + 2) rest
  | none =>
    match t with
    | [] => []
    | c :: rest => consPlain c (partsFrom (offset + 1) rest)
termination_by t.length
decreasing_by
  · exact length_lt_of_leadingTag? _found
  · simp

def parts (t : Text) : List Part := partsFrom 0 t

/-- A tag that is not closed yet, with the offset in the text without markup that it stands at. -/
structure OpenTag where
  start : Nat
  name : Text
  parameter : Option Text
  deriving DecidableEq, Repr

namespace OpenTag

def words (tag : OpenTag) : Text := tag.name ++ (tag.parameter.map (' ' :: ·)).getD []

/-- Whether a tag has an action in place of a style. -/
def acts (tag : OpenTag) : Bool := tag.name.head? = some '@'

/-- The arguments of the parameter of an action: those in the brackets behind a name, none for a
name alone, and else the whole of it. -/
def arguments (parameter : Text) : Text :=
  let t := Text.trim parameter
  let name := t.takeWhile fun c => Constant.isWordPart c || c == '.'
  match t.drop name.length with
  | [] => "()"
  | '(' :: rest =>
    if rest.getLast? = some ')' && !rest.contains '\n' then '(' :: rest else t
  | _ => t

/-- What is wrong with the action of a tag, if anything is: its arguments must be constants. -/
def mistake? (tag : OpenTag) : Option Text :=
  match tag.parameter with
  | none | some [] => none
  | some parameter =>
    let arguments := arguments parameter
    if !tag.acts || Constant.isConstant arguments then none
    else some ("error parsing " ++ Text.quoted arguments ++ " in " ++ Text.quoted parameter ++
      "; " ++ Constant.mistake arguments)

end OpenTag

/-- A stretch of the text with the words for its style; actions have none. -/
structure Marked where
  start : Nat
  stop : Nat
  words : Text
  deriving DecidableEq, Repr

/-- What has been read: the text, the tags that are open with the latest first, and the stretches of
the closed ones in the order of their closing. -/
structure Reading where
  text : Text := []
  opened : List OpenTag := []
  closed : List Marked := []

namespace Reading

def addText (reading : Reading) (t : Text) : Reading :=
  let shown := Symbol.replaceNames (Text.replace "\\[" "[" t)
  { reading with text := reading.text ++ Text.withoutControls shown }

/-- Takes the latest tag that passes a test from the open ones. -/
def takeFirst? (test : OpenTag → Bool) : List OpenTag → Option (OpenTag × List OpenTag)
  | [] => none
  | tag :: rest =>
    if test tag then some (tag, rest)
    else (takeFirst? test rest).map fun (found, rest) => (found, tag :: rest)

/-- Closes the latest tag that passes a test, unless there is none. -/
def close (reading : Reading) (test : OpenTag → Bool) (mistake : Text) : Except Fault Reading :=
  match takeFirst? test reading.opened with
  | none => .error (.markup mistake)
  | some (tag, opened) =>
    match tag.mistake? with
    | some mistake => .error (.markup mistake)
    | none =>
      let words : Text := if tag.acts then "none" else tag.words
      let ended : Marked := ⟨tag.start, reading.text.length, words⟩
      .ok { reading with opened, closed := reading.closed ++ [ended] }

def addTag (reading : Reading) (offset : Nat) (name : Text) (parameter : Option Text) :
    Except Fault Reading :=
  match name with
  | '/' :: closing =>
    let written := name ++ (parameter.map ('=' :: ·)).getD []
    let start := "closing tag '[" ++ written ++ "]' at position " ++ Text.ofNat offset
    match Text.trim closing with
    | [] =>
      reading.close (fun _ => true)
        ("closing tag '[/]' at position " ++ Text.ofNat offset ++ " has nothing to close")
    | named => do
      let named ← Style.normalize named
      reading.close (·.name = named) (start ++ " doesn't match any open tag")
  | name => do
    let tag : OpenTag := ⟨reading.text.length, ← Style.normalize name, parameter⟩
    return { reading with opened := tag :: reading.opened }

def add (reading : Reading) : Part → Except Fault Reading
  | .plain t | .literal t => .ok (reading.addText t)
  | .tag offset name parameter => reading.addTag offset name parameter

/-- The stretches of a text; tags that are still open reach to its end. -/
def marked (reading : Reading) : List Marked :=
  let opened := reading.opened.map fun tag => ⟨tag.start, reading.text.length, tag.words⟩
  (reading.closed ++ opened).reverse.mergeSort fun a b => a.start ≤ b.start

/-- What keeps a text from being drawn: a style with a number that cannot be read. In a text of
several lines or with tabulators, stretches without characters are not looked at. -/
def flaw? (reading : Reading) : Option Fault :=
  let cuts := reading.text.any fun c => c == '\n' || c == '\t'
  reading.marked.findSome? fun marked =>
    if cuts && marked.stop ≤ marked.start then none
    else match Style.findOrPlain marked.words with
      | .ok _ => none
      | .error fault => some fault

def styled (reading : Reading) : StyledText where
  text := reading.text
  stretches := reading.marked.map fun marked =>
    ⟨marked.start, marked.stop, ((Style.findOrPlain marked.words).toOption).getD .plain⟩
  flaw := reading.flaw?

end Reading

/-- The styled text that a text with markup describes. -/
def read (t : Text) : Except Fault StyledText := do
  let reading ← (parts t).foldlM Reading.add {}
  return reading.styled

def drawing (t : Text) : Except Fault Drawing := StyledText.drawing <$> read t

end CommandShell.Markup
