import CommandShell.Text.Basic

/-!
The tokens of a command line. A line is cut into words and operators; spaces separate them and
belong to none. A word may hold quoted regions and escaped characters, which keep spaces and
operators inside it, and its token has the text exactly as it is written. A region that is never
closed ends the reading.
-/

namespace CommandShell

/-- What a token is. -/
inductive TokenKind
  | word
  | pipe
  | readFrom
  | writeTo
  | appendTo
  | background
  | semicolon
  deriving DecidableEq, Repr

namespace TokenKind

/-- Operators that name a file for input or output. -/
def isRedirect : TokenKind → Bool
  | readFrom | writeTo | appendTo => true
  | _ => false

/-- Operators that end a command. -/
def isSeparator : TokenKind → Bool
  | pipe | background | semicolon => true
  | _ => false

end TokenKind

/-- A word or an operator with its place in the line. -/
structure Token where
  kind : TokenKind
  text : Text
  start : Nat
  deriving DecidableEq, Repr

namespace Token

/-- The offset just behind a token. -/
def stop (token : Token) : Nat := token.start + token.text.length

end Token

/-- A quote that is not closed, with its place in the line. -/
structure OpenQuote where
  quote : Char
  position : Nat
  deriving DecidableEq, Repr

namespace OpenQuote

/-- How an unclosed quote is reported. Columns count from one. -/
def message (unclosed : OpenQuote) : Text :=
  "unclosed " ++ [unclosed.quote] ++ " quote starting at column " ++
    Text.ofNat (unclosed.position + 1)

end OpenQuote

/-- The tokens of a line, up to the unclosed quote if there is one. -/
structure Scan where
  tokens : List Token
  unclosed : Option OpenQuote := none
  deriving DecidableEq, Repr

namespace Scan

/-- Characters that separate tokens. -/
def isSpace (c : Char) : Bool :=
  c == ' ' || c == '\t' || c == '\n' || c == '\r' || c == '\x0c' || c == '\x0b'

/-- The operator that a character is on its own. -/
def operator? : Char → Option TokenKind
  | '|' => some .pipe
  | ';' => some .semicolon
  | '&' => some .background
  | '<' => some .readFrom
  | '>' => some .writeTo
  | _ => none

def isQuote (c : Char) : Bool := c == '\'' || c == '"'

/-- The word at the front of a text that starts at an offset, and the text after the word. Inside a
region opened by a quote, only that quote ends it; a backslash takes the next character with it,
except between single quotes, and is an ordinary character at the end of the text. -/
def word (opened : Option OpenQuote) (offset : Nat) : Text → Except OpenQuote (Text × Text)
  | [] =>
    match opened with
    | none => .ok ([], [])
    | some unclosed => .error unclosed
  | c :: rest =>
    match opened with
    | none =>
      if isSpace c || (operator? c).isSome then .ok ([], c :: rest)
      else if isQuote c then (word (some ⟨c, offset⟩) (offset + 1) rest).map (add [c])
      else match c, rest with
        | '\\', d :: rest => (word none (offset + 2) rest).map (add ['\\', d])
        | c, rest => (word none (offset + 1) rest).map (add [c])
    | some region =>
      if c = region.quote then (word none (offset + 1) rest).map (add [c])
      else match c, rest with
        | '\\', d :: rest =>
          if region.quote = '"' then
            (word (some region) (offset + 2) rest).map (add ['\\', d])
          else (word (some region) (offset + 1) (d :: rest)).map (add ['\\'])
        | c, rest => (word (some region) (offset + 1) rest).map (add [c])
where
  /-- Puts characters in front of a word. -/
  add (front : Text) (found : Text × Text) : Text × Text := (front ++ found.1, found.2)

/-- A word with characters put in front comes from a word that was read. -/
theorem exists_of_map_add {front : Text} {result : Except OpenQuote (Text × Text)}
    {found : Text × Text} (read : result.map (word.add front) = .ok found) :
    ∃ inner, result = .ok inner ∧ found = (front ++ inner.1, inner.2) := by
  cases result with
  | error unclosed => simp [Except.map] at read
  | ok inner => exact ⟨inner, rfl, by simpa [Except.map, word.add, eq_comm] using read⟩

/-- A word and the text after it make up the whole text. -/
theorem append_of_word {opened : Option OpenQuote} {offset : Nat} {t : Text} {found : Text × Text}
    (read : word opened offset t = .ok found) : found.1 ++ found.2 = t := by
  fun_induction word opened offset t generalizing found with
  | case1 => simp [← Except.ok.inj read]
  | case2 => simp at read
  | case3 => simp [← Except.ok.inj read]
  | _ =>
    rename_i ih
    obtain ⟨inner, reads, rfl⟩ := exists_of_map_add read
    simp [ih reads]

/-- A word that starts with neither a space nor an operator is not empty. -/
theorem length_lt_of_word {offset : Nat} {c : Char} {t : Text} {found : Text × Text}
    (apart : (isSpace c || (operator? c).isSome) = false)
    (read : word none offset (c :: t) = .ok found) : found.2.length < (c :: t).length := by
  have some_front : found.1 ≠ [] := by
    unfold word at read
    simp only [apart, Bool.false_eq_true, if_false] at read
    split at read
    · obtain ⟨inner, -, rfl⟩ := exists_of_map_add read; simp
    · split at read <;> (obtain ⟨inner, -, rfl⟩ := exists_of_map_add read; simp)
  have positive := List.length_pos_iff.mpr some_front
  have same := congrArg List.length (append_of_word read)
  simp only [List.length_append] at same
  omega

def cons (token : Token) (scan : Scan) : Scan := { scan with tokens := token :: scan.tokens }

/-- The tokens of a text that starts at an offset. -/
def ofText (offset : Nat) : Text → Scan
  | [] => { tokens := [] }
  | '>' :: '>' :: rest => cons ⟨.appendTo, ['>', '>'], offset⟩ (ofText (offset + 2) rest)
  | c :: rest =>
    if _space : isSpace c then ofText (offset + 1) rest
    else match _apart : operator? c with
      | some kind => cons ⟨kind, [c], offset⟩ (ofText (offset + 1) rest)
      | none =>
        match _read : word none offset (c :: rest) with
        | .error unclosed => { tokens := [], unclosed := some unclosed }
        | .ok (text, rest) =>
          cons ⟨.word, text, offset⟩ (ofText (offset + text.length) rest)
termination_by t => t.length
decreasing_by
  · simp only [List.length_cons]; omega
  · simp only [List.length_cons]; omega
  · simp only [List.length_cons]; omega
  · exact length_lt_of_word (by simp [_space, _apart]) _read

def ofLine (line : Text) : Scan := ofText 0 line

end Scan

end CommandShell
