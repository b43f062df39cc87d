import CommandShell.Token
import CommandShell.Word

/-!
What a command line asks for. A job is a list of pipelines, a pipeline a list of commands joined by
pipes, and a command a program with its arguments and redirects. Reading a job never fails: what
fits nowhere is reported with its place and left out.
-/

namespace CommandShell

/-- The direction of a redirect. -/
inductive RedirectMode
  | read
  | write
  | append
  deriving DecidableEq, Repr

namespace RedirectMode

def symbol : RedirectMode → Text
  | read => "<"
  | write => ">"
  | append => ">>"

def ofKind? : TokenKind → Option RedirectMode
  | .readFrom => some read
  | .writeTo => some write
  | .appendTo => some append
  | _ => none

end RedirectMode

/-- A file in place of a command's input or output. -/
structure Redirect where
  mode : RedirectMode
  target : Text
  deriving DecidableEq, Repr

/-- A program with its arguments and redirects. -/
structure Command where
  program : Text
  arguments : List Text
  redirects : List Redirect
  deriving DecidableEq, Repr

namespace Command

/-- The program and its arguments. -/
def words (command : Command) : List Text := command.program :: command.arguments

end Command

/-- Commands joined by pipes. -/
structure Pipeline where
  head : Command
  later : List Command
  background : Bool
  deriving DecidableEq, Repr

namespace Pipeline

def commands (pipeline : Pipeline) : List Command := pipeline.head :: pipeline.later

end Pipeline

/-- What fits nowhere in a line. -/
inductive Misfit
  | missingName (operator : Text)
  | missingCommand
  | unexpected (operator : Text)
  deriving DecidableEq, Repr

namespace Misfit

def message : Misfit → Text
  | missingName operator => "missing file name after '" ++ operator ++ "'"
  | missingCommand => "expected a command after '|'"
  | unexpected operator => "unexpected '" ++ operator ++ "'"

end Misfit

/-- A misfit with its place in the line. -/
structure Diagnostic where
  misfit : Misfit
  position : Nat
  deriving DecidableEq, Repr

/-- The pipelines of a line, and what fitted nowhere. -/
structure Job where
  pipelines : List Pipeline
  diagnostics : List Diagnostic
  deriving DecidableEq, Repr

/-- What the front of a list of tokens was read as, the tokens after it, and the misfits met. -/
structure Reading (α : Type) where
  result : α
  rest : List Token
  diagnostics : List Diagnostic := []

namespace Command

/-- The arguments and redirects after a program, up to the first token of another kind. -/
def readRest : List Token → Reading (List Text × List Redirect)
  | [] => { result := ([], []), rest := [] }
  | token :: rest =>
    if token.kind = .word then
      let more := readRest rest
      { more with result := (Word.meaning token.text :: more.result.1, more.result.2) }
    else match RedirectMode.ofKind? token.kind with
      | none => { result := ([], []), rest := token :: rest }
      | some mode =>
        match rest with
        | [] =>
          { result := ([], []), rest := [],
            diagnostics := [⟨.missingName token.text, token.start⟩] }
        | target :: later =>
          if target.kind = .word then
            let more := readRest later
            { more with
              result := (more.result.1, ⟨mode, Word.meaning target.text⟩ :: more.result.2) }
          else
            let more := readRest (target :: later)
            { more with
              diagnostics := ⟨.missingName token.text, token.start⟩ :: more.diagnostics }

theorem length_rest_readRest (tokens : List Token) :
    (readRest tokens).rest.length ≤ tokens.length := by
  fun_induction readRest tokens <;> grind

/-- The command whose program is a given word, read from the tokens behind it. -/
def read (word : Token) (tokens : List Token) : Reading Command :=
  let more := readRest tokens
  { more with result := ⟨Word.meaning word.text, more.result.1, more.result.2⟩ }

theorem length_rest_read (word : Token) (tokens : List Token) :
    (read word tokens).rest.length ≤ tokens.length := length_rest_readRest tokens

end Command

namespace Pipeline

/-- The commands after the first, each behind a pipe. -/
def readLater : List Token → Reading (List Command)
  | [] => { result := [], rest := [] }
  | pipe :: rest =>
    if pipe.kind = .pipe then
      match rest with
      | [] => { result := [], rest := [], diagnostics := [⟨.missingCommand, pipe.start⟩] }
      | word :: later =>
        if word.kind = .word then
          let command := Command.read word later
          let more := readLater command.rest
          { result := command.result :: more.result, rest := more.rest,
            diagnostics := command.diagnostics ++ more.diagnostics }
        else
          { result := [], rest := word :: later,
            diagnostics := [⟨.missingCommand, pipe.start⟩] }
    else { result := [], rest := pipe :: rest }
termination_by tokens => tokens.length
decreasing_by
  have shorter := Command.length_rest_read word later
  simp only [List.length_cons]
  omega

theorem length_rest_readLater (tokens : List Token) :
    (readLater tokens).rest.length ≤ tokens.length := by
  fun_induction readLater tokens with
  | case3 pipe is_pipe word later is_word command more ih =>
    exact Nat.le_trans ih (Nat.le_trans (Command.length_rest_read word later) (by simp; omega))
  | _ => simp

/-- Whether the tokens go on with the background sign, and the tokens behind it. -/
def readBackground : List Token → Reading Bool
  | [] => { result := false, rest := [] }
  | token :: rest =>
    if token.kind = .background then { result := true, rest }
    else { result := false, rest := token :: rest }

theorem length_rest_readBackground (tokens : List Token) :
    (readBackground tokens).rest.length ≤ tokens.length := by
  unfold readBackground
  split
  · simp
  · split <;> simp

/-- The pipeline whose first program is a given word, read from the tokens behind it. -/
def read (word : Token) (tokens : List Token) : Reading Pipeline :=
  let head := Command.read word tokens
  let later := readLater head.rest
  let background := readBackground later.rest
  { result := ⟨head.result, later.result, background.result⟩, rest := background.rest,
    diagnostics := head.diagnostics ++ later.diagnostics }

theorem length_rest_read (word : Token) (tokens : List Token) :
    (read word tokens).rest.length ≤ tokens.length :=
  Nat.le_trans (length_rest_readBackground _)
    (Nat.le_trans (length_rest_readLater _) (Command.length_rest_read word tokens))

end Pipeline

namespace Job

def ofTokens : List Token → Job
  | [] => ⟨[], []⟩
  | token :: rest =>
    if token.kind = .semicolon then ofTokens rest
    else if token.kind = .word then
      let pipeline := Pipeline.read token rest
      let more := ofTokens pipeline.rest
      ⟨pipeline.result :: more.pipelines, pipeline.diagnostics ++ more.diagnostics⟩
    else
      let more := ofTokens rest
      { more with
        diagnostics := ⟨.unexpected token.text, token.start⟩ :: more.diagnostics }
termination_by tokens => tokens.length
decreasing_by
  · simp
  · have shorter := Pipeline.length_rest_read token rest
    simp only [List.length_cons]
    omega
  · simp

/-- The job that a line asks for, if its quotes are closed. -/
def ofLine (line : Text) : Except OpenQuote Job :=
  let scan := Scan.ofLine line
  match scan.unclosed with
  | some unclosed => .error unclosed
  | none => .ok (ofTokens scan.tokens)

end Job

end CommandShell
