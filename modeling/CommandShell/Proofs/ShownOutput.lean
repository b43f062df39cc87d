import CommandShell.Execute
import CommandShell.Proofs.ActSteps
import CommandShell.Proofs.Frames
import CommandShell.Proofs.ShownText

/-! The commands that put out a text: the one for the clipboard gives back the words that were copied into
it, and the one for the current folder its name, each as it is shown and with a line feed behind it. -/

namespace CommandShell.Proofs.ShownOutput
open ActSteps Shell ShownText

def showing (shell : Shell) (canvas : Canvas) (t : Text) : Shell :=
  { shell with screen := .drawn (canvas.write (t ++ "\n")) }

def holding (shell : Shell) (t : Text) : Shell :=
  { shell with world := { shell.world with clipboard := .holding t } }

section Shells

variable {shell : Shell} {canvas : Canvas}

private theorem on_display_output (drawn : shell.screen = .drawn canvas)
    (colourless : canvas.coloured = false) (t : Text) :
    (display (.output t)).on shell = (.ok ⟨⟩, showing shell canvas (shown t)) := by
  have draws : shell.screen.present shell.settings (.output t) =
      .ok (.drawn (canvas.write (shown t ++ "\n"))) := by
    rw [drawn, ← page_shown, ← colourless]
    rfl
  simp only [display, on_bind, on_get, draws, on_ofExcept, on_modify, showing]

private theorem on_runPwd (drawn : shell.screen = .drawn canvas) (colourless : canvas.coloured = false)
    (arguments : List Text) :
    (runBuiltin .pwd arguments).on shell = (.ok (.status 0), showing shell canvas (shown shell.session.current)) := by
  simp only [runBuiltin, on_bind, on_get, on_display_output drawn colourless, on_pure]

private theorem on_runCopy {kept : Text} (works : shell.world.clipboard = .holding kept)
    {arguments : List Text}
    (filled : arguments ≠ []) :
    (runBuiltin .pbcopy arguments).on shell = (.ok (.status 0), holding shell (Text.join " " arguments)) := by
  have some : ¬ arguments.isEmpty = true := by simpa using filled
  simp only [runBuiltin, runCopy, if_neg some, on_bind, on_pure, on_get, works, on_modify, holding]

private theorem on_runPaste (drawn : shell.screen = .drawn canvas)
    (colourless : canvas.coloured = false) {kept : Text}
    (works : shell.world.clipboard = .holding kept) (arguments : List Text) :
    (runBuiltin .pbpaste arguments).on shell = (.ok (.status 0), showing shell canvas (shown kept)) := by
  simp only [runBuiltin, runPaste, on_bind, on_get, works, on_display_output drawn colourless, on_pure]

theorem on_runCommand {name : Text} {builtin : Builtin} (named : Builtin.ofName? name = some builtin)
    {arguments : List Text} {code : Int} {after : Shell}
    (ran : (runBuiltin builtin arguments).on shell = (.ok (.status code), after)) (redirects : List Redirect) :
    (runCommand ⟨name, arguments, redirects⟩).on shell = (.ok code, after) := by
  simp only [runCommand, named, on_bind, ran, on_pure]

/-- The words given to `pbcopy` are shown by `pbpaste`, and the current folder by `pwd`, on a canvas without
colours. What is shown is the text itself exactly if nothing in it is replaced, left out or filled up. A text
without tabulators, hidden controls and names of symbols between colons is shown as it is; where there is such
a name, the symbol takes its place. -/
theorem output_shown (drawn : shell.screen = .drawn canvas) (colourless : canvas.coloured = false) {kept : Text}
    (works : shell.world.clipboard = .holding kept) {arguments : List Text} (filled : arguments ≠ [])
    (others : List Text) (redirects : List Redirect) :
    let joined := Text.join " " arguments
    (runCommand ⟨"pbcopy", arguments, redirects⟩).on shell = (.ok 0, holding shell joined) ∧
    (runCommand ⟨"pbpaste", others, redirects⟩).on (holding shell joined) =
      (.ok 0, showing (holding shell joined) canvas (shown joined)) ∧
    (runCommand ⟨"pwd", others, redirects⟩).on shell =
      (.ok 0, showing shell canvas (shown shell.session.current)) ∧
    (∀ t, (shown t = t ↔ Untouched t) ∧
      ('\t' ∉ t → (∀ c ∈ t, Text.isHiddenControl c = false) →
        (∀ front code rest, t = front ++ ':' :: code ++ ':' :: rest → Symbol.ofCode? code = none) →
        shown t = t)) ∧
    ∀ front code symbol rest, ':' ∉ front → (∀ c ∈ code, c ≠ ':' ∧ Text.isBlank c = false) →
      Symbol.ofCode? code = some symbol →
      Symbol.replaceNames (front ++ ':' :: code ++ ':' :: rest) =
        front ++ symbol ++ Symbol.replaceNames rest := by
  intro joined
  have pasted := @on_runPaste (holding shell joined) canvas drawn colourless joined rfl others
  refine ⟨on_runCommand rfl (on_runCopy works filled) redirects, on_runCommand rfl pasted redirects,
    on_runCommand rfl (on_runPwd drawn colourless others) redirects, fun t => ⟨shown_eq_iff, ?_⟩,
    fun front code symbol rest plain sharp named => replaceNames_code plain sharp named rest⟩
  exact fun untabbed visible unnamed => shown_eq_iff.mpr (untouched_of_plain untabbed visible unnamed)

end Shells

def paper : Canvas := { coloured := false, width := 80, user := "me" }

def paperShell : Shell :=
  { bareShell with screen := .drawn paper, session := { bareShell.session with current := "/w/a:b" } }

/-- Blanks, breaks and codes for colours are shown as they are. -/
theorem coloured_words_shown :
    paperShell.screen = .drawn paper ∧ paper.coloured = false ∧
    paperShell.world.clipboard = .holding [] ∧ ["12:30 ".toList, "\x1b[1m!\n".toList] ≠ [] ∧
    (runCommand ⟨"pbcopy", ["12:30 ", "\x1b[1m!\n"], []⟩).on paperShell =
      (.ok 0, holding paperShell "12:30  \x1b[1m!\n") ∧
    (runCommand ⟨"pbpaste", [], []⟩).on (holding paperShell "12:30  \x1b[1m!\n") =
      (.ok 0, showing (holding paperShell "12:30  \x1b[1m!\n") paper "12:30  \x1b[1m!\n") ∧
    (runCommand ⟨"pwd", [], []⟩).on paperShell = (.ok 0, showing paperShell paper "/w/a:b") := by
  have some : ["12:30 ".toList, "\x1b[1m!\n".toList] ≠ [] := List.cons_ne_nil _ _
  have joined : Text.join " " ["12:30 ", "\x1b[1m!\n"] = "12:30  \x1b[1m!\n" := by decide
  obtain ⟨copied, pasted, told, kept, -⟩ := @output_shown paperShell paper rfl rfl [] rfl _ some [] []
  have text : shown "12:30  \x1b[1m!\n" = "12:30  \x1b[1m!\n" :=
    (kept _).2 (by decide) (visible_of_all (by decide)) (unnamed_of_single (by decide))
  have folder : shown "/w/a:b" = "/w/a:b" :=
    (kept _).2 (by decide) (visible_of_all (by decide)) (unnamed_of_single (by decide))
  rw [joined] at copied
  rw [joined, text] at pasted
  refine ⟨rfl, rfl, rfl, some, copied, pasted, ?_⟩
  rw [← folder]
  exact told

/-- A tabulator between two letters comes back as seven blanks. -/
theorem tabulator_filled :
    (runCommand ⟨"pbcopy", ["a\tb"], []⟩).on paperShell = (.ok 0, holding paperShell "a\tb") ∧
    (runCommand ⟨"pbpaste", [], []⟩).on (holding paperShell "a\tb") =
      (.ok 0, showing (holding paperShell "a\tb") paper "a       b") ∧
    ("a       b" : Text) ≠ "a\tb" := by
  have filled : shown "a\tb" = "a       b" := by decide +kernel
  have pasted := @on_runPaste (holding paperShell "a\tb") paper rfl rfl _ rfl []
  rw [filled] at pasted
  refine ⟨on_runCommand rfl (on_runCopy rfl (List.cons_ne_nil _ _)) [], ?_, by decide⟩
  exact on_runCommand rfl pasted []

end CommandShell.Proofs.ShownOutput
