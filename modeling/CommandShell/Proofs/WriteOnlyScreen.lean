import CommandShell.Loop
import CommandShell.Proofs.ActSteps
import CommandShell.Proofs.BuiltinParts

/-! The screen is only written on. What the shell does never depends on what was shown, so a run is
the same on every screen on which its notices can be shown. -/

namespace CommandShell.Proofs.WriteOnlyScreen
open ActSteps BuiltinParts Shell

variable {α β : Type}

def present (settings : Settings) (notices : List Notice) (screen : Screen) : Except Fault Screen :=
  notices.foldlM (fun screen notice => screen.present settings notice) screen

/-- On a screen that keeps the notices, the work adds some; on any other screen on which these can be
shown, it does the same. -/
def WriteOnly (act : Act Shell α) : Prop :=
  ∀ (shell : Shell) (notices : List Notice), let ran := act.on { shell with screen := .record notices }
    ran.2.settings = shell.settings ∧ ∃ shown, ran.2.screen = .record (shown ++ notices) ∧
      ∀ screen after, present shell.settings shown.reverse screen = .ok after →
        act.on { shell with screen } = (ran.1, { ran.2 with screen := after })

namespace WriteOnly

theorem bind {first : Act Shell α} {next : α → Act Shell β} (front : WriteOnly first)
    (rest : ∀ value, WriteOnly (next value)) : WriteOnly (first >>= next) := by
  intro shell notices
  obtain ⟨settings, shown, screen, same⟩ := front shell notices
  simp only [on_bind]
  generalize first.on { shell with screen := .record notices } = ran at settings screen same
  obtain ⟨result, middle⟩ := ran
  dsimp only at settings screen same ⊢
  cases result with
  | error fault =>
    refine ⟨settings, shown, screen, fun other after drawn => ?_⟩
    rw [same other after drawn]
  | ok value =>
    obtain ⟨settings', shown', screen', same'⟩ := rest value middle (shown ++ notices)
    have whole : { middle with screen := .record (shown ++ notices) } = middle := by rw [← screen]
    rw [whole] at settings' screen' same'
    refine ⟨settings'.trans settings, shown' ++ shown, by rw [screen', List.append_assoc], ?_⟩
    intro other after drawn
    -- What is shown first can be shown on the screen, and the rest on the screen that comes of it.
    rw [present, List.reverse_append, List.foldlM_append] at drawn
    cases first : present shell.settings shown.reverse other with
    | error fault =>
      rw [present] at first
      rw [first] at drawn
      cases drawn
    | ok between =>
      rw [same other between first]
      rw [present] at first
      rw [first] at drawn
      exact same' between after (by rw [settings]; exact drawn)

theorem value (value : α) : WriteOnly (pure value) := by
  intro shell notices
  refine ⟨rfl, [], rfl, fun screen after drawn => ?_⟩
  cases drawn
  rfl

theorem result (given : Except Fault α) : WriteOnly (Act.ofExcept given) := by
  intro shell notices
  refine ⟨rfl, [], rfl, fun screen after drawn => ?_⟩
  cases drawn
  rfl

theorem fault (fault : Fault) : WriteOnly (throw fault : Act Shell α) := result (.error fault)

/-- What does not look at the screen may look at the rest of the shell. -/
theorem read {next : Shell → Act Shell α} (blind : ∀ shell screen, next { shell with screen } = next shell)
    (rest : ∀ shell, WriteOnly (next shell)) : WriteOnly (get >>= next) := by
  intro shell notices
  obtain ⟨settings, shown, screen, same⟩ := rest shell shell notices
  simp only [on_bind, on_get, blind]
  exact ⟨settings, shown, screen, same⟩

theorem change {change : Shell → Shell} (settings : ∀ shell, (change shell).settings = shell.settings)
    (blind : ∀ shell screen, change { shell with screen } = { change shell with screen }) :
    WriteOnly (modify change : Act Shell PUnit) := by
  intro shell notices
  rw [on_modify, blind shell (.record notices)]
  refine ⟨settings shell, [], rfl, fun screen after drawn => ?_⟩
  cases drawn
  rw [on_modify, blind shell screen]

theorem inWorld (act : Act World α) : WriteOnly (inWorld act) := by
  intro shell notices
  refine ⟨rfl, [], rfl, fun screen after drawn => ?_⟩
  cases drawn
  rfl

theorem display (notice : Notice) : WriteOnly (display notice) := by
  intro shell notices
  refine ⟨rfl, [notice], rfl, fun screen after drawn => ?_⟩
  have shown : screen.present shell.settings notice = .ok after := by
    cases given : screen.present shell.settings notice with
    | error fault =>
      rw [present, List.reverse_singleton, List.foldlM_cons, given] at drawn
      cases drawn
    | ok last =>
      rw [present, List.reverse_singleton, List.foldlM_cons, given] at drawn
      exact drawn
  simp only [Shell.display, on_bind, on_get, on_ofExcept, shown]
  rfl

theorem attempt {act : Act Shell α} (once : WriteOnly act) : WriteOnly act.attempt := by
  intro shell notices
  obtain ⟨settings, shown, screen, same⟩ := once shell notices
  refine ⟨settings, shown, screen, fun other after drawn => ?_⟩
  rw [on_attempt, same other after drawn]
  rfl

theorem branch {condition : Prop} [Decidable condition] {first second : Act Shell α}
    (holds : WriteOnly first) (fails : WriteOnly second) :
    WriteOnly (if condition then first else second) := by
  split
  · exact holds
  · exact fails

theorem each {items : List α} {body : α → PUnit → Act Shell (ForInStep PUnit)}
    (once : ∀ item, WriteOnly (body item ⟨⟩)) : WriteOnly (forIn items ⟨⟩ body) := by
  induction items with
  | nil => exact value _
  | cons item rest ih =>
    rw [List.forIn_cons]
    refine (once item).bind fun step => ?_
    cases step with
    | done => exact value _
    | yield => exact ih

theorem answer (notice : Notice) (reply : α) :
    WriteOnly (do Shell.display notice; return reply) :=
  (display notice).bind fun _ => value reply

theorem ignore {act : Act Shell α} (once : WriteOnly act) : WriteOnly (discard act) := by
  simp only [Functor.discard, LawfulFunctor.map_const, Function.comp_apply, map_eq_pure_bind]
  exact once.bind fun _ => value _

theorem changeSession (change : Session → Session) : WriteOnly (changeSession change) :=
  .change (fun _ => rfl) fun _ _ => rfl

theorem changeEditor (change : Editor → Editor) : WriteOnly (changeEditor change) :=
  .change (fun _ => rfl) fun _ _ => rfl

theorem changePager (change : Pager → Pager) : WriteOnly (changePager change) := changeSession _

theorem setMode (mode : TerminalMode) : WriteOnly (setMode mode) := by
  refine .change (fun shell => ?_) fun shell screen => ?_
  · split <;> rfl
  · split <;> rfl

end WriteOnly

section Lines

private theorem writeOnly_runExit (arguments : List Text) : WriteOnly (runExit arguments) := by
  have leave (code : Int) : WriteOnly (do
      changeSession fun session => { session with running := false }
      return Reply.status code) :=
    (WriteOnly.changeSession _).bind fun _ => .value _
  unfold runExit
  split
  · exact .read (fun _ _ => rfl) fun shell => leave _
  · split
    · exact leave _
    · exact .value _
  · exact .value _

private theorem writeOnly_changeFolder (arguments : List Text) (target : Text) :
    WriteOnly (changeFolder arguments target) := by
  refine .read (fun _ _ => rfl) fun shell => ?_
  refine (WriteOnly.inWorld _).attempt.bind fun entered => ?_
  cases entered with
  | ok =>
    refine .read (fun _ _ => rfl) fun shell => ?_
    exact (WriteOnly.changeSession _).bind fun _ => .value _
  | error fault => exact .branch (.answer _ _) (.fault _)

private theorem writeOnly_runCd (arguments : List Text) : WriteOnly (runCd arguments) := by
  have enter (target : Except Fault Text) :
      WriteOnly (do changeFolder arguments (← Act.ofExcept target)) :=
    (WriteOnly.result target).bind fun path => writeOnly_changeFolder arguments path
  refine .read (fun _ _ => rfl) fun shell => ?_
  split
  · exact enter _
  · split
    · exact writeOnly_changeFolder _ _
    · exact .answer _ _
  · exact enter _
  · exact .value _

private theorem writeOnly_runSet (arguments : List Text) : WriteOnly (runSet arguments) := by
  have assigned (words : List Text) : WriteOnly (assign words) := by
    unfold assign
    split
    · exact (WriteOnly.changeSession _).bind fun _ => .value _
    · exact .value _
  rw [runSet_eq]
  exact .branch (.read (fun _ _ => rfl) fun shell => .answer _ _) (assigned _)

private theorem writeOnly_runExport (arguments : List Text) : WriteOnly (runExport arguments) := by
  unfold runExport
  refine .branch (.read (fun _ _ => rfl) fun shell => .answer _ _) ?_
  split
  · exact .value _
  · exact (WriteOnly.changeSession _).bind fun _ => .value _

private theorem writeOnly_runUnset (arguments : List Text) : WriteOnly (runUnset arguments) := by
  unfold runUnset
  refine .branch (.value _) (.read (fun _ _ => rfl) fun shell => ?_)
  exact (WriteOnly.changeSession _).bind fun _ => .value _

private theorem writeOnly_runAbbr (arguments : List Text) : WriteOnly (runAbbr arguments) := by
  refine .read (fun _ _ => rfl) fun shell => ?_
  dsimp only
  split
  · exact .answer _ _
  · refine (WriteOnly.changeSession _).bind fun _ => ?_
    exact (WriteOnly.inWorld _).bind fun _ => .value _
  · refine (WriteOnly.changeSession _).bind fun _ => .branch ?_ (.answer _ _)
    exact (WriteOnly.inWorld _).bind fun _ => .value _
  · exact .value _

private theorem writeOnly_runCopy (arguments : List Text) : WriteOnly (runCopy arguments) := by
  have copied (text : Text) : WriteOnly (copy text) := by
    unfold copy
    refine .read (fun _ _ => rfl) fun shell => ?_
    split
    · exact .answer _ _
    · refine .bind ?_ fun _ => .value _
      exact .change (fun _ => rfl) fun _ _ => rfl
  rw [runCopy_eq]
  cases arguments with
  | nil => exact (WriteOnly.inWorld _).bind copied
  | cons word rest => exact (WriteOnly.value _).bind copied

private theorem writeOnly_runBuiltin (builtin : Builtin) (arguments : List Text) :
    WriteOnly (runBuiltin builtin arguments) := by
  cases builtin with
  | abbr => exact writeOnly_runAbbr arguments
  | cd => exact writeOnly_runCd arguments
  | exit => exact writeOnly_runExit arguments
  | «export» => exact writeOnly_runExport arguments
  | history =>
    refine .branch (.read (fun _ _ => rfl) fun shell => .answer _ _) (.value _)
  | pbcopy => exact writeOnly_runCopy arguments
  | pbpaste =>
    refine .read (fun _ _ => rfl) fun shell => ?_
    split
    · exact .answer _ _
    · exact .answer _ _
  | pwd => exact .read (fun _ _ => rfl) fun shell => .answer _ _
  | set => exact writeOnly_runSet arguments
  | unset => exact writeOnly_runUnset arguments

private theorem writeOnly_runProgram (name : Text) (arguments : List Text) :
    WriteOnly (runProgram name arguments) := by
  refine .read (fun _ _ => rfl) fun shell => (WriteOnly.inWorld _).bind fun code => ?_
  refine .branch ((WriteOnly.inWorld _).bind fun _ => .read (fun _ _ => rfl) fun shell => ?_) (.value _)
  exact (WriteOnly.result _).bind fun suggestions => .answer _ _

private theorem writeOnly_runCommand (command : Command) : WriteOnly (runCommand command) := by
  unfold runCommand
  split
  · exact writeOnly_runProgram _ _
  · refine (writeOnly_runBuiltin _ _).bind fun reply => ?_
    split
    · exact .value _
    · exact .answer _ _

private theorem writeOnly_noteSigns (pipeline : Pipeline) : WriteOnly (noteSigns pipeline) := by
  refine (WriteOnly.each fun command => ?_).bind fun _ => .branch (.inWorld _) (.value _)
  exact .branch (.value _) ((WriteOnly.inWorld _).bind fun _ => .value _)

private theorem writeOnly_notePipeline (pipeline : Pipeline) : WriteOnly (notePipeline pipeline) := by
  rw [notePipeline_eq]
  have signs := writeOnly_noteSigns pipeline
  exact .branch signs ((WriteOnly.inWorld _).bind fun _ => signs)

private theorem writeOnly_runPipeline (pipeline : Pipeline) : WriteOnly (runPipeline pipeline) :=
  (writeOnly_notePipeline pipeline).bind fun _ => writeOnly_runCommand pipeline.head

private theorem writeOnly_runPipelines (pipelines : List Pipeline) : WriteOnly (runPipelines pipelines) := by
  induction pipelines with
  | nil => exact .value _
  | cons pipeline rest ih =>
    refine .read (fun _ _ => rfl) fun shell => .branch ?_ (.value _)
    refine (writeOnly_runPipeline pipeline).bind fun code => ?_
    exact (WriteOnly.changeSession _).bind fun _ => ih

private theorem writeOnly_noteDiagnostics (line : Text) (diagnostics : List Diagnostic) :
    WriteOnly (noteDiagnostics line diagnostics) := by
  have noted (level : Level) (source text : Text) :
      WriteOnly (do note level source text; return ForInStep.yield PUnit.unit) :=
    (WriteOnly.inWorld _).bind fun _ => .value _
  refine (WriteOnly.each fun _ => noted _ _ _).bind fun _ => ?_
  exact (WriteOnly.each fun _ => noted _ _ _).bind fun _ => .value _

private theorem writeOnly_execute (line : Text) : WriteOnly (execute line) := by
  have last : WriteOnly (do return (← get).session.lastCode : Act Shell Int) :=
    .read (fun _ _ => rfl) fun _ => .value _
  have shown (notice : Notice) (code : Int) : WriteOnly (do
      display notice
      setCode code
      return (← get).session.lastCode) :=
    (WriteOnly.display notice).bind fun _ => (WriteOnly.changeSession _).bind fun _ => last
  unfold execute
  refine .branch last ?_
  split
  · exact shown _ _
  · refine (writeOnly_noteDiagnostics _ _).bind fun _ => ?_
    refine (writeOnly_runPipelines _).attempt.bind fun ended => ?_
    cases ended with
    | ok => exact last
    | error fault => exact .branch ((WriteOnly.inWorld _).bind fun _ => shown _ _) (shown _ _)

end Lines

section Keys

private theorem writeOnly_complete : WriteOnly complete := by
  refine .read (fun _ _ => rfl) fun shell => (WriteOnly.inWorld _).bind fun found => ?_
  refine .bind ?_ fun _ => .changePager _
  exact .change (fun _ => rfl) fun _ _ => rfl

theorem writeOnly_refreshPager : WriteOnly refreshPager :=
  .read (fun _ _ => rfl) fun _ => .branch writeOnly_complete (.value _)

theorem writeOnly_edit (change : LineBuffer → LineBuffer) : WriteOnly (edit change) :=
  .changeEditor _

theorem writeOnly_move (change : LineBuffer → LineBuffer) : WriteOnly (move change) :=
  (WriteOnly.changePager _).bind fun _ => .changeEditor _

private theorem writeOnly_acceptOrMove : WriteOnly acceptOrMove :=
  (WriteOnly.changePager _).bind fun _ => .read (fun _ _ => rfl) fun _ => .changeEditor _

private theorem writeOnly_expandAbbreviation : WriteOnly expandAbbreviation := by
  refine .read (fun _ _ => rfl) fun shell => (WriteOnly.result _).bind fun expanded => ?_
  exact .changeEditor _

private theorem writeOnly_enteredLine (line : Text) : WriteOnly (enteredLine line) := by
  refine .branch (.value _) (.read (fun _ _ => rfl) fun shell => ?_)
  refine (WriteOnly.result _).bind fun expanded => (WriteOnly.inWorld _).bind fun (history, added) => ?_
  exact (WriteOnly.changeSession _).bind fun _ => (WriteOnly.result added).ignore.bind fun _ => .value _

private theorem writeOnly_enter : WriteOnly enter := by
  refine .read (fun _ _ => rfl) fun shell => ?_
  split
  · exact (WriteOnly.changeEditor _).bind fun _ => (WriteOnly.changePager _).bind fun _ => .value _
  · refine (writeOnly_enteredLine _).bind fun line => ?_
    exact (WriteOnly.changeEditor _).bind fun _ => .value _

private theorem writeOnly_endOrDelete : WriteOnly endOrDelete := by
  refine .read (fun _ _ => rfl) fun shell => .branch (.changePager _) ?_
  exact .branch (.changeSession _) (.changeEditor _)

theorem WriteOnly.asksNothing {act : Act Shell Unit} (once : WriteOnly act) :
    WriteOnly (do act; return none : Act Shell (Option Request)) :=
  once.bind fun _ => .value none

private theorem writeOnly_typeChar (c : Char) : WriteOnly (typeChar c) := by
  unfold typeChar
  split
  · exact .asksNothing (.read (fun _ _ => rfl) fun _ => .branch (.changePager _) writeOnly_complete)
  · exact .asksNothing (writeOnly_move _)
  · exact .asksNothing (writeOnly_move _)
  · exact .asksNothing (writeOnly_move _)
  · exact .asksNothing writeOnly_acceptOrMove
  · exact .asksNothing ((writeOnly_edit _).bind fun _ => .changePager _)
  · exact .asksNothing ((writeOnly_edit _).bind fun _ => .changePager _)
  · exact .asksNothing ((writeOnly_edit _).bind fun _ => .changePager _)
  · exact .value _
  · exact (WriteOnly.changeEditor _).bind fun _ => (WriteOnly.changePager _).bind fun _ => .value _
  · exact .asksNothing writeOnly_endOrDelete
  · exact .asksNothing ((writeOnly_edit _).bind fun _ => writeOnly_refreshPager)
  · exact .asksNothing ((writeOnly_edit _).bind fun _ => writeOnly_refreshPager)
  · refine .asksNothing (writeOnly_expandAbbreviation.bind fun _ => ?_)
    exact (writeOnly_edit _).bind fun _ => .changePager _
  · exact writeOnly_enter
  · exact writeOnly_enter
  · refine .branch (.asksNothing ?_) (.value _)
    exact (writeOnly_edit _).bind fun _ => writeOnly_refreshPager

private theorem writeOnly_press (key : Key) : WriteOnly (press key) := by
  cases key with
  | char c => exact writeOnly_typeChar c
  | cancel => exact .asksNothing (.changePager _)
  | altEnter => exact .asksNothing (writeOnly_edit _)
  | up | down =>
    refine .asksNothing (.read (fun _ _ => rfl) fun shell => ?_)
    exact .branch (.changePager _) (.changeEditor _)
  | right => exact .asksNothing writeOnly_acceptOrMove
  | left => exact .asksNothing (writeOnly_move _)
  | shiftTab => exact .asksNothing (.changePager _)
  | delete => exact .asksNothing ((WriteOnly.changePager _).bind fun _ => writeOnly_edit _)

variable {serve : Request → Act Shell Unit} (serves : ∀ request, WriteOnly (serve request))

include serves

private theorem writeOnly_pressAll (keys : List Key) : WriteOnly (pressAll serve keys) := by
  induction keys with
  | nil => exact .value _
  | cons key rest ih =>
    refine (writeOnly_press key).bind fun request => ?_
    cases request with
    | none => exact ih
    | some request => exact (serves request).bind fun _ => ih

private theorem writeOnly_feed (chars : Text) : WriteOnly (feed serve chars) := by
  induction chars with
  | nil => exact .value _
  | cons c rest ih =>
    refine .read (fun _ _ => rfl) fun shell => (WriteOnly.changeEditor _).bind fun _ => ?_
    exact (writeOnly_pressAll serves _).bind fun _ => ih

end Keys

section Runs

private theorem writeOnly_styleLine (around : Surroundings) (line : Text) :
    WriteOnly (styleLine around line) := by
  intro shell notices
  refine ⟨rfl, [], rfl, fun screen after drawn => ?_⟩
  cases drawn
  rfl

private theorem writeOnly_render : WriteOnly render := by
  refine .read (fun _ _ => rfl) fun shell => (WriteOnly.result _).bind fun folder => ?_
  dsimp only
  split
  · rw [map_eq_pure_bind, bind_assoc]
    exact (writeOnly_styleLine _ _).bind fun spans => .display _
  · exact .display _

private theorem writeOnly_cooked {act : Act Shell Unit} (once : WriteOnly act) : WriteOnly (cooked act) := by
  refine .read (fun _ _ => rfl) fun shell => (WriteOnly.setMode _).bind fun _ => ?_
  exact once.attempt.bind fun result => (WriteOnly.setMode _).bind fun _ => .result result

private theorem writeOnly_serve (request : Request) : WriteOnly (Shell.serve request) := by
  cases request with
  | submit line =>
    refine (WriteOnly.display _).bind fun _ => .branch (.value _) ?_
    exact writeOnly_cooked (writeOnly_execute line).ignore
  | clearScreen => exact .display _
  | interrupt => exact .display _

private theorem writeOnly_takeChars (chars : Text) : WriteOnly (takeChars chars) := by
  refine .bind (.attempt ((writeOnly_feed writeOnly_serve chars).bind fun _ => ?_)) fun result => ?_
  · exact .read (fun _ _ => rfl) fun shell => .branch writeOnly_render (.value _)
  · cases result with
    | ok => exact .value _
    | error fault =>
      refine .branch ((WriteOnly.inWorld _).bind fun _ => ?_) (.fault _)
      exact (WriteOnly.display _).bind fun _ => .read (fun _ _ => rfl) fun shell => .display _

private theorem writeOnly_receive (arrival : Arrival) : WriteOnly (receive arrival) := by
  cases arrival with
  | chars chars =>
    exact (writeOnly_takeChars chars).bind fun _ => .read (fun _ _ => rfl) fun shell => .value _
  | nothing => exact .value _
  | failure => exact (WriteOnly.inWorld _).bind fun _ => .value _
  | closed => exact .value _

private theorem writeOnly_receiveAll (arrivals : List Arrival) : WriteOnly (receiveAll arrivals) := by
  induction arrivals with
  | nil => exact .value _
  | cons arrival rest ih =>
    refine .read (fun _ _ => rfl) fun shell => .branch ?_ (.value _)
    exact (writeOnly_receive arrival).bind fun more => .branch ih (.value _)

/-- What a run at a terminal does never depends on what it showed. -/
theorem writeOnly_runTerminal (arrivals : List Arrival) : WriteOnly (runTerminal arrivals) := by
  have started : WriteOnly start :=
    (WriteOnly.display _).bind fun _ => (WriteOnly.setMode _).bind fun _ => writeOnly_render
  have finished : WriteOnly finish := by
    refine (WriteOnly.display _).bind fun _ => (WriteOnly.setMode _).bind fun _ => ?_
    exact (WriteOnly.display _).bind fun _ => .read (fun _ _ => rfl) fun shell => .value _
  refine .bind (.attempt (started.bind fun _ => ?_)) fun result => ?_
  · exact (writeOnly_receiveAll arrivals).bind fun _ => finished
  · exact (WriteOnly.setMode _).bind fun _ => .result result

private theorem writeOnly_runLine (line : Text) : WriteOnly (runLine line) :=
  .branch (.value _) (writeOnly_execute _).ignore

theorem writeOnly_runLines (lines : List Text) : WriteOnly (runLines lines) := by
  induction lines with
  | nil => exact .read (fun _ _ => rfl) fun shell => .value _
  | cons line rest ih =>
    refine .read (fun _ _ => rfl) fun shell => .branch ?_ (.read (fun _ _ => rfl) fun shell => .value _)
    exact (writeOnly_runLine line).bind fun _ => ih

end Runs

def recording (shell : Shell) : Shell := { shell with screen := .record [] }

def shown (act : Act Shell α) (shell : Shell) : List Notice :=
  match (act.on (recording shell)).2.screen with
  | .record notices => notices.reverse
  | .drawn _ => []

/-- Drawing does not fail: what the work shows can be shown on the screen of the shell. -/
def Draws (act : Act Shell α) (shell : Shell) : Prop :=
  ∃ screen, present shell.settings (shown act shell) shell.screen = .ok screen

/-- If drawing does not fail, the screen makes no difference. -/
theorem WriteOnly.on_drawn {act : Act Shell α} (once : WriteOnly act) {shell : Shell}
    (draws : Draws act shell) :
    ∃ screen, act.on shell =
      ((act.on (recording shell)).1, { (act.on (recording shell)).2 with screen }) := by
  obtain ⟨-, notices, screen, same⟩ := once shell []
  obtain ⟨last, drawn⟩ := draws
  refine ⟨last, same shell.screen last ?_⟩
  have all : shown act shell = notices.reverse := by
    rw [shown, recording, screen, List.append_nil]
  rw [← all]
  exact drawn

theorem draws_record (act : Act Shell α) {shell : Shell} {kept : List Notice}
    (screen : shell.screen = .record kept) : Draws act shell := by
  have all (notices kept : List Notice) :
      ∃ last, present shell.settings notices (.record kept) = .ok last := by
    induction notices generalizing kept with
    | nil => exact ⟨_, rfl⟩
    | cons notice rest ih => exact ih (notice :: kept)
  unfold Draws
  rw [screen]
  exact all _ _

end CommandShell.Proofs.WriteOnlyScreen
