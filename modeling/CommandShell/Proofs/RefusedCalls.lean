import CommandShell.Proofs.FolderMoves
import CommandShell.Proofs.LineAccount
import CommandShell.Proofs.TableKeys
import CommandShell.Proofs.TextLines

/-! Calls of builtins that are refused: a wrong call, and status 1 of `cd`, `unset` and `abbr -e`. Each
builtin works out what it is asked for before it changes anything, so a refused call shows a message and
leaves the rest of the shell as it was. -/

namespace CommandShell.Proofs.RefusedCalls
open Shell ActSteps FolderMoves LineAccount TextLines

/-- A run that ends with a refusal has changed the screen only. -/
def Harmless (refusal : Reply → Prop) (shell : Shell) (ran : Except Fault Reply × Shell) : Prop :=
  ∀ reply, ran.1 = .ok reply → refusal reply → Shown shell ran.2

def IsMisuse (reply : Reply) : Prop := ∃ usage, reply = .misuse usage

namespace Harmless

variable {refusal : Reply → Prop} {shell : Shell} {ran : Except Fault Reply × Shell}

theorem shown (same : Shown shell ran.2) : Harmless refusal shell ran := fun _ _ _ => same

theorem accepted {reply : Reply} (result : ran.1 = .ok reply) (accepts : ¬ refusal reply) :
    Harmless refusal shell ran := by
  intro other same refused
  obtain rfl : reply = other := Except.ok.inj (result.symm.trans same)
  exact absurd refused accepts

theorem never {act : Act Shell Reply} {before : Shell} (yields : Yields act (¬ refusal ·)) :
    Harmless refusal shell (act.on before) :=
  fun reply result refused => absurd refused (yields before reply result)

theorem imp {fewer : Reply → Prop} (harmless : Harmless refusal shell ran)
    (less : ∀ reply, fewer reply → refusal reply) : Harmless fewer shell ran :=
  fun reply result refused => harmless reply result (less reply refused)

theorem answer (notice : Notice) (reply : Reply) :
    Harmless refusal shell ((do display notice; return reply : Act Shell Reply).on shell) :=
  shown (shown_answer ⟨shell.screen, rfl⟩ notice reply)

end Harmless

variable (shell : Shell) (arguments : List Text)

private theorem runCd_harmless : Harmless (· ≠ .status 0) shell ((runCd arguments).on shell) := by
  have goes := runCd_goes shell arguments
  generalize (runCd arguments).on shell = ran at goes ⊢
  cases goes with
  | entered => exact .accepted rfl fun refused => refused rfl
  | stayed failed same => exact .shown same

private theorem erase_all {table : Table Text} {names : List Text} (absent : names.any table.has = false) :
    names.foldl Table.erase table = table := by
  induction names with
  | nil => rfl
  | cons name names ih =>
    rw [List.any_cons, Bool.or_eq_false_iff] at absent
    have none : name ∉ table.keys := by
      rw [TableKeys.mem_keys_iff, not_not]
      simpa [Table.has] using absent.1
    rw [List.foldl_cons, TableKeys.erase_absent none, ih absent.2]

private theorem runUnset_harmless : Harmless (· ≠ .status 0) shell ((runUnset arguments).on shell) := by
  unfold runUnset
  split
  · exact .shown ⟨shell.screen, rfl⟩
  · simp only [changeSession, on_bind, on_get, on_modify]
    cases known : arguments.any shell.session.environment.has with
    | true => exact .accepted rfl fun refused => refused rfl
    | false =>
      rw [erase_all known]
      exact .shown ⟨shell.screen, rfl⟩

private theorem remove_absent {abbreviations : Abbreviations} {word : Text}
    (texts : abbreviations.table.get? word ≠ some .null)
    (absent : (abbreviations.remove word).2 = false) : (abbreviations.remove word).1 = abbreviations := by
  have none : word ∉ abbreviations.table.keys := by
    rw [TableKeys.mem_keys_iff, not_not]
    simp only [Abbreviations.remove, Abbreviations.expansion?] at absent
    simpa using absent
  rw [Abbreviations.remove, TableKeys.erase_absent none]

theorem runAbbr_harmless
    (texts : ∀ word : Text, arguments = [['-', 'e'], word] → shell.session.abbreviations.table.get? word ≠ some .null) :
    Harmless (· ≠ .status 0) shell ((runAbbr arguments).on shell) := by
  unfold runAbbr
  rw [on_bind, on_get]
  dsimp only
  split
  next => exact .answer _ _
  next =>
    refine .never ((Yields.anything _).bind fun _ _ => (Yields.anything _).bind fun _ _ => .value ?_)
    exact fun refused => refused rfl
  next word =>
    -- The table without the word is kept also where there was no such word.
    rw [on_bind, changeSession, on_modify]
    dsimp only
    cases removed : (shell.session.abbreviations.remove word).2 with
    | true =>
      rw [if_pos rfl]
      refine .never ((Yields.anything _).bind fun _ _ => .value ?_)
      exact fun refused => refused rfl
    | false =>
      rw [remove_absent (texts word rfl) removed, if_neg Bool.false_ne_true]
      exact .answer _ _
  next => exact .shown ⟨shell.screen, rfl⟩

private theorem runSet_harmless : Harmless (· ≠ .status 0) shell ((runSet arguments).on shell) := by
  rw [BuiltinParts.runSet_eq]
  split
  · rw [on_bind, on_get]
    exact .answer _ _
  · unfold BuiltinParts.assign
    split
    · exact .accepted rfl fun refused => refused rfl
    · exact .shown ⟨shell.screen, rfl⟩

private theorem runExport_harmless : Harmless (· ≠ .status 0) shell ((runExport arguments).on shell) := by
  unfold runExport
  split
  · rw [on_bind, on_get]
    exact .answer _ _
  · split
    · exact .shown ⟨shell.screen, rfl⟩
    · exact .accepted rfl fun refused => refused rfl

private theorem runExit_harmless : Harmless IsMisuse shell ((runExit arguments).on shell) := by
  have leave (code : Int) : Yields (do
      changeSession fun session => { session with running := false }
      return Reply.status code : Act Shell Reply) (¬ IsMisuse ·) := by
    refine (Yields.anything _).bind fun _ _ => .value ?_
    rintro ⟨usage, same⟩
    cases same
  unfold runExit
  split
  · exact .never ((Yields.anything _).bind fun shell _ => leave _)
  · split
    · exact .never (leave _)
    · exact .shown ⟨shell.screen, rfl⟩
  · exact .shown ⟨shell.screen, rfl⟩

private theorem runHistory_harmless : Harmless (· ≠ .status 0) shell ((runHistory arguments).on shell) := by
  unfold runHistory
  split
  · rw [on_bind, on_get]
    exact .answer _ _
  · exact .shown ⟨shell.screen, rfl⟩

private theorem status_isNoMisuse (code : Int) : ¬ IsMisuse (.status code) := by
  rintro ⟨usage, same⟩
  cases same

theorem yields_complaint (notice : Notice) (code : Int) :
    Yields (do display notice; return Reply.status code : Act Shell Reply) (¬ IsMisuse ·) :=
  (Yields.anything _).bind fun _ _ => .value (status_isNoMisuse code)

private theorem yields_copy (text : Text) : Yields (BuiltinParts.copy text) (¬ IsMisuse ·) := by
  refine (Yields.anything _).bind fun shell _ => ?_
  split
  · exact yields_complaint _ _
  · exact (Yields.anything _).bind fun _ _ => .value (status_isNoMisuse 0)

private theorem yields_runCopy : Yields (runCopy arguments) (¬ IsMisuse ·) := by
  rw [BuiltinParts.runCopy_eq]
  dsimp only
  split
  · exact (Yields.anything _).bind fun text _ => yields_copy text
  · exact (Yields.anything _).bind fun text _ => yields_copy text

private theorem yields_runPaste : Yields runPaste (¬ IsMisuse ·) := by
  refine (Yields.anything _).bind fun shell _ => ?_
  split
  · exact yields_complaint _ _
  · exact yields_complaint _ _

/-- The calls that may say with status 1 that there is nothing to do it with. -/
def Seeks : Builtin → List Text → Prop
  | .cd, _ => True
  | .unset, _ => True
  | .abbr, arguments => ∃ word, arguments = [['-', 'e'], word]
  | _, _ => False

def Refuses (builtin : Builtin) (arguments : List Text) (reply : Reply) : Prop :=
  IsMisuse reply ∨ reply = .status 1 ∧ Seeks builtin arguments

private theorem runBuiltin_harmless (builtin : Builtin)
    (texts : builtin = .abbr → ∀ word, arguments = [['-', 'e'], word] →
      shell.session.abbreviations.table.get? word ≠ some .null) :
    Harmless (Refuses builtin arguments) shell ((runBuiltin builtin arguments).on shell) := by
  have failed (reply : Reply) (refused : Refuses builtin arguments reply) : reply ≠ .status 0 := by
    rintro rfl
    obtain ⟨usage, same⟩ | ⟨same, -⟩ := refused <;> cases same
  cases builtin with
  | abbr => exact (runAbbr_harmless shell arguments (texts rfl)).imp failed
  | cd => exact (runCd_harmless shell arguments).imp failed
  | exit => exact (runExit_harmless shell arguments).imp fun _ refused => refused.resolve_right And.right
  | «export» => exact (runExport_harmless shell arguments).imp failed
  | history => exact (runHistory_harmless shell arguments).imp failed
  | pbcopy =>
    exact (Harmless.never (yields_runCopy arguments)).imp fun _ refused => refused.resolve_right And.right
  | pbpaste => exact (Harmless.never yields_runPaste).imp fun _ refused => refused.resolve_right And.right
  | pwd => exact .answer _ _
  | set => exact (runSet_harmless shell arguments).imp failed
  | unset => exact (runUnset_harmless shell arguments).imp failed

/-- An argument that sets no variable: without an equals sign, or without a name in front of it. -/
def Malformed (argument : Text) : Prop := '=' ∉ argument ∨ argument.head? = some '='

def assignment? (argument : Text) : Option (Text × Text) :=
  match Text.partition? "=" argument with
  | some (c :: name, value) => some (c :: name, value)
  | _ => none

private theorem assignment?_malformed {bad : Text} (malformed : Malformed bad) : assignment? bad = none := by
  unfold assignment?
  rcases malformed with absent | first
  · rw [show ("=" : String).toList = ['='] from rfl, partition?_absent absent]
  · obtain ⟨value, rfl⟩ := List.head?_eq_some_iff.mp first
    rfl

private theorem assignments?_malformed {bad : Text} (malformed : Malformed bad) (front rest : List Text) :
    assignments? (front ++ bad :: rest) = none := by
  change List.mapM assignment? (front ++ bad :: rest) = none
  rw [List.mapM_append, List.mapM_cons, assignment?_malformed malformed]
  cases List.mapM assignment? front <;> rfl

private theorem runExport_malformed {bad : Text} (malformed : Malformed bad) (front rest : List Text) :
    (runExport (front ++ bad :: rest)).on shell = (.ok (.misuse "export KEY=VALUE..."), shell) := by
  have some : (front ++ bad :: rest).isEmpty = false := by simp
  rw [runExport, some, assignments?_malformed malformed]
  rfl

def code : Reply → Int
  | .status code => code
  | .misuse _ => usageCode

private theorem runCommand_status {shell replied : Shell} {command : Command} {builtin : Builtin}
    {reply : Reply} (called : Builtin.ofName? command.program = some builtin)
    (replies : (runBuiltin builtin command.arguments).on shell = (.ok reply, replied)) (status : Int)
    (given : ((runCommand command).on shell).1 = .ok status) : status = code reply := by
  rw [runCommand, called] at given
  dsimp only at given
  rw [on_bind, replies] at given
  cases reply with
  | status code => exact (Except.ok.inj given).symm
  | misuse usage =>
    have fixed (notice : Notice) :
        Yields (do display notice; return usageCode : Act Shell Int) (· = usageCode) :=
      (Yields.anything _).bind fun _ _ => .value rfl
    exact fixed _ _ _ given

/-- A refused call, and its command as a whole, leave the session and the world as they were: no
variable is set, no folder entered, nothing written and no program started. An assignment that cannot be
read keeps `export` from carrying out the others, wherever it stands. For a word that stands in the
abbreviations without a value nothing is said. -/
theorem refused_call_keeps (shell : Shell) :
    (∀ command builtin, Builtin.ofName? command.program = some builtin →
      (builtin = .abbr → ∀ word, command.arguments = [['-', 'e'], word] →
        shell.session.abbreviations.table.get? word ≠ some .null) →
      ∀ reply replied, (runBuiltin builtin command.arguments).on shell = (.ok reply, replied) →
      Refuses builtin command.arguments reply →
      let ran := (runCommand command).on shell
      Shown shell replied ∧ Shown shell ran.2 ∧ ∀ status, ran.1 = .ok status → status = code reply) ∧
    ∀ front bad rest, Malformed bad →
      (runBuiltin .export (front ++ bad :: rest)).on shell = (.ok (.misuse "export KEY=VALUE..."), shell) := by
  refine ⟨fun command builtin called texts reply replied replies refused => ?_,
    fun front bad rest malformed => runExport_malformed shell malformed front rest⟩
  have harmless := runBuiltin_harmless shell command.arguments builtin texts reply
  rw [replies] at harmless
  obtain ⟨before, rfl⟩ := harmless rfl refused
  refine ⟨⟨before, rfl⟩, ?_, ?_⟩
  · obtain ⟨-, screen, after⟩ := runCommand_builtin called shell
    rw [replies] at after
    exact ⟨screen, after⟩
  · exact runCommand_status called replies

/-- A good argument in front of one without a name. -/
theorem half_export_refused :
    let command : Command := ⟨"export", ["A=1", "=2"], []⟩
    Shown bareShell ((runCommand command).on bareShell).2 := by
  have replies : (runBuiltin .export ["A=1", "=2"]).on bareShell = (.ok (.misuse "export KEY=VALUE..."), bareShell) :=
    (refused_call_keeps bareShell).2 ["A=1"] "=2" [] (.inr rfl)
  exact ((refused_call_keeps bareShell).1 ⟨"export", ["A=1", "=2"], []⟩ .export (by decide) nofun _ _ replies
    (.inl ⟨_, rfl⟩)).2.1

/-- A word that stands in the abbreviations for no value is taken out by the call that says with status
1 that there is no such word. -/
theorem null_abbreviation_erased :
    let session := { bareShell.session with abbreviations := { table := [("gs", .null)] } }
    let ran := (runBuiltin .abbr ["-e", "gs"]).on { bareShell with session }
    Refuses .abbr ["-e", "gs"] (.status 1) ∧ ran.1 = .ok (.status 1) ∧ ran.2.session.abbreviations.table = [] :=
  ⟨.inr ⟨rfl, "gs", rfl⟩, rfl, rfl⟩

end CommandShell.Proofs.RefusedCalls
