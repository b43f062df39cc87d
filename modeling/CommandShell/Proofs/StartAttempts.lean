import CommandShell.Proofs.FailedLookups
import CommandShell.Proofs.Frames

/-! The attempts to start a program: its words as they are, then its name with each suffix. They end with
the first one that has another status than that of a program that cannot be started. If there is none,
the user is told, unless the lookup of similar names fails. -/

namespace CommandShell.Proofs.StartAttempts
open ActSteps FailedLookups Shell

def answerOf : Outcome → Except Fault Int
  | .code code => .ok (Program.status code)
  | .refused _ => .ok Program.notFoundCode
  | .broken _ => .ok Program.notFoundCode
  | .fault fault => .error fault

/-- The attempts of a list that were made, by what comes of starts that were made before: some failed,
one was the last, and the others were not tried. -/
structure Attempted (outcome : List Launch → Outcome) (past attempts failed : List Launch)
    (last : Launch) (untried : List Launch) (result : Except Fault Int) : Prop where
  order : attempts = failed ++ last :: untried
  failures : ∀ earlier launch later, failed = earlier ++ launch :: later →
    answerOf (outcome (launch :: (earlier.reverse ++ past))) = .ok 127
  answer : answerOf (outcome (last :: (failed.reverse ++ past))) = result
  ended : result = .ok 127 → untried = []

structure Suffixes where
  all : List Text
  scripts : List Text
  interpreter : List Text

namespace Suffixes

structure In (suffixes : Suffixes) (settings : Settings) : Prop where
  all : settings.programSuffixes = suffixes.all.map Json.text
  scripts : settings.scriptSuffixes = suffixes.scripts.map Json.text
  interpreter : settings.interpreter = suffixes.interpreter.map Json.text

def wordsFor (suffixes : Suffixes) (name : Text) (arguments : List Text) (suffix : Text) : List Text :=
  if suffixes.scripts.contains suffix then suffixes.interpreter ++ (name ++ suffix) :: arguments
  else (name ++ suffix) :: arguments

def attempts (suffixes : Suffixes) (name : Text) (arguments : List Text) : List (List Text) :=
  (name :: arguments) :: suffixes.all.map (suffixes.wordsFor name arguments)

end Suffixes

def launchIn (session : Session) (words : List Text) : Launch :=
  ⟨words.map .text, some session.current, session.environment⟩

section Worlds

variable {outcome : List Launch → Outcome} {past attempts failed untried : List Launch} {launch last : Launch}
  {result : Except Fault Int}

theorem Attempted.first (answer : answerOf (outcome (launch :: past)) = result)
    (other : result = .ok 127 → untried = []) :
    Attempted outcome past (launch :: untried) [] launch untried result where
  order := rfl
  failures earlier launch later none := by simp at none
  answer := answer
  ended := other

theorem Attempted.next (fails : answerOf (outcome (launch :: past)) = .ok 127)
    (rest : Attempted outcome (launch :: past) attempts failed last untried result) :
    Attempted outcome past (launch :: attempts) (launch :: failed) last untried result where
  order := by rw [rest.order, List.cons_append]
  failures earlier later back split := by
    cases earlier with
    | nil =>
      obtain ⟨rfl, -⟩ := List.cons.inj split
      exact fails
    | cons front earlier =>
      obtain ⟨rfl, same⟩ := List.cons.inj split
      rw [List.reverse_cons, List.append_assoc]
      exact rest.failures earlier later back same
  answer := by
    rw [List.reverse_cons, List.append_assoc]
    exact rest.answer
  ended := rest.ended

theorem on_start (words : List Json) (filled : words ≠ []) (environment : Table Text) (folder : Option Text)
    (world : World) :
    let launches := ⟨words, folder, environment⟩ :: world.launches
    ∃ journal, (Program.start words environment folder).on world =
      (answerOf (world.outcome launches), { world with launches, journal }) := by
  obtain ⟨name, rest, rfl⟩ := List.exists_cons_of_ne_nil filled
  simp only [Program.start, World.launch, World.note, on_bind, on_modify, on_get, on_pure]
  cases world.outcome (⟨name :: rest, folder, environment⟩ :: world.launches) with
  | code code => exact ⟨_, rfl⟩
  | refused problem =>
    cases problem with
    | notFound => exact ⟨_, rfl⟩
    | _ => exact ⟨_, rfl⟩
  | broken reason => exact ⟨_, rfl⟩
  | fault fault => exact ⟨_, rfl⟩

private theorem on_launchIn (session : Session) {words : List Text} (filled : words ≠ []) (world : World) :
    let launches := launchIn session words :: world.launches
    ∃ journal, (Program.start (words.map .text) session.environment (some session.current)).on world =
      (answerOf (world.outcome launches), { world with launches, journal }) :=
  on_start _ (by simpa using filled) _ _ world

private theorem wordsFor_ne_nil (suffixes : Suffixes) (name : Text) (arguments : List Text) (suffix : Text) :
    suffixes.wordsFor name arguments suffix ≠ [] := by
  unfold Suffixes.wordsFor
  split <;> simp

private theorem isAmong_texts (suffix : Text) (scripts : List Text) :
    (Json.text suffix).isAmong (scripts.map Json.text) = scripts.contains suffix := by
  have equal (script : Text) : Json.equalItems [.text suffix] [.text script] = (suffix == script) := by
    rw [Json.equalItems, Json.equalItems, Bool.and_true]
    rfl
  rw [Json.isAmong, List.any_map, List.contains_eq_any_beq]
  exact congrArg (List.any scripts) (funext equal)

variable {suffixes : Suffixes} {settings : Settings}

private theorem suffixed_text (given : suffixes.In settings) (name : Text) (arguments : List Text)
    (suffix : Text) :
    Program.suffixed settings name arguments (.text suffix) =
      .ok ((suffixes.wordsFor name arguments suffix).map .text) := by
  rw [Program.suffixed, given.scripts, given.interpreter, isAmong_texts, Suffixes.wordsFor]
  cases suffixes.scripts.contains suffix with
  | true => simp [Json.followedBy, bind, Except.bind, pure, Except.pure]
  | false => simp [Json.followedBy, bind, Except.bind, pure, Except.pure]

theorem ok_ne_missing {code : Int} (started : code ≠ Program.notFoundCode) :
    (.ok code : Except Fault Int) ≠ .ok 127 :=
  fun same => started (Except.ok.inj same)

/-- The search goes on behind an attempt that failed. -/
theorem on_startSuffixed (given : suffixes.In settings) (session : Session) (name : Text) (arguments : List Text)
    (more : List Text) (world : World) (begun : world.launches = launch :: past)
    (fails : answerOf (world.outcome (launch :: past)) = .ok 127) :
    ∃ failed last untried result journal,
      Attempted world.outcome past
        (launch :: (more.map (suffixes.wordsFor name arguments)).map (launchIn session)) failed last untried
        result ∧
      (Program.startSuffixed settings session.environment (some session.current) name arguments
          (more.map .text)).on world =
        (result, { world with launches := last :: (failed.reverse ++ past), journal }) := by
  induction more generalizing launch past world with
  | nil =>
    refine ⟨[], launch, [], .ok 127, world.journal, .first fails fun _ => rfl, ?_⟩
    rw [List.reverse_nil, List.nil_append, ← begun]
    rfl
  | cons suffix more ih =>
    obtain ⟨journal, started⟩ := on_launchIn session (wordsFor_ne_nil suffixes name arguments suffix) world
    rw [begun] at started
    rw [List.map_cons, List.map_cons, List.map_cons, Program.startSuffixed, on_bind, suffixed_text given,
      on_ofExcept]
    dsimp only
    rw [on_bind, started]
    generalize launchIn session (suffixes.wordsFor name arguments suffix) = next
    cases answer : answerOf (world.outcome (next :: launch :: past)) with
    | error fault => exact ⟨[launch], next, _, .error fault, journal, .next fails (.first answer nofun), rfl⟩
    | ok code =>
      by_cases missing : code = Program.notFoundCode
      · subst missing
        obtain ⟨failed, last, untried, result, journal, rest, ran⟩ :=
          ih { world with launches := next :: launch :: past, journal } rfl answer
        refine ⟨launch :: failed, last, untried, result, journal, .next fails rest, ?_⟩
        rw [List.reverse_cons, List.append_assoc]
        dsimp only
        rw [if_pos rfl]
        exact ran
      · have other := ok_ne_missing missing
        refine ⟨[launch], next, _, .ok code, journal, .next fails (.first answer (absurd · other)), ?_⟩
        dsimp only
        rw [if_neg missing]
        rfl

private theorem on_run (given : suffixes.In settings) (session : Session) (name : Text)
    (arguments : List Text)
    (world : World) : ∃ failed last untried result journal,
      Attempted world.outcome world.launches
        ((suffixes.attempts name arguments).map (launchIn session)) failed last untried result ∧
      (Program.run settings session.environment (some session.current) name arguments).on world =
        (result, { world with launches := last :: (failed.reverse ++ world.launches), journal }) := by
  obtain ⟨journal, started⟩ := on_launchIn session (List.cons_ne_nil name arguments) world
  rw [Program.run, given.all, on_bind, started, Suffixes.attempts, List.map_cons]
  generalize launchIn session (name :: arguments) = first
  cases answer : answerOf (world.outcome (first :: world.launches)) with
  | error fault => exact ⟨[], first, _, .error fault, journal, .first answer nofun, rfl⟩
  | ok code =>
    by_cases missing : code = Program.notFoundCode
    · subst missing
      dsimp only
      rw [if_pos rfl]
      exact on_startSuffixed given session name arguments suffixes.all
        { world with launches := first :: world.launches, journal } rfl answer
    · have other := ok_ne_missing missing
      refine ⟨[], first, _, .ok code, journal, .first answer (absurd · other), ?_⟩
      dsimp only
      rw [if_neg missing]
      rfl

private theorem answerOf_missing (outcome : Outcome) : answerOf outcome = .ok 127 ↔
    (∃ problem, outcome = .refused problem) ∨ (∃ reason, outcome = .broken reason) ∨
      outcome = .code 127 := by
  cases outcome with
  | refused problem => simp [answerOf, Program.notFoundCode]
  | broken reason => simp [answerOf, Program.notFoundCode]
  | fault fault => simp [answerOf]
  | code code =>
    have same : Program.status code = 127 ↔ code = 127 := by
      unfold Program.status
      split <;> omega
    simp [answerOf, same]

private theorem answerOf_signal {signal : Nat} (positive : 0 < signal) :
    answerOf (.code (-signal)) = .ok (128 + signal) := by
  have killed : ¬ (-(signal : Int)) ≥ 0 := by omega
  rw [answerOf, Program.status, if_neg killed]
  exact congrArg Except.ok (by omega)

end Worlds

/-- A similar name is looked for, and a folder of the search path has a name that no folder can have. -/
def Unlisted (shell : Shell) (name : Text) : Prop :=
  name ≠ [] ∧ ∃ folder ∈ shell.session.environment.searchPath, '\x00' ∈ folder

private theorem alternatives_null (shell : Shell) (name : Text) :
    RefusesNull (Unlisted shell name) (shell.alternatives name) := by
  unfold Shell.alternatives
  cases name with
  | nil =>
    intro fault
    exact ⟨nofun, fun null => absurd rfl null.1.1⟩
  | cons c name =>
    have looked : Unlisted shell (c :: name) ↔
        ∃ folder ∈ shell.session.environment.searchPath, '\x00' ∈ folder := and_iff_right (List.cons_ne_nil c name)
    rw [looked]
    exact (programs_null _ _ _).change _

/-- What comes of a program after the attempts to start it, by the status of the last one. If that could
not be started either, a panel says so, and nothing is shown if it could. -/
structure Concludes (shell : Shell) (name : Text) (arguments : List Text) (result : Except Fault Int)
    (ran : Except Fault Int × Shell) : Prop where
  answered : result ≠ .ok 127 → ran.1 = result ∧ ran.2.screen = shell.screen
  told : result = .ok 127 → ¬ Unlisted shell name → ∃ suggestions,
    shell.alternatives name = .ok suggestions ∧ (ran.1, ran.2.screen) =
      match shell.screen.present shell.settings
          (.commandNotFound (Text.join " " (name :: arguments)) name suggestions) with
      | .ok screen => (.ok 127, screen)
      | .error fault => (.error fault, shell.screen)
  unlisted : result = .ok 127 → Unlisted shell name →
    ran.1 = .error .nullInPath ∧ ran.2.screen = shell.screen

private theorem runProgram_concludes {suffixes : Suffixes} {shell : Shell}
    (given : suffixes.In shell.settings)
    (name : Text) (arguments : List Text) : ∃ failed last untried result,
      Attempted shell.world.outcome shell.world.launches
        ((suffixes.attempts name arguments).map (launchIn shell.session)) failed last untried result ∧
      ((runProgram name arguments).on shell).2.world.launches =
        last :: (failed.reverse ++ shell.world.launches) ∧
      Concludes shell name arguments result ((runProgram name arguments).on shell) := by
  obtain ⟨failed, last, untried, result, journal, attempted, ran⟩ :=
    on_run given shell.session name arguments shell.world
  refine ⟨failed, last, untried, result, attempted, ?_⟩
  simp only [runProgram, inWorld, on_bind, on_get, on_part, ran]
  cases result with
  | error fault =>
    have other : (.error fault : Except Fault Int) ≠ .ok 127 := by simp
    exact ⟨rfl, fun _ => ⟨rfl, rfl⟩, (absurd · other), (absurd · other)⟩
  | ok code =>
    by_cases missing : code = Program.notFoundCode
    · subst missing
      simp only [if_true, note, inWorld, World.note, display, on_bind, on_get, on_modify, on_part, on_ofExcept]
      generalize looked : Shell.alternatives _ name = found
      have refuses := alternatives_null shell name
      have looked : shell.alternatives name = found := looked
      cases found with
      | error fault =>
        obtain ⟨unlisted, rfl⟩ := (refuses fault).mp looked
        exact ⟨rfl, fun other => absurd rfl other, fun _ listed => absurd unlisted listed,
          fun _ _ => ⟨rfl, rfl⟩⟩
      | ok suggestions =>
        have listed : ¬ Unlisted shell name := fun unlisted => by
          cases looked.symm.trans (refuses.holds_iff.mp unlisted)
        dsimp only
        cases drawn : shell.screen.present shell.settings
            (.commandNotFound (Text.join " " (name :: arguments)) name suggestions) with
        | error fault =>
          exact ⟨rfl, fun other => absurd rfl other, fun _ _ => ⟨suggestions, looked, by rw [drawn]⟩,
            fun _ unlisted => absurd unlisted listed⟩
        | ok screen =>
          exact ⟨rfl, fun other => absurd rfl other, fun _ _ => ⟨suggestions, looked, by rw [drawn]; rfl⟩,
            fun _ unlisted => absurd unlisted listed⟩
    · have other := ok_ne_missing missing
      simp only [if_neg missing]
      exact ⟨rfl, fun _ => ⟨rfl, rfl⟩, (absurd · other), (absurd · other)⟩

/-- A program is started by its words, and then by its name with one suffix after the other, until an
attempt has a status other than 127: that is the status of the program. If none has, a panel says so,
unless the similar names for it cannot be looked up or it cannot be drawn. An attempt has the status 127
if the system refused it or it broke, and else only if the program ended with 127. -/
theorem program_attempted {suffixes : Suffixes} {shell : Shell} (given : suffixes.In shell.settings)
    (name : Text) (arguments : List Text) :
    (∃ failed last untried result,
      Attempted shell.world.outcome shell.world.launches
        ((suffixes.attempts name arguments).map (launchIn shell.session)) failed last untried result ∧
      ((runProgram name arguments).on shell).2.world.launches =
        last :: (failed.reverse ++ shell.world.launches) ∧
      Concludes shell name arguments result ((runProgram name arguments).on shell)) ∧
    ∀ (words : List Json) (environment : Table Text) (folder : Option Text) (world : World), words ≠ [] →
      let outcome := world.outcome (⟨words, folder, environment⟩ :: world.launches)
      let code := ((Program.start words environment folder).on world).1
      code = answerOf outcome ∧
      (code = .ok 127 ↔
        (∃ problem, outcome = .refused problem) ∨ (∃ reason, outcome = .broken reason) ∨
          outcome = .code 127) ∧
      ∀ signal : Nat, 0 < signal → outcome = .code (-signal) →
        code = .ok (128 + signal) ∧ code ≠ .ok 127 := by
  refine ⟨runProgram_concludes given name arguments, ?_⟩
  intro words environment folder world filled
  obtain ⟨journal, started⟩ := on_start words filled environment folder world
  rw [started]
  refine ⟨rfl, answerOf_missing _, ?_⟩
  intro signal positive killed
  have answer := answerOf_signal positive
  rw [← killed] at answer
  refine ⟨answer, ?_⟩
  rw [answer]
  intro same
  have code : (128 + signal : Int) = 127 := Except.ok.inj same
  omega

def standard : Suffixes := ⟨[".exe", ".cmd", ".bat"], [".cmd", ".bat"], ["cmd.exe", "/c"]⟩

def answering (environment : Environment) (other script : Outcome) : Shell :=
  { bareShell with
    world.outcome := fun launches =>
      if (launches.headD ⟨[], none, []⟩).words.length < 3 then other else script
    session.environment := environment }

private theorem standard_in (environment : Environment) (other script : Outcome) :
    standard.In (answering environment other script).settings := ⟨rfl, rfl, rfl⟩

theorem script_started :
    let shell := answering [] (.refused .denied) (.code (-9))
    let ran := (runProgram "foo" []).on shell
    let script := standard.wordsFor "foo" [] ".cmd"
    standard.In shell.settings ∧
      (∃ failed last untried result,
        Attempted shell.world.outcome shell.world.launches
          ((standard.attempts "foo" []).map (launchIn shell.session)) failed last untried result ∧
        ran.2.world.launches = last :: (failed.reverse ++ shell.world.launches) ∧
        Concludes shell "foo" [] result ran) ∧
      ran.2.world.launches.length = 3 ∧ ran.1 = .ok 137 ∧
      ((Program.start ["foo"] [] none).on shell.world).1 = .ok 127 ∧
      ((Program.start (script.map .text) [] none).on shell.world).1 = .ok (128 + 9) := by
  intro shell ran script
  have given := standard_in [] (.refused .denied) (.code (-9))
  obtain ⟨run, attempt⟩ := program_attempted given "foo" []
  refine ⟨given, run, rfl, rfl, ?_, ?_⟩
  · exact (attempt ["foo"] [] none shell.world (List.cons_ne_nil _ _)).2.1.mpr (.inl ⟨.denied, rfl⟩)
  · exact ((attempt (script.map .text) [] none shell.world (by decide)).2.2 9 (by decide) rfl).1

/-- Every attempt has the status 127, but an element of the search path with the null character takes the
status and the panel away. -/
theorem null_element_untold :
    let shell := answering [("PATH", "a\x00b")] (.refused .badFormat) (.refused .badFormat)
    (∀ launches, answerOf (shell.world.outcome launches) = .ok 127) ∧
      ((runProgram "foo" []).on shell).2.world.launches.length = 4 ∧
      ((runProgram "foo" []).on shell).1 = .error .nullInPath ∧
      ((runProgram "foo" []).on shell).2.screen = .record [] := by
  intro shell
  refine ⟨fun launches => ?_, rfl, rfl, rfl⟩
  simp [shell, answering, answerOf, Program.notFoundCode]

end CommandShell.Proofs.StartAttempts
