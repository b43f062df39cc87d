import CommandShell.Highlight
import CommandShell.Proofs.FolderWalks

/-! Answers from memory to the question whether a name is a command. What is remembered is what a
lookup found earlier, under the key of that question; how far it holds later depends on what the
lookup read beside the key. -/

namespace CommandShell.Proofs.CommandLookups
open FolderWalks

structure Question where
  around : Surroundings
  name : Text

namespace Question

def key (question : Question) : LookupKey := Lookups.keyOf question.around question.name

def answer (lookups : Lookups) (question : Question) : Bool :=
  (lookups.isCommand question.around question.name).2

def home (question : Question) : Text :=
  ((question.around.environment.get? "HOME").orElse fun () => question.around.world.homeText?).getD "~"

def files (question : Question) : Files := question.around.world.files

def Placed (question : Question) : Prop :=
  question.around.current = question.around.world.here

/-- What a lookup reads beside its key is the same: the home folder for a name below it, and the
folder of the process for a bare name if an element of the search path is not absolute. -/
structure Steady (earlier later : Question) : Prop where
  home : ∀ rest, later.name = '~' :: '/' :: rest → earlier.home = later.home
  here : later.name.contains '/' = false →
    (∃ folder ∈ Text.splitOn ':' later.around.searchText, Path.isAbsolute folder = false) →
    earlier.files.here = later.files.here

end Question

def remembered (questions : List Question) : Lookups :=
  questions.foldl (fun lookups question => (lookups.isCommand question.around question.name).1) {}

/-- All that is remembered was found by one of the questions. -/
def FoundBy (questions : List Question) (lookups : Lookups) : Prop :=
  ∀ key found, lookups.known.lookup key = some found →
    ∃ question ∈ questions, question.key = key ∧ question.around.findsProgram question.name = found

private theorem lookup_cons_some {key asked : LookupKey} {found answer : Bool}
    {known : List (LookupKey × Bool)}
    (here : ((key, found) :: known).lookup asked = some answer) :
    key = asked ∧ found = answer ∨ known.lookup asked = some answer := by
  rw [List.lookup_cons] at here
  split at here
  next same => exact .inl ⟨(beq_iff_eq.mp same).symm, Option.some.inj here⟩
  next => exact .inr here

theorem FoundBy.later {questions : List Question} {lookups : Lookups}
    (found : FoundBy questions lookups) (question : Question) :
    FoundBy (questions ++ [question]) lookups := by
  intro key answer known
  obtain ⟨earlier, inside, same⟩ := found key answer known
  exact ⟨earlier, List.mem_append_left _ inside, same⟩

theorem FoundBy.asked {questions : List Question} {lookups : Lookups}
    (found : FoundBy questions lookups) (question : Question) :
    FoundBy (questions ++ [question]) (lookups.isCommand question.around question.name).1 := by
  unfold Lookups.isCommand
  split
  next => exact found.later question
  next =>
    split
    next => exact found.later question
    next =>
      dsimp only
      split
      next => exact found.later question
      next =>
        -- The one new entry is in front; a full memory was emptied before it.
        intro key answer known
        rcases lookup_cons_some known with ⟨same, seen⟩ | kept
        · exact ⟨question, by simp, same, seen⟩
        · split at kept
          · cases kept
          · exact found.later question key answer kept

theorem FoundBy.run {earlier : List Question} {lookups : Lookups} (found : FoundBy earlier lookups)
    (questions : List Question) :
    FoundBy (earlier ++ questions)
      (questions.foldl (fun lookups question => (lookups.isCommand question.around question.name).1)
        lookups) := by
  induction questions generalizing earlier lookups with
  | nil =>
    rw [List.append_nil]
    exact found
  | cons question questions ih =>
    have next := ih (found.asked question)
    rwa [List.append_assoc] at next

private theorem foundBy_remembered (questions : List Question) : FoundBy questions
    (remembered questions) := by
  have start : FoundBy [] {} := by
    intro key found known
    cases known
  exact start.run questions

private theorem answer_found {questions : List Question} {lookups : Lookups}
    (found : FoundBy questions lookups)
    (question : Question) (same : ∀ earlier ∈ questions, earlier.key = question.key →
      earlier.around.findsProgram earlier.name = question.around.findsProgram question.name) :
    question.answer lookups = question.answer {} := by
  unfold Question.answer Lookups.isCommand
  split
  next => rfl
  next =>
    split
    next => rfl
    next =>
      dsimp only
      split
      next answer known =>
        obtain ⟨earlier, inside, key, seen⟩ := found _ _ known
        rw [← seen]
        exact same earlier inside key
      next => rfl

theorem isAbsolute_join {base : Text} (absolute : Path.isAbsolute base = true) (path : Text) :
    Path.isAbsolute (Path.join base path) = true := by
  cases base with
  | nil => cases absolute
  | cons c base =>
    unfold Path.join
    split
    next whole => exact whole
    next => split <;> exact absolute

private theorem find_nodes {files other : Files} (nodes : files.nodes = other.nodes) {path : Text}
    (starts : Path.isAbsolute path = true ∨ files.here = other.here) :
    files.find path = other.find path := by
  have moved : files = { other with here := files.here } := by rw [← nodes]
  rw [moved]
  refine find_moved ?_
  rcases starts with absolute | here
  · rw [Files.start, Files.start, if_pos absolute, if_pos absolute]
  · rw [here]

private theorem pathOf_eq {earlier later : Question} (current : earlier.around.current = later.around.current)
    (names : earlier.name = later.name) (slash : later.name.contains '/' = true)
    (home : ∀ rest, later.name = '~' :: '/' :: rest → earlier.home = later.home) :
    earlier.around.pathOf earlier.name = later.around.pathOf later.name := by
  rw [names]
  unfold Surroundings.pathOf
  rw [current]
  split
  next whole =>
    rw [whole] at slash
    cases slash
  next rest below => exact congrArg (fun home => Path.join _ (home ++ '/' :: rest)) (home rest below)
  next => rfl

private theorem isProgram_eq {earlier later : Question} (nodes : earlier.files.nodes = later.files.nodes)
    {path : Text} (starts : Path.isAbsolute path = true ∨ earlier.files.here = later.files.here) :
    earlier.around.isProgram path = later.around.isProgram path := by
  have found : earlier.around.world.files.find path = later.around.world.files.find path :=
    find_nodes nodes starts
  simp only [Surroundings.isProgram, Files.isRunnable, Files.isFolder, found]

/-- Two questions with one key find the same if the rest of what they read is the same too. -/
theorem findsProgram_eq {earlier later : Question} (nodes : earlier.files.nodes = later.files.nodes)
    (placed : later.Placed) (key : earlier.key = later.key) (steady : earlier.Steady later) :
    earlier.around.findsProgram earlier.name = later.around.findsProgram later.name := by
  have names : earlier.name = later.name := congrArg LookupKey.name key
  have search : earlier.around.searchText = later.around.searchText := congrArg LookupKey.searchPath key
  have folder : (if earlier.name.contains '/' then earlier.around.current else []) =
      if later.name.contains '/' then later.around.current else [] := congrArg LookupKey.folder key
  unfold Surroundings.findsProgram
  cases slash : later.name.contains '/' with
  | true =>
    -- The path is absolute then, so the folder of the process does not matter.
    rw [names, slash] at folder
    have paths := pathOf_eq folder names slash steady.home
    have absolute : Path.isAbsolute (later.around.pathOf later.name) = true :=
      isAbsolute_join (by rw [placed]; rfl) _
    have found : earlier.around.world.files.find (later.around.pathOf later.name) =
        later.around.world.files.find (later.around.pathOf later.name) := find_nodes nodes (.inl absolute)
    rw [paths, names, slash, if_pos rfl, if_pos rfl]
    simp only [Files.isFile, Files.isRunnable, found]
  | false =>
    rw [names, slash, search]
    simp only [Bool.false_eq_true, if_false]
    congr 1
    rw [Bool.eq_iff_iff, List.any_eq_true, List.any_eq_true]
    refine exists_congr fun folder => and_congr_right fun inside => ?_
    rw [isProgram_eq nodes]
    by_cases absolute : Path.isAbsolute folder = true
    · exact .inl (isAbsolute_join absolute _)
    · exact .inr (steady.here slash ⟨folder, inside, Bool.eq_false_iff.mpr absolute⟩)

/-- The files do not change, and each question is asked in the folder of the process. -/
structure Settled (questions : List Question) (nodes : List (Place × Node)) : Prop where
  files : ∀ question ∈ questions, question.files.nodes = nodes
  placed : ∀ question ∈ questions, question.Placed

/-- Whatever was asked before and however often the memory was emptied, an answer is the one that a
memory without entries gives, if what the lookup reads beside its key was the same for every earlier
question with that key. -/
theorem answer_unaffected {before : List Question} {question : Question} {nodes : List (Place × Node)}
    (settled : Settled (before ++ [question]) nodes)
    (steady : ∀ earlier ∈ before, earlier.key = question.key → earlier.Steady question) :
    question.answer (remembered before) = question.answer {} := by
  have last : question ∈ before ++ [question] := by simp
  refine answer_found (foundBy_remembered before) question fun earlier inside key => ?_
  have member : earlier ∈ before ++ [question] := List.mem_append_left _ inside
  have same := (settled.files earlier member).trans (settled.files question last).symm
  exact findsProgram_eq same (settled.placed question last) key (steady earlier inside key)

def asked (here : Place) (environment : Environment) (name : Text) : Question :=
  let files : Files := { nodes := [(["a"], .folder false), (["a", "x"], .file [] .program)], here }
  ⟨⟨{ files }, environment, files.hereText⟩, name⟩

theorem settled_asked (questions : List (Place × Environment × Text)) :
    Settled (questions.map fun (here, environment, name) => asked here environment name)
      [(["a"], .folder false), (["a", "x"], .file [] .program)] where
  files question inside := by
    obtain ⟨_, -, rfl⟩ := List.mem_map.mp inside
    rfl
  placed question inside := by
    obtain ⟨_, -, rfl⟩ := List.mem_map.mp inside
    rfl

theorem answer_lookup {question : Question} (filled : question.name.isEmpty = false)
    (foreign : (Builtin.ofName? question.name).isSome = false) :
    question.answer {} = question.around.findsProgram question.name := by
  rw [Question.answer, Lookups.isCommand, filled, foreign]
  rfl

private theorem answer_repeated {earlier later : Question} (key : earlier.key = later.key) :
    later.answer (remembered [earlier]) = earlier.answer {} := by
  have names : earlier.name = later.name := congrArg LookupKey.name key
  cases empty : later.name.isEmpty with
  | true =>
    rw [Question.answer, Question.answer, Lookups.isCommand, Lookups.isCommand, names, empty]
    rfl
  | false =>
    cases builtin : (Builtin.ofName? later.name).isSome with
    | true =>
      rw [Question.answer, Question.answer, Lookups.isCommand, Lookups.isCommand, names, empty, builtin]
      rfl
    | false =>
      have once : remembered [earlier] = ⟨[(later.key, earlier.around.findsProgram earlier.name)]⟩ := by
        rw [← key]
        change (Lookups.isCommand {} earlier.around earlier.name).1 = _
        rw [Lookups.isCommand, names, empty, builtin]
        simp only [Bool.false_eq_true, if_false, ← names]
        rfl
      have known : (remembered [earlier]).known.lookup later.key =
          some (earlier.around.findsProgram earlier.name) := by
        rw [once]
        exact List.lookup_cons_self
      rw [answer_lookup (names ▸ empty) (names ▸ builtin), Question.answer, Lookups.isCommand, empty, builtin]
      simp only [Bool.false_eq_true, if_false]
      rw [show Lookups.keyOf later.around later.name = later.key from rfl, known]

/-- A bare name is looked up again in another folder with another home, after a name below the home
folder. -/
theorem answer_in_other_folder :
    let before := [asked ["a"] [("PATH", "/a"), ("HOME", "/a")] "x", asked ["a"] [("PATH", "/a")] "~/x"]
    let question := asked [] [("PATH", "/a"), ("HOME", "/")] "x"
    question.answer (remembered before) = question.answer {} ∧ question.answer {} = true := by
  intro before question
  refine ⟨answer_unaffected (settled_asked [(["a"], [("PATH", "/a"), ("HOME", "/a")], "x"),
    (["a"], [("PATH", "/a")], "~/x"), ([], [("PATH", "/a"), ("HOME", "/")], "x")]) ?_, ?_⟩
  · have absolute : ∀ folder ∈ Text.splitOn ':' question.around.searchText,
        Path.isAbsolute folder = true := by decide
    intro earlier inside key
    refine ⟨fun rest below => ?_, fun _ relative => ?_⟩
    · cases below
    · obtain ⟨folder, inside, relative⟩ := relative
      rw [absolute folder inside] at relative
      cases relative
  · rw [answer_lookup rfl (by decide)]
    decide +kernel

/-- The key leaves out the home folder, and the folder in which a relative element of the search path
is looked up: after a change of either the memory still answers for the old one. -/
theorem stale_answers :
    let below := asked [] [("HOME", "/a")] "~/x"
    let below' := asked [] [("HOME", "/")] "~/x"
    let bare := asked ["a"] [("PATH", ".")] "x"
    let bare' := asked [] [("PATH", ".")] "x"
    (∃ nodes, Settled [below, below'] nodes) ∧
      below'.answer (remembered [below]) = true ∧ below'.answer {} = false ∧
    (∃ nodes, Settled [bare, bare'] nodes) ∧
      bare'.answer (remembered [bare]) = true ∧ bare'.answer {} = false := by
  intro below below' bare bare'
  refine ⟨⟨_, settled_asked [([], [("HOME", "/a")], "~/x"), ([], [("HOME", "/")], "~/x")]⟩, ?_, ?_,
    ⟨_, settled_asked [(["a"], [("PATH", ".")], "x"), ([], [("PATH", ".")], "x")]⟩, ?_, ?_⟩
  · rw [answer_repeated (by decide), answer_lookup rfl (by decide)]
    decide +kernel
  · rw [answer_lookup rfl (by decide)]
    decide +kernel
  · rw [answer_repeated (by decide), answer_lookup rfl (by decide)]
    decide +kernel
  · rw [answer_lookup rfl (by decide)]
    decide +kernel

end CommandShell.Proofs.CommandLookups
