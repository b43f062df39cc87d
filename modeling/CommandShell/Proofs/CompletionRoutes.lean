import CommandShell.Proofs.CandidateSources
import CommandShell.Proofs.WordBefore

/-! Which sources a word is completed from. One more character of the word leaves the sources as they
are, and each of them offers what is left of its candidates. -/

namespace CommandShell.Proofs.CompletionRoutes
open ActSteps CandidateSources Completion KeyTurns WordBefore

/-- What a word may be beside a path. -/
inductive Route
  | path
  | command
  | flag (command : Text)

def route (text : Text) : Route :=
  if (Text.lastWord text).contains '/' then .path
  else if (Text.trim (front text)).isEmpty then .command
  else if (Text.lastWord text).head? = some '-' then .flag ((Text.words text).headD [])
  else .path

def rowsFor (cache : FlagCache) : Route → Act World (FlagCache × List FlagRow)
  | .flag command => cache.rowsOf command
  | _ => return (cache, [])

def leading (files : Files) (rows : List FlagRow) (word : Text) (environment : Environment) :
    Route → Except Fault (List Candidate)
  | .path => .ok []
  | .command => commands files word environment
  | .flag _ => .ok (flagsOfRows rows word)

def offered (route : Route) (files : Files) (rows : List FlagRow) (word current : Text)
    (environment : Environment) : Except Fault (List Candidate) := do
  let leading ← leading files rows word environment route
  let paths ← paths files word current (environment.get? "HOME")
  return leading ++ paths

def offeredFor (text : Text) (files : Files) (rows : List FlagRow) (current : Text)
    (environment : Environment) : Except Fault (List Candidate) :=
  offered (route text) files rows (Text.lastWord text) current environment

theorem on_paths (route : Route) (cache : FlagCache) (rows : List FlagRow) (word current : Text)
    (environment : Environment) (world : World) {found : List Candidate}
    (first : leading world.files rows word environment route = .ok found) :
    (do
      let pathsNow : Act World (List Candidate) := do
        Act.ofExcept (paths (← get).files word current (environment.get? "HOME"))
      return (cache, word, found ++ (← pathsNow)) :
        Act World (FlagCache × Text × List Candidate)).on world =
      ((offered route world.files rows word current environment).map
        fun found => (cache, word, found), world) := by
  simp only [on_bind, on_get, on_ofExcept, on_pure, offered, first]
  cases paths world.files word current (environment.get? "HOME") <;> rfl

section Runs

variable {buffer : LineBuffer} (inside : Inside buffer) (cache : FlagCache) (current : Text)
  (environment : Environment) (world : World)

include inside

/-- The candidates are those of the route that the word takes. -/
theorem on_candidates :
    (candidates cache buffer.text buffer.cursor current environment).on world =
      match (rowsFor cache (route buffer.before)).on world with
      | (.ok (cache, rows), world) =>
        ((offeredFor buffer.before world.files rows current environment).map
          fun found => (cache, Text.lastWord buffer.before, found), world)
      | (.error fault, world) => (.error fault, world) := by
  have position : isCommandPosition buffer.text buffer.cursor (Text.lastWord buffer.before) =
      (Text.trim (front buffer.before)).isEmpty := by
    rw [isCommandPosition, before_word inside (front_append buffer.before)]
  unfold candidates
  rw [on_bind, cursorWord_eq inside, on_ofExcept]
  dsimp only
  unfold offeredFor
  rw [position, before_eq inside, route]
  split
  next slash => exact on_paths .path cache [] _ current environment world rfl
  next =>
    split
    next first =>
      rw [on_bind, on_get]
      dsimp only
      rw [on_bind, on_ofExcept]
      cases found : commands world.files (Text.lastWord buffer.before) environment with
      | error fault =>
        simp only [rowsFor, on_pure, offered, leading, found]
        rfl
      | ok commands => exact on_paths .command cache [] _ current environment world found
    next later =>
      split
      next flag =>
        -- A word that is not the first has a command in front of it.
        obtain ⟨command, starts⟩ := head?_words_front (Bool.eq_false_iff.mpr later)
        have words := starts (Text.lastWord buffer.before)
        rw [front_append] at words
        obtain ⟨others, words⟩ := List.head?_eq_some_iff.mp words
        rw [words]
        dsimp only [List.headD_cons, rowsFor]
        rw [on_bind, Completion.flags, on_bind]
        generalize (cache.rowsOf command).on world = asked
        obtain ⟨fault | ⟨cache, rows⟩, world⟩ := asked
        · rfl
        · exact on_paths (.flag command) cache rows _ current environment world rfl
      next => exact on_paths .path cache [] _ current environment world rfl

theorem on_complete : ∃ journal,
    (complete cache buffer.text buffer.cursor current environment).on world =
      match (rowsFor cache (route buffer.before)).on world with
      | (.ok (cache, rows), world) =>
        match offeredFor buffer.before world.files rows current environment with
        | .ok found =>
          (.ok (cache, .ofCandidates found (Text.lastWord buffer.before)), { world with journal })
        | .error fault => (.error fault, world)
      | (.error fault, world) => (.error fault, world) := by
  rw [complete, on_bind, on_candidates inside]
  generalize (rowsFor cache (route buffer.before)).on world = asked
  obtain ⟨fault | ⟨cache, rows⟩, world⟩ := asked
  · exact ⟨[], rfl⟩
  · dsimp only
    cases offeredFor buffer.before world.files rows current environment with
    | error fault => exact ⟨[], rfl⟩
    | ok found => exact ⟨_, rfl⟩

variable {cache current environment world}

/-- A word that can only be a path is completed without a look at flags. -/
theorem on_complete_path (routed : route buffer.before = .path) {found : List Candidate}
    (there : paths world.files (Text.lastWord buffer.before) current (environment.get? "HOME") = .ok found) :
    (complete cache buffer.text buffer.cursor current environment).on world =
      (.ok (cache, .ofCandidates found (Text.lastWord buffer.before)), { world with journal :=
        ⟨.debug, FlagCache.source, "completion for " ++ Text.quoted (Text.lastWord buffer.before) ++
          " produced " ++ Text.ofNat found.length ++ " candidates"⟩ :: world.journal }) := by
  have offers : offeredFor buffer.before world.files [] current environment = .ok found := by
    rw [offeredFor, routed, offered, there]
    rfl
  have asked : (rowsFor cache (route buffer.before)).on world = (.ok (cache, []), world) := by
    rw [routed]
    rfl
  rw [complete, on_bind, on_candidates inside, asked]
  dsimp only
  rw [offers]
  rfl

/-- What a completion that succeeds has asked for and found. -/
theorem of_complete {known : FlagCache} {pager : Pager} {after : World}
    (completed : (complete cache buffer.text buffer.cursor current environment).on world =
      (.ok (known, pager), after)) :
    ∃ rows middle found, (rowsFor cache (route buffer.before)).on world = (.ok (known, rows), middle) ∧
      offeredFor buffer.before middle.files rows current environment = .ok found ∧
      pager = .ofCandidates found (Text.lastWord buffer.before) ∧ after.files = middle.files := by
  obtain ⟨journal, ran⟩ := on_complete inside cache current environment world
  rw [ran] at completed
  generalize (rowsFor cache (route buffer.before)).on world = asked at completed
  obtain ⟨fault | ⟨cache, rows⟩, middle⟩ := asked
  · cases completed
  · dsimp only at completed
    cases whole : offeredFor buffer.before middle.files rows current environment with
    | error fault =>
      rw [whole] at completed
      cases completed
    | ok found =>
      rw [whole] at completed
      cases completed
      exact ⟨rows, middle, found, rfl, whole, rfl, rfl⟩

end Runs

section Typed

variable {text word : Text} {c : Char}

private theorem word_filled (named : (cutAtSlash word).2 ≠ []) : word ≠ [] := by
  rintro rfl
  exact named rfl

theorem route_typed (sharp : Text.isBlank c = false) (other : c ≠ '/')
    (named : (cutAtSlash (Text.lastWord text)).2 ≠ []) : route (text ++ [c]) = route text := by
  have slash : (Text.lastWord text ++ [c]).contains '/' = (Text.lastWord text).contains '/' := by
    simp [Ne.symm other]
  have first : (Text.lastWord text ++ [c]).head? = (Text.lastWord text).head? := by
    obtain ⟨head, rest, filled⟩ := List.exists_cons_of_ne_nil (word_filled named)
    rw [filled]
    rfl
  unfold route
  rw [lastWord_typed text sharp, front_typed text sharp, slash, first]
  split
  next => rfl
  next =>
    split
    next => rfl
    next later =>
      -- The command is read from what stands in front of the word.
      obtain ⟨command, starts⟩ := head?_words_front (Bool.eq_false_iff.mpr later)
      have before := starts (Text.lastWord text)
      have after := starts (Text.lastWord text ++ [c])
      rw [← List.append_assoc, front_append] at after
      rw [front_append] at before
      rw [List.headD_eq_head?_getD, List.headD_eq_head?_getD, before, after]

private theorem leading_longer {longer : Text} (goes : word <+: longer) (files : Files) (rows : List FlagRow)
    (environment : Environment) (route : Route) :
    leading files rows longer environment route =
      (leading files rows word environment route).map (starting longer) := by
  cases route with
  | path => rfl
  | command => exact commands_longer goes
  | flag command => exact congrArg Except.ok (flagsOfRows_longer goes rows)

private theorem offered_typed (named : (cutAtSlash word).2 ≠ []) (other : c ≠ '/') (route : Route)
    (files : Files) (rows : List FlagRow) (current : Text) (environment : Environment) :
    offered route files rows (word ++ [c]) current environment =
      (offered route files rows word current environment).map (starting (word ++ [c])) := by
  unfold offered
  rw [leading_longer (List.prefix_append word [c]), paths_typed named other]
  cases leading files rows word environment route with
  | error fault => rfl
  | ok found =>
    cases paths files word current (environment.get? "HOME") with
    | error fault => rfl
    | ok paths => exact congrArg Except.ok (starting_append _ found paths).symm

theorem offeredFor_typed (sharp : Text.isBlank c = false)
    (named : (cutAtSlash (Text.lastWord text)).2 ≠ []) (other : c ≠ '/') (files : Files)
    (rows : List FlagRow) (current : Text) (environment : Environment) :
    offeredFor (text ++ [c]) files rows current environment =
      (offeredFor text files rows current environment).map (starting (Text.lastWord text ++ [c])) := by
  rw [offeredFor, route_typed sharp other named, lastWord_typed text sharp, offered_typed named other]
  rfl

theorem offered_parts {route : Route} {files : Files} {rows : List FlagRow} {current : Text}
    {environment : Environment} {all : List Candidate}
    (whole : offered route files rows word current environment = .ok all) :
    ∃ lead found, leading files rows word environment route = .ok lead ∧
      paths files word current (environment.get? "HOME") = .ok found ∧ all = lead ++ found := by
  unfold offered at whole
  cases first : leading files rows word environment route with
  | error fault =>
    rw [first] at whole
    cases whole
  | ok lead =>
    cases last : paths files word current (environment.get? "HOME") with
    | error fault =>
      rw [first, last] at whole
      cases whole
    | ok found =>
      rw [first, last] at whole
      exact ⟨lead, found, rfl, rfl, (Except.ok.inj whole).symm⟩

theorem offered_extend {route : Route} {files : Files} {rows : List FlagRow} {current : Text}
    {environment : Environment} {found : List Candidate}
    (whole : offered route files rows word current environment = .ok found) : Extend word found := by
  obtain ⟨lead, paths, first, last, rfl⟩ := offered_parts whole
  refine Extend.append ?_ (paths_extend last)
  have same := leading_longer (List.prefix_refl word) files rows environment route
  rw [first] at same
  rw [Except.ok.inj same]
  exact extend_starting word lead

end Typed

section Flags

variable {cache : FlagCache} {command : Text}

theorem rowsOf_known {rows : List FlagRow} (usable : (command.isEmpty || command.contains '/') = false)
    (known : cache.rows.get? command = some rows) (world : World) :
    (cache.rowsOf command).on world = (.ok (cache, rows), world) := by
  rw [FlagCache.rowsOf, usable, known]
  rfl

private theorem rowsOf_remembers (usable : (command.isEmpty || command.contains '/') = false) :
    Yields (cache.rowsOf command) fun found => found.1.rows.get? command = some found.2 := by
  have remembered (rows : List FlagRow) : (cache.rows.set command rows).get? command = some rows := by
    rw [Table.get?_set, if_pos rfl]
  unfold FlagCache.rowsOf
  rw [usable, if_neg Bool.false_ne_true]
  split
  next rows known => exact .value known
  next =>
    refine .bind (.anything _) fun occupied _ => ?_
    split
    next => exact .bind (.anything _) fun rows _ => .value (remembered rows)
    next =>
      refine .bind (.anything _) fun rows _ => ?_
      split
      next =>
        refine .bind (.anything _) fun written _ => .bind (.anything _) fun last _ => ?_
        exact .value (remembered last)
      next => exact .bind (.anything _) fun last _ => .value (remembered last)

/-- Flags that were asked for are in memory: asking for them again needs nothing of the world. -/
theorem rowsFor_again {known : FlagCache} {route : Route} {rows : List FlagRow} {world after : World}
    (asked : (rowsFor cache route).on world = (.ok (known, rows), after)) (later : World) :
    (rowsFor known route).on later = (.ok (known, rows), later) := by
  cases route with
  | path =>
    cases asked
    rfl
  | command =>
    cases asked
    rfl
  | flag command =>
    rw [rowsFor] at asked ⊢
    cases unusable : command.isEmpty || command.contains '/' with
    | true =>
      rw [FlagCache.rowsOf, unusable] at asked
      cases asked
      rw [FlagCache.rowsOf, unusable]
      rfl
    | false =>
      exact rowsOf_known unusable (rowsOf_remembers unusable world _ (congrArg Prod.fst asked)) later

end Flags

end CommandShell.Proofs.CompletionRoutes
