import CommandShell.Proofs.FailedLookups

/-! Which faults work in the world can end with that a pressed key starts: never that of a cursor behind its
text or of an index that names no entry. -/

namespace CommandShell.Proofs.WorkFaults
open ActSteps CompletionRoutes FailedLookups FlagLookups HistoryFile KeyTurns Shell

def Stray : Fault → Prop
  | .cursorBeyond _ _ | .outOfRange => True
  | _ => False

/-- The faults that may come: those that are not stray, and those that the manual gives. -/
def Allowed (manual : List ManualRequest → Outcome × Text) (fault : Fault) : Prop :=
  ¬ Stray fault ∨ ∃ requests page, manual requests = (.fault fault, page)

variable {manual : List ManualRequest → Outcome × Text}

section Worlds

/-- Work that keeps the manual and ends with no fault but allowed ones. -/
abbrev Quiet {α : Type} (manual : List ManualRequest → Outcome × Text) (act : Act World α) : Prop :=
  Safe (fun world => world.manual = manual) (Allowed manual) (fun _ => True) act

private theorem quiet_note (level : Level) (source text : Text) : Quiet manual
    (World.note level source text) :=
  .change fun _ held => held

theorem quiet_atPath {α : Type} (path : Text) (work : Files → Except FileProblem α) :
    Quiet manual (World.atPath path work) := by
  have stop (fault : Fault) (plain : ¬ Stray fault) : Quiet manual (throw fault : Act World α) :=
    .fault (.inl plain)
  unfold World.atPath
  split
  · exact stop _ not_false
  · apply Safe.read
    intro world _
    split
    · exact .value trivial
    · exact stop _ not_false

private theorem quiet_editAt (path : Text) (work : Files → Except FileProblem Files) :
    Quiet manual (World.editAt path work) := by
  apply Safe.next (quiet_atPath path work)
  intro files
  exact .change fun _ held => held

private theorem quiet_occupied (path : Text) : Quiet manual (World.occupied path) := by
  unfold World.occupied
  split
  · exact .value trivial
  · exact quiet_atPath _ _

private theorem quiet_ensureFolders (path : Path) : Quiet manual (World.ensureFolders path) := by
  unfold World.ensureFolders
  split
  · exact .fault (.inl not_false)
  · apply Safe.read
    intro world _
    generalize world.files.ensureFolders path.root path.parts.reverse = made
    obtain ⟨files, result⟩ := made
    apply Safe.next
    · exact .change fun _ held => held
    · intro _
      split
      · exact .value trivial
      · exact .fault (.inl not_false)

private theorem quiet_noted {act : Act World Unit} (quiet : Quiet manual act) (level : Level)
    (source : Text) (said : Fault → Text) :
    Quiet manual (do
      match ← Act.attempt act with
      | .ok () => return ()
      | .error fault =>
        if fault.isFile then World.note level source (said fault)
        else throw fault) := by
  apply Safe.bind (.attempt quiet)
  intro result ends
  cases result with
  | ok => exact .value trivial
  | error fault =>
    dsimp only
    split
    · exact quiet_note _ _ _
    · exact .fault ends

private theorem quiet_readFile (file : Path) : Quiet manual (FlagCache.readFile file) := by
  have read : Quiet manual (World.readLossy file.text) := .next (quiet_atPath _ _) fun _ => .value trivial
  apply Safe.bind (.attempt read)
  intro result ends
  cases result with
  | ok content => exact .value trivial
  | error fault =>
    dsimp only
    split
    · exact .next (quiet_note _ _ _) fun _ => .value trivial
    · exact .fault ends

private theorem quiet_writeFile (file : Path) (rows : List FlagRow) :
    Quiet manual (FlagCache.writeFile file rows) :=
  quiet_noted (.next (quiet_ensureFolders _) fun _ => quiet_editAt _ _) _ _ _

private theorem quiet_readManual (command : Text) : Quiet manual (FlagCache.readManual command) := by
  intro world held
  obtain ⟨requests, journal, asked⟩ := on_readManual command world
  rw [asked]
  refine ⟨held, ?_⟩
  have given : manual (⟨command, "cat", "120"⟩ :: world.requests) = answer command world := by
    rw [← held]
    rfl
  generalize answer command world = answered at given
  obtain ⟨outcome, page⟩ := answered
  cases outcome with
  | code value =>
    cases value with
    | ofNat n => cases n <;> exact trivial
    | negSucc n => exact trivial
  | refused problem =>
    cases problem with
    | notFound => exact trivial
    | _ => exact .inl not_false
  | broken reason => exact trivial
  | fault fault => exact .inr ⟨_, _, given⟩

private theorem quiet_rowsOf (cache : FlagCache) (command : Text) : Quiet manual (cache.rowsOf command) := by
  unfold FlagCache.rowsOf
  split
  · exact .value trivial
  · split
    · exact .value trivial
    · apply Safe.next (quiet_occupied _)
      intro there
      split
      · exact .next (quiet_readFile _) fun rows => .value trivial
      · apply Safe.next (quiet_readManual command)
        intro rows
        split
        · exact .next (quiet_writeFile _ _) fun _ => .value trivial
        · exact .value trivial

private theorem quiet_rowsFor (cache : FlagCache) (route : Route) : Quiet manual (rowsFor cache route) := by
  cases route with
  | path => exact .value trivial
  | command => exact .value trivial
  | flag command => exact quiet_rowsOf cache command

private theorem length_push (history : History) (entry : Entry) :
    history.entries.length ≤ (history.push entry).entries.length := by
  have most := history.most_pos
  unfold History.push
  split
  · simp only [List.length_append, List.length_drop, List.length_singleton]
    omega
  · simp only [List.length_append, List.length_singleton]
    omega

/-- Where the oldest entry makes room for a new one, there are as many as before. -/
theorem safe_add (history : History) (command : Text) :
    Safe (fun world => world.manual = manual) (Allowed manual)
      (fun added => history.entries.length ≤ added.1.entries.length ∧
        Ends (Allowed manual) (fun _ => True) added.2)
      (liftM (history.add command none) : Act World (History × Except Fault Bool)) := by
  have written (entry : Entry) : Quiet manual (history.writeRecord entry) := by
    unfold History.writeRecord
    split
    · exact .value trivial
    · refine quiet_noted (.next (quiet_ensureFolders _) fun _ => .next (quiet_editAt _ _) fun _ => ?_) _ _ _
      split
      · exact .fault (.inl not_false)
      · exact .value trivial
  intro world held
  rw [on_liftM]
  by_cases accepted : history.accepts command = true
  · obtain ⟨still, ends⟩ := written ⟨command, world.now⟩ world held
    cases ran : (history.writeRecord ⟨command, world.now⟩).on world with
    | mk result after =>
      rw [ran] at still ends
      rw [run_add_accepted accepted none ran]
      cases result with
      | ok => exact ⟨still, length_push history _, trivial⟩
      | error fault => exact ⟨still, length_push history _, ends⟩
  · rw [run_add_refused accepted]
    exact ⟨held, Nat.le_refl _, trivial⟩

theorem safe_complete {buffer : LineBuffer} (inside : Inside buffer) (cache : FlagCache) (current : Text)
    (environment : Environment) :
    Safe (fun world => world.manual = manual) (Allowed manual) (fun found => found.2.selected = 0)
      (Completion.complete cache buffer.text buffer.cursor current environment) := by
  intro world held
  obtain ⟨journal, ran⟩ := CompletionRoutes.on_complete inside cache current environment world
  obtain ⟨still, ends⟩ := quiet_rowsFor cache (route buffer.before) world held
  rw [ran]
  generalize (rowsFor cache (route buffer.before)).on world = asked at still ends
  obtain ⟨fault | ⟨known, rows⟩, after⟩ := asked
  · exact ⟨still, ends⟩
  · dsimp only
    have refuses := offered_null (route buffer.before) after.files rows (Text.lastWord buffer.before) current
      environment
    rw [offeredFor]
    cases whole : offered (route buffer.before) after.files rows (Text.lastWord buffer.before) current
        environment with
    | ok found => exact ⟨still, rfl⟩
    | error fault =>
      obtain ⟨-, rfl⟩ := (refuses fault).mp whole
      exact ⟨still, .inl not_false⟩

/-- A word before a cursor inside is replaced, unless its expansion is no text. -/
theorem ends_expandAt (abbreviations : Abbreviations) {text : Text} {cursor : Int}
    (inside : cursor ≤ text.length) :
    Ends (Allowed manual) (fun _ => True) (abbreviations.expandAt text cursor) := by
  have read : cursorWord text cursor = .ok (Text.lastWord (Text.before cursor text)) := by
    rw [cursorWord, if_neg (by omega)]
  unfold Abbreviations.expandAt
  rw [read]
  dsimp only [bind, Except.bind]
  split
  · exact trivial
  · split
    · exact trivial
    · next expansion _ =>
      cases expansion with
      | text => exact trivial
      | _ => exact .inl not_false

end Worlds

end CommandShell.Proofs.WorkFaults
