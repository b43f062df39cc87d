import CommandShell.Proofs.NarrowedPager
import CommandShell.Proofs.PagerWord

/-! Taking a candidate into the line right after completing. Each candidate goes on from the word before
the cursor, so what is taken puts the rest of the candidate in at the cursor. -/

namespace CommandShell.Proofs.AcceptedCandidates
open ActSteps CandidateSources CompletionRoutes KeyRuns KeyTurns NarrowedPager PagerWord Shell WordBefore

def select (place : Nat) (shell : Shell) : Shell :=
  { shell with session := { shell.session with pager := { shell.session.pager with selected := place } } }

section Keys

variable (serve : Request → Act Shell Unit) {shell : Shell}

private theorem on_tab (behind : shell.session.pager.selected + 1 < shell.session.pager.candidates.length) :
    (handle serve (.char '\t')).on shell = (.ok ⟨⟩, select (shell.session.pager.selected + 1) shell) := by
  have active : shell.session.pager.active = true := by
    unfold Pager.active
    cases candidates : shell.session.pager.candidates with
    | nil =>
      rw [candidates] at behind
      cases behind
    | cons first rest => rfl
  have next : shell.session.pager.next =
      { shell.session.pager with selected := shell.session.pager.selected + 1 } := by
    rw [Pager.next, if_pos active, Nat.mod_eq_of_lt behind]
  have pressed : press (.char '\t') = (do
      if (← get).session.pager.active then changePager .next else Shell.complete : Act Shell Unit) >>=
        fun _ => pure none := rfl
  have changed : (changePager .next).on shell =
      (.ok ⟨⟩, select (shell.session.pager.selected + 1) shell) := by
    rw [select, ← next]
    rfl
  rw [handle, pressed]
  simp only [on_bind, on_get, if_pos active, changed]
  rfl

private theorem on_tabs (count : Nat) (keys : List Key)
    (within : shell.session.pager.selected + count < shell.session.pager.candidates.length) :
    (pressAll serve (List.replicate count (.char '\t') ++ keys)).on shell =
      (pressAll serve keys).on (select (shell.session.pager.selected + count) shell) := by
  induction count generalizing shell with
  | zero => rfl
  | succ count ih =>
    have one : shell.session.pager.selected + 1 < shell.session.pager.candidates.length := by omega
    have others : (select (shell.session.pager.selected + 1) shell).session.pager.selected + count <
        (select (shell.session.pager.selected + 1) shell).session.pager.candidates.length := by
      change shell.session.pager.selected + 1 + count < shell.session.pager.candidates.length
      omega
    have place : shell.session.pager.selected + (count + 1) =
        shell.session.pager.selected + 1 + count := by omega
    rw [List.replicate_succ, List.cons_append, pressAll_cons, on_bind, on_tab serve one]
    dsimp only
    rw [ih others, place]
    rfl

def accepted (candidate : Candidate) (shell : Shell) : Shell :=
  { shell with
    editor := shell.editor.move (·.replaceBefore shell.session.pager.filter.length candidate.value)
    session := { shell.session with pager := {} } }

/-- Tabs up to a candidate and then the return key take it. -/
theorem on_chosen (first : shell.session.pager.selected = 0) (place : Nat) {candidate : Candidate}
    (chosen : shell.session.pager.candidates[place]? = some candidate) {key : Key}
    (enters : key = .char '\r' ∨ key = .char '\n') :
    (pressAll serve (List.replicate place (.char '\t') ++ [key])).on shell =
      (.ok ⟨⟩, accepted candidate shell) := by
  have same : shell.session.pager.selected + place = place := by omega
  have within : shell.session.pager.selected + place < shell.session.pager.candidates.length := by
    obtain ⟨shorter, -⟩ := List.getElem?_eq_some_iff.mp chosen
    omega
  have current : (select (shell.session.pager.selected + place) shell).session.pager.current? =
      some candidate := by
    rw [same]
    exact chosen
  rw [on_tabs serve place [key] within, pressAll_cons, on_bind, handle_enter serve enters current]
  rfl

end Keys

private theorem on_shell_complete (shell : Shell) :
    Shell.complete.on shell = match (Completion.complete shell.flags shell.buffer.text shell.buffer.cursor
        shell.session.current shell.session.environment).on shell.world with
      | (.ok (flags, pager), world) =>
        (.ok ⟨⟩, { shell with world, flags, session := { shell.session with pager } })
      | (.error fault, world) => (.error fault, { shell with world }) := by
  unfold Shell.complete inWorld
  rw [on_bind, on_get]
  dsimp only
  rw [on_bind, on_part]
  generalize (Completion.complete shell.flags shell.buffer.text shell.buffer.cursor shell.session.current
    shell.session.environment).on shell.world = ran
  obtain ⟨fault | given, world⟩ := ran
  · rfl
  · rfl

theorem completes {shell : Shell} {known : FlagCache} {pager : Pager} {world : World}
    (found : (Completion.complete shell.flags shell.buffer.text shell.buffer.cursor shell.session.current
      shell.session.environment).on shell.world = (.ok (known, pager), world)) :
    Shell.complete.on shell = (.ok ⟨⟩, { shell with
      world, flags := known, session := { shell.session with pager } }) := by
  rw [on_shell_complete, found]

section Accepting

variable {shell opened : Shell} (inside : Inside shell.buffer)
  (completed : Shell.complete.on shell = (.ok ⟨⟩, opened))

include inside completed

/-- A completion that succeeds shows what goes on from the word before the cursor. -/
theorem opened_pager : opened.editor = shell.editor ∧
    ∃ found, opened.session.pager = .ofCandidates found (Text.lastWord shell.buffer.before) ∧
      Extend (Text.lastWord shell.buffer.before) found := by
  rw [on_shell_complete] at completed
  cases ran : (Completion.complete shell.flags shell.buffer.text shell.buffer.cursor shell.session.current
      shell.session.environment).on shell.world with
  | mk result world =>
    rw [ran] at completed
    cases result with
    | error fault => cases completed
    | ok given =>
      obtain ⟨rows, middle, found, asked, whole, pager, -⟩ := of_complete inside ran
      cases completed
      exact ⟨rfl, found, pager, offered_extend whole⟩

/-- Each candidate puts its rest in at the cursor when it is taken. -/
theorem buffer_accepted {candidate : Candidate} (shown : candidate ∈ opened.session.pager.candidates) :
    ∃ rest, candidate.value = opened.session.pager.filter ++ rest ∧
      (accepted candidate opened).buffer =
        ⟨shell.buffer.before ++ rest ++ shell.buffer.after, (shell.buffer.before ++ rest).length⟩ := by
  obtain ⟨editor, found, pager, extend⟩ := opened_pager inside completed
  rw [pager] at shown
  obtain ⟨rest, goes⟩ := extend candidate shown
  refine ⟨rest, by rw [pager]; exact goes.symm, ?_⟩
  have replaced := replaceBefore_suffix inside (front_append shell.buffer.before).symm candidate.value
  rw [← goes, ← List.append_assoc, front_append] at replaced
  change opened.editor.buffer.replaceBefore opened.session.pager.filter.length candidate.value = _
  rw [editor, pager, ← goes]
  exact replaced

end Accepting

/-- After a completion that succeeds the filter is the word before the cursor, and all candidates go on
from it. Tabs up to a candidate and then the return key keep what stands on both sides of the cursor and
put the rest of the candidate in between. -/
theorem completion_extends (serve : Request → Act Shell Unit) {shell opened : Shell}
    (inside : Inside shell.buffer) (completed : Shell.complete.on shell = (.ok ⟨⟩, opened)) :
    cursorWord shell.buffer.text shell.buffer.cursor = .ok opened.session.pager.filter ∧
    opened.session.pager.filter <:+ shell.buffer.before ∧
    (∀ candidate ∈ opened.session.pager.candidates, opened.session.pager.filter <+: candidate.value) ∧
    ∀ place candidate, opened.session.pager.candidates[place]? = some candidate →
      ∀ key, key = .char '\r' ∨ key = .char '\n' →
        ∃ rest after, candidate.value = opened.session.pager.filter ++ rest ∧
          (pressAll serve (List.replicate place (.char '\t') ++ [key])).on opened = (.ok ⟨⟩, after) ∧
          after.session.pager.active = false ∧
          after.buffer =
            ⟨shell.buffer.before ++ rest ++ shell.buffer.after, (shell.buffer.before ++ rest).length⟩ := by
  obtain ⟨editor, found, pager, extend⟩ := opened_pager inside completed
  refine ⟨?_, ?_, ?_, ?_⟩
  · rw [pager]
    exact cursorWord_eq inside
  · rw [pager]
    exact ⟨front shell.buffer.before, front_append shell.buffer.before⟩
  · rw [pager]
    exact extend
  · intro place candidate chosen key enters
    obtain ⟨rest, goes, buffer⟩ := buffer_accepted inside completed (List.mem_of_getElem? chosen)
    have first : opened.session.pager.selected = 0 := by
      rw [pager]
      rfl
    exact ⟨rest, _, goes, on_chosen serve first place chosen enters, rfl, buffer⟩

def shelved : Shell :=
  { bareShell with world := { files := shelf }, editor := { buffer := ⟨"ls no x", 5⟩ } }

def shelvedOpen : Shell :=
  { shelved with
    world := { files := shelf, journal :=
      [⟨.debug, FlagCache.source, "completion for 'no' produced 2 candidates"⟩] }
    session := { shelved.session with pager := .ofCandidates [notes, novel] "no" } }

theorem novel_taken : Inside shelved.buffer ∧ Shell.complete.on shelved = (.ok ⟨⟩, shelvedOpen) ∧
    ∃ after, (pressAll Shell.serve [.char '\t', .char '\r']).on shelvedOpen = (.ok ⟨⟩, after) ∧
      after.session.pager.active = false ∧ after.buffer = ⟨"ls novel/ x", 9⟩ := by
  have inside : Inside shelved.buffer := show 5 ≤ 7 by decide
  have ran : (Completion.complete ⟨⟨"/", []⟩, []⟩ "ls no x" 5 "/" []).on { files := shelf } =
      (.ok (⟨⟨"/", []⟩, []⟩, .ofCandidates [notes, novel] "no"), { files := shelf, journal :=
        [⟨.debug, FlagCache.source, "completion for 'no' produced 2 candidates"⟩] }) :=
    on_complete_path inside rfl paths_no
  have completed : Shell.complete.on shelved = (.ok ⟨⟩, shelvedOpen) := completes ran
  obtain ⟨-, -, -, accepting⟩ := completion_extends Shell.serve inside completed
  obtain ⟨rest, after, goes, pressed, closed, buffer⟩ := accepting 1 novel rfl (.char '\r') (.inl rfl)
  have ends : "no".toList ++ "vel/".toList = "no".toList ++ rest := goes
  obtain rfl := List.append_cancel_left ends
  exact ⟨inside, completed, after, pressed, closed, buffer⟩

end CommandShell.Proofs.AcceptedCandidates
