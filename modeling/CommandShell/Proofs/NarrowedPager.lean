import CommandShell.Proofs.CompletionRoutes

/-! Typing into an open pager. What is offered for a word with one more character is what was offered
for the word, without the candidates that do not go on so. -/

namespace CommandShell.Proofs.NarrowedPager
open ActSteps CandidateSources Completion CompletionRoutes KeyTurns WordBefore

/-- When the last part of the word before the cursor has begun, one more character of it leaves just
the candidates that start with the longer word, if the files are still the same. -/
theorem typed_narrows {buffer : LineBuffer} (inside : Inside buffer) {word : Text}
    (read : cursorWord buffer.text buffer.cursor = .ok word) (named : (cutAtSlash word).2 ≠ [])
    {c : Char} (sharp : Text.isBlank c = false) (other : c ≠ '/') {cache known : FlagCache}
    {current : Text} {environment : Environment} {pager : Pager} {world after : World}
    (completed : (complete cache buffer.text buffer.cursor current environment).on world =
      (.ok (known, pager), after))
    {later : World} (same : later.files = after.files) :
    let typed := buffer.insert [c]
    ((complete known typed.text typed.cursor current environment).on later).1 = .ok (known, .ofCandidates
      (pager.candidates.filter fun candidate => (word ++ [c]).isPrefixOf candidate.value)
      (word ++ [c])) := by
  obtain rfl := Except.ok.inj ((cursorWord_eq inside).symm.trans read)
  obtain ⟨rows, middle, found, asked, whole, rfl, files⟩ := of_complete inside completed
  have narrowed := offeredFor_typed sharp named other later.files rows current environment
  rw [same, files, whole] at narrowed
  obtain ⟨journal, ran⟩ :=
    on_complete (keepsInside_insert [c] buffer inside) known current environment later
  rw [before_insert inside, route_typed sharp other named, rowsFor_again asked] at ran
  dsimp only at ran
  rw [same, files, narrowed, lastWord_typed _ sharp] at ran
  exact congrArg Prod.fst ran

def shelf : Files := { nodes := [(["notes"], .file [] .plain), (["novel"], .folder false)] }

def notes : Candidate := ⟨"notes", "notes", some "File"⟩

def novel : Candidate := ⟨"novel/", "novel/", some "Directory"⟩

theorem paths_no : paths shelf "no" "/" none = .ok [notes, novel] := by
  have entries : shelf.entries [] = [(("notes" : Text), Node.file [] .plain), ("novel", .folder false)] :=
    List.mergeSort_of_pairwise (by decide)
  rw [paths_root rfl none entries]
  rfl

theorem notes_remains :
    (complete ⟨.ofText "/", []⟩ "ls no" 5 "/" []).on { files := shelf } =
      (.ok (⟨.ofText "/", []⟩, .ofCandidates [notes, novel] "no"), { files := shelf, journal :=
        [⟨.debug, FlagCache.source, "completion for 'no' produced 2 candidates"⟩] }) ∧
    ((complete ⟨.ofText "/", []⟩ "ls not" 6 "/" []).on { files := shelf }).1 =
      .ok (⟨.ofText "/", []⟩, .ofCandidates [notes] "not") := by
  have inside : Inside ⟨"ls no", 5⟩ := Nat.le_refl 5
  have read : cursorWord "ls no" (5 : Nat) = .ok "no" := rfl
  have completed : (complete ⟨.ofText "/", []⟩ "ls no" 5 "/" []).on { files := shelf } =
      (.ok (⟨.ofText "/", []⟩, .ofCandidates [notes, novel] "no"), { files := shelf, journal :=
        [⟨.debug, FlagCache.source, "completion for 'no' produced 2 candidates"⟩] }) :=
    on_complete_path inside rfl paths_no
  have named : (cutAtSlash "no").2 ≠ [] := by decide
  have sharp : Text.isBlank 't' = false := rfl
  have other : 't' ≠ '/' := by decide
  exact ⟨completed, typed_narrows inside read named sharp other completed rfl⟩

end CommandShell.Proofs.NarrowedPager
