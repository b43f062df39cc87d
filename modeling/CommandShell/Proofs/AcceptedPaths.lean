import CommandShell.Proofs.AcceptedCandidates
import CommandShell.Proofs.PlainWords

/-! Completed paths as arguments. A candidate is put into the line as it is, so the line names it only
where its value is plain. -/

namespace CommandShell.Proofs.AcceptedPaths
open AcceptedCandidates CandidateSources CompletionRoutes KeyTurns PlainWords Scan Shell WordBefore

private theorem plain_cat : Plain "cat" := ⟨nofun, by simp [isSpace, operator?, isQuote], by decide⟩

/-- With the cursor at the end of the line a candidate takes the place of the last word. -/
theorem accepted_at_end (start : Text) {shell opened : Shell} {word : Text} {b : Char}
    (blank : Text.isBlank b = true) (unbroken : ∀ c ∈ word, Text.isBlank c = false)
    (line : shell.buffer = .ofText (start ++ b :: word))
    (completed : Shell.complete.on shell = (.ok ⟨⟩, opened)) {candidate : Candidate}
    (shown : candidate ∈ opened.session.pager.candidates) :
    (accepted candidate opened).buffer = .ofText (start ++ b :: candidate.value) := by
  have inside : Inside shell.buffer := line ▸ inside_ofText _
  obtain ⟨rest, goes, buffer⟩ := buffer_accepted inside completed shown
  obtain ⟨-, found, pager, -⟩ := opened_pager inside completed
  have before : shell.buffer.before = start ++ b :: word := by
    rw [line]
    exact List.take_length
  have behind : shell.buffer.after = [] := by
    rw [line]
    exact List.drop_length
  rw [pager, before] at goes
  have filter : (Pager.ofCandidates found (Text.lastWord (start ++ b :: word))).filter = word :=
    lastWord_behind blank start unbroken
  rw [filter] at goes
  rw [buffer, before, behind, goes, List.append_nil, List.append_assoc, List.cons_append]
  rfl

/-- Completing an argument and taking any of the candidates leaves the argument replaced by its value.
That line is read as the program with just this argument exactly if the value is plain. -/
theorem accepted_path_reads (serve : Request → Act Shell Unit) {shell opened : Shell} {word : Text}
    (unbroken : ∀ c ∈ word, Text.isBlank c = false) (line : shell.buffer = .ofText ("cat " ++ word))
    (completed : Shell.complete.on shell = (.ok ⟨⟩, opened)) :
    ∀ place candidate, opened.session.pager.candidates[place]? = some candidate →
      ∀ key, key = .char '\r' ∨ key = .char '\n' →
        ∃ after,
          (pressAll serve (List.replicate place (.char '\t') ++ [key])).on opened = (.ok ⟨⟩, after) ∧
          after.buffer = .ofText ("cat " ++ candidate.value) ∧
          (OneCommand after.buffer.text ["cat", candidate.value] ↔ Plain candidate.value) := by
  intro place candidate chosen key enters
  have inside : Inside shell.buffer := line ▸ inside_ofText _
  obtain ⟨-, found, pager, -⟩ := opened_pager inside completed
  have first : opened.session.pager.selected = 0 := by
    rw [pager]
    rfl
  have blank : Text.isBlank ' ' = true := rfl
  have buffer : (accepted candidate opened).buffer = .ofText ("cat " ++ candidate.value) :=
    accepted_at_end "cat" blank unbroken line completed (List.mem_of_getElem? chosen)
  refine ⟨_, on_chosen serve first place chosen enters, buffer, ?_⟩
  rw [buffer]
  exact oneCommand_iff_plain plain_cat (by decide)

def drawer : Files := { nodes := [(["a b.txt"], .file [] .plain), (["ab.txt"], .file [] .plain)] }

def spaced : Candidate := ⟨"a b.txt", "a b.txt", some "File"⟩

def unspaced : Candidate := ⟨"ab.txt", "ab.txt", some "File"⟩

def reading : Shell :=
  { bareShell with world := { files := drawer }, editor := { buffer := .ofText "cat a" } }

def readingOpen : Shell :=
  { reading with
    world := { files := drawer, journal :=
      [⟨.debug, FlagCache.source, "completion for 'a' produced 2 candidates"⟩] }
    session := { reading.session with pager := .ofCandidates [spaced, unspaced] "a" } }

private theorem paths_a : Completion.paths drawer "a" "/" none = .ok [spaced, unspaced] := by
  have entries : drawer.entries [] =
      [(("a b.txt" : Text), Node.file [] .plain), ("ab.txt", .file [] .plain)] :=
    List.mergeSort_of_pairwise (by decide)
  rw [paths_root rfl none entries]
  rfl

theorem reading_completed : Shell.complete.on reading = (.ok ⟨⟩, readingOpen) := by
  have ran : (Completion.complete ⟨⟨"/", []⟩, []⟩ "cat a" 5 "/" []).on { files := drawer } =
      (.ok (⟨⟨"/", []⟩, []⟩, .ofCandidates [spaced, unspaced] "a"), { files := drawer, journal :=
        [⟨.debug, FlagCache.source, "completion for 'a' produced 2 candidates"⟩] }) :=
    on_complete_path (inside_ofText "cat a") rfl paths_a
  exact completes ran

theorem unspaced_read : Shell.complete.on reading = (.ok ⟨⟩, readingOpen) ∧
    ∃ after, (pressAll Shell.serve [.char '\t', .char '\r']).on readingOpen = (.ok ⟨⟩, after) ∧
      after.buffer = .ofText "cat ab.txt" ∧ OneCommand after.buffer.text ["cat", "ab.txt"] := by
  have unbroken : ∀ c ∈ "a".toList, Text.isBlank c = false := List.forall_mem_singleton.mpr rfl
  obtain ⟨after, pressed, buffer, reads⟩ :=
    accepted_path_reads Shell.serve unbroken rfl reading_completed 1 unspaced rfl (.char '\r') (.inl rfl)
  have plain : Plain "ab.txt" := ⟨nofun, by simp [isSpace, operator?, isQuote], by decide⟩
  exact ⟨reading_completed, after, pressed, buffer, reads.mpr plain⟩

/-- A name with a space in it is read as two arguments. -/
theorem spaced_splits : Shell.complete.on reading = (.ok ⟨⟩, readingOpen) ∧
    readingOpen.session.pager.current? = some spaced ∧
    ∃ after, (pressAll Shell.serve [.char '\r']).on readingOpen = (.ok ⟨⟩, after) ∧
      after.buffer = .ofText "cat a b.txt" ∧
      Job.ofLine after.buffer.text = .ok ⟨[⟨⟨"cat", ["a", "b.txt"], []⟩, [], false⟩], []⟩ ∧
      ¬ OneCommand after.buffer.text ["cat", "a b.txt"] := by
  have blank : Text.isBlank ' ' = true := rfl
  have unbroken : ∀ c ∈ "a".toList, Text.isBlank c = false := List.forall_mem_singleton.mpr rfl
  have shown : spaced ∈ readingOpen.session.pager.candidates := List.mem_cons_self
  have buffer : (accepted spaced readingOpen).buffer = .ofText "cat a b.txt" :=
    accepted_at_end "cat" blank unbroken rfl reading_completed shown
  have pressed :
      (pressAll Shell.serve [.char '\r']).on readingOpen = (.ok ⟨⟩, accepted spaced readingOpen) :=
    on_chosen Shell.serve rfl 0 rfl (.inl rfl)
  refine ⟨reading_completed, rfl, _, pressed, buffer, ?_, ?_⟩
  · rw [buffer]
    exact LineRuns.ofLine_of_some (by decide +kernel)
  · rw [buffer]
    intro reads
    have plain := (oneCommand_iff_plain plain_cat (by decide)).mp reads
    have inside := plain.ordinary ' ' (by decide)
    cases inside.1

end CommandShell.Proofs.AcceptedPaths
