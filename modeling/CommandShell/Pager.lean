import CommandShell.Text.Basic

/-!
The list of candidates shown while a word is being completed. One candidate is selected, and a
window of the list is shown around it.
-/

namespace CommandShell

/-- A way to complete a word: what is shown, what is put into the line, and what it is. -/
structure Candidate where
  display : Text
  value : Text
  description : Option Text := none
  deriving DecidableEq, Repr

/-- The candidates for a word, with the selected one and the text that they complete. -/
structure Pager where
  candidates : List Candidate := []
  selected : Nat := 0
  filter : Text := []
  deriving DecidableEq, Repr

namespace Pager

/-- A pager with the first of new candidates selected. -/
def ofCandidates (candidates : List Candidate) (filter : Text) : Pager :=
  { candidates, selected := 0, filter }

/-- A pager is active while it has candidates. -/
def active (pager : Pager) : Bool := !pager.candidates.isEmpty

def current? (pager : Pager) : Option Candidate := pager.candidates[pager.selected]?

/-- Selects the next candidate, the first after the last. -/
def next (pager : Pager) : Pager :=
  if pager.active then
    { pager with selected := (pager.selected + 1) % pager.candidates.length }
  else pager

/-- Selects the candidate before, the last before the first. -/
def previous (pager : Pager) : Pager :=
  if pager.active then
    { pager with
      selected := (pager.selected + pager.candidates.length - 1) % pager.candidates.length }
  else pager

/-- Where the window of at most so many candidates starts and ends. It ends with the selected one
unless that lies in the first window. -/
def window (pager : Pager) (most : Int) : Int × Int :=
  let count : Int := pager.candidates.length
  if count ≤ most then (0, count)
  else
    let start := min (max 0 (pager.selected - most + 1)) (count - most)
    (start, start + most)

end Pager

end CommandShell
