import CommandShell.Text.Basic

/-!
Tables from names to values that remember the order in which the names came. Setting a name that is
already there keeps its place.
-/

namespace CommandShell

/-- Values by name, in the order in which the names were first set. -/
abbrev Table (α : Type) := List (Text × α)

namespace Table

variable {α : Type}

def get? : Table α → Text → Option α
  | [], _ => none
  | (key, value) :: rest, name => if key = name then some value else get? rest name

def has (table : Table α) (name : Text) : Bool := (table.get? name).isSome

def set : Table α → Text → α → Table α
  | [], name, value => [(name, value)]
  | (key, old) :: rest, name, value =>
    if key = name then (key, value) :: rest else (key, old) :: set rest name value

def erase (table : Table α) (name : Text) : Table α := table.filter (·.1 ≠ name)

def keys (table : Table α) : List Text := table.map Prod.fst

/-- The table with the values of another set over its own. -/
def overlay (table above : Table α) : Table α :=
  above.foldl (fun table (name, value) => table.set name value) table

/-- A table of pairs, a later value of a name in place of an earlier one. -/
def ofPairs (pairs : List (Text × α)) : Table α := overlay [] pairs

def sorted (table : Table α) : List (Text × α) := table.mergeSort fun a b => Text.ble a.1 b.1

theorem get?_set (table : Table α) (name other : Text) (value : α) :
    (table.set name value).get? other = if name = other then some value else table.get? other := by
  induction table with
  | nil => simp [set, get?]
  | cons pair rest ih =>
    obtain ⟨key, old⟩ := pair
    by_cases here : key = name
    · subst here
      simp only [set, get?, if_true]
      split <;> rfl
    · by_cases there : key = other
      · subst there; simp [set, get?, here, Ne.symm here]
      · simp [set, get?, here, there, ih]

theorem get?_erase (table : Table α) (name other : Text) :
    (table.erase name).get? other = if name = other then none else table.get? other := by
  induction table with
  | nil => simp [erase, get?]
  | cons pair rest ih =>
    obtain ⟨key, old⟩ := pair
    simp only [erase] at ih
    by_cases here : key = name
    · subst here
      by_cases there : key = other
      · subst there; simpa [erase, get?] using ih
      · simpa [erase, get?, there] using ih
    · by_cases there : key = other
      · subst there; simp [erase, get?, here, Ne.symm here]
      · simpa [erase, get?, here, there] using ih

end Table

end CommandShell
