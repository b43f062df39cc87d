/-!
Text is a list of characters, so that every function on it is a function on lists and every law
is proved by induction. This module holds the operations that the rest of the library shares:
cutting at a signed offset, splitting at a separator, joining, and the order by code points.
-/

namespace CommandShell

/-- Text is the list of its characters. -/
abbrev Text := List Char

instance : Coe String Text := ⟨String.toList⟩

namespace Text

def ofNat (n : Nat) : Text := (toString n).toList

theorem ofNat_eq_toDigits (n : Nat) : ofNat n = Nat.toDigits 10 n := by
  rw [ofNat, Nat.toString_eq_ofList_toDigits, String.toList_ofList]

/-- The decimal digits of an integer, with a minus sign below zero. -/
def ofInt (i : Int) : Text := (toString i).toList

/-- Where a signed offset falls in a text of the given length: a negative one counts from the end,
and one beyond either end is moved to that end. -/
def offset (length : Nat) (i : Int) : Nat :=
  if i < 0 then (Int.toNat (length + i)) else min i.toNat length

/-- The text before a signed offset. -/
def before (i : Int) (t : Text) : Text := t.take (offset t.length i)

/-- The text from a signed offset on. -/
def after (i : Int) (t : Text) : Text := t.drop (offset t.length i)

theorem before_natCast {t : Text} {n : Nat} (inside : n ≤ t.length) : before n t = t.take n := by
  simp [before, offset, Int.not_lt.mpr (Int.natCast_nonneg n), Nat.min_eq_left inside]

/-- What is left of a text after a given beginning, if it begins so. -/
def dropStart? : (start t : Text) → Option Text
  | [], t => some t
  | _ :: _, [] => none
  | c :: start, d :: t => if c = d then dropStart? start t else none

theorem dropStart?_eq_some_iff {start t rest : Text} :
    dropStart? start t = some rest ↔ t = start ++ rest := by
  induction start generalizing t with
  | nil => simp [dropStart?, eq_comm]
  | cons c start ih =>
    cases t with
    | nil => simp [dropStart?]
    | cons d t =>
      by_cases same : c = d
      · subst same; simp [dropStart?, ih]
      · simp [dropStart?, same, Ne.symm same]

/-- The text before and after the first occurrence of a separator, or `none` without one. -/
def partition? (sep : Text) : Text → Option (Text × Text)
  | [] => if sep = [] then some ([], []) else none
  | c :: t =>
    match dropStart? sep (c :: t) with
    | some rest => some ([], rest)
    | none => (partition? sep t).map fun (front, rest) => (c :: front, rest)

theorem eq_of_partition?_eq_some {sep t front rest : Text}
    (found : partition? sep t = some (front, rest)) : t = front ++ sep ++ rest := by
  induction t generalizing front with
  | nil =>
    unfold partition? at found
    split at found
    · next empty => simp_all
    · exact absurd found (by simp)
  | cons c t ih =>
    unfold partition? at found
    split at found
    · next rest' here =>
      obtain ⟨rfl, rfl⟩ : [] = front ∧ rest' = rest := by simpa using found
      simpa using dropStart?_eq_some_iff.mp here
    · next =>
      obtain ⟨⟨front', rest'⟩, later, same⟩ := Option.map_eq_some_iff.mp found
      obtain ⟨rfl, rfl⟩ : c :: front' = front ∧ rest' = rest := by simpa using same
      simpa using ih later

theorem length_lt_of_partition? {sep t front rest : Text} (some_sep : sep ≠ [])
    (found : partition? sep t = some (front, rest)) : rest.length < t.length := by
  have same := congrArg List.length (eq_of_partition?_eq_some found)
  have positive := List.length_pos_iff.mpr some_sep
  simp only [List.length_append] at same
  omega

/-- The pieces of a text between the occurrences of a separator that is not empty. -/
def splitAt (sep : Text) (t : Text) : List Text :=
  match _found : partition? sep t with
  | none => [t]
  | some (front, rest) => if _empty : sep = [] then [t] else front :: splitAt sep rest
termination_by t.length
decreasing_by exact length_lt_of_partition? _empty _found

/-- The pieces of a text between the occurrences of a character. -/
def splitOn (sep : Char) (t : Text) : List Text := List.splitOn sep t

def join (sep : Text) (ts : List Text) : Text := sep.intercalate ts

/-- The text with every occurrence of a character replaced by a text. -/
def replaceChar (old : Char) (new : Text) (t : Text) : Text :=
  t.flatMap fun c => if c = old then new else [c]

/-- The text with every occurrence of a piece that is not empty replaced. -/
def replace (old new : Text) (t : Text) : Text := join new (splitAt old t)

/-- The order by code points, a beginning before its continuations. -/
def ble : Text → Text → Bool
  | [], _ => true
  | _ :: _, [] => false
  | c :: t, d :: u => if c = d then ble t u else c.toNat < d.toNat

theorem ble_total (t u : Text) : (ble t u || ble u t) = true := by
  induction t generalizing u with
  | nil => simp [ble]
  | cons c t ih =>
    cases u with
    | nil => simp [ble]
    | cons d u =>
      by_cases same : c = d
      · subst same; simpa [ble] using ih u
      · have apart : c.toNat ≠ d.toNat := fun h => same (Char.ext (UInt32.toNat_inj.mp h))
        simp [ble, same, Ne.symm same]
        omega

theorem ble_trans {t u v : Text} (first : ble t u = true) (second : ble u v = true) :
    ble t v = true := by
  induction t generalizing u v with
  | nil => rfl
  | cons c t ih =>
    cases u with
    | nil => simp [ble] at first
    | cons d u =>
      cases v with
      | nil => simp [ble] at second
      | cons e v =>
        simp only [ble] at first second ⊢
        by_cases cd : c = d <;> by_cases de : d = e
        · subst cd; subst de
          simp only [if_true] at first second ⊢
          exact ih first second
        · subst cd; simpa [de] using second
        · subst de; simpa [cd] using first
        · simp only [cd, de, if_false, decide_eq_true_eq] at first second
          have apart : c ≠ e := by rintro rfl; omega
          simp only [apart, if_false, decide_eq_true_eq]
          omega

/-- The texts in order, equal ones in the order they came. -/
def sort (ts : List Text) : List Text := ts.mergeSort ble

end Text

end CommandShell
