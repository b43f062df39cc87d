import CommandShell.Text.Lines

/-! The lines of a text whose parts are known. -/

namespace CommandShell.Proofs.TextLines
open Text

def Unbroken (t : Text) : Prop := ∀ c ∈ t, isLineBreak c = false

/-- A text that the last of its lines is ended in, if it has any. -/
def Ended (t : Text) : Prop := ∀ c ∈ t.getLast?, isLineBreak c = true

instance (t : Text) : Decidable (Unbroken t) :=
  decidable_of_iff (t.all fun c => !isLineBreak c) (by simp [Unbroken])

instance (t : Text) : Decidable (Ended t) :=
  decidable_of_iff (t.getLast?.all isLineBreak) (by cases found : t.getLast? <;> simp [Ended, found])

theorem Unbroken.append {first second : Text} (front : Unbroken first) (rest : Unbroken second) :
    Unbroken (first ++ second) := by
  intro c inside
  rcases List.mem_append.mp inside with here | there
  · exact front c here
  · exact rest c there

theorem unbroken_cons {c : Char} {t : Text} :
    Unbroken (c :: t) ↔ isLineBreak c = false ∧ Unbroken t := List.forall_mem_cons

theorem Ended.tail {c : Char} {t : Text} (ended : Ended (c :: t)) : Ended t := by
  cases t with
  | nil => simp [Ended]
  | cons d rest =>
    intro last found
    exact ended last (by rwa [List.getLast?_cons_cons])

/-- How the lines of a text begin with a character that is no break. -/
def extend (c : Char) : List Text → List Text
  | [] => [[c]]
  | line :: later => (c :: line) :: later

private theorem lines_pair (rest : Text) : lines ('\r' :: '\n' :: rest) = [] :: lines rest := by
  rw [lines]

private theorem lines_break {c : Char} {rest : Text} (breaks : isLineBreak c = true)
    (no_pair : c = '\r' → rest.head? ≠ some '\n') : lines (c :: rest) = [] :: lines rest := by
  rw [lines.eq_def]
  split
  next same => cases same
  next same =>
    cases same
    exact absurd rfl (no_pair rfl)
  next same =>
    cases same
    rw [if_pos breaks]

theorem lines_extend {c : Char} (unbroken : isLineBreak c = false) (rest : Text) :
    lines (c :: rest) = extend c (lines rest) := by
  rw [lines.eq_def]
  split
  next same => cases same
  next same =>
    cases same
    cases unbroken
  next same =>
    cases same
    rw [if_neg (by simp [unbroken])]
    split
    next none => rw [none]; rfl
    next some => rw [some]; rfl

theorem lines_line {line : Text} (unbroken : Unbroken line) (rest : Text) :
    lines (line ++ '\n' :: rest) = line :: lines rest := by
  induction line with
  | nil => exact lines_break rfl fun same => by cases same
  | cons c line ih =>
    obtain ⟨here, behind⟩ := unbroken_cons.mp unbroken
    rw [List.cons_append, lines_extend here, ih behind]
    rfl

theorem lines_last {line : Text} (unbroken : Unbroken line) (filled : line ≠ []) :
    lines line = [line] := by
  induction line with
  | nil => exact absurd rfl filled
  | cons c line ih =>
    obtain ⟨here, behind⟩ := unbroken_cons.mp unbroken
    rw [lines_extend here]
    cases line with
    | nil => rfl
    | cons d rest => rw [ih behind (List.cons_ne_nil d rest)]; rfl

private theorem lines_filled {t : Text} (filled : t ≠ []) : lines t ≠ [] := by
  fun_cases lines t with
  | case1 => exact absurd rfl filled
  | _ => simp

theorem no_feed_head {line : Text} (unbroken : Unbroken line) (filled : line ≠ []) (rest : Text) :
    (line ++ rest).head? ≠ some '\n' := by
  cases line with
  | nil => exact absurd rfl filled
  | cons c more =>
    intro first
    cases Option.some.inj first
    cases unbroken '\n' List.mem_cons_self

private theorem no_pair_append {c : Char} {front rest : Text}
    (no_pair : ∀ more : Text, c = '\r' → front = '\n' :: more → False)
    (no_feed : rest.head? ≠ some '\n') : c = '\r' → (front ++ rest).head? ≠ some '\n' := by
  intro carriage
  cases front with
  | nil => exact no_feed
  | cons d more =>
    intro same
    cases same
    exact no_pair more carriage rfl

/-- Behind a text that ends with a break the lines begin anew. -/
theorem lines_append {front rest : Text} (ended : Ended front) (no_feed : rest.head? ≠ some '\n') :
    lines (front ++ rest) = lines front ++ lines rest := by
  fun_induction lines front with
  | case1 => rfl
  | case2 front ih =>
    rw [List.cons_append, List.cons_append, lines_pair, ih ended.tail.tail]
    rfl
  | case3 c front no_pair breaks ih =>
    rw [List.cons_append, lines_break breaks (no_pair_append no_pair no_feed), ih ended.tail]
    rfl
  | case4 c front _ unbroken none _ =>
    have empty : front = [] := Classical.byContradiction fun filled => lines_filled filled none
    subst empty
    exact absurd (ended c rfl) unbroken
  | case5 c front _ unbroken line later some ih =>
    rw [List.cons_append, lines_extend (by simpa using unbroken), ih ended.tail, some]
    rfl

theorem unbroken_of_mem {t line : Text} (inside : line ∈ lines t) : Unbroken line := by
  fun_induction lines t generalizing line with
  | case1 => cases inside
  | case2 rest ih | case3 c rest _ _ ih =>
    rcases List.mem_cons.mp inside with rfl | later
    · simp [Unbroken]
    · exact ih later
  | case4 c rest _ unbroken =>
    obtain rfl := List.mem_singleton.mp inside
    simpa [Unbroken] using unbroken
  | case5 c rest _ unbroken first later found ih =>
    rw [found] at ih
    rcases List.mem_cons.mp inside with rfl | behind
    · exact unbroken_cons.mpr ⟨by simpa using unbroken, ih List.mem_cons_self⟩
    · exact ih (List.mem_cons_of_mem first behind)

/-- A text is lines that have ended and a last one that has not. -/
theorem exists_tail (t : Text) : ∃ front last, t = front ++ last ∧ Ended front ∧ Unbroken last := by
  induction t with
  | nil => exact ⟨[], [], rfl, by simp [Ended], by simp [Unbroken]⟩
  | cons c rest ih =>
    obtain ⟨front, last, rfl, ended, unbroken⟩ := ih
    cases front with
    | cons d more =>
      refine ⟨c :: d :: more, last, rfl, ?_, unbroken⟩
      intro final found
      exact ended final (by rwa [List.getLast?_cons_cons] at found)
    | nil =>
      cases breaks : isLineBreak c with
      | true => exact ⟨[c], last, rfl, by simpa [Ended] using breaks, unbroken⟩
      | false => exact ⟨[], c :: last, rfl, ended, unbroken_cons.mpr ⟨breaks, unbroken⟩⟩

private theorem plainBreaks_cons {c : Char} {rest : Text} (no_pair : c = '\r' → rest.head? ≠ some '\n') :
    plainBreaks (c :: rest) = (if c = '\r' then '\n' else c) :: plainBreaks rest := by
  rw [plainBreaks.eq_def]
  split
  next same => cases same
  next same =>
    cases same
    exact absurd rfl (no_pair rfl)
  next same =>
    cases same
    rfl

theorem plainBreaks_append {front rest : Text} (no_feed : rest.head? ≠ some '\n') :
    plainBreaks (front ++ rest) = plainBreaks front ++ plainBreaks rest := by
  fun_induction plainBreaks front with
  | case1 => rfl
  | case2 front ih =>
    rw [List.cons_append, List.cons_append, plainBreaks, ih]
    rfl
  | case3 c front no_pair ih =>
    rw [List.cons_append, plainBreaks_cons (no_pair_append no_pair no_feed), ih]
    rfl

theorem plainBreaks_eq {t : Text} (plain : '\r' ∉ t) : plainBreaks t = t := by
  induction t with
  | nil => rfl
  | cons c rest ih =>
    have no_carriage : c ≠ '\r' := Ne.symm (List.ne_of_not_mem_cons plain)
    rw [plainBreaks_cons fun same => absurd same no_carriage, if_neg no_carriage,
      ih (List.not_mem_of_not_mem_cons plain)]

theorem partition?_absent {sep : Char} {text : Text} (absent : sep ∉ text) :
    Text.partition? [sep] text = none := by
  induction text with
  | nil => rfl
  | cons c text ih =>
    rw [List.mem_cons, not_or] at absent
    rw [Text.partition?, Text.dropStart?, if_neg absent.1, ih absent.2]
    rfl

theorem partition?_first {sep : Char} {front : Text} (absent : sep ∉ front) (rest : Text) :
    Text.partition? [sep] (front ++ sep :: rest) = some (front, rest) := by
  induction front with
  | nil =>
    rw [List.nil_append, Text.partition?, Text.dropStart?, if_pos rfl]
    rfl
  | cons c front ih =>
    rw [List.mem_cons, not_or] at absent
    rw [List.cons_append, Text.partition?, Text.dropStart?, if_neg absent.1, ih absent.2]
    rfl

theorem notMem_splitOn {sep : Char} {t piece : Text} (inside : piece ∈ Text.splitOn sep t) : sep ∉ piece := by
  unfold Text.splitOn at inside
  induction t generalizing piece with
  | nil =>
    obtain rfl : piece = [] := by simpa [List.splitOn_nil] using inside
    exact List.not_mem_nil
  | cons c t ih =>
    rw [List.splitOn_cons_eq_if_modifyHead] at inside
    split at inside
    next =>
      rcases List.mem_cons.mp inside with rfl | later
      · exact List.not_mem_nil
      · exact ih later
    next other =>
      obtain ⟨first, rest, pieces⟩ := List.exists_cons_of_ne_nil (List.splitOn_ne_nil sep t)
      rw [pieces, List.modifyHead_cons] at inside
      rcases List.mem_cons.mp inside with rfl | later
      · rw [List.mem_cons, not_or]
        exact ⟨fun same => other (beq_iff_eq.mpr same.symm), ih (by simp [pieces])⟩
      · exact ih (by simp [pieces, later])

theorem join_splitOn (sep : Char) (t : Text) : Text.join [sep] (Text.splitOn sep t) = t :=
  List.intercalate_splitOn sep

theorem mem_join {sep : Text} {pieces : List Text} {c : Char} (inside : c ∈ Text.join sep pieces) :
    c ∈ sep ∨ ∃ piece ∈ pieces, c ∈ piece := by
  unfold Text.join at inside
  induction pieces with
  | nil => exact absurd inside List.not_mem_nil
  | cons first rest ih =>
    cases rest with
    | nil => exact .inr ⟨first, List.mem_cons_self, by simpa using inside⟩
    | cons second rest =>
      rw [List.intercalate_cons_cons, List.mem_append, List.mem_append] at inside
      rcases inside with (here | between) | behind
      · exact .inr ⟨first, List.mem_cons_self, here⟩
      · exact .inl between
      · rcases ih behind with between | ⟨piece, member, there⟩
        · exact .inl between
        · exact .inr ⟨piece, List.mem_cons_of_mem _ member, there⟩

theorem mem_join_of_mem {sep : Text} {pieces : List Text} {piece : Text} (member : piece ∈ pieces) {c : Char}
    (inside : c ∈ piece) : c ∈ Text.join sep pieces := by
  unfold Text.join
  induction pieces with
  | nil => exact absurd member List.not_mem_nil
  | cons first rest ih =>
    cases rest with
    | nil =>
      rw [List.intercalate_singleton]
      exact List.mem_singleton.mp member ▸ inside
    | cons second rest =>
      rw [List.intercalate_cons_cons, List.mem_append, List.mem_append]
      rcases List.mem_cons.mp member with rfl | later
      · exact .inl (.inl inside)
      · exact .inr (ih later)

/-- Pieces that each end with a separator are joined by it, and one stands behind the last of them. -/
theorem flatMap_ended {pieces : List Text} (some : pieces ≠ []) (sep : Text) :
    pieces.flatMap (fun piece => piece ++ sep) = Text.join sep pieces ++ sep := by
  unfold Text.join
  induction pieces with
  | nil => exact absurd rfl some
  | cons first rest ih =>
    cases rest with
    | nil => rw [List.flatMap_singleton, List.intercalate_singleton]
    | cons second rest =>
      rw [List.flatMap_cons, ih (List.cons_ne_nil second rest), List.intercalate_cons_cons, List.append_assoc,
        List.append_assoc, List.append_assoc]

theorem count_join {sep : Char} {pieces : List Text} (apart : ∀ piece ∈ pieces, sep ∉ piece) :
    (Text.join [sep] pieces).count sep = pieces.length - 1 := by
  unfold Text.join
  induction pieces with
  | nil => rfl
  | cons first rest ih =>
    obtain ⟨here, behind⟩ := List.forall_mem_cons.mp apart
    cases rest with
    | nil => rw [List.intercalate_singleton, List.count_eq_zero_of_not_mem here, List.length_singleton]
    | cons second rest =>
      rw [List.intercalate_cons_cons, List.count_append, List.count_append, ih behind,
        List.count_eq_zero_of_not_mem here, List.count_singleton_self]
      simp only [List.length_cons]
      omega

end CommandShell.Proofs.TextLines
