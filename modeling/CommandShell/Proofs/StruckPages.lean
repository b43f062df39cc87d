import CommandShell.Proofs.FlagRows
import Mathlib.Data.List.DropRight
import Mathlib.Data.List.Forall2

/-! Manual pages as a printer writes them, with characters struck over. The rows of flags on such a page
are those of the page without it, and each stands in one of its lines. -/

namespace CommandShell.Proofs.StruckPages
open FlagCache FlagRows

/-- How a character is written: once, twice in its place, over an underscore, or both. -/
inductive Strike
  | plain
  | bold
  | underlined
  | both

def Strike.written : Strike → Char → Text
  | plain, c => [c]
  | bold, c => [c, '\x08', c]
  | underlined, c => ['_', '\x08', c]
  | both, c => ['_', '\x08', c, '\x08', c]

/-- A page is a text whose characters are struck over in any way; line feeds never are. -/
inductive Struck : (text page : Text) → Prop
  | nil : Struck [] []
  | feed {text page : Text} (rest : Struck text page) : Struck ('\n' :: text) ('\n' :: page)
  | char (strike : Strike) {c : Char} {text page : Text} (inLine : c ≠ '\n')
      (rest : Struck text page) : Struck (c :: text) (strike.written c ++ page)

section Removal

variable {c : Char} {text page rest : Text}

theorem withoutOverstrike_struck (inLine : c ≠ '\n') (rest : Text) :
    withoutOverstrike (c :: '\x08' :: rest) = withoutOverstrike rest := by
  rw [withoutOverstrike, if_pos ⟨rfl, inLine⟩]

private theorem withoutOverstrike_kept (c : Char) (unstruck : rest.head? ≠ some '\x08') :
    withoutOverstrike (c :: rest) = c :: withoutOverstrike rest := by
  cases rest with
  | nil => rfl
  | cons d rest =>
    have other : d ≠ '\x08' := fun same => unstruck (congrArg some same)
    rw [withoutOverstrike, if_neg fun both => other both.1]

theorem Struck.refl (text : Text) : Struck text text := by
  induction text with
  | nil => exact .nil
  | cons c text ih =>
    by_cases feed : c = '\n'
    · exact feed ▸ .feed ih
    · exact .char .plain feed ih

theorem Struck.head? (struck : Struck text page) (plain : '\x08' ∉ text) : page.head? ≠ some '\x08' := by
  cases struck with
  | nil => nofun
  | feed => exact fun first => absurd (Option.some.inj first) (by decide)
  | @char strike c text page inLine rest =>
    have other : c ≠ '\x08' := fun same => plain (same ▸ List.mem_cons_self)
    cases strike with
    | plain | bold => exact fun first => other (Option.some.inj first)
    | underlined | both => exact fun first => absurd (Option.some.inj first) (by decide)

/-- The first of a pair that is struck over goes with the backspace, and the pairs are found from the
front: what is left is the text. -/
theorem Struck.removed (struck : Struck text page) (plain : '\x08' ∉ text) :
    withoutOverstrike page = text := by
  induction struck with
  | nil => rfl
  | feed rest ih =>
    have later := List.not_mem_of_not_mem_cons plain
    rw [withoutOverstrike_kept '\n' (rest.head? later), ih later]
  | @char strike c text page inLine rest ih =>
    have later := List.not_mem_of_not_mem_cons plain
    have kept : withoutOverstrike (c :: page) = c :: text := by
      rw [withoutOverstrike_kept c (rest.head? later), ih later]
    have underscore : '_' ≠ '\n' := by decide
    cases strike with
    | plain => exact kept
    | bold => exact (withoutOverstrike_struck inLine _).trans kept
    | underlined => exact (withoutOverstrike_struck underscore _).trans kept
    | both =>
      exact (withoutOverstrike_struck underscore _).trans
        ((withoutOverstrike_struck inLine _).trans kept)

end Removal

section Cutting

variable {sep : Text}

private theorem front_isPrefix (t : Text) : (Text.partition? sep t).elim t Prod.fst <+: t := by
  cases cut : Text.partition? sep t with
  | none => exact List.prefix_refl t
  | some parts =>
    rw [Text.eq_of_partition?_eq_some cut, List.append_assoc]
    exact List.prefix_append _ _

/-- A text is cut at the first occurrence of a separator: there is none in front of the cut, and none
in a text that is not cut. -/
theorem not_infix_front (filled : sep ≠ []) (t : Text) :
    ¬ sep <:+: (Text.partition? sep t).elim t Prod.fst := by
  induction t with
  | nil =>
    rw [Text.partition?, if_neg filled]
    exact fun inside => filled (List.infix_nil.mp inside)
  | cons c t ih =>
    unfold Text.partition?
    split
    next => exact fun inside => filled (List.infix_nil.mp inside)
    next absent =>
      have later : ¬ sep <:+: c :: (Text.partition? sep t).elim t Prod.fst := by
        rw [List.infix_cons_iff, not_or]
        refine ⟨fun starts => ?_, ih⟩
        have whole := starts.trans (List.cons_prefix_cons.mpr ⟨rfl, front_isPrefix t⟩)
        obtain ⟨rest, same⟩ := whole
        rw [Text.dropStart?_eq_some_iff.mpr same.symm] at absent
        cases absent
      cases cut : Text.partition? sep t with
      | none | some =>
        rw [cut] at later
        exact later

end Cutting

def listsFlags (line : Text) : Bool := (Text.trim line).head? = some '-'

/-- The row of a line. The flags are the trimmed line up to its first two spaces, without blanks in
front of these; what follows them is the description. -/
structure RowOf (line : Text) (row : FlagRow) : Prop where
  starts : row.flags.head? = some '-'
  trimmed : Text.trim row.flags = row.flags
  described : row.description ≠ []
  single : ¬ "  ".toList <:+: row.flags
  whole : ∃ rest, Text.trim line = row.flags ++ rest ∧ row.description = describe (Text.trim rest) ∧
    (rest ≠ [] → ∃ gap more, rest = gap ++ "  " ++ more ∧ ∀ c ∈ gap, Text.isBlank c = true)

section Rows

variable {t line : Text} {row : FlagRow}

private theorem trimEnd_trimEnd (t : Text) : Text.trimEnd (Text.trimEnd t) = Text.trimEnd t :=
  List.rdropWhile_idempotent Text.isBlank t

private theorem trim_blanks {gap : Text} (blank : ∀ c ∈ gap, Text.isBlank c = true) (t : Text) :
    Text.trim (gap ++ t) = Text.trim t := by
  rw [Text.trim, Text.trimStart, List.dropWhile_append_of_pos blank]
  rfl

private theorem trim_trim (starts : (Text.trim t).head? = some '-') : Text.trim
    (Text.trim t) = Text.trim t := by
  conv_lhs => rw [Text.trim, trimStart_sharp starts rfl, Text.trim, trimEnd_trimEnd]
  rfl

/-- A text that starts with a hyphen is its trimmed form and blanks behind it. -/
theorem exists_blanks (starts : t.head? = some '-') :
    ∃ gap, t = Text.trim t ++ gap ∧ ∀ c ∈ gap, Text.isBlank c = true := by
  refine ⟨t.rtakeWhile Text.isBlank, ?_, fun c inside => List.mem_rtakeWhile_imp inside⟩
  rw [Text.trim, trimStart_sharp starts rfl]
  exact List.rdropWhile_append_rtakeWhile.symm

private theorem rowOf_of_line (found : rowOfLine? line = some row) : RowOf line row := by
  have filled : "  ".toList ≠ [] := by decide
  unfold rowOfLine? at found
  dsimp only at found
  split at found
  next starts =>
    split at found
    next front description cut =>
      obtain rfl := Option.some.inj found
      have whole := Text.eq_of_partition?_eq_some cut
      have first : front.head? = some '-' := by
        cases front with
        | nil =>
          rw [whole] at starts
          cases starts
        | cons c rest =>
          rwa [whole] at starts
      have hyphen := head?_trim first rfl
      obtain ⟨gap, split, blank⟩ := exists_blanks first
      refine ⟨hyphen, trim_trim hyphen, describe_filled _, fun inside => ?_, ?_⟩
      · have single := not_infix_front filled (Text.trim line)
        rw [cut] at single
        exact single (inside.trans ⟨[], gap, split.symm⟩)
      · have blanks : ∀ c ∈ gap ++ "  ".toList, Text.isBlank c = true :=
          List.forall_mem_append.mpr ⟨blank, List.all_eq_true.mp (by decide)⟩
        refine ⟨gap ++ "  ".toList ++ description, ?_, ?_, fun _ => ⟨gap, description, rfl, blank⟩⟩
        · rw [whole, ← List.append_assoc, ← List.append_assoc, ← split]
        · rw [trim_blanks blanks]
    next uncut =>
      obtain rfl := Option.some.inj found
      have single := not_infix_front filled (Text.trim line)
      rw [uncut] at single
      have same := trim_trim starts
      rw [same]
      exact ⟨starts, same, describe_filled [], single, [], (List.append_nil _).symm, rfl,
        fun more => absurd rfl more⟩
  next => cases found

private theorem listsFlags_iff (line : Text) :
    listsFlags line = true ↔ ∃ row, rowOfLine? line = some row := by
  unfold listsFlags rowOfLine?
  dsimp only
  split
  next starts =>
    refine iff_of_true (by simp [starts]) ?_
    split <;> exact ⟨_, rfl⟩
  next silent => simp [silent]

private theorem rows_of_lines (lines : List Text) :
    List.Forall₂ RowOf (lines.filter listsFlags) (lines.filterMap rowOfLine?) := by
  induction lines with
  | nil => exact .nil
  | cons line lines ih =>
    cases found : rowOfLine? line with
    | none =>
      have silent : ¬ listsFlags line = true := by
        rw [listsFlags_iff, found]
        rintro ⟨row, same⟩
        cases same
      rwa [List.filter_cons_of_neg silent, List.filterMap_cons_none found]
    | some row =>
      rw [List.filter_cons_of_pos ((listsFlags_iff line).mpr ⟨row, found⟩),
        List.filterMap_cons_some found]
      exact .cons (rowOf_of_line found) ih

end Rows

/-- However the characters of a text are struck over, the rows are those of the text: one for each line
that lists flags, in their order. -/
theorem striking_changes_no_row {text : Text} (plain : '\x08' ∉ text) :
    (∀ page, Struck text page → rowsOfPage page = rowsOfPage text) ∧
      List.Forall₂ RowOf ((Text.lines text).filter listsFlags) (rowsOfPage text) := by
  have kept : withoutOverstrike text = text := (Struck.refl text).removed plain
  refine ⟨fun page struck => ?_, ?_⟩
  · rw [rowsOfPage, struck.removed plain, rowsOfPage, kept]
  · rw [rowsOfPage, kept]
    exact rows_of_lines _

/-- A line with a bold hyphen, underlined letters, one of them bold too, and an underscore that is
none of the strokes. -/
theorem struck_line_listed :
    '\x08' ∉ "x_\n -a_  ab\n".toList ∧
    Struck "x_\n -a_  ab\n" "x_\n -\x08-_\x08a_  _\x08a\x08ab\n" ∧
    rowsOfPage "x_\n -\x08-_\x08a_  _\x08a\x08ab\n" = rowsOfPage "x_\n -a_  ab\n" ∧
    rowsOfPage "x_\n -a_  ab\n" = [⟨"-a_", "ab"⟩] := by
  have plain : '\x08' ∉ "x_\n -a_  ab\n".toList := by decide
  have struck : Struck "x_\n -a_  ab\n" "x_\n -\x08-_\x08a_  _\x08a\x08ab\n" :=
    .char .plain (by decide) <| .char .plain (by decide) <| .feed <| .char .plain (by decide) <|
    .char .bold (by decide) <| .char .underlined (by decide) <| .char .plain (by decide) <|
    .char .plain (by decide) <| .char .plain (by decide) <| .char .both (by decide) <|
    .char .plain (by decide) <| .feed .nil
  exact ⟨plain, struck, (striking_changes_no_row plain).1 _ struck, by decide +kernel⟩

end CommandShell.Proofs.StruckPages
