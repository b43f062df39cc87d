import CommandShell.Drawing.Symbols
import CommandShell.Proofs.DrawnText
import CommandShell.Proofs.TableKeys

/-! What is shown for a text that a command puts out: the text with the names of symbols replaced, without
the controls that no screen shows, and with tabulators filled up. It is the text itself exactly if there is
nothing of all that in it. -/

namespace CommandShell.Proofs.ShownText
open DrawnText StyledText TableKeys TextLines

variable {t : Text}

/-- A field with blanks behind it, one at least, up to a stop of the tabulator. -/
def toStop (field : Text) : Text :=
  let begun := field ++ [' ']
  begun ++ List.replicate ((tabStop - Text.cells begun % tabStop) % tabStop) ' '

def fill : List Text → Text
  | [] => []
  | [field] => field
  | field :: next :: rest => toStop field ++ fill (next :: rest)

private theorem mem_toStop {field : Text} {c : Char} (inside : c ∈ toStop field) : c ∈ field ∨ c = ' ' := by
  rcases List.mem_append.mp inside with begun | blank
  · exact (List.mem_append.mp begun).imp_right List.mem_singleton.mp
  · exact .inr (List.eq_of_mem_replicate blank)

private theorem mem_fill {fields : List Text} {c : Char} (inside : c ∈ fill fields) :
    (∃ field ∈ fields, c ∈ field) ∨ c = ' ' := by
  fun_induction fill fields with
  | case1 => cases inside
  | case2 field => exact .inl ⟨field, List.mem_cons_self, inside⟩
  | case3 field next rest ih =>
    rcases List.mem_append.mp inside with here | behind
    · exact (mem_toStop here).imp_left fun here => ⟨field, List.mem_cons_self, here⟩
    · exact (ih behind).imp_left fun ⟨other, member, here⟩ => ⟨other, List.mem_cons_of_mem _ member, here⟩

private theorem tabPieces_field {field : Text} (untabbed : '\t' ∉ field) :
    tabPieces field = if field = [] then [] else [field] := by
  induction field with
  | nil => rfl
  | cons c field ih =>
    rw [List.mem_cons, not_or] at untabbed
    rw [tabPieces, if_neg (Ne.symm untabbed.1), ih untabbed.2, if_neg (List.cons_ne_nil c field)]
    by_cases empty : field = []
    · rw [if_pos empty, empty]
    · rw [if_neg empty]

private theorem tabPieces_append {field : Text} (untabbed : '\t' ∉ field) (rest : Text) :
    tabPieces (field ++ '\t' :: rest) = (field ++ ['\t']) :: tabPieces rest := by
  induction field with
  | nil => rw [List.nil_append, tabPieces, if_pos rfl, List.nil_append]
  | cons c field ih =>
    rw [List.mem_cons, not_or] at untabbed
    rw [List.cons_append, tabPieces, if_neg (Ne.symm untabbed.1), ih untabbed.2]
    rfl

/-- Pieces that start at a stop are fields that are filled up: each one ends at a stop again. -/
theorem flatten_untabPieces {fields : List Text} (some : fields ≠ []) (untabbed : ∀ field ∈ fields, '\t' ∉ field)
    {column : Nat} (stop : column % tabStop = 0) :
    (untabPieces column (tabPieces (Text.join ['\t'] fields))).flatten = fill fields := by
  unfold Text.join
  induction fields generalizing column with
  | nil => exact absurd rfl some
  | cons field fields ih =>
    obtain ⟨here, behind⟩ := List.forall_mem_cons.mp untabbed
    cases fields with
    | nil =>
      have last : field.getLast? ≠ Option.some '\t' := fun last => here (List.mem_of_getLast? last)
      rw [List.intercalate_singleton, tabPieces_field here]
      by_cases empty : field = []
      · rw [if_pos empty, empty]
        rfl
      · rw [if_neg empty, untabPieces, if_neg last, untabPieces, List.flatten_singleton]
        rfl
    | cons next rest =>
      have reached (n gap : Nat) (filled : gap = (tabStop - n % tabStop) % tabStop) :
          (tabStop - (column + n) % tabStop) % tabStop = gap ∧ (column + n + gap) % tabStop = 0 := by
        unfold tabStop at stop filled ⊢
        omega
      obtain ⟨gap, again⟩ := reached (Text.cells (field ++ [' '])) _ rfl
      rw [List.intercalate_cons_cons, List.append_assoc, List.singleton_append, tabPieces_append here,
        untabPieces, if_pos List.getLast?_concat, List.dropLast_concat]
      dsimp only
      rw [gap, List.flatten_cons, ih (List.cons_ne_nil next rest) behind again]
      rfl

private theorem untab_text (styled : StyledText) :
    styled.untab.text = fill (Text.splitOn '\t' styled.text) := by
  unfold untab
  split
  next =>
    have filled := flatten_untabPieces (List.splitOn_ne_nil '\t' styled.text)
      (fun _ => notMem_splitOn) (Nat.zero_mod tabStop)
    rwa [← Text.splitOn, join_splitOn] at filled
  next untabbed =>
    have alone : Text.splitOn '\t' styled.text = [styled.text] :=
      List.splitOn_eq_singleton (by simpa using untabbed)
    rw [alone, fill]

/-- What is shown for a text: its rows with their fields filled up. -/
def shown (t : Text) : Text :=
  let visible := Text.withoutControls (Symbol.replaceNames t)
  Text.join "\n" ((Text.splitOn '\n' visible).map fun row => fill (Text.splitOn '\t' row))

private theorem written_ofText (t : Text) :
    (StyledText.ofText (Symbol.replaceNames t)).written false = shown t := by
  have rows : Text.splitOn '\n' (Text.withoutControls (Symbol.replaceNames t)) = _ :=
    (lines_text (StyledText.ofText (Symbol.replaceNames t))).symm
  rw [written_eq, shown, rows, List.map_map]
  exact congrArg (Text.join _) (List.map_congr_left fun line _ => untab_text line)

private theorem page_eq {rows : List Row} (some : rows ≠ []) (coloured : Bool) :
    Row.page coloured rows = Text.join "\n" (rows.map (Row.written coloured)) ++ "\n" := by
  have some_row : rows.map (Row.written coloured) ≠ [] := by simpa using some
  rw [← flatMap_ended some_row, List.flatMap_map]
  rfl

theorem page_shown (t : Text) :
    Row.page false (StyledText.ofText (Symbol.replaceNames t)).rows = shown t ++ "\n" := by
  have some : (StyledText.ofText (Symbol.replaceNames t)).rows ≠ [] := by
    intro none
    have lines := lines_text (StyledText.ofText (Symbol.replaceNames t))
    rw [List.map_eq_nil_iff.mp none] at lines
    exact List.splitOn_ne_nil _ _ lines.symm
  rw [page_eq some, ← written_ofText, StyledText.written]

private theorem tab_notMem_shown (t : Text) : '\t' ∉ shown t := by
  intro inside
  rcases mem_join inside with between | ⟨row, member, inside⟩
  · exact absurd between (by decide)
  · obtain ⟨line, -, rfl⟩ := List.mem_map.mp member
    rcases mem_fill inside with ⟨field, member, here⟩ | blank
    · exact notMem_splitOn member here
    · exact absurd blank (by decide)

private theorem shown_untabbed (untabbed : '\t' ∉ Text.withoutControls (Symbol.replaceNames t)) :
    shown t = Text.withoutControls (Symbol.replaceNames t) := by
  rw [← written_ofText]
  exact written_untabbed (StyledText.ofText (Symbol.replaceNames t)) untabbed

private theorem sharp_of_mem_words {word : Text} (member : word ∈ Text.words t) :
    ∀ c ∈ word, Text.isBlank c = false := by
  fun_induction Text.words t with
  | case1 => cases member
  | case2 t c rest start ih =>
    rcases List.mem_cons.mp member with rfl | later
    · have first := List.head?_dropWhile_not Text.isBlank t
      rw [start] at first
      refine List.forall_mem_cons.mpr ⟨by simpa using first, fun d inside => ?_⟩
      simpa using List.mem_takeWhile_imp inside
    · exact ih later

private theorem mem_pairs {words : List Text} {pair : Text × Text} (member : pair ∈ Symbol.pairs words) :
    pair.2 ∈ words := by
  fun_induction Symbol.pairs words with
  | case1 name symbol rest ih =>
    rcases List.mem_cons.mp member with rfl | later
    · exact List.mem_cons_of_mem _ List.mem_cons_self
    · exact List.mem_cons_of_mem _ (List.mem_cons_of_mem _ (ih later))
  | case2 => cases member

private theorem sharp_ofName? {name symbol : Text} (found : Symbol.ofName? name = some symbol) :
    ∀ c ∈ symbol, Text.isBlank c = false :=
  sharp_of_mem_words (mem_pairs (mem_of_get? found))

private theorem sharp_ofCode? {code symbol : Text} (found : Symbol.ofCode? code = some symbol) :
    ∀ c ∈ symbol, Text.isBlank c = false := by
  have sharp_forms : ∀ pair ∈ Symbol.forms, Text.isBlank pair.2 = false := by decide
  unfold Symbol.ofCode? at found
  dsimp only at found
  split at found
  next name form ended =>
    obtain ⟨pair, member, chosen⟩ := List.exists_of_findSome?_eq_some ended
    obtain ⟨_, _, same⟩ := Option.map_eq_some_iff.mp chosen
    obtain ⟨base, named, rfl⟩ := Option.map_eq_some_iff.mp found
    intro c inside
    rcases List.mem_append.mp inside with here | last
    · exact sharp_ofName? named c here
    · obtain rfl : c = pair.2 := (List.mem_singleton.mp last).trans (congrArg Prod.snd same).symm
      exact sharp_forms pair member
  next => exact sharp_ofName? found

private theorem takeWhile_append_drop (t : Text) (p : Char → Bool) :
    t.takeWhile p ++ t.drop (t.takeWhile p).length = t := by
  have front : t.takeWhile p = t.take (t.takeWhile p).length :=
    List.prefix_iff_eq_take.mp (List.takeWhile_prefix p)
  have whole := List.take_append_drop (t.takeWhile p).length t
  rwa [← front] at whole

private theorem eq_of_code? {code rest : Text} (found : Symbol.code? t = some (code, rest)) :
    t = code ++ ':' :: rest := by
  unfold Symbol.code? at found
  dsimp only at found
  split at found
  next later here =>
    obtain ⟨rfl, rfl⟩ : _ = code ∧ later = rest := by simpa using found
    rw [← here, takeWhile_append_drop]
  next => cases found

private theorem mem_replaceNames {c : Char} (inside : c ∈ Symbol.replaceNames t) :
    c ∈ t ∨ Text.isBlank c = false := by
  fun_induction Symbol.replaceNames t with
  | case1 => exact .inl inside
  | case2 t code rest found ih =>
    obtain rfl := eq_of_code? found
    rcases List.mem_append.mp inside with here | behind
    · cases named : Symbol.ofCode? code with
      | none =>
        have same : ':' :: (code ++ ':' :: rest) = (':' :: code ++ [':']) ++ rest := by simp
        rw [named, Option.getD_none] at here
        exact .inl (same ▸ List.mem_append_left rest here)
      | some symbol =>
        rw [named, Option.getD_some] at here
        exact .inr (sharp_ofCode? named c here)
    · exact (ih behind).imp_left fun there => by simp [there]
  | case3 t none ih =>
    rcases List.mem_cons.mp inside with rfl | behind
    · exact .inl List.mem_cons_self
    · exact (ih behind).imp_left (List.mem_cons_of_mem _)
  | case4 c t other ih =>
    rcases List.mem_cons.mp inside with rfl | behind
    · exact .inl List.mem_cons_self
    · exact (ih behind).imp_left (List.mem_cons_of_mem _)

private theorem replaceNames_front {front : Text} (plain : ':' ∉ front) (rest : Text) :
    Symbol.replaceNames (front ++ rest) = front ++ Symbol.replaceNames rest := by
  induction front with
  | nil => rfl
  | cons c front ih =>
    rw [List.mem_cons, not_or] at plain
    rw [List.cons_append, Symbol.replaceNames, if_neg (Ne.symm plain.1), ih plain.2]
    rfl

private theorem code?_code {code : Text} (sharp : ∀ c ∈ code, c ≠ ':' ∧ Text.isBlank c = false)
    (rest : Text) :
    Symbol.code? (code ++ ':' :: rest) = some (code, rest) := by
  have inside : ∀ c ∈ code, (c != ':' && !Text.isBlank c) = true := by simpa using sharp
  have front : (code ++ ':' :: rest).takeWhile (fun c => c != ':' && !Text.isBlank c) = code := by
    rw [List.takeWhile_append_of_pos inside, List.takeWhile_cons_of_neg (by decide), List.append_nil]
  rw [Symbol.code?, front, List.drop_left]
  rfl

theorem replaceNames_code {front code symbol : Text} (plain : ':' ∉ front)
    (sharp : ∀ c ∈ code, c ≠ ':' ∧ Text.isBlank c = false) (named : Symbol.ofCode? code = some symbol)
    (rest : Text) :
    Symbol.replaceNames (front ++ ':' :: code ++ ':' :: rest) = front ++ symbol ++ Symbol.replaceNames rest := by
  rw [List.append_assoc, replaceNames_front plain, List.cons_append, Symbol.replaceNames, if_pos rfl]
  split
  next other behind found =>
    obtain ⟨rfl, rfl⟩ := Prod.mk.inj (Option.some.inj ((code?_code sharp rest).symm.trans found))
    rw [named, Option.getD_some, List.append_assoc]
  next none => cases (code?_code sharp rest).symm.trans none

/-- Where between no two colons stands the name of a symbol, nothing is replaced. -/
theorem replaceNames_eq (unnamed : ∀ front code rest, t = front ++ ':' :: code ++ ':' :: rest →
    Symbol.ofCode? code = none) : Symbol.replaceNames t = t := by
  fun_induction Symbol.replaceNames t with
  | case1 => rfl
  | case2 t code rest found ih =>
    obtain rfl := eq_of_code? found
    rw [unnamed [] code rest rfl, Option.getD_none, ih fun front other more split => ?_]
    · simp
    · exact unnamed (':' :: code ++ ':' :: front) other more (by simp [split])
  | case3 t none ih => rw [ih fun front code rest split => unnamed (':' :: front) code rest (by simp [split])]
  | case4 c t other ih => rw [ih fun front code rest split => unnamed (c :: front) code rest (by simp [split])]

theorem visible_of_all (all : (t.all fun c => !Text.isHiddenControl c) = true) :
    ∀ c ∈ t, Text.isHiddenControl c = false := by simpa using all

theorem unnamed_of_single (single : t.count ':' ≤ 1) (front code rest : Text)
    (split : t = front ++ ':' :: code ++ ':' :: rest) : Symbol.ofCode? code = none := by
  rw [split] at single
  simp only [List.count_append, List.count_cons_self] at single
  omega

/-- A text that is shown as it is: it has no tabulator, and there is nothing in it that is replaced or
left out. -/
structure Untouched (t : Text) : Prop where
  untabbed : '\t' ∉ t
  same : Text.withoutControls (Symbol.replaceNames t) = t

theorem untouched_of_plain (untabbed : '\t' ∉ t) (visible : ∀ c ∈ t, Text.isHiddenControl c = false)
    (unnamed : ∀ front code rest, t = front ++ ':' :: code ++ ':' :: rest → Symbol.ofCode? code = none) :
    Untouched t where
  untabbed := untabbed
  same := by
    rw [replaceNames_eq unnamed, Text.withoutControls, List.filter_eq_self]
    exact fun c inside => by rw [visible c inside, Bool.not_false]

theorem shown_eq_iff : shown t = t ↔ Untouched t := by
  refine ⟨fun same => ?_, fun ⟨untabbed, same⟩ => ?_⟩
  · have untabbed : '\t' ∉ t := same ▸ tab_notMem_shown t
    have still : '\t' ∉ Text.withoutControls (Symbol.replaceNames t) := by
      intro inside
      rcases mem_replaceNames (List.mem_of_mem_filter inside) with here | sharp
      · exact untabbed here
      · exact absurd sharp (by decide)
    exact ⟨untabbed, (shown_untabbed still).symm.trans same⟩
  · rw [shown_untabbed (same.symm ▸ untabbed), same]

end CommandShell.Proofs.ShownText
