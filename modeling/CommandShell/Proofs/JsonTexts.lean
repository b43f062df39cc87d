import CommandShell.Json.Reader
import CommandShell.Json.Writer
import CommandShell.Text.Blank
import CommandShell.Proofs.TableKeys
import CommandShell.Proofs.TextLines
import CommandShell.Proofs.Utf8Text

/-! A record of texts is read back as it was written, with what is beyond ASCII in escapes. -/

namespace CommandShell.Proofs.JsonTexts
open Json TableKeys

theorem hex_succ {width : Nat} (filled : 0 < width) (n : Nat) :
    Text.hex (width + 1) n = Text.hex width (n / 16) ++ [(n % 16).digitChar] := by
  unfold Text.hex
  by_cases small : n < 16
  · have zero : n / 16 = 0 := Nat.div_eq_of_lt small
    obtain ⟨width, rfl⟩ := Nat.exists_eq_succ_of_ne_zero (Nat.ne_of_gt filled)
    rw [zero, Nat.toDigits_of_lt_base small, Nat.toDigits_of_lt_base (by decide), Nat.mod_eq_of_lt small]
    simp only [List.length_singleton, Nat.add_sub_cancel, Nat.succ_eq_add_one]
    rw [List.replicate_succ']
    rfl
  · rw [Nat.toDigits_of_base_le (by decide) (Nat.not_lt.mp small)]
    simp only [List.length_append, List.length_singleton, Nat.add_sub_add_right, List.append_assoc]

theorem hex_four {unit : Nat} (small : unit < 0x10000) :
    Text.hex 4 unit = [(unit / 16 / 16 / 16).digitChar, (unit / 16 / 16 % 16).digitChar,
      (unit / 16 % 16).digitChar, (unit % 16).digitChar] := by
  rw [hex_succ (by decide), hex_succ (by decide), hex_succ (by decide), Text.hex,
    Nat.toDigits_of_lt_base (by omega)]
  rfl

private theorem hexDigit?_digitChar {n : Nat} (small : n < 16) : Text.hexDigit? n.digitChar = some n :=
  (by decide : ∀ n < 16, Text.hexDigit? n.digitChar = some n) n small

theorem hexUnit?_hex {unit : Nat} (small : unit < 0x10000) (c : Char) (rest : Text) :
    hexUnit? (Text.hex 4 unit ++ c :: rest) = some (unit, c :: rest) := by
  have value : ((unit / 16 / 16 / 16 * 16 + unit / 16 / 16 % 16) * 16 + unit / 16 % 16) * 16 + unit % 16 =
      unit := by omega
  rw [hex_four small]
  simp only [List.cons_append, List.nil_append, hexUnit?, Option.bind_eq_bind,
    hexDigit?_digitChar (show unit / 16 / 16 / 16 < 16 by omega),
    hexDigit?_digitChar (Nat.mod_lt _ (by decide)), Option.bind_some, value]
  rfl

private theorem codePoint_unit {unit : Nat} (small : unit < 0x10000) (whole : unit < 0xD800 ∨ 0xE000 ≤ unit)
    (c : Char) (rest : Text) :
    codePoint (Text.hex 4 unit ++ c :: rest) = .ok (Char.ofNat unit, c :: rest) := by
  have alone : isHighHalf unit = false := by
    simp only [isHighHalf, Bool.and_eq_false_iff, decide_eq_false_iff_not]
    omega
  have char : unitChar unit = Char.ofNat unit := if_neg (by omega)
  rw [codePoint, hexUnit?_hex small]
  dsimp only
  split
  · rw [alone, char]
    rfl
  · rw [char]

theorem unitEscape_append (unit : Nat) (rest : Text) :
    unitEscape unit ++ rest = '\\' :: 'u' :: (Text.hex 4 unit ++ rest) := rfl

private theorem codePoint_pair {above : Nat} (small : above < 0x100000) (c : Char) (rest : Text) :
    codePoint (Text.hex 4 (0xD800 + above / 0x400) ++
        (unitEscape (0xDC00 + above % 0x400) ++ c :: rest)) =
      .ok (Char.ofNat (0x10000 + above), c :: rest) := by
  have high : isHighHalf (0xD800 + above / 0x400) = true := by
    simp only [isHighHalf, Bool.and_eq_true, decide_eq_true_eq]
    omega
  have low : isLowHalf (0xDC00 + above % 0x400) = true := by
    simp only [isLowHalf, Bool.and_eq_true, decide_eq_true_eq]
    omega
  have pair : pairChar (0xD800 + above / 0x400) (0xDC00 + above % 0x400) = Char.ofNat (0x10000 + above) :=
    congrArg Char.ofNat (by omega)
  have long : 5 ≤ (Text.hex 4 (0xDC00 + above % 0x400) ++ c :: rest).length := by
    rw [hex_four (by omega)]
    simp
  rw [codePoint, unitEscape_append, hexUnit?_hex (by omega)]
  simp only [high, long, decide_true, Bool.and_self, if_true, hexUnit?_hex (show
    0xDC00 + above % 0x400 < 0x10000 by omega), low, pair]

section Strings

variable {start fuel : Nat} {rest : Text}

private theorem stringTail_plain {c : Char} (no_quote : c ≠ '"') (no_backslash : c ≠ '\\')
    (high : 0x20 ≤ c.toNat) :
    stringTail start (fuel + 1) (c :: rest) =
      (fun read => (c :: read.1, read.2)) <$> stringTail start fuel rest := by
  rw [stringTail, if_neg (Nat.not_lt.mpr high)]
  · rfl
  · exact no_quote
  · exact fun backslash _ => no_backslash backslash
  · exact fun _ backslash _ => no_backslash backslash
  · exact fun _ _ backslash _ => no_backslash backslash

theorem stringTail_letter {letter c : Char} (known : escaped? letter = some c) :
    stringTail start (fuel + 1) ('\\' :: letter :: rest) =
      (fun read => (c :: read.1, read.2)) <$> stringTail start fuel rest := by
  rw [stringTail, known]
  · rfl
  · rintro rfl
    cases known

private theorem stringTail_unit {c : Char} {left : Text} (known : codePoint rest = .ok (c, left)) :
    stringTail start (fuel + 1) ('\\' :: 'u' :: rest) =
      (fun read => (c :: read.1, read.2)) <$> stringTail start fuel left := by
  rw [stringTail, known]
  rfl

/-- A written character is read back, and the rest of the string is read on as without it. -/
theorem stringTail_written (c : Char) (more : rest ≠ []) :
    stringTail start (fuel + 1) (writtenChar true c ++ rest) =
      (fun read => (c :: read.1, read.2)) <$> stringTail start fuel rest := by
  obtain ⟨next, rest, rfl⟩ := List.exists_cons_of_ne_nil more
  have known : Char.ofNat c.toNat = c := Char.ofNat_toNat c
  have valid : c.toNat < 0xD800 ∨ 0xDFFF < c.toNat ∧ c.toNat < 0x110000 := c.valid
  have unit (small : c.toNat < 0x10000) : stringTail start (fuel + 1) (unitEscape c.toNat ++ next :: rest) =
      (fun read => (c :: read.1, read.2)) <$> stringTail start fuel (next :: rest) := by
    have read := codePoint_unit small (by omega) next rest
    rw [known] at read
    rw [unitEscape_append]
    exact stringTail_unit read
  -- One case for each kind of escape, as the characters are written.
  fun_cases writtenChar true c with
  | case1 quote => exact stringTail_letter (by rw [quote]; rfl)
  | case2 _ backslash => exact stringTail_letter (by rw [backslash]; rfl)
  | case3 _ _ feed => exact stringTail_letter (by rw [feed]; rfl)
  | case4 _ _ _ carriage => exact stringTail_letter (by rw [carriage]; rfl)
  | case5 _ _ _ _ tab => exact stringTail_letter (by rw [tab]; rfl)
  | case6 _ _ _ _ _ back => exact stringTail_letter (by rw [back]; rfl)
  | case7 _ _ _ _ _ _ page => exact stringTail_letter (by rw [page]; rfl)
  | case8 _ _ _ _ _ _ _ control => exact unit (by omega)
  | case9 _ _ _ _ _ _ _ _ _ small => exact unit small
  | case10 _ _ _ _ _ _ _ _ _ large above =>
    have read := codePoint_pair (show above < 0x100000 by omega) next rest
    rw [show 0x10000 + above = c.toNat by omega, known] at read
    rw [List.append_assoc, unitEscape_append]
    exact stringTail_unit read
  | case11 no_quote no_backslash _ _ _ _ _ high _ =>
    exact stringTail_plain no_quote no_backslash (Nat.not_lt.mp high)

private theorem stringTail_quoted (t : Text) (long : t.length < fuel) :
    stringTail start fuel (t.flatMap (writtenChar true) ++ '"' :: rest) = .ok (t, rest) := by
  induction t generalizing fuel with
  | nil =>
    obtain ⟨fuel, rfl⟩ := Nat.exists_eq_succ_of_ne_zero (Nat.ne_of_gt long)
    rfl
  | cons c more ih =>
    obtain ⟨fuel, rfl⟩ := Nat.exists_eq_succ_of_ne_zero (Nat.ne_of_gt (Nat.zero_lt_of_lt long))
    rw [List.flatMap_cons, List.append_assoc, stringTail_written c (by simp),
      ih (Nat.lt_of_succ_lt_succ long)]
    rfl

end Strings

private theorem writtenChar_ne_nil (c : Char) : writtenChar true c ≠ [] := by
  have escape (unit : Nat) : unitEscape unit ≠ [] := List.cons_ne_nil '\\' ('u' :: Text.hex 4 unit)
  fun_cases writtenChar true c with
  | case8 | case9 => exact escape _
  | case10 => exact List.append_ne_nil_of_left_ne_nil (escape _) _
  | _ => exact List.cons_ne_nil _ _

private theorem length_written (t : Text) : t.length ≤ (t.flatMap (writtenChar true)).length := by
  induction t with
  | nil => exact Nat.le_refl _
  | cons c rest ih =>
    have one := List.length_pos_iff.mpr (writtenChar_ne_nil c)
    rw [List.flatMap_cons, List.length_append, List.length_cons]
    omega

private theorem string_written (t rest : Text) :
    string (t.flatMap (writtenChar true) ++ '"' :: rest) = .ok (t, rest) := by
  have long := length_written t
  refine stringTail_quoted t ?_
  rw [List.length_append]
  omega

theorem writtenText_append (t rest : Text) :
    writtenText true t ++ rest = '"' :: (t.flatMap (writtenChar true) ++ '"' :: rest) := by
  simp [writtenText]

private theorem value_written (fuel depth : Nat) (t rest : Text) :
    value (fuel + 1) depth (writtenText true t ++ rest) = .ok (.text t, rest) := by
  rw [writtenText_append, value, string_written]
  rfl

def Texts (table : Table Json) : Prop := ∀ pair ∈ table, ∃ t, pair.2 = .text t

theorem Texts.set {table : Table Json} (texts : Texts table) (name t : Text) : Texts (table.set name (.text t)) := by
  induction table with
  | nil => exact List.forall_mem_singleton.mpr ⟨t, rfl⟩
  | cons pair rest ih =>
    obtain ⟨first, others⟩ := List.forall_mem_cons.mp texts
    rw [Table.set]
    split
    · exact List.forall_mem_cons.mpr ⟨⟨t, rfl⟩, others⟩
    · exact List.forall_mem_cons.mpr ⟨first, ih others⟩

theorem Texts.erase {table : Table Json} (texts : Texts table) (name : Text) : Texts (table.erase name) :=
  fun pair inside => texts pair (List.mem_of_mem_filter inside)

theorem Texts.overlay {table above : Table Json} (texts : Texts table) (others : Texts above) :
    Texts (table.overlay above) := by
  induction above generalizing table with
  | nil => exact texts
  | cons pair rest ih =>
    obtain ⟨name, item⟩ := pair
    obtain ⟨⟨t, rfl⟩, later⟩ := List.forall_mem_cons.mp others
    exact ih (texts.set name t) later

def layout : Layout := { indented := true }

def behind (table : Table Json) : Text := writeFields layout 1 table ++ ['\n', '\x7d']

/-- The fields of a record of texts, from the name of the first one to the brace at the end. -/
def written (name t : Text) (table : Table Json) : Text :=
  writtenText true name ++ (": " ++ (writtenText true t ++ behind table))

theorem behind_cons (name t : Text) (table : Table Json) :
    behind ((name, .text t) :: table) = ",\n  " ++ written name t table := by
  simp only [behind, written, writeFields, write, List.append_assoc]
  rfl

private theorem indentedAscii_cons (name t : Text) (table : Table Json) :
    (Json.record ((name, .text t) :: table)).indentedAscii = '\x7b' :: ("\n  " ++ written name t table) := by
  simp only [indentedAscii, behind, written, write, List.append_assoc]
  rfl

private theorem written_quoted (name t : Text) (table : Table Json) :
    ∃ rest, written name t table = '"' :: rest :=
  ⟨_, writtenText_append name _⟩

private theorem skipGap_written (name t : Text) (table : Table Json) :
    skipGap ("\n  " ++ written name t table) = written name t table := by
  obtain ⟨rest, quoted⟩ := written_quoted name t table
  rw [quoted]
  rfl

private theorem skipGap_quoted (t rest : Text) :
    skipGap (' ' :: (writtenText true t ++ rest)) = writtenText true t ++ rest := by
  rw [writtenText_append]
  rfl

private theorem fields_field (fuel : Nat) (name t : Text) (table : Table Json) :
    fields (fuel + 2) 1 (written name t table) =
      match skipGap (behind table) with
      | '\x7d' :: rest => .ok ([(name, .text t)], rest)
      | ',' :: rest => do
        let (more, rest) ← fields (fuel + 1) 1 (skipGap rest)
        return ((name, .text t) :: more, rest)
      | rest => .error (.mistake .comma rest.length) := by
  have colon (rest : Text) : skipGap (": " ++ rest) = ':' :: ' ' :: rest := rfl
  rw [written, writtenText_append, fields.eq_def]
  simp only [string_written, bind, Except.bind, colon, skipGap_quoted, value_written]
  rfl

/-- The fields of a record are read back, with fuel for each of them and for the value of the last. -/
theorem fields_written {fuel : Nat} {table : Table Json} (texts : Texts table) (name t : Text)
    (long : table.length + 2 ≤ fuel) :
    fields fuel 1 (written name t table) = .ok ((name, .text t) :: table, []) := by
  induction table generalizing name t fuel with
  | nil =>
    obtain ⟨fuel, rfl⟩ := Nat.exists_eq_add_of_le' long
    exact fields_field fuel name t []
  | cons pair table ih =>
    obtain ⟨fuel, rfl⟩ := Nat.exists_eq_add_of_le' (Nat.le_trans (Nat.le_add_left 2 _) long)
    obtain ⟨word, item⟩ := pair
    obtain ⟨⟨expansion, rfl⟩, others⟩ := List.forall_mem_cons.mp texts
    have more := ih others word expansion (show table.length + 2 ≤ fuel + 1 from Nat.le_of_succ_le_succ long)
    have comma (rest : Text) : skipGap (",\n  " ++ rest) = ',' :: ("\n  " ++ rest) := rfl
    rw [fields_field, behind_cons, comma]
    simp only [skipGap_written, more]
    rfl

private theorem length_behind {table : Table Json} (texts : Texts table) :
    table.length ≤ (behind table).length := by
  induction table with
  | nil => exact Nat.zero_le _
  | cons pair table ih =>
    obtain ⟨name, item⟩ := pair
    obtain ⟨⟨t, rfl⟩, others⟩ := List.forall_mem_cons.mp texts
    have more := ih others
    have break_length : (",\n  " : Text).length = 4 := rfl
    rw [behind_cons, written, List.length_cons]
    simp only [List.length_append, break_length]
    omega

private theorem value_record {fuel : Nat} {table : Table Json} (texts : Texts table) (name t : Text)
    (distinct : Table.keys ((name, .text t) :: table) |>.Nodup) (long : table.length + 2 ≤ fuel) :
    value (fuel + 1) 0 ('\x7b' :: ("\n  " ++ written name t table)) =
      .ok (.record ((name, .text t) :: table), []) := by
  have read := fields_written texts name t long
  have gap := skipGap_written name t table
  obtain ⟨rest, quoted⟩ := written_quoted name t table
  rw [quoted] at read gap ⊢
  rw [value, if_neg (by decide), gap]
  dsimp only [bind, Except.bind]
  split
  next closed => exact absurd (List.cons.inj closed).1 (by decide)
  next =>
    rw [Nat.zero_add, read]
    dsimp only
    rw [ofPairs_eq distinct]
    rfl

/-- A table of texts is read back as it was written. -/
theorem read_written {table : Table Json} (texts : Texts table) (distinct : table.keys.Nodup) :
    Json.read (Json.record table).indentedAscii = .ok (.record table) := by
  cases table with
  | nil => rfl
  | cons pair table =>
    obtain ⟨name, item⟩ := pair
    obtain ⟨⟨t, rfl⟩, others⟩ := List.forall_mem_cons.mp texts
    have long := length_behind others
    have enough : table.length + 2 ≤ 2 * ('\x7b' :: ("\n  " ++ written name t table)).length + 1 := by
      simp only [written, List.length_cons, List.length_append]
      omega
    have found := value_record others name t distinct enough
    have no_mark : ¬ ('\x7b' :: ("\n  " ++ written name t table)).head? = some (Char.ofNat 0xFEFF) := by
      rw [List.head?_cons]
      decide
    have brace (rest : Text) : skipGap ('\x7b' :: rest) = '\x7b' :: rest := rfl
    rw [indentedAscii_cons, Json.read, if_neg no_mark, brace, found]
    rfl

/-- A text that a file gives back as it is, one byte for each character. -/
def Clean (t : Text) : Prop := ∀ c ∈ t, c.toNat < 0x80 ∧ c ≠ '\r'

instance (t : Text) : Decidable (Clean t) :=
  decidable_of_iff (t.all fun c => c.toNat < 0x80 ∧ c ≠ '\r') (by simp [Clean])

theorem Clean.append {front rest : Text} (first : Clean front) (later : Clean rest) : Clean (front ++ rest) :=
  List.forall_mem_append.mpr ⟨first, later⟩

theorem clean_unitEscape {unit : Nat} (small : unit < 0x10000) : Clean (unitEscape unit) := by
  have digit : ∀ n < 16, Clean [n.digitChar] := by decide
  rw [unitEscape, hex_four small]
  refine .append (by decide) ?_
  refine .append (digit _ (by omega)) (.append (digit _ (by omega)) (.append (digit _ (by omega)) (digit _ (by omega))))

private theorem clean_writtenChar (c : Char) : Clean (writtenChar true c) := by
  have valid : c.toNat < 0xD800 ∨ 0xDFFF < c.toNat ∧ c.toNat < 0x110000 := c.valid
  fun_cases writtenChar true c with
  | case8 => exact clean_unitEscape (by omega)
  | case9 => exact clean_unitEscape (by omega)
  | case10 => exact .append (clean_unitEscape (by omega)) (clean_unitEscape (by omega))
  | case11 _ _ _ no_carriage _ _ _ _ plain =>
    have low : ¬ 0x7F ≤ c.toNat := by simpa using plain
    exact List.forall_mem_singleton.mpr ⟨by omega, no_carriage⟩
  | _ => decide

private theorem clean_writtenText (t : Text) : Clean (writtenText true t) := by
  have inside : Clean (t.flatMap (writtenChar true)) := by
    intro c member
    obtain ⟨source, _, member⟩ := List.mem_flatMap.mp member
    exact clean_writtenChar source c member
  have quote : Clean ['"'] := by decide
  exact quote.append (inside.append quote)

theorem clean_written {table : Table Json} (rest : Clean (behind table)) (name t : Text) :
    Clean (written name t table) := by
  have colon : Clean ": " := by decide
  exact (clean_writtenText name).append (colon.append ((clean_writtenText t).append rest))

private theorem clean_behind {table : Table Json} (texts : Texts table) : Clean (behind table) := by
  induction table with
  | nil => decide
  | cons pair table ih =>
    obtain ⟨name, item⟩ := pair
    obtain ⟨⟨t, rfl⟩, others⟩ := List.forall_mem_cons.mp texts
    have comma : Clean ",\n  " := by decide
    rw [behind_cons]
    exact comma.append (clean_written (ih others) name t)

private theorem indentedAscii_clean {table : Table Json} (texts : Texts table) :
    Clean (Json.record table).indentedAscii ∧
      ∃ inner, (Json.record table).indentedAscii = '\x7b' :: (inner ++ ['\x7d']) := by
  cases table with
  | nil => exact ⟨by decide, [], rfl⟩
  | cons pair table =>
    obtain ⟨name, item⟩ := pair
    obtain ⟨⟨t, rfl⟩, others⟩ := List.forall_mem_cons.mp texts
    have brace : Clean ['\x7b', '\n', ' ', ' '] := by decide
    rw [indentedAscii_cons]
    constructor
    · exact brace.append (clean_written (clean_behind others) name t)
    · refine ⟨"\n  " ++ (writtenText true name ++ (": " ++ (writtenText true t ++
        (writeFields layout 1 table ++ ['\n'])))), ?_⟩
      simp [written, behind]

theorem isEmpty_indentedAscii {table : Table Json} (texts : Texts table) :
    (Json.record table).indentedAscii.isEmpty = false := by
  obtain ⟨-, inner, braced⟩ := indentedAscii_clean texts
  rw [braced]
  rfl

private theorem trim_braced (inner : Text) :
    Text.trim ('\x7b' :: (inner ++ ['\x7d'])) = '\x7b' :: (inner ++ ['\x7d']) := by
  have start : Text.trimStart ('\x7b' :: (inner ++ ['\x7d'])) = '\x7b' :: (inner ++ ['\x7d']) := rfl
  have turned : ('\x7b' :: (inner ++ ['\x7d'])).reverse = '\x7d' :: ('\x7b' :: inner).reverse := by simp
  have stop : ('\x7d' :: ('\x7b' :: inner).reverse).dropWhile Text.isBlank =
      '\x7d' :: ('\x7b' :: inner).reverse := rfl
  rw [Text.trim, start, Text.trimEnd, turned, stop, ← turned, List.reverse_reverse]

/-- What is written into a file is read from it as it was. -/
theorem trim_written {table : Table Json} (texts : Texts table) :
    Utf8.decode? (Utf8.encode (Json.record table).indentedAscii) = some (Json.record table).indentedAscii ∧
      Text.trim (Text.plainBreaks (Json.record table).indentedAscii) = (Json.record table).indentedAscii := by
  obtain ⟨clean, inner, braced⟩ := indentedAscii_clean texts
  refine ⟨Utf8Text.decode?_encode fun c inside => (clean c inside).1, ?_⟩
  rw [TextLines.plainBreaks_eq fun inside => (clean _ inside).2 rfl, braced, trim_braced]

end CommandShell.Proofs.JsonTexts
