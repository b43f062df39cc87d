import CommandShell.Text.Blank
import CommandShell.Text.Digit

/-!
Constants in markup: numbers, texts, fixed words, and groups of constants in round or curly
brackets. What a constant stands for is not needed, only whether a text is one.
-/

namespace CommandShell.Constant

/-- A sign that constants are built of. Texts are of characters or of bytes. -/
inductive Sign
  | number (imaginary : Bool)
  | text (bytes : Bool)
  | word (letters : Text)
  | mark (c : Char)
  deriving DecidableEq, Repr

/-- Digits with single underscores between them. -/
def areDigits (isDigit : Char → Bool) (t : Text) : Bool :=
  (Text.splitOn '_' t).all fun (run : Text) => !run.isEmpty && run.all isDigit

/-- Whether a text is a whole number. A decimal one starts with zero only if it is zero. -/
def isWhole (t : Text) : Bool :=
  let based (isDigit : Char → Bool) (t : Text) : Bool :=
    areDigits isDigit ((Text.dropStart? "_" t).getD t)
  match t with
  | '0' :: 'x' :: rest | '0' :: 'X' :: rest => based (fun c => (Text.hexDigit? c).isSome) rest
  | '0' :: 'o' :: rest | '0' :: 'O' :: rest => based (fun c => '0' ≤ c && c ≤ '7') rest
  | '0' :: 'b' :: rest | '0' :: 'B' :: rest => based (fun c => c == '0' || c == '1') rest
  | '0' :: rest => areDigits (· == '0') ('0' :: rest)
  | t => areDigits Char.isDigit t

/-- Whether a text is a number with a point or an exponent. -/
def isFraction (t : Text) : Bool :=
  let front := t.takeWhile fun c => c != 'e' && c != 'E'
  let exponent : Option Text := match t.drop front.length with
    | _ :: '+' :: rest | _ :: '-' :: rest | _ :: rest => some rest
    | [] => none
  let part (t : Text) : Bool := t.isEmpty || areDigits Char.isDigit t
  let mantissa := match Text.partition? "." front with
    | some (whole, rest) => part whole && part rest && !(whole.isEmpty && rest.isEmpty)
    | none => exponent.isSome && areDigits Char.isDigit front
  mantissa && exponent.all (areDigits Char.isDigit)

/-- The sign of a number, if a text is one. -/
def number? (t : Text) : Option Sign :=
  match t.reverse with
  | 'j' :: rest | 'J' :: rest =>
    if areDigits Char.isDigit rest.reverse || isFraction rest.reverse then some (.number true)
    else none
  | _ => if isWhole t || isFraction t then some (.number false) else none

/-- The characters at the front of a text that belong to a number. -/
def numberFront (hexadecimal : Bool) : Text → Text
  | [] => []
  | c :: rest =>
    if !(c.isAlphanum || c == '_' || c == '.') then []
    else match rest with
      | s :: d :: later =>
        if !hexadecimal && (c == 'e' || c == 'E') && (s == '+' || s == '-') && d.isDigit then
          c :: s :: numberFront hexadecimal (d :: later)
        else c :: numberFront hexadecimal (s :: d :: later)
      | rest => c :: numberFront hexadecimal rest

/-- Whether a character can stand in a word. Beyond the first 128 characters all can that are not
blank. -/
def isWordPart (c : Char) : Bool :=
  c.isAlphanum || c == '_' || (c.toNat ≥ 0x80 && !Text.isBlank c)

/-- Whether what follows a backslash and a letter makes them the code of a character. -/
def isCode (bytes : Bool) (letter : Char) (rest : Text) : Bool :=
  let digits (n : Nat) : Option (List Nat) :=
    if rest.length < n then none else (rest.take n).mapM Text.hexDigit?
  if letter = 'x' then (digits 2).isSome
  else if bytes then letter.toNat < 0x80
  else if letter = 'u' then (digits 4).isSome
  else if letter = 'U' then
    (digits 8).any fun code => code.foldl (fun n d => 16 * n + d) 0 ≤ 0x10FFFF
  else if letter = 'N' then
    match Text.dropStart? "\x7b" rest with
    | some name => name.contains '\x7d' && name.head? ≠ some '\x7d'
    | none => false
  else true

/-- What follows the quote that ends a text. -/
def afterText? (quote : Char) (long raw bytes : Bool) : Text → Option Text
  | [] => none
  | '\\' :: c :: rest =>
    if raw || isCode bytes c rest then afterText? quote long raw bytes rest else none
  | c :: rest =>
    if c = quote then
      if long then
        match rest with
        | a :: b :: rest =>
          if a = quote ∧ b = quote then some rest
          else afterText? quote long raw bytes (a :: b :: rest)
        | _ => none
      else some rest
    else if c = '\n' ∧ !long ∨ bytes ∧ c.toNat ≥ 0x80 then none
    else afterText? quote long raw bytes rest

/-- The text behind an opening quote, as a sign, and what follows. A word may stand before the
quote. -/
def text? (word : Text) (quote : Char) (t : Text) : Option (Sign × Text) :=
  let form := word.map Char.toLower
  let raw := form.contains 'r'
  let bytes := form.contains 'b'
  let forms : List Text :=
    ["".toList, "r".toList, "u".toList, "b".toList, "br".toList, "rb".toList]
  if form ∉ forms then none
  else
    let rest := match Text.dropStart? [quote, quote] t with
      | some long => afterText? quote true raw bytes long
      | none => afterText? quote false raw bytes t
    rest.map fun rest => (.text bytes, rest)

/-- The signs of a text, with as much fuel as it has characters, at a depth of brackets. A line may
end inside brackets only. -/
def signsFrom : (fuel depth : Nat) → Text → Option (List Sign)
  | _, _, [] => some []
  | 0, _, _ => none
  | fuel + 1, depth, c :: rest =>
    if c = ' ' ∨ c = '\t' ∨ c = '\x0c' then signsFrom fuel depth rest
    else if c = '\n' ∨ c = '\r' then if depth = 0 then none else signsFrom fuel depth rest
    else if c = '#' then signsFrom fuel depth (rest.dropWhile (· != '\n'))
    else if c = '(' ∨ c = '\x7b' then (signsFrom fuel (depth + 1) rest).map (.mark c :: ·)
    else if c = ')' ∨ c = '\x7d' then (signsFrom fuel (depth - 1) rest).map (.mark c :: ·)
    else if c = ',' ∨ c = ':' ∨ c = '+' ∨ c = '-' then
      (signsFrom fuel depth rest).map (.mark c :: ·)
    else if c = '\'' ∨ c = '"' then
      (text? [] c rest).bind fun (sign, rest) => (signsFrom fuel depth rest).map (sign :: ·)
    else if c.isDigit ∨ c = '.' ∧ rest.head?.any Char.isDigit then
      let hexadecimal := c = '0' ∧ (rest.head? = some 'x' ∨ rest.head? = some 'X')
      let front := numberFront hexadecimal (c :: rest)
      (number? front).bind fun sign =>
        (signsFrom fuel depth ((c :: rest).drop front.length)).map (sign :: ·)
    else if "...".toList.isPrefixOf (c :: rest) then
      (signsFrom fuel depth (rest.drop 2)).map (.word "..." :: ·)
    else
      let word := (c :: rest).takeWhile isWordPart
      match (c :: rest).drop word.length with
      | q :: later =>
        if word.isEmpty then none
        else if q = '\'' ∨ q = '"' then
          (text? word q later).bind fun (sign, rest) => (signsFrom fuel depth rest).map (sign :: ·)
        else (signsFrom fuel depth (q :: later)).map (.word word :: ·)
      | [] => some [.word word]

/-- What a constant is good for: a number can stand in a sum, and a constant that can be changed is
neither a key nor a member. -/
inductive Kind
  | number (imaginary signed : Bool)
  | fixed
  | changeable
  deriving DecidableEq, Repr

/-- A sum of a number and an imaginary one. -/
def sum? : Kind → Kind → Option Kind
  | .number false _, .number true false => some .fixed
  | _, _ => none

mutual

/-- A constant without a sum at the front of some signs, and the signs behind it. -/
def single? : (fuel : Nat) → List Sign → Option (Kind × List Sign)
  | 0, _ => none
  | fuel + 1, signs =>
    match signs with
    | .number imaginary :: rest => some (.number imaginary false, rest)
    | .text bytes :: rest => some (.fixed, rest.dropWhile (· = .text bytes))
    | .mark '(' :: .mark ')' :: rest => some (.fixed, rest)
    | .mark '(' :: rest => do
      let (kind, rest) ← constant? fuel rest
      match rest with
      | .mark ')' :: rest => return (kind, rest)
      | .mark ',' :: rest =>
        let (unchanging, rest) ← members? fuel (some (.mark ')')) rest
        return (if unchanging && kind ≠ .changeable then .fixed else .changeable, rest)
      | _ => none
    | .mark '\x7b' :: .mark '\x7d' :: rest => some (.changeable, rest)
    | .mark '\x7b' :: rest => do
      let (kind, rest) ← constant? fuel rest
      if kind = .changeable then none
      match rest with
      | .mark ':' :: rest => return (.changeable, ← entries? fuel (← constant? fuel rest).2)
      | .mark ',' :: rest =>
        let (unchanging, rest) ← members? fuel (some (.mark '\x7d')) rest
        if unchanging then return (.changeable, rest) else none
      | .mark '\x7d' :: rest => return (.changeable, rest)
      | _ => none
    | .word letters :: rest =>
      if ["None".toList, "True".toList, "False".toList, "...".toList].contains letters then
        some (.fixed, rest)
      else match letters, rest with
        | ['s', 'e', 't'], .mark '(' :: .mark ')' :: rest => some (.changeable, rest)
        | _, _ => none
    | .mark c :: .number imaginary :: rest =>
      if c = '+' ∨ c = '-' then some (.number imaginary true, rest) else none
    | .mark c :: rest =>
      if c = '+' ∨ c = '-' then
        match single? fuel rest with
        | some (.number imaginary false, rest) => some (.number imaginary true, rest)
        | _ => none
      else none
    | [] => none

/-- A constant at the front of some signs, and the signs behind it. -/
def constant? : (fuel : Nat) → List Sign → Option (Kind × List Sign)
  | 0, _ => none
  | fuel + 1, signs => do
    let (kind, rest) ← single? fuel signs
    match rest with
    | .mark '+' :: rest | .mark '-' :: rest =>
      let (other, rest) ← single? fuel rest
      return (← sum? kind other, rest)
    | rest => return (kind, rest)

/-- Constants between commas up to a closing sign, or to the end without one, and the signs behind.
The answer says whether none of them can be changed. -/
def members? : (fuel : Nat) → (close : Option Sign) → List Sign → Option (Bool × List Sign)
  | 0, _, _ => none
  | fuel + 1, close, signs =>
    if signs.head? = close then some (true, signs.tail)
    else do
      let (kind, rest) ← constant? fuel signs
      let (unchanging, rest) ←
        if rest.head? = close then some (true, rest.tail)
        else match rest with
          | .mark ',' :: rest => members? fuel close rest
          | _ => none
      return (unchanging && kind ≠ .changeable, rest)

/-- Further keys with their values up to the closing bracket, and the signs behind it. -/
def entries? : (fuel : Nat) → List Sign → Option (List Sign)
  | 0, _ => none
  | fuel + 1, signs =>
    match signs with
    | .mark '\x7d' :: rest | .mark ',' :: .mark '\x7d' :: rest => some rest
    | .mark ',' :: rest => do
      let (kind, rest) ← constant? fuel rest
      if kind = .changeable then none
      match rest with
      | .mark ':' :: rest => entries? fuel (← constant? fuel rest).2
      | _ => none
    | _ => none

end

/-- Whether a text is a constant, or several ones between commas. -/
def isConstant (t : Text) : Bool :=
  match signsFrom t.length 0 t with
  | none => false
  | some signs =>
    match constant? (4 * signs.length + 4) signs with
    | some (_, []) => true
    | some (_, .mark ',' :: rest) => (members? (4 * signs.length + 4) none rest).isSome
    | _ => false

example : isConstant "(1, 'a', -2.5e3)".toList = true := by decide +kernel
example : isConstant "1+2j".toList = true := by decide +kernel
example : isConstant "--1".toList = false := by decide +kernel

/-- The brackets of a text that are open at its end, the latest first, or what is wrong before.
Texts in it are passed over. -/
def brackets : (quoted : Option Char) → (opened : List Char) → Text → Except Text (List Char)
  | none, opened, [] => .ok opened
  | some _, _, [] => .error "unterminated string literal (detected at line 1)"
  | some quote, opened, c :: rest =>
    brackets (if c = quote then none else some quote) opened rest
  | none, opened, c :: rest =>
    if c = '\'' ∨ c = '"' then brackets (some c) opened rest
    else if c = '(' ∨ c = '\x7b' then brackets none (c :: opened) rest
    else if c = ')' ∨ c = '\x7d' then
      match opened with
      | [] => .error ("unmatched '" ++ c :: "'")
      | opening :: opened =>
        if (opening == '(') == (c == ')') then brackets none opened rest
        else .error ("closing parenthesis '" ++ c :: "' does not match opening parenthesis '" ++
          opening :: "'")
    else brackets none opened rest

/-- What is wrong with a text that is no constant. -/
def mistake (t : Text) : Text :=
  match brackets none [] t with
  | .error mistake => mistake
  | .ok (c :: _) => "'" ++ c :: "' was never closed"
  | .ok [] => "invalid syntax"

end CommandShell.Constant
