import CommandShell.Text.Basic

/-!
Names that are close to a mistyped one. Two names are compared by their longest common block, the
blocks before and behind it, and so on; the score is the share of characters in such blocks.
-/

namespace CommandShell.CloseMatch

/-- A piece that two texts have in common. -/
structure Block where
  first : Nat
  second : Nat
  size : Nat
  deriving DecidableEq, Repr

/-- In a text of 200 characters or more, those that make up over a hundredth of it start no block.
-/
def isPopular (word : Text) (c : Char) : Bool :=
  200 ≤ word.length && word.length / 100 + 1 < word.count c

/-- For each character of a text, the size of the common piece that ends there and with `c`, given
those sizes for the character before `c`. -/
def sizesAfter (starts : Char → Bool) (c : Char) : (corner : Nat) → List Nat → Text → List Nat
  | corner, size :: sizes, d :: rest =>
    (if d = c && starts d then corner + 1 else 0) :: sizesAfter starts c size sizes rest
  | _, _, _ => []

/-- The better of a block and those that end at offset `i` of the first text with the given sizes;
the first of several as large. -/
def bestOfRow (i : Nat) : (j : Nat) → List Nat → Block → Block
  | _, [], best => best
  | j, size :: sizes, best =>
    bestOfRow i (j + 1) sizes
      (if best.size < size then ⟨i + 1 - size, j + 1 - size, size⟩ else best)

/-- The largest block of two texts that ends in the rest of the first one. -/
def bestFrom (starts : Char → Bool) (second : Text) :
    (i : Nat) → (sizes : List Nat) → Text → Block → Block
  | _, _, [], best => best
  | i, sizes, c :: rest, best =>
    let sizes := sizesAfter starts c 0 sizes second
    bestFrom starts second (i + 1) sizes rest (bestOfRow i 0 sizes best)

/-- The size of the common beginning of two texts. -/
def commonStart : Text → Text → Nat
  | c :: first, d :: second => if c = d then commonStart first second + 1 else 0
  | _, _ => 0

/-- The largest common block of two texts, widened at both ends by what is equal there. -/
def longest (starts : Char → Bool) (first second : Text) : Block :=
  let best := bestFrom starts second 0 (second.map fun _ => 0) first ⟨0, 0, 0⟩
  let back :=
    commonStart (first.take best.first).reverse (second.take best.second).reverse
  let on :=
    commonStart (first.drop (best.first + best.size)) (second.drop (best.second + best.size))
  ⟨best.first - back, best.second - back, best.size + back + on⟩

/-- The characters in common blocks of two texts, cut at most so many times. -/
def commonSize (starts : Char → Bool) : (cuts : Nat) → Text → Text → Nat
  | 0, _, _ => 0
  | cuts + 1, first, second =>
    let block := longest starts first second
    if block.size = 0 then 0
    else
      block.size +
        commonSize starts cuts (first.take block.first) (second.take block.second) +
        commonSize starts cuts (first.drop (block.first + block.size))
          (second.drop (block.second + block.size))

/-- A score as a fraction. -/
structure Score where
  common : Nat
  total : Nat
  deriving DecidableEq, Repr

namespace Score

/-- The score of a name beside the mistyped word. -/
def of (name word : Text) : Score :=
  ⟨2 * commonSize (fun c => !isPopular word c) name.length name word, name.length + word.length⟩

/-- Whether a name is close: at least six tenths are common. -/
def isClose (score : Score) : Bool := 6 * score.total ≤ 10 * score.common

/-- Whether a scored name comes before another one: a higher score first, then a later name. -/
def before (a b : Score × Text) : Bool :=
  let left := a.1.common * b.1.total
  let right := b.1.common * a.1.total
  if left = right then Text.ble b.2 a.2 else right < left

end Score

/-- At most three of the names that are close to a word, the closest first. -/
def closest (word : Text) (names : List Text) : List Text :=
  let scored := names.map fun name => (Score.of name word, name)
  (((scored.filter (·.1.isClose)).mergeSort Score.before).take 3).map Prod.snd

end CommandShell.CloseMatch
