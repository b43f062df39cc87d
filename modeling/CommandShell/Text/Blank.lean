import CommandShell.Text.Basic

/-!
Blank characters. Trimming, splitting into words and the word before the cursor all use one class:
the characters with the White_Space property and the four information separators.
-/

namespace CommandShell.Text

/-- White space, and the separators U+001C to U+001F. -/
def isBlank (c : Char) : Bool :=
  let n := c.toNat
  (9 ≤ n && n ≤ 13) || (0x1C ≤ n && n ≤ 0x20) || n == 0x85 || n == 0xA0 || n == 0x1680 ||
  (0x2000 ≤ n && n ≤ 0x200A) || n == 0x2028 || n == 0x2029 || n == 0x202F || n == 0x205F ||
  n == 0x3000

def trimStart (t : Text) : Text := t.dropWhile isBlank

def trimEnd (t : Text) : Text := (t.reverse.dropWhile isBlank).reverse

def trim (t : Text) : Text := trimEnd (trimStart t)

/-- The longest run of characters that are not blank at the end of a text. -/
def lastWord (t : Text) : Text := (t.reverse.takeWhile (!isBlank ·)).reverse

private theorem length_dropWhile_le (p : Char → Bool) (t : Text) :
    (t.dropWhile p).length ≤ t.length := by
  induction t with
  | nil => simp
  | cons c t ih =>
    rw [List.dropWhile_cons]
    split
    · exact Nat.le_succ_of_le ih
    · exact Nat.le_refl _

/-- The runs of characters that are not blank, in order. -/
def words (t : Text) : List Text :=
  match _start : t.dropWhile isBlank with
  | [] => []
  | c :: rest => (c :: rest.takeWhile (!isBlank ·)) :: words (rest.dropWhile (!isBlank ·))
termination_by t.length
decreasing_by
  have skipped := length_dropWhile_le isBlank t
  have taken := length_dropWhile_le (!isBlank ·) rest
  rw [_start] at skipped
  simp only [List.length_cons] at skipped
  omega

end CommandShell.Text
