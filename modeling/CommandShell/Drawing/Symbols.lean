import CommandShell.Drawing.SymbolNames
import CommandShell.Text.Lowercase

/-!
Symbols written by name. A name between two colons stands for its symbol, with an ending that asks
for the text form or the picture form of it. What names no symbol stays as it is.
-/

namespace CommandShell.Symbol

/-- The endings of a name, with the character that selects the form. -/
def forms : List (Text × Char) := [("-emoji", '\uFE0F'), ("-text", '\uFE0E')]

/-- The symbol of a name without an ending, in either case of letters. -/
def ofName? (name : Text) : Option Text := names.get? (Text.lowercase name)

/-- The symbol of what stands between two colons. -/
def ofCode? (code : Text) : Option Text :=
  let ended := forms.findSome? fun (ending, form) =>
    (Text.dropStart? ending.reverse code.reverse).map fun name => (name.reverse, form)
  match ended with
  | some (name, form) => (ofName? name).map (· ++ [form])
  | none => ofName? code

/-- What stands between a colon and the next one, if no blank does, and what follows. -/
def code? (t : Text) : Option (Text × Text) :=
  let code := t.takeWhile fun c => c != ':' && !Text.isBlank c
  match t.drop code.length with
  | ':' :: rest => some (code, rest)
  | _ => none

theorem length_lt_of_code? {t code rest : Text} (found : code? t = some (code, rest)) :
    rest.length < t.length := by
  unfold code? at found
  dsimp only at found
  split at found
  · next later here =>
    obtain ⟨-, rfl⟩ : _ = code ∧ later = rest := by simpa using found
    have same := congrArg List.length here
    simp only [List.length_drop, List.length_cons] at same
    omega
  · simp at found

def replaceNames : Text → Text
  | [] => []
  | c :: t =>
    if c = ':' then
      match _found : code? t with
      | some (code, rest) =>
        (ofCode? code).getD (':' :: code ++ [':']) ++ replaceNames rest
      | none => c :: replaceNames t
    else c :: replaceNames t
termination_by t => t.length
decreasing_by
  · have shorter := length_lt_of_code? _found
    simp only [List.length_cons]
    omega
  · simp
  · simp

end CommandShell.Symbol
