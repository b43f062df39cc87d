import CommandShell.Proofs.ActSteps
import CommandShell.Proofs.HistoryRecords

/-! What is found at a path by work that looks for a file there and then reads it. -/

namespace CommandShell.Proofs.FileReads
open ActSteps HistoryRecords

inductive Finding
  | refused (problem : FileProblem)
  | nothing
  | content (bytes : Bytes)

/-- What is found at a path. A file that cannot be read is as good as none. -/
def finding (files : Files) (path : Text) : Finding :=
  if path.contains '\x00' then .nothing
  else match files.occupied path with
    | .error problem => .refused problem
    | .ok false => .nothing
    | .ok true =>
      match files.read path with
      | .error _ => .nothing
      | .ok bytes => .content bytes

def Finding.lines : Finding → List Text
  | content bytes => Text.lines (textOf bytes)
  | _ => []

section Found

variable {files : Files} {path : Text} {place : Place} {content : Bytes} {access : Access}

theorem occupied_of_find {node : Node} (found : files.find path = .ok (place, node)) :
    files.occupied path = .ok true := by
  rw [Files.occupied, found]

theorem read_of_find (found : files.find path = .ok (place, .file content access)) (opens : access ≠ .closed) :
    files.read path = .ok content := by
  rw [Files.read, found]
  cases access with
  | closed => exact absurd rfl opens
  | plain | program => rfl

theorem finding_of_find (named : path.contains '\x00' = false)
    (found : files.find path = .ok (place, .file content access)) (opens : access ≠ .closed) :
    finding files path = .content content := by
  rw [finding, named, occupied_of_find found]
  simp only [Bool.false_eq_true, if_false, read_of_find found opens]

end Found

theorem finding_of_absent {files : Files} {path : Text} (absent : files.occupied path = .ok false) :
    finding files path = .nothing := by
  rw [finding, absent]
  split
  · rfl
  · rfl

theorem refused_iff {files : Files} {path : Text} {problem : FileProblem} :
    finding files path = .refused problem ↔
      path.contains '\x00' = false ∧ files.occupied path = .error problem := by
  unfold finding
  cases path.contains '\x00' with
  | true => simp
  | false =>
    cases files.occupied path with
    | error other => simp
    | ok there =>
      cases there with
      | false => simp
      | true => cases files.read path <;> simp

section Looking

variable {path : Text} {world : World}

theorem on_atPath {α : Type} (named : path.contains '\x00' = false)
    (work : Files → Except FileProblem α) :
    (World.atPath path work).on world = ((work world.files).mapError (.file · path), world) := by
  have missing : ¬ path.contains '\x00' = true := Bool.eq_false_iff.mp named
  simp only [World.atPath, if_neg missing, on_bind, on_get]
  cases work world.files <;> rfl

theorem on_occupied_null (null : path.contains '\x00' = true) :
    (World.occupied path).on world = (.ok false, world) := by
  rw [World.occupied, if_pos null]
  rfl

theorem on_occupied (named : path.contains '\x00' = false) :
    (World.occupied path).on world = ((world.files.occupied path).mapError (.file · path), world) := by
  rw [World.occupied, if_neg (Bool.eq_false_iff.mp named)]
  exact on_atPath named _

theorem on_occupied_absent (named : path.contains '\x00' = false)
    (absent : world.files.occupied path = .ok false) : (World.occupied path).on world = (.ok false, world) := by
  rw [on_occupied named, absent]
  rfl

theorem on_readLossy (named : path.contains '\x00' = false) :
    (World.readLossy path).on world =
      (((world.files.read path).map textOf).mapError (.file · path), world) := by
  rw [World.readLossy, on_bind, on_atPath named]
  cases world.files.read path <;> rfl

theorem on_readText (named : path.contains '\x00' = false) :
    (World.readText path).on world = (match world.files.read path with
      | .error problem => .error (.file problem path)
      | .ok bytes =>
        match Utf8.decode? bytes with
        | none => .error .undecodable
        | some text => .ok (Text.plainBreaks text), world) := by
  rw [World.readText, on_bind, on_atPath named]
  cases world.files.read path with
  | error problem => rfl
  | ok bytes =>
    dsimp only [Except.mapError]
    cases Utf8.decode? bytes <;> rfl

end Looking

end CommandShell.Proofs.FileReads
