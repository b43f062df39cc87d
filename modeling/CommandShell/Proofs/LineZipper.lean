import CommandShell.LineBuffer
import Mathlib.Data.List.DropRight

/-! The line being edited as a zipper: the text before the cursor and the text behind it. Each edit of
the line changes the two texts and nothing else, and no offset is needed to say how. -/

namespace CommandShell.Proofs.LineZipper

inductive Edit
  | set (text : Text) (cursor : Option Int)
  | reset
  | insert (chars : Text)
  | deleteBack
  | deleteForward
  | replaceBefore (length : Nat) (replacement : Text)
  | moveLeft
  | moveRight
  | moveHome
  | moveEnd
  | killWord
  | killLine
  | killToEnd

/-- What an edit does to a text with a cursor. A text is put in with the cursor at its end unless the
cursor is given. -/
def Edit.apply : Edit → LineBuffer → LineBuffer
  | set text none, _ => .ofText text
  | set text (some cursor), _ => .place text cursor
  | reset, _ => {}
  | insert chars, buffer => buffer.insert chars
  | deleteBack, buffer => buffer.deleteBack
  | deleteForward, buffer => buffer.deleteForward
  | replaceBefore length replacement, buffer => buffer.replaceBefore length replacement
  | moveLeft, buffer => buffer.moveLeft
  | moveRight, buffer => buffer.moveRight
  | moveHome, buffer => buffer.moveHome
  | moveEnd, buffer => buffer.moveEnd
  | killWord, buffer => buffer.killWord
  | killLine, buffer => buffer.killLine
  | killToEnd, buffer => buffer.killToEnd

/-- The text before a place and the text behind it. -/
structure Zipper where
  before : Text
  after : Text
  deriving DecidableEq, Repr

namespace Zipper

def cut (text : Text) (offset : Nat) : Zipper := ⟨text.take offset, text.drop offset⟩

/-- An offset, or the nearest end of a text when the offset lies outside. -/
def clamp (text : Text) (offset : Int) : Nat := (max 0 (min offset text.length)).toNat

/-- The text before the place without the spaces at its end, and then without the word there. -/
def wordKilled (before : Text) : Text := (before.rdropWhile (· == ' ')).rdropWhile (· != ' ')

def apply (zipper : Zipper) : Edit → Zipper
  | .set text none => ⟨text, []⟩
  | .set text (some cursor) => cut text (clamp text cursor)
  | .reset | .killLine => ⟨[], []⟩
  | .insert chars => { zipper with before := zipper.before ++ chars }
  | .deleteBack => { zipper with before := zipper.before.dropLast }
  | .deleteForward => { zipper with after := zipper.after.tail }
  | .replaceBefore length replacement =>
    { zipper with
      before := zipper.before.rdrop (min length zipper.before.length) ++ replacement }
  | .moveLeft => ⟨zipper.before.dropLast, zipper.before.getLast?.toList ++ zipper.after⟩
  | .moveRight => ⟨zipper.before ++ zipper.after.head?.toList, zipper.after.tail⟩
  | .moveHome => ⟨[], zipper.before ++ zipper.after⟩
  | .moveEnd => ⟨zipper.before ++ zipper.after, []⟩
  | .killWord => { zipper with before := wordKilled zipper.before }
  | .killToEnd => { zipper with after := [] }

def buffer (zipper : Zipper) : LineBuffer := ⟨zipper.before ++ zipper.after, zipper.before.length⟩

section Views
variable (zipper : Zipper)

@[simp] theorem text_buffer : zipper.buffer.text = zipper.before ++ zipper.after := rfl

@[simp] theorem cursor_buffer : zipper.buffer.cursor = zipper.before.length := rfl

@[simp] theorem before_buffer : zipper.buffer.before = zipper.before := List.take_left

@[simp] theorem after_buffer : zipper.buffer.after = zipper.after := List.drop_left

end Views

private theorem buffer_cut {text : Text} {offset : Nat} (inside : offset ≤ text.length) :
    (cut text offset).buffer = ⟨text, offset⟩ := by
  rw [buffer, cut, List.take_append_drop, List.length_take_of_le inside]

/-- What is killed are the spaces at the end and the word before them, each as far as it goes. -/
theorem wordKilled_longest (before : Text) : ∃ word spaces,
    before = wordKilled before ++ word ++ spaces ∧
    (∀ c ∈ spaces, c = ' ') ∧ (∀ c ∈ (wordKilled before ++ word).getLast?, c ≠ ' ') ∧
    (∀ c ∈ word, c ≠ ' ') ∧ ∀ c ∈ (wordKilled before).getLast?, c = ' ' := by
  have last (p : Char → Bool) (text : Text) : ∀ c ∈ (text.rdropWhile p).getLast?, ¬ p c = true := by
    intro c found
    obtain ⟨filled, rfl⟩ := List.mem_getLast?_eq_getLast found
    exact List.rdropWhile_last_not p text filled
  let unspaced := before.rdropWhile (· == ' ')
  have front : wordKilled before ++ unspaced.rtakeWhile (· != ' ') = unspaced :=
    List.rdropWhile_append_rtakeWhile
  refine ⟨unspaced.rtakeWhile (· != ' '), before.rtakeWhile (· == ' '), ?_, ?_, ?_, ?_, ?_⟩
  · rw [front]
    exact List.rdropWhile_append_rtakeWhile.symm
  · exact fun c inside => by simpa using List.mem_rtakeWhile_imp inside
  · rw [front]
    exact fun c found => by simpa using last _ before c found
  · exact fun c inside => by simpa using List.mem_rtakeWhile_imp inside
  · exact fun c found => by simpa using last _ unspaced c found

private theorem clamp_eq (text : Text) (offset : Int) : clamp text offset = min offset.toNat text.length := by
  unfold clamp
  omega

end Zipper

open Zipper

section Steps
variable (zipper : Zipper)

private theorem buffer_set (text : Text) (cursor : Option Int) :
    (Edit.set text cursor).apply zipper.buffer = (zipper.apply (.set text cursor)).buffer := by
  cases cursor with
  | none => simp [Edit.apply, Zipper.apply, buffer, LineBuffer.ofText]
  | some cursor =>
    have inside : clamp text cursor ≤ text.length := by
      rw [clamp_eq]
      exact Nat.min_le_right _ _
    rw [Zipper.apply, buffer_cut inside, clamp_eq]
    rfl

private theorem buffer_insert (chars : Text) :
    zipper.buffer.insert chars = (zipper.apply (.insert chars)).buffer := by
  rw [LineBuffer.insert, before_buffer, after_buffer]
  simp [Zipper.apply, buffer]

private theorem buffer_deleteBack : zipper.buffer.deleteBack = (zipper.apply .deleteBack).buffer := by
  obtain ⟨before, after⟩ := zipper
  cases before using List.reverseRecOn with
  | nil => rfl
  | append_singleton before c _ =>
    rw [LineBuffer.deleteBack, after_buffer]
    simp [Zipper.apply, buffer]

private theorem buffer_deleteForward :
    zipper.buffer.deleteForward = (zipper.apply .deleteForward).buffer := by
  obtain ⟨before, after⟩ := zipper
  rw [LineBuffer.deleteForward, before_buffer]
  cases after with
  | nil => simp [Zipper.apply, buffer]
  | cons c after => simp [Zipper.apply, buffer, List.drop_append]

private theorem buffer_replaceBefore (length : Nat) (replacement : Text) :
    zipper.buffer.replaceBefore length replacement =
      (zipper.apply (.replaceBefore length replacement)).buffer := by
  have start : ((zipper.before.length : Int) - length).toNat =
      zipper.before.length - min length zipper.before.length := by omega
  have inside := Nat.sub_le zipper.before.length (min length zipper.before.length)
  rw [LineBuffer.replaceBefore, after_buffer, cursor_buffer, start, text_buffer,
    List.take_append_of_le_length inside]
  simp [Zipper.apply, buffer, List.rdrop]

private theorem buffer_moveLeft : zipper.buffer.moveLeft = (zipper.apply .moveLeft).buffer := by
  obtain ⟨before, after⟩ := zipper
  cases before using List.reverseRecOn with
  | nil => rfl
  | append_singleton before c _ => simp [LineBuffer.moveLeft, Zipper.apply, buffer]

private theorem buffer_moveRight : zipper.buffer.moveRight = (zipper.apply .moveRight).buffer := by
  obtain ⟨before, after⟩ := zipper
  cases after with
  | nil => simp [LineBuffer.moveRight, Zipper.apply, buffer]
  | cons c after => simp [LineBuffer.moveRight, Zipper.apply, buffer]

private theorem buffer_killWord : zipper.buffer.killWord = (zipper.apply .killWord).buffer := by
  rw [LineBuffer.killWord, before_buffer, after_buffer]
  simp [Zipper.apply, buffer, wordKilled, List.rdropWhile]

private theorem buffer_killToEnd : zipper.buffer.killToEnd = (zipper.apply .killToEnd).buffer := by
  rw [LineBuffer.killToEnd, before_buffer]
  simp [Zipper.apply, buffer]

private theorem buffer_apply (edit : Edit) : edit.apply zipper.buffer = (zipper.apply edit).buffer := by
  cases edit with
  | set text cursor => exact buffer_set zipper text cursor
  | reset | killLine | moveHome => rfl
  | insert chars => exact buffer_insert zipper chars
  | deleteBack => exact buffer_deleteBack zipper
  | deleteForward => exact buffer_deleteForward zipper
  | replaceBefore length replacement => exact buffer_replaceBefore zipper length replacement
  | moveLeft => exact buffer_moveLeft zipper
  | moveRight => exact buffer_moveRight zipper
  | moveEnd => simp [Edit.apply, Zipper.apply, LineBuffer.moveEnd, buffer]
  | killWord => exact buffer_killWord zipper
  | killToEnd => exact buffer_killToEnd zipper

private theorem buffer_run (edits : List Edit) :
    edits.foldl (fun buffer edit => edit.apply buffer) zipper.buffer =
      (edits.foldl Zipper.apply zipper).buffer := by
  induction edits generalizing zipper with
  | nil => rfl
  | cons edit edits ih => rw [List.foldl_cons, List.foldl_cons, buffer_apply, ih]

end Steps

/-- Whatever is done to a line, the cursor stays in it, and the texts before and behind the cursor are
those that the zipper has after the same edits. Killing a word then takes the longest run of spaces
before the cursor and the longest word before them. -/
theorem edits_move_zipper (text : Text) (edits : List Edit) :
    let buffer := edits.foldl (fun buffer edit => edit.apply buffer) (LineBuffer.ofText text)
    let zipper := edits.foldl Zipper.apply ⟨text, []⟩
    buffer.cursor ≤ buffer.text.length ∧
      buffer.text.take buffer.cursor = zipper.before ∧
      buffer.text.drop buffer.cursor = zipper.after ∧
      ∃ word spaces, zipper.before = wordKilled zipper.before ++ word ++ spaces ∧
        (∀ c ∈ spaces, c = ' ') ∧ (∀ c ∈ (wordKilled zipper.before ++ word).getLast?, c ≠ ' ') ∧
        (∀ c ∈ word, c ≠ ' ') ∧ ∀ c ∈ (wordKilled zipper.before).getLast?, c = ' ' := by
  intro buffer zipper
  have start : LineBuffer.ofText text = Zipper.buffer ⟨text, []⟩ := by
    simp [LineBuffer.ofText, Zipper.buffer]
  have same : buffer = zipper.buffer := by
    unfold buffer
    rw [start, buffer_run]
  rw [same]
  refine ⟨?_, zipper.before_buffer, zipper.after_buffer, wordKilled_longest _⟩
  simp

end CommandShell.Proofs.LineZipper
