import CommandShell.Proofs.HomePaths
import Mathlib.Data.List.DropRight

/-! The current folder as it is shown, and the path that it is when it is typed back. -/

namespace CommandShell.Proofs.ShownFolders
open HomePaths

/-- A path with one slash for each run of slashes. -/
def squeeze : Text → Text
  | [] => []
  | c :: rest => if c = '/' ∧ rest.head? = some '/' then squeeze rest else c :: squeeze rest

private theorem squeeze_twice (front rest : Text) :
    squeeze (front ++ '/' :: '/' :: rest) = squeeze (front ++ '/' :: rest) := by
  induction front with
  | nil => exact if_pos ⟨rfl, rfl⟩
  | cons c front ih =>
    have head : (front ++ '/' :: '/' :: rest).head? = (front ++ '/' :: rest).head? := by
      rw [List.head?_append, List.head?_append]
      rfl
    rw [List.cons_append, List.cons_append, squeeze, squeeze, head, ih]

private theorem squeeze_slashes (front : Text) {slashes : Text} (all : ∀ c ∈ slashes, c = '/') (rest : Text) :
    squeeze (front ++ (slashes ++ '/' :: rest)) = squeeze (front ++ '/' :: rest) := by
  induction slashes with
  | nil => rfl
  | cons c slashes ih =>
    obtain ⟨rfl, others⟩ := List.forall_mem_cons.mp all
    rw [← ih others]
    cases slashes with
    | nil => exact squeeze_twice front rest
    | cons d slashes =>
      obtain rfl := others d List.mem_cons_self
      exact squeeze_twice front _

private theorem squeeze_end {front : Text} (ends : front.getLast? ≠ some '/') :
    squeeze (front ++ ['/']) = squeeze front ++ ['/'] := by
  induction front with
  | nil => rfl
  | cons c front ih =>
    cases front with
    | nil =>
      have other : c ≠ '/' := fun same => ends (congrArg some same)
      simp [squeeze, other]
    | cons d front =>
      rw [List.getLast?_cons_cons] at ends
      have head : (d :: front ++ ['/']).head? = (d :: front).head? := rfl
      rw [List.cons_append, squeeze, head, ih ends, squeeze.eq_2 c (d :: front)]
      split
      · rfl
      · rfl

def stripped (home : Text) : Text := home.rdropWhile (· = '/')

private theorem stripped_append (home : Text) :
    ∃ slashes, home = stripped home ++ slashes ∧ ∀ c ∈ slashes, c = '/' :=
  ⟨home.rtakeWhile (· = '/'), List.rdropWhile_append_rtakeWhile.symm,
    fun c inside => by simpa using List.mem_rtakeWhile_imp inside⟩

private theorem getLast?_stripped (home : Text) : (stripped home).getLast? ≠ some '/' := by
  intro found
  obtain ⟨filled, last⟩ := List.mem_getLast?_eq_getLast found
  have stops := List.rdropWhile_last_not (· = '/') home filled
  exact stops (decide_eq_true last.symm)

theorem stripped_eq_iff (home : Text) : stripped home = home ↔ home.getLast? ≠ some '/' := by
  refine ⟨fun same => same ▸ getLast?_stripped home, fun ends => ?_⟩
  refine List.rdropWhile_eq_self_iff.mpr fun filled slash => ends ?_
  rw [List.getLast?_eq_some_getLast filled, of_decide_eq_true slash]

structure Below (home current rest : Text) : Prop where
  named : stripped home ≠ []
  path : current = stripped home ++ rest
  ends : rest = [] ∨ rest.head? = some '/'

variable {session : Session} {world : World} {home : Text}

private theorem shownFolder_fault {fault : Fault} (unknown : session.home world = .error fault) :
    session.shownFolder world = .error fault := by
  rw [Session.shownFolder, unknown]
  rfl

private theorem shownFolder_eq (known : session.home world = .ok home) : session.shownFolder world =
    if (stripped home).isEmpty then .ok session.current
    else match Text.dropStart? (stripped home) session.current with
      | some [] => .ok ['~']
      | some ('/' :: rest) => .ok ('~' :: '/' :: rest)
      | _ => .ok session.current := by
  rw [Session.shownFolder, known]
  rfl

private theorem shownFolder_below (known : session.home world = .ok home) {rest : Text}
    (below : Below home session.current rest) : session.shownFolder world = .ok ('~' :: rest) := by
  obtain ⟨named, path, ends⟩ := below
  have left : Text.dropStart? (stripped home) session.current = some rest := Text.dropStart?_eq_some_iff.mpr path
  have filled : ¬ (stripped home).isEmpty = true := fun empty => named (List.isEmpty_iff.mp empty)
  rw [shownFolder_eq known, if_neg filled, left]
  rcases ends with rfl | slash
  · rfl
  · obtain ⟨tail, rfl⟩ := List.head?_eq_some_iff.mp slash
    rfl

private theorem shownFolder_away (known : session.home world = .ok home)
    (away : ∀ rest, ¬ Below home session.current rest) : session.shownFolder world = .ok session.current := by
  rw [shownFolder_eq known]
  split
  next => rfl
  next filled =>
    have named : stripped home ≠ [] := fun empty => filled (List.isEmpty_iff.mpr empty)
    split
    next left => exact absurd ⟨named, Text.dropStart?_eq_some_iff.mp left, .inl rfl⟩ (away [])
    next rest left => exact absurd ⟨named, Text.dropStart?_eq_some_iff.mp left, .inr rfl⟩ (away ('/' :: rest))
    next => rfl

/-- What is typed back has the slashes of the home folder in it. -/
theorem squeeze_expanded {rest : Text} (below : Below home session.current rest) :
    squeeze (home ++ rest) =
      if home.getLast? = some '/' ∧ session.current = stripped home then squeeze session.current ++ ['/']
      else squeeze session.current := by
  obtain ⟨slashes, whole, all⟩ := stripped_append home
  obtain ⟨-, path, ends⟩ := below
  rcases ends with rfl | slash
  · rw [List.append_nil] at path
    rw [path, List.append_nil]
    by_cases last : home.getLast? = some '/'
    · rw [if_pos ⟨last, rfl⟩, ← squeeze_end (getLast?_stripped home)]
      cases slashes using List.reverseRecOn with
      | nil =>
        rw [List.append_nil] at whole
        exact absurd last ((stripped_eq_iff home).mp whole.symm)
      | append_singleton slashes c =>
        obtain ⟨front, last⟩ := List.forall_mem_append.mp all
        obtain rfl : c = '/' := last c List.mem_cons_self
        conv_lhs => rw [whole]
        exact squeeze_slashes _ front []
    · rw [if_neg (fun both => last both.1), (stripped_eq_iff home).mpr last]
  · obtain ⟨tail, rfl⟩ := List.head?_eq_some_iff.mp slash
    have apart : ¬ (home.getLast? = some '/' ∧ session.current = stripped home) := by
      rintro ⟨-, same⟩
      rw [path] at same
      exact List.cons_ne_nil _ _ (List.append_right_eq_self.mp same)
    rw [if_neg apart, path]
    conv_lhs => rw [whole, List.append_assoc]
    exact squeeze_slashes _ all tail

section Absolute

variable (absolute : Path.isAbsolute session.current = true)

include absolute

private theorem expandPath_current : session.expandPath world session.current = .ok session.current := by
  have away : ¬ AtHome session.current := by
    rintro ⟨rest, tilde, -⟩
    rw [tilde] at absolute
    cases absolute
  rw [expandPath_away away, Path.join, if_pos absolute]

private theorem expandPath_shown (known : session.home world = .ok home) {rest : Text}
    (below : Below home session.current rest) : session.expandPath world ('~' :: rest) = .ok (home ++ rest) := by
  have rooted : Path.isAbsolute (home ++ rest) = true := by
    obtain ⟨slashes, whole, -⟩ := stripped_append home
    obtain ⟨c, front, start⟩ := List.exists_cons_of_ne_nil below.named
    have path := below.path
    rw [start] at whole path
    rw [path] at absolute
    rw [whole]
    exact absolute
  rw [expandPath_below below.ends known, Path.join, if_pos rooted]

end Absolute

/-- The current folder is shown with `~` for the home folder only where it is the home folder or lies below
it. What is shown is the current folder again when it is typed back, but for the slashes that the home folder
ends in: these are put in, and they are the end of the path where it is the home folder. Without a home
folder nothing is shown. -/
theorem shown_folder_expands (session : Session) (world : World)
    (absolute : Path.isAbsolute session.current = true) :
    (∀ fault, session.home world = .error fault → session.shownFolder world = .error fault) ∧
    ∀ home, session.home world = .ok home → ∃ shown path,
      session.shownFolder world = .ok shown ∧ session.expandPath world shown = .ok path ∧
      (squeeze path = if home.getLast? = some '/' ∧ session.current = stripped home
        then squeeze session.current ++ ['/'] else squeeze session.current) ∧
      (home.getLast? ≠ some '/' → path = session.current) ∧
      (∀ rest, shown = '~' :: rest ↔ Below home session.current rest) ∧
      ∀ c rest, c ≠ '/' → session.current = stripped home ++ c :: rest → shown = session.current := by
  refine ⟨fun _ => shownFolder_fault, fun home known => ?_⟩
  by_cases below : ∃ rest, Below home session.current rest
  · obtain ⟨rest, below⟩ := below
    refine ⟨_, _, shownFolder_below known below, expandPath_shown absolute known below,
      squeeze_expanded below, fun ends => ?_, fun other => ?_, fun c other apart path => ?_⟩
    · rw [below.path, (stripped_eq_iff home).mpr ends]
    · refine ⟨fun same => (List.cons.inj same).2 ▸ below, fun below' => ?_⟩
      rw [List.append_cancel_left (below.path.symm.trans below'.path)]
    · have same := List.append_cancel_left (below.path.symm.trans path)
      rcases below.ends with rfl | slash
      · cases same
      · rw [same] at slash
        exact absurd (Option.some.inj slash) apart
  · have away : ∀ rest, ¬ Below home session.current rest := not_exists.mp below
    refine ⟨_, _, shownFolder_away known away, expandPath_current absolute, ?_, fun _ => rfl,
      fun rest => ⟨fun tilde => ?_, fun below => absurd below (away rest)⟩, fun _ _ _ _ => rfl⟩
    · rw [if_neg]
      rintro ⟨-, same⟩
      refine away [] ⟨fun empty => ?_, by rw [List.append_nil, same], .inl rfl⟩
      rw [same, empty] at absolute
      cases absolute
    · rw [tilde] at absolute
      cases absolute

/-- A home folder with a slash at its end, and a folder beside it whose name goes on from its name. -/
theorem folders_beside_home :
    let session : Session := { atHome "/home/u/" with current := "/home/u/src" }
    let beside : Session := { atHome "/home/u" with current := "/home/user" }
    (session.shownFolder {} = .ok "~/src" ∧ ∃ path, session.expandPath {} "~/src" = .ok path ∧
      squeeze path = squeeze "/home/u/src") ∧
    ∃ shown, beside.shownFolder {} = .ok shown ∧ beside.expandPath {} shown = .ok "/home/user" := by
  intro session beside
  constructor
  · obtain ⟨shown, path, drawn, typed, same, -⟩ :=
      (shown_folder_expands session {} (by decide)).2 "/home/u/" rfl
    obtain rfl : "~/src" = shown := Except.ok.inj drawn
    exact ⟨rfl, path, typed, same⟩
  · obtain ⟨shown, path, drawn, typed, -, exact_path, -⟩ :=
      (shown_folder_expands beside {} (by decide)).2 "/home/u" rfl
    rw [exact_path (by decide)] at typed
    exact ⟨shown, drawn, typed⟩

/-- The home folder itself is typed back with a slash at its end that the current folder has not, and without
a home folder none is shown. -/
theorem home_gains_slash :
    let session : Session := { atHome "/home/u/" with current := "/home/u" }
    let homeless : Session := { bareShell.session with current := "/w" }
    (session.shownFolder {} = .ok ['~'] ∧ session.expandPath {} ['~'] = .ok "/home/u/" ∧
      squeeze "/home/u/" ≠ squeeze "/home/u") ∧
    homeless.shownFolder {} = .error (.program "Could not determine home directory.") := by
  intro session homeless
  exact ⟨⟨rfl, rfl, by decide⟩, rfl⟩

end CommandShell.Proofs.ShownFolders
