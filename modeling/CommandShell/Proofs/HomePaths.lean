import Mathlib.Data.List.TakeWhile
import CommandShell.Proofs.Frames
import CommandShell.Proofs.TextLines

/-! Three readings of a typed path: by the session for `cd`, by the highlighting, and by the completion
for the folder in front of the last slash. They differ in what they take for a path at the home folder
and in which home folder that is. -/

namespace CommandShell.Proofs.HomePaths
open Completion

/-- Both start at the root or neither does, and their parts are the same: repeated slashes and parts
that stay in a folder do not count. -/
structure SamePath (path other : Text) : Prop where
  absolute : Path.isAbsolute path = Path.isAbsolute other
  parts : Path.partsOf path = Path.partsOf other

theorem SamePath.refl (path : Text) : SamePath path path := ⟨rfl, rfl⟩

theorem partsOf_slash (front rest : Text) :
    Path.partsOf (front ++ '/' :: rest) = Path.partsOf front ++ Path.partsOf rest := by
  rw [Path.partsOf, Path.partsOf, Path.partsOf, Text.splitOn, Text.splitOn, Text.splitOn,
    List.splitOn_append_cons_self, List.filter_append]

theorem partsOf_root (path : Text) : Path.partsOf ('/' :: path) = Path.partsOf path :=
  partsOf_slash [] path

private theorem isAbsolute_append {path : Text} (filled : path ≠ []) (rest : Text) :
    Path.isAbsolute (path ++ rest) = Path.isAbsolute path := by
  cases path with
  | nil => exact absurd rfl filled
  | cons c path => rfl

theorem SamePath.append {path other : Text} (same : SamePath path other) (filled : path ≠ [])
    (filled' : other ≠ []) {rest : Text} (ends : rest = [] ∨ rest.head? = some '/') :
    SamePath (path ++ rest) (other ++ rest) := by
  refine ⟨by rw [isAbsolute_append filled, isAbsolute_append filled', same.absolute], ?_⟩
  rcases ends with rfl | slash
  · rw [List.append_nil, List.append_nil, same.parts]
  · obtain ⟨tail, rfl⟩ := List.head?_eq_some_iff.mp slash
    rw [partsOf_slash, partsOf_slash, same.parts]

/-- Parts that a slash separates are, for a path behind another one, those of the two. -/
theorem parts_join {α : Type} {parts : Text → List α}
    (slash : ∀ front rest, parts (front ++ '/' :: rest) = parts front ++ parts rest) (empty : parts [] = [])
    {path : Text} (relative : ¬ Path.isAbsolute path = true) (base : Text) :
    parts (Path.join base path) = parts base ++ parts path := by
  rw [Path.join, if_neg relative]
  split
  next ends =>
    rcases List.eq_nil_or_concat base with rfl | ⟨front, last, rfl⟩
    · rw [empty]
      rfl
    · -- The slash at the end of the base parts the two.
      obtain rfl : last = '/' := by simpa using ends
      rw [List.concat_eq_append, List.append_assoc, List.singleton_append, slash, slash, empty,
        List.append_nil]
  next => exact slash base path

theorem partsOf_join (base path : Text) :
    Path.partsOf (Path.join base path) =
      if Path.isAbsolute path then Path.partsOf path else Path.partsOf base ++ Path.partsOf path := by
  split
  next whole => rw [Path.join, if_pos whole]
  next relative => exact parts_join partsOf_slash rfl relative base

theorem isAbsolute_join (base path : Text) :
    Path.isAbsolute (Path.join base path) = (Path.isAbsolute path || Path.isAbsolute base) := by
  unfold Path.join
  split
  next whole => rw [whole, Bool.true_or]
  next relative =>
    rw [Bool.eq_false_iff.mpr relative, Bool.false_or]
    cases base with
    | nil => exact Bool.eq_false_iff.mpr relative
    | cons c base => split <;> rfl

theorem SamePath.join {path other : Text} (same : SamePath path other) (base : Text) :
    SamePath (Path.join base path) (Path.join base other) := by
  refine ⟨?_, ?_⟩
  · rw [isAbsolute_join, isAbsolute_join, same.absolute]
  · rw [partsOf_join, partsOf_join, same.absolute, same.parts]

theorem isAbsolute_iff_rootOf (path : Text) : Path.isAbsolute path = !(Path.rootOf path).isEmpty := by
  cases path with
  | nil => rfl
  | cons c path =>
    unfold Path.rootOf Path.isAbsolute
    by_cases slash : c = '/'
    · subst slash
      rw [List.takeWhile_cons_of_pos (by decide)]
      split <;> simp_all
    · rw [List.takeWhile_cons_of_neg (by simpa using slash)]
      simpa using slash

private theorem rootOf_relative {path : Text} (relative : Path.isAbsolute path = false) :
    Path.rootOf path = [] := by
  rw [isAbsolute_iff_rootOf] at relative
  simpa using relative

private theorem rootOf_append {front rest : Text} (ends : rest.head? ≠ some '/') :
    Path.rootOf (front ++ rest) = Path.rootOf front := by
  have stops : rest.takeWhile (· = '/') = [] := by
    cases rest with
    | nil => rfl
    | cons c rest => exact List.takeWhile_cons_of_neg (by simpa using ends)
  have slashes : (front ++ rest).takeWhile (· = '/') = front.takeWhile (· = '/') := by
    rw [List.takeWhile_append, stops, List.append_nil, ite_eq_right_iff]
    exact fun whole => ((List.takeWhile_prefix (· = '/')).eq_of_length whole).symm
  rw [Path.rootOf, Path.rootOf, slashes]

private theorem rootOf_slash {front : Text} (filled : front ≠ []) (ends : front.getLast? ≠ some '/')
    (rest : Text) :
    Path.rootOf (front ++ '/' :: rest) = Path.rootOf front := by
  have stops : (front.takeWhile (· = '/')).length ≠ front.length := by
    intro whole
    have same := (List.takeWhile_prefix (· = '/')).eq_of_length whole
    have slash : ∀ c ∈ front, c = '/' := by simpa using List.takeWhile_eq_self_iff.mp same
    exact ends (by rw [List.getLast?_eq_some_getLast filled, slash _ (List.getLast_mem filled)])
  rw [Path.rootOf, Path.rootOf, List.takeWhile_append, if_neg stops]

private theorem ofText_join (base path : Text) :
    Path.ofText (Path.join base path) = (Path.ofText base).append (Path.ofText path) := by
  unfold Path.append
  cases absolute : Path.isAbsolute path with
  | true =>
    have rooted : (Path.ofText path).root.isEmpty = false := by
      have root := isAbsolute_iff_rootOf path
      rw [absolute] at root
      simpa [Path.ofText] using root.symm
    rw [Path.join, absolute, rooted]
    rfl
  | false =>
    have rootless : (Path.ofText path).root = [] := rootOf_relative absolute
    have parts := partsOf_join base path
    rw [absolute] at parts
    have start : path.head? ≠ some '/' := by simpa [Path.isAbsolute] using absolute
    have root : Path.rootOf (Path.join base path) = Path.rootOf base := by
      rw [Path.join, absolute]
      simp only [Bool.false_eq_true, if_false]
      split
      next => exact rootOf_append start
      next ends =>
        simp only [Bool.or_eq_true, List.isEmpty_iff, decide_eq_true_eq, not_or] at ends
        exact rootOf_slash ends.1 ends.2 path
    rw [rootless, Path.ofText, root, parts]
    rfl

private theorem partsOf_joined {parts : List Text}
    (clean : ∀ part ∈ parts, part ≠ [] ∧ part ≠ ['.'] ∧ '/' ∉ part) :
    Path.partsOf (Text.join "/" parts) = parts := by
  unfold Path.partsOf Text.splitOn Text.join
  by_cases none : parts = []
  · subst none
    rfl
  · rw [show ("/" : String).toList = ['/'] from rfl,
      List.splitOn_intercalate '/' (fun part inside => (clean part inside).2.2) none, List.filter_eq_self]
    intro part inside
    simp [(clean part inside).1, (clean part inside).2.1]

private theorem clean_partsOf (path : Text) {part : Text} (inside : part ∈ Path.partsOf path) :
    part ≠ [] ∧ part ≠ ['.'] ∧ '/' ∉ part := by
  obtain ⟨piece, kept⟩ := List.mem_filter.mp inside
  simp only [Bool.and_eq_true, Bool.not_eq_true', decide_eq_true_eq] at kept
  exact ⟨List.isEmpty_eq_false_iff.mp kept.1, kept.2, TextLines.notMem_splitOn piece⟩

private theorem rootOf_cases (path : Text) :
    Path.rootOf path = [] ∨ Path.rootOf path = ['/'] ∨ Path.rootOf path = ['/', '/'] := by
  unfold Path.rootOf
  split
  next => exact .inl rfl
  next => exact .inr (.inr rfl)
  next => exact .inr (.inl rfl)

theorem samePath_text (path : Text) : SamePath (Path.ofText path).text path := by
  have clean := @clean_partsOf path
  have joined := partsOf_joined fun part inside => @clean part inside
  have absolute := isAbsolute_iff_rootOf path
  unfold Path.text Path.ofText
  rcases rootOf_cases path with root | root | root
  · rw [root] at absolute ⊢
    cases parts : Path.partsOf path with
    | nil => exact ⟨absolute.symm, parts.symm⟩
    | cons part rest =>
      -- A part is not empty and does not start with a slash.
      rw [parts] at clean joined
      obtain ⟨filled, -, slash⟩ := clean List.mem_cons_self
      obtain ⟨c, part, rfl⟩ := List.exists_cons_of_ne_nil filled
      refine ⟨?_, joined.trans parts.symm⟩
      change Path.isAbsolute (Text.join "/" ((c :: part) :: rest)) = _
      rw [absolute, Text.join, List.intercalate_cons_cons_left]
      exact decide_eq_false fun same => slash (List.mem_cons.mpr (.inl (Option.some.inj same).symm))
  · rw [root] at absolute ⊢
    exact ⟨absolute.symm, (partsOf_root _).trans joined⟩
  · rw [root] at absolute ⊢
    exact ⟨absolute.symm, (partsOf_root _).trans ((partsOf_root _).trans joined)⟩

private theorem text_filled (path : Text) : (Path.ofText path).text ≠ [] := by
  intro empty
  have same := samePath_text path
  rw [empty] at same
  have root : Path.rootOf path = [] := rootOf_relative same.absolute.symm
  have parts : Path.partsOf path = [] := same.parts.symm
  rw [Path.ofText, root, parts] at empty
  exact List.cons_ne_nil '.' [] empty

/-- A path that starts at the home folder: `~` alone or in front of a slash. -/
def AtHome (path : Text) : Prop := ∃ rest, path = '~' :: rest ∧ (rest = [] ∨ rest.head? = some '/')

def HomeSet (session : Session) : Prop := ∃ c home, session.environment.get? "HOME" = some (c :: home)

variable {session : Session} {world : World}

theorem expandPath_away {path : Text} (away : ¬ AtHome path) :
    session.expandPath world path = .ok (Path.join session.current path) := by
  unfold Session.expandPath
  split
  next => exact absurd ⟨[], rfl, .inl rfl⟩ away
  next rest => exact absurd ⟨'/' :: rest, rfl, .inr rfl⟩ away
  next => rfl

theorem expandPath_below {rest home : Text} (ends : rest = [] ∨ rest.head? = some '/')
    (known : session.home world = .ok home) :
    session.expandPath world ('~' :: rest) = .ok (Path.join session.current (home ++ rest)) := by
  rcases ends with rfl | slash
  · rw [List.append_nil, Session.expandPath, known]
    rfl
  · obtain ⟨tail, rfl⟩ := List.head?_eq_some_iff.mp slash
    rw [Session.expandPath, known]
    rfl

private theorem home_set {c : Char} {home : Text} (set : session.environment.get? "HOME" = some (c :: home)) :
    session.home world = .ok (c :: home) := by
  rw [Session.home, set]

def around (session : Session) (world : World) : Surroundings :=
  ⟨world, session.environment, session.current⟩

private theorem pathOf_away {path : Text} (away : ¬ AtHome path) :
    (around session world).pathOf path = Path.join session.current path := by
  unfold Surroundings.pathOf
  split
  next => exact absurd ⟨[], rfl, .inl rfl⟩ away
  next rest => exact absurd ⟨'/' :: rest, rfl, .inr rfl⟩ away
  next => rfl

private theorem pathOf_below {rest home : Text} (ends : rest = [] ∨ rest.head? = some '/')
    (known : ((session.environment.get? "HOME").orElse fun () => world.homeText?) = some home) :
    (around session world).pathOf ('~' :: rest) = Path.join session.current (home ++ rest) := by
  unfold Surroundings.pathOf around
  rw [known]
  rcases ends with rfl | slash
  · rw [List.append_nil]
    rfl
  · obtain ⟨tail, rfl⟩ := List.head?_eq_some_iff.mp slash
    rfl

private theorem homeText?_filled {home : Text} (known : world.homeText? = some home) : home ≠ [] := by
  unfold World.homeText? at known
  obtain ⟨text, -, rfl⟩ := Option.map_eq_some_iff.mp known
  dsimp only
  split
  next => exact List.cons_ne_nil '/' []
  next filled => exact fun empty => filled (List.isEmpty_iff.mpr empty)

/-- A word that the highlighting looks up names what the session takes it for. -/
theorem pathOf_expanded {word : Text}
    (known : AtHome word → HomeSet session ∨
      session.environment.get? "HOME" = none ∧ world.homeText?.isSome = true) :
    ∃ path, session.expandPath world word = .ok path ∧ SamePath ((around session world).pathOf word) path := by
  by_cases below : AtHome word
  · obtain ⟨rest, rfl, ends⟩ := below
    obtain ⟨c, home, set⟩ | ⟨unset, home⟩ := known ⟨rest, rfl, ends⟩
    · refine ⟨_, expandPath_below ends (home_set set), ?_⟩
      rw [pathOf_below ends (by rw [set]; rfl)]
      exact .refl _
    · obtain ⟨home, found⟩ := Option.isSome_iff_exists.mp home
      have place : session.home world = .ok (Path.ofText home).text := by rw [Session.home, unset, found]
      refine ⟨_, expandPath_below ends place, ?_⟩
      rw [pathOf_below ends (by rw [unset]; exact found)]
      have same : SamePath home (Path.ofText home).text :=
        ⟨(samePath_text home).absolute.symm, (samePath_text home).parts.symm⟩
      exact (same.append (homeText?_filled found) (text_filled home) ends).join session.current
  · refine ⟨_, expandPath_away below, ?_⟩
    rw [pathOf_away below]
    exact .refl _

private theorem cutAtSlash_eq {lead front : Text} (bare : '/' ∉ front) :
    cutAtSlash (lead ++ '/' :: front) = (lead ++ ['/'], front) := by
  have stops : ∀ c ∈ front.reverse, decide (c ≠ '/') = true := by
    intro c inside
    have other : c ≠ '/' := fun same => bare (same ▸ List.mem_reverse.mp inside)
    simpa using other
  unfold cutAtSlash
  rw [List.reverse_append, List.reverse_cons, List.append_assoc,
    List.dropWhile_append_of_pos stops, List.takeWhile_append_of_pos stops]
  simp

private theorem folderOf_expanded {lead : Text}
    (known : lead.head? = some '~' → (AtHome lead ↔ HomeSet session)) :
    ∃ path, session.expandPath world lead = .ok path ∧
      folderOf lead session.current (session.environment.get? "HOME") = Path.ofText path := by
  by_cases below : AtHome lead
  · obtain ⟨rest, rfl, ends⟩ := below
    obtain ⟨c, home, set⟩ := (known rfl).mp ⟨rest, rfl, ends⟩
    refine ⟨_, expandPath_below ends (home_set set), ?_⟩
    rw [set, folderOf, ofText_join]
  · refine ⟨_, expandPath_away below, ?_⟩
    have kept : ∀ rest c home, lead = '~' :: rest →
        session.environment.get? "HOME" = some (c :: home) → False := by
      rintro rest c home rfl set
      exact below ((known rfl).mpr ⟨c, home, set⟩)
    rw [ofText_join, folderOf]
    exact kept

/-- The completion of a word with a slash lists the folder that the session takes the word up to its
last slash for. -/
theorem paths_expanded {lead front : Text} (bare : '/' ∉ front)
    (known : (lead ++ ['/']).head? = some '~' → (AtHome (lead ++ ['/']) ↔ HomeSet session)) (files : Files) :
    ∃ path, session.expandPath world (lead ++ ['/']) = .ok path ∧
      paths files (lead ++ '/' :: front) session.current (session.environment.get? "HOME") =
        inFolder files (Path.ofText path) front (lead ++ ['/']) := by
  obtain ⟨path, expanded, folder⟩ := @folderOf_expanded _ world _ known
  refine ⟨path, expanded, ?_⟩
  rw [← folder, paths, cutAtSlash_eq bare]
  split
  next same => simp at same
  next same =>
    obtain ⟨rfl, rfl⟩ := Prod.mk.inj same
    rfl

/-- The three readings of a word agree, where the highlighting and the completion know the home folder
that the session would take: a home folder that is set and not empty, and for the highlighting also the
one of the process where none is set. The completion takes every word that starts with a tilde for one
at the home folder, so without a slash behind the tilde it needs that none is set. -/
theorem readings_agree (session : Session) (world : World) :
    (∀ word, (AtHome word → HomeSet session ∨
        session.environment.get? "HOME" = none ∧ world.homeText?.isSome = true) →
      ∃ path, session.expandPath world word = .ok path ∧ SamePath ((around session world).pathOf word) path) ∧
    ∀ lead front, '/' ∉ front →
      ((lead ++ ['/']).head? = some '~' → (AtHome (lead ++ ['/']) ↔ HomeSet session)) →
      ∃ path, session.expandPath world (lead ++ ['/']) = .ok path ∧
        paths world.files (lead ++ '/' :: front) session.current (session.environment.get? "HOME") =
          inFolder world.files (Path.ofText path) front (lead ++ ['/']) :=
  ⟨fun _ known => pathOf_expanded known, fun _ _ bare known => paths_expanded bare known world.files⟩

def atHome (home : Text) : Session := { bareShell.session with environment := [("HOME", home)], current := "/w" }

/-- The home folder of the process for the highlighting, and for the completion one that ends in a slash
and has a dot in it. -/
theorem readings_below_home :
    let world : World := { environment := [("HOME", "/h")] }
    let unset : Session := { bareShell.session with current := "/w" }
    (∃ path, unset.expandPath world "~/x" = .ok path ∧ SamePath ((around unset world).pathOf "~/x") path) ∧
    ∃ path, (atHome "/h/./").expandPath world "~/" = .ok path ∧
      paths world.files "~/x" "/w" (some "/h/./") = inFolder world.files (Path.ofText path) "x" "~/" := by
  intro world unset
  have set : HomeSet (atHome "/h/./") := ⟨'/', "h/./", rfl⟩
  exact ⟨(readings_agree unset world).1 "~/x" fun _ => .inr ⟨rfl, rfl⟩,
    (readings_agree (atHome "/h/./") world).2 "~" "x" (by decide)
      fun _ => ⟨fun _ => set, fun _ => ⟨"/", rfl, .inr rfl⟩⟩⟩

/-- In front of `~2/` the completion puts the home folder, where `cd` enters the folder of that name; an
empty home folder is the root for the highlighting only; and without a home folder of its own the
completion takes `~/` for a folder named with the tilde. -/
theorem readings_differ :
    let files : Files :=
      { nodes := [(["w"], .folder false), (["w", "~2"], .folder false), (["w", "~2", "inner"], .file [] .plain)] }
    let world : World := { files, environment := [("HOME", "/h")] }
    let unset : Session := { bareShell.session with current := "/w" }
    ((atHome "/h").expandPath world "~2/" = .ok "/w/~2/" ∧
      paths files "~2/" "/w" (some "/h") = .ok [] ∧
      inFolder files (Path.ofText "/w/~2/") [] "~2/" = .ok [⟨"inner", "~2/inner", some "File"⟩]) ∧
    ((atHome []).expandPath world "~/x" = .ok "/h/x" ∧ (around (atHome []) world).pathOf "~/x" = "/x") ∧
    unset.expandPath world "~/" = .ok "/h/" ∧ folderOf "~/" "/w" none = Path.ofText "/w/~/" := by
  refine ⟨⟨?_, ?_, ?_⟩, ⟨?_, ?_⟩, ?_, ?_⟩
  · rfl
  · decide +kernel
  · decide +kernel
  · rfl
  · decide
  · rfl
  · decide

end CommandShell.Proofs.HomePaths
