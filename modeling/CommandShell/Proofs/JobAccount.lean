import CommandShell.Job
import CommandShell.Proofs.ScanSteps

/-! Where the tokens of a line go. An account is a job with every token still in its place: the
words and signs that made it, the separators, and what was reported. This is proof data only; the
reader builds the job without it. -/

namespace CommandShell.Proofs.JobAccount

/-- What became of a token. The program of a command counts as its first argument. -/
inductive Role
  | argument
  | target
  | redirect
  | link
  | background
  | separator
  | reported (misfit : Misfit)
  deriving DecidableEq

structure Place where
  token : Token
  role : Role
  deriving DecidableEq

namespace Place

def diagnostics (place : Place) : List Diagnostic :=
  match place.role with
  | .reported misfit => [⟨misfit, place.token.start⟩]
  | _ => []

def arguments (place : Place) : List Text :=
  if place.role = .argument then [Word.meaning place.token.text] else []

def targets (place : Place) : List Text :=
  if place.role = .target then [Word.meaning place.token.text] else []

def modes (place : Place) : List RedirectMode :=
  if place.role = .redirect then (RedirectMode.ofKind? place.token.kind).toList else []

end Place

def tokens (places : List Place) : List Token := places.map Place.token

def diagnostics (places : List Place) : List Diagnostic := places.flatMap Place.diagnostics

/-- A piece of a command behind its program. A redirect sign that is not followed by a word is
stray. -/
inductive Part
  | argument (word : Token) (is_word : word.kind = .word)
  | redirect (sign target : Token) (mode : RedirectMode)
      (names : RedirectMode.ofKind? sign.kind = some mode) (is_word : target.kind = .word)
  | stray (sign : Token) (redirects : sign.kind.isRedirect = true)

namespace Part

def places : Part → List Place
  | argument word _ => [⟨word, .argument⟩]
  | redirect sign target _ _ _ => [⟨sign, .redirect⟩, ⟨target, .target⟩]
  | stray sign _ => [⟨sign, .reported (.missingName sign.text)⟩]

def arguments : Part → List Text
  | argument word _ => [Word.meaning word.text]
  | _ => []

def redirects : Part → List Redirect
  | redirect _ target mode _ _ => [⟨mode, Word.meaning target.text⟩]
  | _ => []

end Part

structure Stage where
  program : Token
  is_word : program.kind = .word
  parts : List Part

namespace Stage

def places (stage : Stage) : List Place :=
  ⟨stage.program, .argument⟩ :: stage.parts.flatMap Part.places

def command (stage : Stage) : Command :=
  ⟨Word.meaning stage.program.text, stage.parts.flatMap Part.arguments,
    stage.parts.flatMap Part.redirects⟩

end Stage

structure Link where
  pipe : Token
  is_pipe : pipe.kind = .pipe
  stage : Stage

def Link.places (link : Link) : List Place := ⟨link.pipe, .link⟩ :: link.stage.places

/-- The tokens of one pipeline, with the pipe that no command follows and the background sign. -/
structure Chain where
  head : Stage
  links : List Link
  stray : Option { pipe : Token // pipe.kind = .pipe }
  background : Option { sign : Token // sign.kind = .background }

namespace Chain

def strayPlaces (stray : Option { pipe : Token // pipe.kind = .pipe }) : List Place :=
  stray.toList.map fun pipe => ⟨pipe.val, .reported .missingCommand⟩

def backgroundPlaces (background : Option { sign : Token // sign.kind = .background }) :
    List Place :=
  background.toList.map fun sign => ⟨sign.val, .background⟩

def places (chain : Chain) : List Place :=
  chain.head.places ++ chain.links.flatMap Link.places ++ strayPlaces chain.stray ++
    backgroundPlaces chain.background

def pipeline (chain : Chain) : Pipeline :=
  ⟨chain.head.command, chain.links.map (·.stage.command), chain.background.isSome⟩

end Chain

/-- A piece of a job. Outside of pipelines any other operator is stray. -/
inductive Item
  | separator (sign : Token) (is_semicolon : sign.kind = .semicolon)
  | pipeline (chain : Chain)
  | stray (sign : Token) (apart : sign.kind ≠ .word ∧ sign.kind ≠ .semicolon)

namespace Item

def places : Item → List Place
  | separator sign _ => [⟨sign, .separator⟩]
  | pipeline chain => chain.places
  | stray sign _ => [⟨sign, .reported (.unexpected sign.text)⟩]

def pipelines : Item → List Pipeline
  | pipeline chain => [chain.pipeline]
  | _ => []

end Item

structure Account where
  items : List Item

namespace Account

def places (account : Account) : List Place := account.items.flatMap Item.places

def pipelines (account : Account) : List Pipeline := account.items.flatMap Item.pipelines

end Account

@[simp] theorem tokens_nil : tokens [] = [] := rfl

@[simp] theorem tokens_cons (place : Place) (places : List Place) :
    tokens (place :: places) = place.token :: tokens places := rfl

@[simp] theorem tokens_append (first second : List Place) :
    tokens (first ++ second) = tokens first ++ tokens second := List.map_append

@[simp] theorem diagnostics_append (first second : List Place) :
    diagnostics (first ++ second) = diagnostics first ++ diagnostics second := List.flatMap_append

theorem split_trans {first second : List Place} {given middle rest : List Token}
    (front : tokens first ++ middle = given) (back : tokens second ++ rest = middle) :
    tokens (first ++ second) ++ rest = given := by
  rw [tokens_append, List.append_assoc, back, front]

theorem isRedirect_of_ofKind? {kind : TokenKind} {mode : RedirectMode}
    (names : RedirectMode.ofKind? kind = some mode) : kind.isRedirect = true := by
  cases kind <;> first | rfl | cases names

/-- What was read from the front of some tokens, and the places of the tokens it took. -/
structure Reads {α : Type} (given : List Token) (reading : Reading α) (result : α)
    (places : List Place) : Prop where
  split : tokens places ++ reading.rest = given
  result : reading.result = result
  diagnostics : reading.diagnostics = diagnostics places

/-- A command goes on until a separator or the end of the tokens. -/
def Ends (rest : List Token) : Prop := ∀ token ∈ rest.head?, token.kind.isSeparator = true

theorem ends_nil : Ends [] := by simp [Ends]

private theorem exists_parts (given : List Token) :
    ∃ parts : List Part,
      Reads given (Command.readRest given)
        (parts.flatMap Part.arguments, parts.flatMap Part.redirects)
        (parts.flatMap Part.places) ∧
      Ends (Command.readRest given).rest := by
  fun_induction Command.readRest given with
  | case1 => exact ⟨[], ⟨rfl, rfl, rfl⟩, ends_nil⟩
  | case2 token rest is_word more ih =>
    obtain ⟨parts, ⟨split, result, reported⟩, ends⟩ := ih
    refine ⟨.argument token is_word :: parts, ⟨?_, ?_, reported⟩, ends⟩
    · simpa [Part.places] using split
    · simp only [more, result]
      rfl
  | case3 token rest not_word none =>
    refine ⟨[], ⟨rfl, rfl, rfl⟩, ?_⟩
    have separates : token.kind.isSeparator = true := by
      cases kind : token.kind <;> simp_all [RedirectMode.ofKind?, TokenKind.isSeparator]
    simpa [Ends] using separates
  | case4 token not_word mode names =>
    exact ⟨[.stray token (isRedirect_of_ofKind? names)], ⟨rfl, rfl, rfl⟩, ends_nil⟩
  | case5 token not_word mode names target later is_word more ih =>
    obtain ⟨parts, ⟨split, result, reported⟩, ends⟩ := ih
    refine ⟨.redirect token target mode names is_word :: parts, ⟨?_, ?_, reported⟩, ends⟩
    · simpa [Part.places] using split
    · simp only [more, result]
      rfl
  | case6 token not_word mode names target later is_other more ih =>
    -- The sign alone is dropped; what stands behind it is looked at again.
    obtain ⟨parts, ⟨split, result, reported⟩, ends⟩ := ih
    refine ⟨.stray token (isRedirect_of_ofKind? names) :: parts, ⟨?_, result, ?_⟩, ends⟩
    · simpa [Part.places] using split
    · simp only [more, reported]
      rfl

private theorem exists_stage (word : Token) (is_word : word.kind = .word) (given : List Token) :
    ∃ stage : Stage,
      Reads (word :: given) (Command.read word given) stage.command stage.places ∧
      Ends (Command.read word given).rest := by
  obtain ⟨parts, ⟨split, result, reported⟩, ends⟩ := exists_parts given
  refine ⟨⟨word, is_word, parts⟩, ⟨?_, ?_, reported⟩, ends⟩
  · simpa [Stage.places, Command.read] using split
  · simp [Stage.command, Command.read, result]

/-- After a pipeline without a stray pipe only an operator that ends it can stand. -/
theorem exists_links (given : List Token) (ends : Ends given) :
    ∃ links : List Link, ∃ stray,
      Reads given (Pipeline.readLater given) (links.map (·.stage.command))
        (links.flatMap Link.places ++ Chain.strayPlaces stray) ∧
      (stray = none → Ends (Pipeline.readLater given).rest ∧
        ∀ token ∈ (Pipeline.readLater given).rest.head?, token.kind ≠ .pipe) := by
  fun_induction Pipeline.readLater given with
  | case1 => exact ⟨[], none, ⟨rfl, rfl, rfl⟩, fun _ => ⟨ends_nil, by simp⟩⟩
  | case2 pipe is_pipe => exact ⟨[], some ⟨pipe, is_pipe⟩, ⟨rfl, rfl, rfl⟩, by simp⟩
  | case3 pipe is_pipe word later is_word command more ih =>
    obtain ⟨stage, first, stage_ends⟩ := exists_stage word is_word later
    obtain ⟨links, stray, others, follow⟩ := ih stage_ends
    refine ⟨⟨pipe, is_pipe, stage⟩ :: links, stray, ⟨?_, ?_, ?_⟩, follow⟩
    · have both := split_trans first.split others.split
      simpa [Link.places] using both
    · simp [more, command, first.result, others.result]
    · simp only [more, command, first.diagnostics, others.diagnostics, ← diagnostics_append]
      simp [diagnostics, Link.places, Place.diagnostics]
  | case4 pipe is_pipe word later is_other =>
    exact ⟨[], some ⟨pipe, is_pipe⟩, ⟨rfl, rfl, rfl⟩, by simp⟩
  | case5 pipe rest not_pipe =>
    exact ⟨[], none, ⟨rfl, rfl, rfl⟩, fun _ => ⟨ends, by simpa using not_pipe⟩⟩

private theorem exists_background (given : List Token) :
    ∃ background,
      Reads given (Pipeline.readBackground given) background.isSome
        (Chain.backgroundPlaces background) ∧
      (background = none → (Pipeline.readBackground given).rest = given ∧
        ∀ token ∈ given.head?, token.kind ≠ .background) := by
  fun_cases Pipeline.readBackground given with
  | case1 => exact ⟨none, ⟨rfl, rfl, rfl⟩, by simp⟩
  | case2 sign rest is_background => exact ⟨some ⟨sign, is_background⟩, ⟨rfl, rfl, rfl⟩, by simp⟩
  | case3 sign rest not_background => exact ⟨none, ⟨rfl, rfl, rfl⟩, by simpa using not_background⟩

theorem exists_chain (word : Token) (is_word : word.kind = .word) (given : List Token) :
    ∃ chain : Chain,
      Reads (word :: given) (Pipeline.read word given) chain.pipeline chain.places ∧
      (chain.stray = none → chain.background = none →
        ∀ token ∈ (Pipeline.read word given).rest.head?, token.kind = .semicolon) := by
  obtain ⟨head, first, ends⟩ := exists_stage word is_word given
  obtain ⟨links, stray, others, follow⟩ := exists_links _ ends
  obtain ⟨background, sign, last⟩ :=
    exists_background (Pipeline.readLater (Command.read word given).rest).rest
  refine ⟨⟨head, links, stray, background⟩, ⟨?_, ?_, ?_⟩, ?_⟩
  · have both := split_trans (split_trans first.split others.split) sign.split
    simpa [Chain.places, Pipeline.read] using both
  · simp [Chain.pipeline, Pipeline.read, first.result, others.result, sign.result]
  · have quiet : diagnostics (Chain.backgroundPlaces background) = [] := by
      cases background <;> rfl
    simp [Chain.places, Pipeline.read, first.diagnostics, others.diagnostics, quiet]
  · intro no_stray no_background token member
    obtain ⟨separated, not_pipe⟩ := follow no_stray
    obtain ⟨same, not_background⟩ := last no_background
    have next : token ∈ (Pipeline.readLater (Command.read word given).rest).rest.head? := by
      simpa only [Pipeline.read, same] using member
    have separates := separated token next
    cases kind : token.kind <;>
      simp_all [TokenKind.isSeparator, not_pipe token next, not_background token next]

/-- Behind a pipeline that ends in neither a stray pipe nor a background sign there is nothing or a
semicolon. -/
def Separated : List Item → Prop
  | [] => True
  | .pipeline chain :: rest =>
    (chain.stray = none → chain.background = none →
      ∀ token ∈ (tokens (rest.flatMap Item.places)).head?, token.kind = .semicolon) ∧ Separated rest
  | _ :: rest => Separated rest

/-- Every list of tokens has an account, whatever is wrong with it. -/
theorem exists_separated (given : List Token) :
    ∃ account : Account, tokens account.places = given ∧
      Job.ofTokens given = ⟨account.pipelines, diagnostics account.places⟩ ∧
      Separated account.items := by
  fun_induction Job.ofTokens given with
  | case1 => exact ⟨⟨[]⟩, rfl, rfl, trivial⟩
  | case2 sign rest is_semicolon ih =>
    obtain ⟨⟨items⟩, split, read, separated⟩ := ih
    refine ⟨⟨.separator sign is_semicolon :: items⟩, ?_, read, separated⟩
    simpa [Account.places, Item.places] using split
  | case3 word rest not_semicolon is_word pipeline more ih =>
    obtain ⟨chain, first, follow⟩ := exists_chain word is_word rest
    obtain ⟨⟨items⟩, split, read, separated⟩ := ih
    refine ⟨⟨.pipeline chain :: items⟩, ?_, ?_, ?_, separated⟩
    · rw [← first.split, ← split]
      simp [Account.places, Item.places]
    · simp only [more, read, pipeline, first.result, first.diagnostics, ← diagnostics_append]
      rfl
    · rw [show tokens (items.flatMap Item.places) = (Pipeline.read word rest).rest from split]
      exact follow
  | case4 sign rest not_semicolon not_word more ih =>
    obtain ⟨⟨items⟩, split, read, separated⟩ := ih
    refine ⟨⟨.stray sign ⟨not_word, not_semicolon⟩ :: items⟩, ?_, ?_, separated⟩
    · simpa [Account.places, Item.places] using split
    · simp only [more, read]
      rfl

private theorem exists_account (given : List Token) :
    ∃ account : Account, tokens account.places = given ∧
      Job.ofTokens given = ⟨account.pipelines, diagnostics account.places⟩ := by
  obtain ⟨account, split, read, -⟩ := exists_separated given
  exact ⟨account, split, read⟩

def Role.Suits (role : Role) : TokenKind → Prop
  | .word => role = .argument ∨ role = .target
  | .pipe => role = .link ∨ ∃ misfit, role = .reported misfit
  | .background => role = .background ∨ ∃ misfit, role = .reported misfit
  | .semicolon => role = .separator
  | .readFrom | .writeTo | .appendTo => role = .redirect ∨ ∃ misfit, role = .reported misfit

theorem suits_of_isRedirect {role : Role} {kind : TokenKind} (redirects : kind.isRedirect = true) :
    role.Suits kind ↔ role = .redirect ∨ ∃ misfit, role = .reported misfit := by
  cases kind <;> first | rfl | cases redirects

/-- A target stands behind a redirect sign that was kept, and behind nothing else. -/
def Follows : Bool → List Place → Prop
  | pending, [] => pending = false
  | pending, place :: rest =>
    (place.role = .target ↔ pending = true) ∧ Follows (decide (place.role = .redirect)) rest

theorem Follows.append {pending : Bool} {first second : List Place} (front : Follows pending first)
    (back : Follows false second) : Follows pending (first ++ second) := by
  induction first generalizing pending with
  | nil => simpa [Follows, show pending = false from front] using back
  | cons place rest ih => exact ⟨front.1, ih front.2⟩

theorem Follows.flatMap {items : List α} {places : α → List Place}
    (each : ∀ item ∈ items, Follows false (places item)) : Follows false (items.flatMap places) := by
  induction items with
  | nil => rfl
  | cons item items ih =>
    exact (each item (by simp)).append (ih fun other member => each other (by simp [member]))

theorem Stage.follows (stage : Stage) : Follows false stage.places := by
  refine ⟨by simp, Follows.flatMap ?_⟩
  intro part _
  cases part <;> simp [Part.places, Follows]

theorem Chain.follows (chain : Chain) : Follows false chain.places := by
  refine ((chain.head.follows.append (.flatMap ?_)).append ?_).append ?_
  · intro link _
    exact ⟨by simp, link.stage.follows⟩
  · cases stray : chain.stray <;> simp [Chain.strayPlaces, Follows]
  · cases background : chain.background <;> simp [Chain.backgroundPlaces, Follows]

theorem Account.follows (account : Account) : Follows false account.places := by
  apply Follows.flatMap
  intro item _
  cases item with
  | separator sign is_semicolon => simp [Item.places, Follows]
  | pipeline chain => exact chain.follows
  | stray sign apart => simp [Item.places, Follows]

private theorem behind_redirect {pending : Bool} {before after : List Place} {place : Place}
    (follows : Follows pending (before ++ place :: after)) :
    place.role = .target ↔
      (before = [] ∧ pending = true) ∨
        ∃ earlier sign, before = earlier ++ [sign] ∧ sign.role = .redirect := by
  induction before generalizing pending with
  | nil => simpa using follows.1
  | cons first rest ih =>
    rw [ih follows.2]
    constructor
    · rintro (⟨rfl, redirect⟩ | ⟨earlier, sign, rfl, redirect⟩)
      · exact .inr ⟨[], first, rfl, by simpa using redirect⟩
      · exact .inr ⟨first :: earlier, sign, rfl, redirect⟩
    · rintro (⟨impossible, -⟩ | ⟨earlier, sign, same, redirect⟩)
      · cases impossible
      cases earlier with
      | nil =>
        obtain ⟨rfl, rfl⟩ := List.cons.inj same
        exact .inl ⟨rfl, by simpa using redirect⟩
      | cons other earlier =>
        obtain ⟨rfl, rfl⟩ := List.cons.inj same
        exact .inr ⟨earlier, sign, rfl, redirect⟩

theorem Stage.suits (stage : Stage) : ∀ place ∈ stage.places, place.role.Suits place.token.kind := by
  intro place member
  rcases List.mem_cons.mp member with rfl | member
  · simp [stage.is_word, Role.Suits]
  obtain ⟨part, -, inside⟩ := List.mem_flatMap.mp member
  cases part with
  | argument word is_word =>
    obtain rfl := List.mem_singleton.mp inside
    simp [is_word, Role.Suits]
  | redirect sign target mode names is_word =>
    have redirects := isRedirect_of_ofKind? names
    simp only [Part.places, List.mem_cons, List.not_mem_nil, or_false] at inside
    rcases inside with rfl | rfl
    · exact (suits_of_isRedirect redirects).mpr (.inl rfl)
    · simp [is_word, Role.Suits]
  | stray sign redirects =>
    obtain rfl := List.mem_singleton.mp inside
    exact (suits_of_isRedirect redirects).mpr (.inr ⟨_, rfl⟩)

theorem Chain.suits (chain : Chain) : ∀ place ∈ chain.places, place.role.Suits place.token.kind := by
  intro place member
  simp only [Chain.places, List.mem_append] at member
  rcases member with ((head | linked) | stray) | background
  · exact chain.head.suits place head
  · obtain ⟨link, -, inside⟩ := List.mem_flatMap.mp linked
    rcases List.mem_cons.mp inside with rfl | inside
    · simp [link.is_pipe, Role.Suits]
    · exact link.stage.suits place inside
  · obtain ⟨pipe, -, rfl⟩ := List.mem_map.mp stray
    simp [pipe.property, Role.Suits]
  · obtain ⟨sign, -, rfl⟩ := List.mem_map.mp background
    simp [sign.property, Role.Suits]

theorem Account.suits (account : Account) :
    ∀ place ∈ account.places, place.role.Suits place.token.kind := by
  intro place member
  obtain ⟨item, -, inside⟩ := List.mem_flatMap.mp member
  cases item with
  | separator sign is_semicolon =>
    obtain rfl := List.mem_singleton.mp inside
    simp [is_semicolon, Role.Suits]
  | pipeline chain => exact chain.suits place inside
  | stray sign apart =>
    obtain rfl := List.mem_singleton.mp inside
    cases kind : sign.kind <;> simp_all [Role.Suits]

def gather {α : Type} (each : Command → List α) (pipelines : List Pipeline) : List α :=
  pipelines.flatMap fun pipeline => pipeline.commands.flatMap each

def Role.Outside : Role → Prop
  | .argument | .target | .redirect => False
  | _ => True

theorem Role.Outside.views {role : Role} (outside : role.Outside) (token : Token) :
    Place.arguments ⟨token, role⟩ = [] ∧ Place.targets ⟨token, role⟩ = [] ∧
      Place.modes ⟨token, role⟩ = [] := by
  cases role <;> first | exact ⟨rfl, rfl, rfl⟩ | cases outside

section Gathering

variable {α : Type} {view : Place → List α} {each : Command → List α}
  (stage : ∀ stage : Stage, stage.places.flatMap view = each stage.command)
  (outside : ∀ (token : Token) (role : Role), role.Outside → view ⟨token, role⟩ = [])

include stage outside

private theorem gather_chain (chain : Chain) :
    chain.places.flatMap view = chain.pipeline.commands.flatMap each := by
  have link (link : Link) : link.places.flatMap view = each link.stage.command := by
    rw [Link.places, List.flatMap_cons, outside link.pipe .link trivial, stage, List.nil_append]
  have stray : (Chain.strayPlaces chain.stray).flatMap view = [] := by
    cases chain.stray with
    | none => rfl
    | some pipe => simpa [Chain.strayPlaces] using outside pipe (.reported .missingCommand) trivial
  have background : (Chain.backgroundPlaces chain.background).flatMap view = [] := by
    cases chain.background with
    | none => rfl
    | some sign => simpa [Chain.backgroundPlaces] using outside sign .background trivial
  simp [Chain.places, Chain.pipeline, Pipeline.commands, List.flatMap_assoc, List.flatMap_map,
    stage, link, stray, background]

private theorem gather_item (item : Item) : gather each item.pipelines = item.places.flatMap view := by
  cases item with
  | separator sign _ => simp [gather, Item.pipelines, Item.places, outside sign .separator trivial]
  | pipeline chain =>
    simp [gather, Item.pipelines, Item.places, gather_chain stage outside chain]
  | stray sign _ =>
    have quiet := outside sign (.reported (.unexpected sign.text)) trivial
    simp [gather, Item.pipelines, Item.places, quiet]

theorem gather_pipelines (account : Account) :
    gather each account.pipelines = account.places.flatMap view := by
  have item := gather_item stage outside
  simp only [gather] at item
  simp only [gather, Account.pipelines, Account.places, List.flatMap_assoc, item]

end Gathering

theorem Stage.arguments (stage : Stage) :
    stage.places.flatMap Place.arguments = stage.command.words := by
  have part (part : Part) : part.places.flatMap Place.arguments = part.arguments := by
    cases part <;> rfl
  simp [Stage.places, Stage.command, Command.words, List.flatMap_assoc, part, Place.arguments]

theorem Stage.targets (stage : Stage) :
    stage.places.flatMap Place.targets = stage.command.redirects.map Redirect.target := by
  have part (part : Part) :
      part.places.flatMap Place.targets = part.redirects.map Redirect.target := by
    cases part <;> rfl
  simp [Stage.places, Stage.command, List.flatMap_assoc, List.map_flatMap, part, Place.targets]

theorem Stage.modes (stage : Stage) :
    stage.places.flatMap Place.modes = stage.command.redirects.map Redirect.mode := by
  have part (part : Part) : part.places.flatMap Place.modes = part.redirects.map Redirect.mode := by
    cases part with
    | redirect sign target mode names is_word => simp [Part.places, Part.redirects, Place.modes, names]
    | _ => rfl
  simp [Stage.places, Stage.command, List.flatMap_assoc, List.map_flatMap, part, Place.modes]

theorem Stage.role_ne (stage : Stage) :
    ∀ place ∈ stage.places, place.role ≠ .link ∧ place.role ≠ .background := by
  intro place member
  rcases List.mem_cons.mp member with rfl | member
  · simp
  obtain ⟨part, -, inside⟩ := List.mem_flatMap.mp member
  cases part <;> simp only [Part.places, List.mem_cons, List.not_mem_nil, or_false] at inside
  · simp [inside]
  · rcases inside with rfl | rfl <;> simp
  · simp [inside]

/-- A role that no token of a command has is found at the pipes between commands and at the background
sign only. -/
theorem Chain.count {has : Place → Bool} (inside : ∀ stage : Stage, stage.places.countP has = 0)
    (reported : ∀ token misfit, has ⟨token, .reported misfit⟩ = false) (chain : Chain) :
    chain.places.countP has = chain.links.countP (fun link => has ⟨link.pipe, .link⟩) +
      (backgroundPlaces chain.background).countP has := by
  have stray : (strayPlaces chain.stray).countP has = 0 := by
    cases chain.stray <;> simp [strayPlaces, reported]
  have links (links : List Link) :
      (links.flatMap Link.places).countP has = links.countP fun link => has ⟨link.pipe, .link⟩ := by
    induction links with
    | nil => rfl
    | cons link links ih =>
      rw [List.flatMap_cons, List.countP_append, Link.places, List.countP_cons, inside, ih,
        List.countP_cons, Nat.zero_add, Nat.add_comm]
  simp only [places, List.countP_append, inside, stray, links, Nat.zero_add, Nat.add_zero]

theorem Chain.count_link (chain : Chain) :
    chain.places.countP (·.role = .link) = chain.pipeline.later.length := by
  have inside (stage : Stage) : stage.places.countP (·.role = .link) = 0 := by
    simpa [List.countP_eq_zero] using fun place member => (stage.role_ne place member).1
  rw [Chain.count inside (by simp)]
  cases chain.background <;> simp [pipeline, backgroundPlaces]

theorem Chain.count_background (chain : Chain) :
    chain.places.countP (·.role = .background) =
      ([chain.pipeline].filter (·.background)).length := by
  have inside (stage : Stage) : stage.places.countP (·.role = .background) = 0 := by
    simpa [List.countP_eq_zero] using fun place member => (stage.role_ne place member).2
  rw [Chain.count inside (by simp)]
  cases background : chain.background <;> simp [pipeline, backgroundPlaces, background]

private theorem count_pipelines {α : Type} {has : Place → Bool} {each : Pipeline → List α}
    (chain : ∀ chain : Chain, chain.places.countP has = (each chain.pipeline).length)
    (separator : ∀ token, has ⟨token, .separator⟩ = false)
    (reported : ∀ token misfit, has ⟨token, .reported misfit⟩ = false) (account : Account) :
    (account.pipelines.flatMap each).length = account.places.countP has := by
  obtain ⟨items⟩ := account
  have item (item : Item) : (item.pipelines.flatMap each).length = item.places.countP has := by
    cases item with
    | separator sign _ => simp [Item.pipelines, Item.places, separator]
    | pipeline found => simpa [Item.pipelines, Item.places] using (chain found).symm
    | stray sign _ => simp [Item.pipelines, Item.places, reported]
  simp only [Account.pipelines, Account.places]
  induction items with
  | nil => rfl
  | cons first items ih =>
    rw [List.flatMap_cons, List.flatMap_append, List.length_append, List.flatMap_cons,
      List.countP_append, item, ih]

/-- How an account explains a job. Every token has one place, in the order of the line, and the job
holds exactly what the places say. Diagnostics stand at growing offsets, each at the start of an
operator, and no command is empty. -/
structure Explains (account : Account) (given : List Token) (job : Job) : Prop where
  tokens : tokens account.places = given
  pipelines : account.pipelines = job.pipelines
  diagnostics : diagnostics account.places = job.diagnostics
  suits : ∀ place ∈ account.places, place.role.Suits place.token.kind
  targets : ∀ before place after, account.places = before ++ place :: after →
    place.token.kind = .word →
    (place.role = .target ↔ ∃ earlier sign, before = earlier ++ [sign] ∧
      sign.token.kind.isRedirect = true ∧ sign.diagnostics = [])
  argument_order : gather Command.words job.pipelines = account.places.flatMap Place.arguments
  target_order : gather (·.redirects.map Redirect.target) job.pipelines =
    account.places.flatMap Place.targets
  mode_order : gather (·.redirects.map Redirect.mode) job.pipelines =
    account.places.flatMap Place.modes
  links : (job.pipelines.flatMap Pipeline.later).length = account.places.countP (·.role = .link)
  backgrounds : job.pipelines.countP (·.background) = account.places.countP (·.role = .background)
  positions : (job.diagnostics.map Diagnostic.position).Pairwise (· < ·)
  operators : ∀ diagnostic ∈ job.diagnostics, ∃ token ∈ given,
    token.start = diagnostic.position ∧ token.kind ≠ .word ∧ token.kind ≠ .semicolon
  programs : ∀ pipeline ∈ job.pipelines, ∀ command ∈ pipeline.commands, command.words ≠ []

/-- A redirect sign that was not reported is one that was kept. -/
theorem redirect_iff {place : Place} (suits : place.role.Suits place.token.kind) :
    place.role = .redirect ↔ place.token.kind.isRedirect = true ∧ place.diagnostics = [] := by
  constructor
  · intro kept
    rw [kept] at suits
    constructor
    · revert suits
      cases place.token.kind <;> simp [Role.Suits, TokenKind.isRedirect]
    · simp [Place.diagnostics, kept]
  · rintro ⟨redirects, quiet⟩
    rcases (suits_of_isRedirect redirects).mp suits with kept | ⟨misfit, reported⟩
    · exact kept
    · simp [Place.diagnostics, reported] at quiet

theorem Account.target_iff (account : Account) {before after : List Place} {place : Place}
    (split : account.places = before ++ place :: after) :
    place.role = .target ↔ ∃ earlier sign, before = earlier ++ [sign] ∧
      sign.token.kind.isRedirect = true ∧ sign.diagnostics = [] := by
  have follows := account.follows
  rw [split] at follows
  rw [behind_redirect follows]
  constructor
  · rintro (⟨-, impossible⟩ | ⟨earlier, sign, rfl, kept⟩)
    · cases impossible
    · exact ⟨earlier, sign, rfl, (redirect_iff (account.suits sign (by simp [split]))).mp kept⟩
  · rintro ⟨earlier, sign, rfl, kept⟩
    exact .inr ⟨earlier, sign, rfl, (redirect_iff (account.suits sign (by simp [split]))).mpr kept⟩

theorem Account.count_background (account : Account) :
    account.pipelines.countP (·.background) = account.places.countP (·.role = .background) := by
  have each : (account.pipelines.flatMap fun pipeline => [pipeline].filter (·.background)).length =
      account.places.countP (·.role = .background) :=
    count_pipelines Chain.count_background (by simp) (by simp) account
  rwa [← List.filter_flatMap, List.flatMap_singleton', ← List.countP_eq_length_filter] at each

theorem position_of_mem {place : Place} {diagnostic : Diagnostic}
    (member : diagnostic ∈ place.diagnostics) :
    diagnostic.position = place.token.start ∧ ∃ misfit, place.role = .reported misfit := by
  cases role : place.role <;> simp only [Place.diagnostics, role, List.not_mem_nil] at member
  obtain rfl := List.mem_singleton.mp member
  exact ⟨rfl, _, rfl⟩

private theorem kind_of_reported {place : Place} {misfit : Misfit} (suits : place.role.Suits place.token.kind)
    (reported : place.role = .reported misfit) :
    place.token.kind ≠ .word ∧ place.token.kind ≠ .semicolon := by
  rw [reported] at suits
  constructor <;> (intro kind; simp [kind, Role.Suits] at suits)

private theorem diagnostics_ordered {offset : Nat} {account : Account}
    (ordered : ScanSteps.Ordered offset (tokens account.places)) :
    ((diagnostics account.places).map Diagnostic.position).Pairwise (· < ·) := by
  have starts := List.pairwise_map.mp ordered.starts
  rw [List.pairwise_map, diagnostics, List.pairwise_flatMap]
  refine ⟨?_, starts.imp ?_⟩
  · intro place _
    cases role : place.role <;> simp [Place.diagnostics, role]
  · intro first second apart diagnostic left other right
    rw [(position_of_mem left).1, (position_of_mem right).1]
    exact apart

theorem Account.explains (account : Account) {offset : Nat}
    (ordered : ScanSteps.Ordered offset (JobAccount.tokens account.places)) :
    Explains account (JobAccount.tokens account.places)
      ⟨account.pipelines, JobAccount.diagnostics account.places⟩ where
  tokens := rfl
  pipelines := rfl
  diagnostics := rfl
  suits := account.suits
  targets _ _ _ split _ := account.target_iff split
  argument_order :=
    gather_pipelines Stage.arguments (fun token _ outside => (outside.views token).1) account
  target_order :=
    gather_pipelines Stage.targets (fun token _ outside => (outside.views token).2.1) account
  mode_order :=
    gather_pipelines Stage.modes (fun token _ outside => (outside.views token).2.2) account
  links := count_pipelines Chain.count_link (by simp) (by simp) account
  backgrounds := account.count_background
  positions := diagnostics_ordered ordered
  operators := by
    intro diagnostic member
    obtain ⟨place, inside, shown⟩ := List.mem_flatMap.mp member
    obtain ⟨position, misfit, reported⟩ := position_of_mem shown
    exact ⟨place.token, List.mem_map_of_mem inside, position.symm,
      kind_of_reported (account.suits place inside) reported⟩
  programs _ _ _ _ := List.cons_ne_nil _ _

theorem ofLine_of_closed {line : Text} (closed : (Scan.ofLine line).unclosed = none) :
    Job.ofLine line = .ok (Job.ofTokens (Scan.ofLine line).tokens) := by
  simp only [Job.ofLine, closed]

/-- Reading a line loses no token, whatever is wrong with the line. -/
theorem tokens_accounted {line : Text} (closed : (Scan.ofLine line).unclosed = none) :
    ∃ job, Job.ofLine line = .ok job ∧
      ∃ account, Explains account (Scan.ofLine line).tokens job := by
  obtain ⟨account, split, read⟩ := exists_account (Scan.ofLine line).tokens
  have ordered : ScanSteps.Ordered 0 (tokens account.places) := by
    rw [split]
    exact ScanSteps.ordered_ofText 0 line
  refine ⟨⟨account.pipelines, diagnostics account.places⟩, ?_, account, ?_⟩
  · rw [ofLine_of_closed closed, read]
  · exact split ▸ account.explains ordered

/-- Stray signs of every kind in one line: a pipe without a command, a redirect sign outside of a
command, and a pipe behind a pipeline that has ended. -/
theorem stray_tokens_accounted :
    (Scan.ofLine "ls | > f & | ;").unclosed = none ∧
    ∃ account, Explains account (Scan.ofLine "ls | > f & | ;").tokens
      ⟨[⟨⟨"ls", [], []⟩, [], false⟩, ⟨⟨"f", [], []⟩, [], true⟩],
        [⟨.missingCommand, 3⟩, ⟨.unexpected ">", 5⟩, ⟨.unexpected "|", 11⟩]⟩ := by
  have closed : (Scan.ofLine "ls | > f & | ;").unclosed = none := by decide +kernel
  have known : Job.ofTokens (Scan.ofLine "ls | > f & | ;").tokens =
      ⟨[⟨⟨"ls", [], []⟩, [], false⟩, ⟨⟨"f", [], []⟩, [], true⟩],
        [⟨.missingCommand, 3⟩, ⟨.unexpected ">", 5⟩, ⟨.unexpected "|", 11⟩]⟩ := by decide +kernel
  obtain ⟨job, read, account, explains⟩ := tokens_accounted closed
  rw [ofLine_of_closed closed, known] at read
  obtain rfl := Except.ok.inj read
  exact ⟨closed, account, explains⟩

end CommandShell.Proofs.JobAccount
