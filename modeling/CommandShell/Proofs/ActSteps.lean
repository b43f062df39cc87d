import CommandShell.World

/-! Work step by step: what each way of composing work does to a state, and how two runs that start
from related states are compared. -/

namespace CommandShell.Proofs.ActSteps

variable {σ τ α β γ δ : Type}

@[simp] theorem on_pure (value : α) (state : σ) :
    (pure value : Act σ α).on state = (.ok value, state) := rfl

@[simp] theorem on_bind (first : Act σ α) (next : α → Act σ β) (state : σ) :
    (first >>= next).on state = match first.on state with
      | (.ok value, state) => (next value).on state
      | (.error fault, state) => (.error fault, state) := by
  simp only [Act.on, ExceptT.run_bind, StateT.run_bind]
  rcases first.run.run state with ⟨result, after⟩
  cases result <;> rfl

@[simp] theorem on_get (state : σ) : (get : Act σ σ).on state = (.ok state, state) := rfl

@[simp] theorem on_set (after state : σ) : (set after : Act σ PUnit).on state = (.ok ⟨⟩, after) := rfl

@[simp] theorem on_modify (change : σ → σ) (state : σ) :
    (modify change : Act σ PUnit).on state = (.ok ⟨⟩, change state) := rfl

@[simp] theorem on_throw (fault : Fault) (state : σ) :
    (throw fault : Act σ α).on state = (.error fault, state) := rfl

@[simp] theorem on_ofExcept (result : Except Fault α) (state : σ) :
    (Act.ofExcept result : Act σ α).on state = (result, state) := rfl

@[simp] theorem on_attempt (act : Act σ α) (state : σ) :
    act.attempt.on state = (.ok (act.on state).1, (act.on state).2) := rfl

@[simp] theorem on_part (get : σ → τ) (set : τ → σ → σ) (act : Act τ α) (state : σ) :
    (act.part get set).on state = ((act.on (get state)).1, set (act.on (get state)).2 state) := rfl

@[simp] theorem on_liftM (act : StateM σ α) (state : σ) :
    (liftM act : Act σ α).on state = (.ok (act.run state).1, (act.run state).2) := rfl

@[simp] theorem on_discard (act : Act σ α) (state : σ) :
    (discard act).on state = ((act.on state).1.map fun _ => ⟨⟩, (act.on state).2) := by
  simp only [Functor.discard, LawfulFunctor.map_const, Function.comp_apply, map_eq_pure_bind, on_bind]
  generalize act.on state = ran
  obtain ⟨result, after⟩ := ran
  cases result <;> rfl

/-- Two results of one kind: values that go together, or faults that do. -/
inductive Agree (faults : Fault → Fault → Prop) (values : α → β → Prop) :
    Except Fault α → Except Fault β → Prop where
  | value {first second} (same : values first second) : Agree faults values (.ok first) (.ok second)
  | fault {first second} (same : faults first second) :
      Agree faults values (.error first) (.error second)

theorem Agree.imp {faults : Fault → Fault → Prop} {values results : α → β → Prop}
    {first : Except Fault α} {second : Except Fault β} (agree : Agree faults values first second)
    (more : ∀ value value', values value value' → results value value') :
    Agree faults results first second := by
  cases agree with
  | value same => exact .value (more _ _ same)
  | fault same => exact .fault same

/-- From two states, two pieces of work give results that agree and leave states that are alike. -/
def Matches (faults : Fault → Fault → Prop) (like : σ → τ → Prop) (values : α → β → Prop)
    (first : Act σ α) (before : σ) (second : Act τ β) (other : τ) : Prop :=
  Agree faults values (first.on before).1 (second.on other).1 ∧
    like (first.on before).2 (second.on other).2

/-- From all states that are alike, two pieces of work give results that agree and leave states that
are alike again. -/
def Related (faults : Fault → Fault → Prop) (like : σ → τ → Prop) (values : α → β → Prop)
    (first : Act σ α) (second : Act τ β) : Prop :=
  ∀ before other, like before other → Matches faults like values first before second other

variable {faults : Fault → Fault → Prop} {like : σ → τ → Prop}

theorem Matches.bind {values : α → β → Prop} {results : γ → δ → Prop} {first : Act σ α}
    {second : Act τ β} {next : α → Act σ γ} {more : β → Act τ δ} {before : σ} {other : τ}
    (front : Matches faults like values first before second other)
    (rest : ∀ {value value' after after'}, values value value' → first.on before = (.ok value, after) →
      second.on other = (.ok value', after') → like after after' →
      Matches faults like results (next value) after (more value') after') :
    Matches faults like results (first >>= next) before (second >>= more) other := by
  obtain ⟨agree, still⟩ := front
  unfold Matches
  rw [on_bind, on_bind]
  generalize first.on before = ran at agree still rest ⊢
  generalize second.on other = ran' at agree still rest ⊢
  obtain ⟨result, after⟩ := ran
  obtain ⟨result', after'⟩ := ran'
  dsimp only at agree still
  cases agree with
  | value same => exact rest same rfl rfl still
  | fault same => exact ⟨.fault same, still⟩

theorem Matches.attempt {values : α → β → Prop} {outer : Fault → Fault → Prop} {first : Act σ α}
    {second : Act τ β} {before : σ} {other : τ}
    (front : Matches faults like values first before second other) :
    Matches outer like (Agree faults values) first.attempt before second.attempt other :=
  ⟨.value front.1, front.2⟩

namespace Related

theorem value {values : α → β → Prop} {first : α} {second : β} (same : values first second) :
    Related faults like values (pure first) (pure second) :=
  fun _ _ alike => ⟨.value same, alike⟩

theorem bind {values : α → β → Prop} {results : γ → δ → Prop} {first : Act σ α} {second : Act τ β}
    {next : α → Act σ γ} {other : β → Act τ δ} (front : Related faults like values first second)
    (rest : ∀ value value', values value value' →
      Related faults like results (next value) (other value')) :
    Related faults like results (first >>= next) (second >>= other) :=
  fun _ _ alike => (front _ _ alike).bind fun same _ _ still => rest _ _ same _ _ still

theorem next {results : γ → δ → Prop} {first : Act σ α} {second : Act τ α} {rest : α → Act σ γ}
    {other : α → Act τ δ} (front : Related faults like Eq first second)
    (more : ∀ value, Related faults like results (rest value) (other value)) :
    Related faults like results (first >>= rest) (second >>= other) := by
  refine front.bind fun value value' same => ?_
  subst same
  exact more value

theorem stop {results : γ → δ → Prop} {first second : Fault} (same : faults first second)
    (rest : α → Act σ γ) (other : β → Act τ δ) :
    Related faults like results (throw first >>= rest) (throw second >>= other) :=
  fun _ _ alike => ⟨.fault same, alike⟩

theorem given {first second : Except Fault α} (same : first = second) :
    Related Eq like Eq (Act.ofExcept first) (Act.ofExcept second) := by
  intro before other alike
  subst same
  cases first with
  | ok value => exact ⟨.value rfl, alike⟩
  | error fault => exact ⟨.fault rfl, alike⟩

theorem state : Related faults like like (get : Act σ σ) (get : Act τ τ) :=
  fun _ _ alike => ⟨.value alike, alike⟩

theorem change {first : σ → σ} {second : τ → τ}
    (keeps : ∀ before other, like before other → like (first before) (second other)) :
    Related faults like Eq (modify first : Act σ PUnit) (modify second : Act τ PUnit) :=
  fun before other alike => ⟨.value rfl, keeps before other alike⟩

theorem fault {values : α → β → Prop} {first second : Fault} (same : faults first second) :
    Related faults like values (throw first : Act σ α) (throw second : Act τ β) :=
  fun _ _ alike => ⟨.fault same, alike⟩

theorem result {values : α → β → Prop} {first : Except Fault α} {second : Except Fault β}
    (agree : Agree faults values first second) :
    Related faults like values (Act.ofExcept first) (Act.ofExcept second) :=
  fun _ _ alike => ⟨agree, alike⟩

theorem attempt {values : α → β → Prop} {outer : Fault → Fault → Prop} {first : Act σ α}
    {second : Act τ β} (related : Related faults like values first second) :
    Related outer like (Agree faults values) first.attempt second.attempt :=
  fun before other alike => (related before other alike).attempt

theorem branch {values : α → β → Prop} {condition : Prop} [Decidable condition]
    {first more : Act σ α} {second other : Act τ β}
    (holds : condition → Related faults like values first second)
    (fails : ¬ condition → Related faults like values more other) :
    Related faults like values (if condition then first else more)
      (if condition then second else other) := by
  split
  next held => exact holds held
  next failed => exact fails failed

end Related

/-- Work that always gives the same and leaves a state alike can be left out in front. -/
theorem Related.after {values : α → β → Prop} {front : Act σ PUnit} {first : Act σ α}
    {second : Act τ β} (silent : ∀ before other, like before other →
      (front.on before).1 = .ok ⟨⟩ ∧ like (front.on before).2 other)
    (related : Related faults like values first second) :
    Related faults like values (front >>= fun _ => first) second := by
  intro before other alike
  obtain ⟨done, still⟩ := silent before other alike
  unfold Matches
  rw [on_bind]
  generalize front.on before = ran at done still ⊢
  obtain ⟨result, after⟩ := ran
  dsimp only at done still
  subst done
  exact related after other still

def Yields (act : Act σ α) (holds : α → Prop) : Prop :=
  ∀ state value, (act.on state).1 = .ok value → holds value

namespace Yields

variable {holds : α → Prop} {results : β → Prop}

theorem value {value : α} (held : holds value) : Yields (pure value : Act σ α) holds := by
  intro state other same
  obtain rfl := Except.ok.inj same
  exact held

theorem fault (fault : Fault) : Yields (throw fault : Act σ α) holds := by
  intro state value same
  cases same

theorem result (given : Except Fault α) : Yields (Act.ofExcept given : Act σ α) (given = .ok ·) :=
  fun _ _ same => same

theorem anything (act : Act σ α) : Yields act fun _ => True := fun _ _ _ => trivial

theorem bind {first : Act σ α} {next : α → Act σ β} (front : Yields first holds)
    (rest : ∀ value, holds value → Yields (next value) results) :
    Yields (first >>= next) results := by
  intro state value same
  have held := front state
  rw [on_bind] at same
  generalize first.on state = ran at same held
  obtain ⟨result, after⟩ := ran
  cases result with
  | ok given => exact rest given (held given rfl) after value same
  | error fault => cases same

end Yields

/-- What holds of a state and itself, and of states that are two steps apart. -/
class Lasting (relation : σ → σ → Prop) : Prop where
  refl (state : σ) : relation state state
  trans {first second third : σ} : relation first second → relation second third → relation first third

/-- Whatever comes of the work, the state after it stands in a relation to the state before it. -/
def Within (relation : σ → σ → Prop) (act : Act σ α) : Prop := ∀ state, relation state (act.on state).2

namespace Within

variable {relation : σ → σ → Prop}

theorem change {change : σ → σ} (related : ∀ state, relation state (change state)) :
    Within relation (modify change : Act σ PUnit) := related

theorem attempt {act : Act σ α} (once : Within relation act) : Within relation act.attempt := once

variable [Lasting relation]

theorem value (value : α) : Within relation (pure value : Act σ α) := fun state => Lasting.refl state

theorem fault (fault : Fault) : Within relation (throw fault : Act σ α) := fun state => Lasting.refl state

theorem result (given : Except Fault α) : Within relation (Act.ofExcept given : Act σ α) :=
  fun state => Lasting.refl state

theorem bind {first : Act σ α} {next : α → Act σ β} (front : Within relation first)
    (rest : ∀ value, Within relation (next value)) : Within relation (first >>= next) := by
  intro state
  have moved := front state
  rw [on_bind]
  generalize first.on state = ran at moved
  obtain ⟨result, after⟩ := ran
  cases result with
  | error fault => exact moved
  | ok value => exact Lasting.trans moved (rest value after)

theorem read {next : σ → Act σ α} (rest : ∀ state, Within relation (next state)) :
    Within relation (get >>= next) := bind (fun state => Lasting.refl state) rest

end Within

def Ends (allowed : Fault → Prop) (values : α → Prop) : Except Fault α → Prop
  | .ok value => values value
  | .error fault => allowed fault

/-- From a state with a property, work leaves one, and ends with a value of a kind or an allowed fault. -/
def Safe (holds : σ → Prop) (allowed : Fault → Prop) (values : α → Prop) (act : Act σ α) : Prop :=
  ∀ state, holds state → holds (act.on state).2 ∧ Ends allowed values (act.on state).1

namespace Safe

variable {holds : σ → Prop} {allowed : Fault → Prop} {values : α → Prop} {results : β → Prop}

theorem value {value : α} (kind : values value) : Safe holds allowed values (pure value : Act σ α) :=
  fun _ held => ⟨held, kind⟩

theorem fault {fault : Fault} (permitted : allowed fault) :
    Safe holds allowed values (throw fault : Act σ α) :=
  fun _ held => ⟨held, permitted⟩

theorem result {given : Except Fault α} (ends : Ends allowed values given) :
    Safe holds allowed values (Act.ofExcept given) :=
  fun _ held => ⟨held, ends⟩

theorem change {change : σ → σ} (keeps : ∀ state, holds state → holds (change state)) :
    Safe holds allowed (fun _ => True) (modify change : Act σ PUnit) :=
  fun state held => ⟨keeps state held, trivial⟩

theorem attempt {act : Act σ α} {outer : Fault → Prop} (safe : Safe holds allowed values act) :
    Safe holds outer (Ends allowed values) act.attempt := safe

theorem bind {first : Act σ α} {next : α → Act σ β} (front : Safe holds allowed values first)
    (rest : ∀ value, values value → Safe holds allowed results (next value)) :
    Safe holds allowed results (first >>= next) := by
  intro state held
  obtain ⟨still, ends⟩ := front state held
  rw [on_bind]
  generalize first.on state = ran at still ends
  obtain ⟨result, after⟩ := ran
  cases result with
  | ok value => exact rest value ends after still
  | error fault => exact ⟨still, ends⟩

theorem next {first : Act σ α} {next : α → Act σ β} (front : Safe holds allowed (fun _ => True) first)
    (rest : ∀ value, Safe holds allowed results (next value)) :
    Safe holds allowed results (first >>= next) :=
  front.bind fun value _ => rest value

theorem read {next : σ → Act σ β} (rest : ∀ state, holds state → Safe holds allowed results (next state)) :
    Safe holds allowed results (get >>= next) :=
  fun state held => rest state held state held

end Safe

end CommandShell.Proofs.ActSteps
