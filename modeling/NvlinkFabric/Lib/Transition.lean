import Mathlib.Data.List.Induction

/-!
# Runs of deterministic transition systems

A system is a total step function on states, driven by a list of inputs.  An
input that is refused leaves the state unchanged, so every list of inputs is a
run.  `Along` attaches a side condition to each step of a run, evaluated at the
state the step starts from.

The rules of this module are the inductions over runs that the development
needs: preservation of a predicate, preservation of a predicate under a side
condition, composition of a reflexive and transitive relation between the two
ends of a run, and a relation between any two points of a run.
-/

universe u v

namespace Transition

variable {σ : Type u} {ι : Type v} (step : σ → ι → σ)

/-- The state after consuming all inputs from left to right. -/
def run (start : σ) (inputs : List ι) : σ := inputs.foldl step start

@[simp] theorem run_nil (start : σ) : run step start [] = start := rfl

@[simp] theorem run_cons (start : σ) (input : ι) (inputs : List ι) :
    run step start (input :: inputs) = run step (step start input) inputs := rfl

theorem run_append (start : σ) (first second : List ι) :
    run step start (first ++ second) = run step (run step start first) second :=
  List.foldl_append

/-- States some run from `start` ends in. -/
def Reachable (start state : σ) : Prop := ∃ inputs, run step start inputs = state

theorem Reachable.refl (start : σ) : Reachable step start start := ⟨[], rfl⟩

variable {step}

theorem Reachable.trans_run {start state : σ} (reachable : Reachable step start state)
    (inputs : List ι) : Reachable step start (run step state inputs) := by
  obtain ⟨before, rfl⟩ := reachable
  exact ⟨before ++ inputs, run_append step start before inputs⟩

theorem Reachable.next {start state : σ} (reachable : Reachable step start state)
    (input : ι) : Reachable step start (step state input) :=
  reachable.trans_run [input]

/-- A predicate that every step preserves holds at the end of every run. -/
theorem invariant_run {invariant : σ → Prop}
    (preserved : ∀ state input, invariant state → invariant (step state input))
    {start : σ} (initially : invariant start) (inputs : List ι) :
    invariant (run step start inputs) := by
  induction inputs generalizing start with
  | nil => exact initially
  | cons input inputs ih => exact ih (preserved start input initially)

/-- A predicate that holds initially and is preserved holds of every reachable
state. -/
theorem Reachable.invariant {invariant : σ → Prop} {start state : σ}
    (reachable : Reachable step start state) (initially : invariant start)
    (preserved : ∀ state input, invariant state → invariant (step state input)) :
    invariant state := by
  obtain ⟨inputs, rfl⟩ := reachable
  exact invariant_run preserved initially inputs

variable (step)

/-- Every step of the run meets `condition` at the state it starts from. -/
def Along (condition : σ → ι → Prop) : σ → List ι → Prop
  | _, [] => True
  | state, input :: inputs =>
      condition state input ∧ Along condition (step state input) inputs

@[simp] theorem along_nil (condition : σ → ι → Prop) (start : σ) :
    Along step condition start [] := trivial

@[simp] theorem along_cons {condition : σ → ι → Prop} {start : σ} {input : ι}
    {inputs : List ι} :
    Along step condition start (input :: inputs) ↔
      condition start input ∧ Along step condition (step start input) inputs := Iff.rfl

theorem along_append {condition : σ → ι → Prop} {start : σ} {first second : List ι} :
    Along step condition start (first ++ second) ↔
      Along step condition start first ∧
        Along step condition (run step start first) second := by
  induction first generalizing start with
  | nil => simp
  | cons input inputs ih => simp [ih, and_assoc]

theorem Along.mono {weaker stronger : σ → ι → Prop}
    (implies : ∀ state input, stronger state input → weaker state input)
    {start : σ} {inputs : List ι} (along : Along step stronger start inputs) :
    Along step weaker start inputs := by
  induction inputs generalizing start with
  | nil => trivial
  | cons input inputs ih => exact ⟨implies start input along.1, ih along.2⟩

/-- A condition that holds along a run holds along every initial part of it. -/
theorem Along.take {condition : σ → ι → Prop} {start : σ} {inputs : List ι}
    (along : Along step condition start inputs) (count : Nat) :
    Along step condition start (inputs.take count) := by
  rw [← List.take_append_drop count inputs, along_append] at along
  exact along.1

instance decidableAlong (condition : σ → ι → Prop)
    [∀ state input, Decidable (condition state input)] :
    (start : σ) → (inputs : List ι) → Decidable (Along step condition start inputs)
  | _, [] => inferInstanceAs (Decidable True)
  | start, input :: inputs =>
      have := decidableAlong condition (step start input) inputs
      inferInstanceAs (Decidable (condition start input ∧
        Along step condition (step start input) inputs))

variable {step}

/-- A predicate preserved by every step that meets the side condition survives
every run whose steps all meet it. -/
theorem invariant_along {invariant : σ → Prop} {condition : σ → ι → Prop}
    (preserved : ∀ state input, condition state input →
      invariant state → invariant (step state input))
    {start : σ} (initially : invariant start) {inputs : List ι}
    (along : Along step condition start inputs) :
    invariant (run step start inputs) := by
  induction inputs generalizing start with
  | nil => exact initially
  | cons input inputs ih =>
      exact ih (preserved start input along.1 initially) along.2

/-- What an invariant implies of every step holds along every run whose steps
preserve the invariant. -/
theorem along_of_invariant {invariant : σ → Prop} {condition property : σ → ι → Prop}
    (preserved : ∀ state input, condition state input →
      invariant state → invariant (step state input))
    (implies : ∀ state input, invariant state → property state input)
    {start : σ} (initially : invariant start) {inputs : List ι}
    (along : Along step condition start inputs) : Along step property start inputs := by
  induction inputs generalizing start with
  | nil => trivial
  | cons input inputs ih =>
      exact ⟨implies start input initially,
        ih (preserved start input along.1 initially) along.2⟩

/-- A reflexive and transitive relation that holds across every conditioned
step holds between the two ends of a conditioned run. -/
theorem relates_along (relation : σ → σ → Prop) {condition : σ → ι → Prop}
    (refl : ∀ state, relation state state)
    (trans : ∀ first second third, relation first second →
      relation second third → relation first third)
    (across : ∀ state input, condition state input → relation state (step state input))
    {start : σ} {inputs : List ι} (along : Along step condition start inputs) :
    relation start (run step start inputs) := by
  induction inputs generalizing start with
  | nil => exact refl start
  | cons input inputs ih =>
      exact trans _ _ _ (across start input along.1) (ih along.2)

variable (step)

/-- Any two states of the run, the earlier one first, are related. -/
def InOrder (relation : σ → σ → Prop) (start : σ) (inputs : List ι) : Prop :=
  ∀ later, later <+: inputs → ∀ earlier, earlier <+: later →
    relation (run step start earlier) (run step start later)

/-- Every input of the run meets `condition`, which may look at all inputs
before it. -/
def AtEach (condition : List ι → ι → Prop) (inputs : List ι) : Prop :=
  ∀ before input, before ++ [input] <+: inputs → condition before input

theorem inOrder_and {first second : σ → σ → Prop} {start : σ} {inputs : List ι} :
    InOrder step (fun earlier later => first earlier later ∧ second earlier later)
        start inputs ↔
      InOrder step first start inputs ∧ InOrder step second start inputs := by
  constructor
  · intro both
    exact ⟨fun later reached earlier before => (both later reached earlier before).1,
      fun later reached earlier before => (both later reached earlier before).2⟩
  · rintro ⟨left, right⟩ later reached earlier before
    exact ⟨left later reached earlier before, right later reached earlier before⟩

theorem atEach_and {first second : List ι → ι → Prop} {inputs : List ι} :
    AtEach (fun before input => first before input ∧ second before input) inputs ↔
      AtEach first inputs ∧ AtEach second inputs := by
  constructor
  · intro both
    exact ⟨fun before input reached => (both before input reached).1,
      fun before input reached => (both before input reached).2⟩
  · rintro ⟨left, right⟩ before input reached
    exact ⟨left before input reached, right before input reached⟩

theorem atEach_concat {condition : List ι → ι → Prop} {inputs : List ι} {input : ι} :
    AtEach condition (inputs ++ [input]) ↔
      AtEach condition inputs ∧ condition inputs input := by
  constructor
  · intro each
    exact ⟨fun before next within =>
      each before next (within.trans (List.prefix_append _ _)),
      each inputs input (List.prefix_refl _)⟩
  · rintro ⟨each, last⟩ before next within
    rcases List.prefix_concat_iff.mp within with same | inside
    · obtain ⟨rfl, final⟩ := List.append_inj' same rfl
      obtain rfl := List.singleton_inj.mp final
      exact last
    · exact each before next inside

variable {step}

/-- A relation between the states of a run amounts to a condition on its inputs
if, after a run in order, the condition on the next input is what relates the
new state to itself and to all earlier ones. -/
theorem inOrder_iff_atEach {relation : σ → σ → Prop} {condition : List ι → ι → Prop}
    {start : σ} (initially : relation start start)
    (extends_iff : ∀ before input, InOrder step relation start before →
      ((∀ earlier, earlier <+: before ++ [input] → relation (run step start earlier)
        (run step start (before ++ [input]))) ↔ condition before input))
    (inputs : List ι) : InOrder step relation start inputs ↔ AtEach condition inputs := by
  induction inputs using List.reverseRecOn with
  | nil =>
      constructor
      · intro _ before input reached
        simp at reached
      · intro _ later reached earlier before
        obtain rfl := List.prefix_nil.mp reached
        obtain rfl := List.prefix_nil.mp before
        exact initially
  | append_singleton inputs input ih =>
      constructor
      · intro ordered before next reached
        have shorter : InOrder step relation start inputs := fun later within =>
          ordered later (within.trans (List.prefix_append _ _))
        rcases List.prefix_concat_iff.mp reached with same | within
        · obtain ⟨rfl, final⟩ := List.append_inj' same rfl
          obtain rfl := List.singleton_inj.mp final
          exact (extends_iff before next shorter).mp (ordered _ (List.prefix_refl _))
        · exact ih.mp shorter before next within
      · intro conditions later reached
        have shorter : InOrder step relation start inputs :=
          ih.mpr fun before next within =>
          conditions before next (within.trans (List.prefix_append _ _))
        rcases List.prefix_concat_iff.mp reached with rfl | within
        · exact (extends_iff inputs input shorter).mpr
            (conditions inputs input (List.prefix_refl _))
        · exact shorter later within

end Transition
