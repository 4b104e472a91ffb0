import Mathlib.Tactic.Common

/-! # Runs of a deterministic machine

A machine is a step function `σ → ι → ω × σ`: an input taken in a state gives an output and the next
state.  Whatever is not determined by the program (the choice of the next call, the answers of the
outside world) is part of the input, so a statement about every list of inputs is a statement about
every run.

* `final`, `trace`: the state a run ends in, and its inputs with their outputs;
* `final_invariant`, `trace_invariant`: what one step preserves holds along a run, also when every
  step of the run is known to meet a condition (`Meets`);
* `Simulates`: a machine that follows another one step by step follows it along every run;
* `Path`, `Refines`: a transition system, and a machine whose steps are among its moves.
-/

namespace Lib

variable {σ ι ω : Type} (step : σ → ι → ω × σ)

/-- The state a run ends in. -/
def final : σ → List ι → σ
  | state, [] => state
  | state, input :: inputs => final (step state input).2 inputs

/-- The inputs of a run, each with the output it got. -/
def trace : σ → List ι → List (ι × ω)
  | _, [] => []
  | state, input :: inputs => (input, (step state input).1) :: trace (step state input).2 inputs

/-- Every step of the run meets the condition `ok` on the state before it and its input. -/
def Meets (ok : σ → ι → Prop) : σ → List ι → Prop
  | _, [] => True
  | state, input :: inputs => ok state input ∧ Meets ok (step state input).2 inputs

@[simp] theorem final_nil (state : σ) : final step state [] = state := rfl

@[simp] theorem final_cons (state : σ) (input : ι) (inputs : List ι) :
    final step state (input :: inputs) = final step (step state input).2 inputs := rfl

@[simp] theorem trace_nil (state : σ) : trace step state [] = [] := rfl

@[simp] theorem trace_cons (state : σ) (input : ι) (inputs : List ι) :
    trace step state (input :: inputs) =
      (input, (step state input).1) :: trace step (step state input).2 inputs := rfl

theorem final_append (state : σ) (first second : List ι) :
    final step state (first ++ second) = final step (final step state first) second := by
  induction first generalizing state with
  | nil => rfl
  | cons input inputs inductionHypothesis => exact inductionHypothesis _

variable {step}

theorem meets_append {ok : σ → ι → Prop} {state : σ} {first second : List ι} :
    Meets step ok state (first ++ second) ↔
      Meets step ok state first ∧ Meets step ok (final step state first) second := by
  induction first generalizing state with
  | nil => simp [Meets]
  | cons input inputs inductionHypothesis =>
    simp only [List.cons_append, Meets, final_cons, inductionHypothesis, and_assoc]

/-- A condition that every input of the run meets, in whatever state. -/
theorem meets_of_mem {ok : σ → ι → Prop} {inputs : List ι} (always : ∀ input ∈ inputs, ∀ state, ok state input)
    (state : σ) : Meets step ok state inputs := by
  induction inputs generalizing state with
  | nil => trivial
  | cons input inputs inductionHypothesis =>
    rw [List.forall_mem_cons] at always
    exact ⟨always.1 state, inductionHypothesis always.2 _⟩

theorem meets_of_forall {ok : σ → ι → Prop} (always : ∀ state input, ok state input) (state : σ)
    (inputs : List ι) : Meets step ok state inputs :=
  meets_of_mem (fun input _ state => always state input) state

/-- An invariant of the steps that meet the condition holds at the end of a run that meets it. -/
theorem final_invariant {invariant : σ → Prop} {ok : σ → ι → Prop}
    (preserved : ∀ state input, invariant state → ok state input → invariant (step state input).2)
    {state : σ} {inputs : List ι} (initial : invariant state) (meets : Meets step ok state inputs) :
    invariant (final step state inputs) := by
  induction inputs generalizing state with
  | nil => exact initial
  | cons input inputs inductionHypothesis =>
    exact inductionHypothesis (preserved state input initial meets.1) meets.2

/-- `final_invariant` for a property every step preserves. -/
theorem final_preserves {invariant : σ → Prop}
    (preserved : ∀ state input, invariant state → invariant (step state input).2)
    {state : σ} (inputs : List ι) (initial : invariant state) :
    invariant (final step state inputs) :=
  have always : Meets step (fun _ _ => True) state inputs := meets_of_forall (fun _ _ => trivial) _ _
  final_invariant (fun state input holds _ => preserved state input holds) initial always

/-- An invariant of the trace so far and the state, for runs whose steps meet a condition. -/
theorem trace_invariant {invariant : List (ι × ω) → σ → Prop} {ok : σ → ι → Prop}
    (preserved : ∀ past state input, invariant past state → ok state input →
      invariant (past ++ [(input, (step state input).1)]) (step state input).2)
    {past : List (ι × ω)} {state : σ} {inputs : List ι} (initial : invariant past state)
    (meets : Meets step ok state inputs) :
    invariant (past ++ trace step state inputs) (final step state inputs) := by
  induction inputs generalizing past state with
  | nil => simpa using initial
  | cons input inputs inductionHypothesis =>
    have next := inductionHypothesis (preserved past state input initial meets.1) meets.2
    simpa using next

/-- The inputs of a trace are those of the run. -/
theorem trace_inputs (state : σ) (inputs : List ι) : (trace step state inputs).map Prod.fst = inputs := by
  induction inputs generalizing state with
  | nil => rfl
  | cons input inputs inductionHypothesis => exact congrArg (List.cons input) (inductionHypothesis _)

theorem trace_append (state : σ) (first second : List ι) :
    trace step state (first ++ second) = trace step state first ++ trace step (final step state first) second := by
  induction first generalizing state with
  | nil => rfl
  | cons input inputs inductionHypothesis => exact congrArg (List.cons _) (inductionHypothesis _)

/-! ## Two machines -/

section Simulates

variable {τ : Type} {other : τ → ι → ω × τ} {related : σ → τ → Prop}

/-- Related states give the same output, and states that are related again. -/
def Simulates (step : σ → ι → ω × σ) (other : τ → ι → ω × τ) (related : σ → τ → Prop) : Prop :=
  ∀ state twin input, related state twin →
    (step state input).1 = (other twin input).1 ∧ related (step state input).2 (other twin input).2

theorem Simulates.final (simulates : Simulates step other related) {state : σ} {twin : τ} (start : related state twin)
    (inputs : List ι) : related (final step state inputs) (final other twin inputs) := by
  induction inputs generalizing state twin with
  | nil => exact start
  | cons input inputs inductionHypothesis => exact inductionHypothesis (simulates state twin input start).2

theorem Simulates.trace (simulates : Simulates step other related) {state : σ} {twin : τ} (start : related state twin)
    (inputs : List ι) : trace step state inputs = trace other twin inputs := by
  induction inputs generalizing state twin with
  | nil => rfl
  | cons input inputs inductionHypothesis =>
    obtain ⟨same, next⟩ := simulates state twin input start
    rw [trace_cons, trace_cons, same, inductionHypothesis next]

theorem Simulates.meets_iff (simulates : Simulates step other related) {ok : σ → ι → Prop} {okToo : τ → ι → Prop}
    (conditions : ∀ state twin input, related state twin → (ok state input ↔ okToo twin input)) {state : σ} {twin : τ}
    (start : related state twin) {inputs : List ι} : Meets step ok state inputs ↔ Meets other okToo twin inputs := by
  induction inputs generalizing state twin with
  | nil => exact Iff.rfl
  | cons input inputs inductionHypothesis =>
    rw [Meets, Meets, conditions state twin input start, inductionHypothesis (simulates state twin input start).2]

end Simulates

/-! ## Transition systems -/

/-- The labels on a way from one state to another. -/
inductive Path {α κ : Type} (moves : κ → α → α → Prop) : α → List κ → α → Prop
  | refl (state : α) : Path moves state [] state
  | step {before next after : α} {label : κ} {labels : List κ} (move : moves label before next)
    (rest : Path moves next labels after) : Path moves before (label :: labels) after

section Path

variable {α κ : Type} {moves : κ → α → α → Prop}

theorem Path.append {before between after : α} {first second : List κ} (left : Path moves before first between)
    (right : Path moves between second after) : Path moves before (first ++ second) after := by
  induction left with
  | refl state => exact right
  | step move rest inductionHypothesis => exact .step move (inductionHypothesis right)

/-- An invariant of the labels so far and the state, for every way. -/
theorem Path.invariant {invariant : List κ → α → Prop}
    (preserved : ∀ past before label after, invariant past before → moves label before after →
      invariant (past ++ [label]) after)
    {past : List κ} {before after : α} {labels : List κ} (initial : invariant past before)
    (path : Path moves before labels after) : invariant (past ++ labels) after := by
  induction path generalizing past with
  | refl state =>
    rw [List.append_nil]
    exact initial
  | step move rest inductionHypothesis =>
    have next := inductionHypothesis (preserved _ _ _ _ initial move)
    rwa [List.append_assoc] at next

/-- On related states, a step that meets the condition is a move, with its input and output as the label. -/
def Refines (step : σ → ι → ω × σ) (moves : ι × ω → α → α → Prop) (ok : σ → ι → Prop)
    (related : σ → α → Prop) : Prop :=
  ∀ state abstract input, related state abstract → ok state input →
    ∃ next, moves (input, (step state input).1) abstract next ∧ related (step state input).2 next

/-- The trace of a run that meets the condition is a way of the transition system. -/
theorem Refines.path {moves : ι × ω → α → α → Prop} {ok : σ → ι → Prop} {related : σ → α → Prop}
    (refines : Refines step moves ok related) {state : σ} {abstract : α} (start : related state abstract)
    {inputs : List ι} (meets : Meets step ok state inputs) :
    ∃ last, Path moves abstract (trace step state inputs) last ∧ related (final step state inputs) last := by
  induction inputs generalizing state abstract with
  | nil => exact ⟨abstract, .refl abstract, start⟩
  | cons input inputs inductionHypothesis =>
    obtain ⟨next, move, goesOn⟩ := refines state abstract input start meets.1
    obtain ⟨last, rest, ends⟩ := inductionHypothesis goesOn meets.2
    exact ⟨last, .step move rest, ends⟩

end Path

end Lib
