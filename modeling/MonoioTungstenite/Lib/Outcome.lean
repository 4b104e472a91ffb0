import Mathlib.Tactic.Common

/-! # Outcomes of fallible computations on a state

A call on a state `σ` ends in one of four ways: it returns a value, it returns an error, it panics, or
it is still waiting when the answers of its environment run out.  In every case it leaves a state
behind, so a call is modelled by a pair `Outcome ε π α × σ`, and `andThen` is the `?` operator: the
continuation runs on a returned value only, and everything else passes through with its state.

* `andThen_ok`, `andThen_err`, `andThen_panic`, `andThen_pending` compute it;
* `andThen_rule` is the rule of postconditions, `andThen_relates` its form for a relation between the
  state before and the state after, `andThen_ok_inv` the inversion of a successful run;
* `Agree` compares two calls, and `Agree.andThen` is its rule for chains.
-/

namespace Lib

/-- How a call ends. -/
inductive Outcome (ε π α : Type) where
  | ok (value : α)
  | err (error : ε)
  | panic (site : π)
  | pending
  deriving DecidableEq, Repr

variable {ε π α β σ : Type}

/-- The `?` operator on a call and the state it leaves. -/
def andThen (call : Outcome ε π α × σ) (rest : α → σ → Outcome ε π β × σ) : Outcome ε π β × σ :=
  match call with
  | (.ok value, state) => rest value state
  | (.err error, state) => (.err error, state)
  | (.panic site, state) => (.panic site, state)
  | (.pending, state) => (.pending, state)

@[simp] theorem andThen_ok (value : α) (state : σ) (rest : α → σ → Outcome ε π β × σ) :
    andThen (.ok value, state) rest = rest value state := rfl

@[simp] theorem andThen_err (error : ε) (state : σ) (rest : α → σ → Outcome ε π β × σ) :
    andThen (.err error, state) rest = (.err error, state) := rfl

@[simp] theorem andThen_panic (site : π) (state : σ) (rest : α → σ → Outcome ε π β × σ) :
    andThen (.panic site, state) rest = (.panic site, state) := rfl

@[simp] theorem andThen_pending (state : σ) (rest : α → σ → Outcome ε π β × σ) :
    andThen (.pending, state) rest = (.pending, state) := rfl

/-- Applies a function to a returned value. -/
def Outcome.map (f : α → β) : Outcome ε π α → Outcome ε π β
  | .ok value => .ok (f value)
  | .err error => .err error
  | .panic site => .panic site
  | .pending => .pending

/-- Puts a returned error into another type of errors. -/
def Outcome.mapError {ζ : Type} (f : ε → ζ) : Outcome ε π α → Outcome ζ π α
  | .ok value => .ok value
  | .err error => .err (f error)
  | .panic site => .panic site
  | .pending => .pending

/-- The same outcome at another type of value, for outcomes that carry none. -/
def Outcome.stopped : Outcome ε π α → Option (Outcome ε π β)
  | .ok _ => none
  | .err error => some (.err error)
  | .panic site => some (.panic site)
  | .pending => some .pending

/-- A chained call either runs its rest on a returned value or stops where the first call stopped. -/
theorem andThen_cases (call : Outcome ε π α × σ) (rest : α → σ → Outcome ε π β × σ) :
    (∃ value, call.1 = .ok value ∧ andThen call rest = rest value call.2) ∨
    (∃ stop, call.1.stopped = some stop ∧ andThen call rest = (stop, call.2)) := by
  obtain ⟨outcome, state⟩ := call
  cases outcome with
  | ok value => exact .inl ⟨value, rfl, rfl⟩
  | err error => exact .inr ⟨.err error, rfl, rfl⟩
  | panic site => exact .inr ⟨.panic site, rfl, rfl⟩
  | pending => exact .inr ⟨.pending, rfl, rfl⟩

/-- The rule of postconditions: one obligation where the first call stops, one for the rest. -/
theorem andThen_rule (post : Outcome ε π β × σ → Prop) {call : Outcome ε π α × σ}
    {rest : α → σ → Outcome ε π β × σ}
    (stops : ∀ stop, call.1.stopped = some stop → post (stop, call.2))
    (continues : ∀ value, call.1 = .ok value → post (rest value call.2)) :
    post (andThen call rest) := by
  rcases andThen_cases call rest with ⟨value, returned, equal⟩ | ⟨stop, stopped, equal⟩
  · rw [equal]; exact continues value returned
  · rw [equal]; exact stops stop stopped

/-- A transitive relation between states goes through a chained call. -/
theorem andThen_relates (relation : σ → σ → Prop) {start : σ}
    (trans : ∀ a b c, relation a b → relation b c → relation a c)
    {call : Outcome ε π α × σ} {rest : α → σ → Outcome ε π β × σ}
    (first : relation start call.2)
    (second : ∀ value state, relation state (rest value state).2) :
    relation start (andThen call rest).2 :=
  andThen_rule (fun result => relation start result.2) (fun _ _ => first)
    (fun value _ => trans _ _ _ first (second value call.2))

/-- A field of the state that neither call changes is not changed by their chain. -/
theorem andThen_keeps {γ : Type} (field : σ → γ) {call : Outcome ε π α × σ}
    {rest : α → σ → Outcome ε π β × σ}
    (second : ∀ value state, field (rest value state).2 = field state) :
    field (andThen call rest).2 = field call.2 :=
  andThen_rule (fun result => field result.2 = field call.2) (fun _ _ => rfl)
    (fun value _ => second value call.2)

theorem andThen_ok_inv {call : Outcome ε π α × σ} {rest : α → σ → Outcome ε π β × σ} {result : β}
    (returned : (andThen call rest).1 = .ok result) :
    ∃ value, call.1 = .ok value ∧ (rest value call.2).1 = .ok result ∧
      andThen call rest = rest value call.2 := by
  rcases andThen_cases call rest with ⟨value, first, equal⟩ | ⟨stop, stopped, equal⟩
  · exact ⟨value, first, by rw [← equal]; exact returned, equal⟩
  · rw [equal] at returned
    cases outcome : call.1 <;> simp_all [Outcome.stopped]

theorem andThen_err_inv {call : Outcome ε π α × σ} {rest : α → σ → Outcome ε π β × σ} {error : ε}
    (failed : (andThen call rest).1 = .err error) :
    (call.1 = .err error ∧ (andThen call rest).2 = call.2) ∨
    (∃ value, call.1 = .ok value ∧ (rest value call.2).1 = .err error ∧
      andThen call rest = rest value call.2) := by
  rcases andThen_cases call rest with ⟨value, first, equal⟩ | ⟨stop, stopped, equal⟩
  · exact .inr ⟨value, first, by rw [← equal]; exact failed, equal⟩
  · rw [equal] at failed ⊢
    cases outcome : call.1 <;> simp_all [Outcome.stopped]

/-- A chain without values stops with a first call that does not return. -/
theorem andThen_of_ne_ok {call : Outcome ε π Unit × σ} {rest : Unit → σ → Outcome ε π Unit × σ}
    (stopped : call.1 ≠ .ok ()) : andThen call rest = call := by
  obtain ⟨outcome, state⟩ := call
  cases outcome with
  | ok => exact absurd rfl stopped
  | err | panic | pending => rfl

/-- A change of the state that both calls let through goes through their chain. -/
theorem andThen_commutes (change : σ → σ) {call : Outcome ε π α × σ} {rest : α → σ → Outcome ε π β × σ}
    (second : ∀ value state, rest value (change state) = (rest value state).map id change) :
    andThen (call.map id change) rest = (andThen call rest).map id change := by
  obtain ⟨outcome, state⟩ := call
  cases outcome with
  | ok value => exact second value state
  | err | panic | pending => rfl

/-- `andThen_commutes`, for a first call that is known to let the change through. -/
theorem andThen_follows (change : σ → σ) {call changed : Outcome ε π α × σ}
    {rest : α → σ → Outcome ε π β × σ} (first : changed = call.map id change)
    (second : ∀ value state, rest value (change state) = (rest value state).map id change) :
    andThen changed rest = (andThen call rest).map id change := by
  rw [first]
  exact andThen_commutes change second

/-! ## Two calls -/

/-- The calls end alike, and where they return, in states that are related. -/
structure Agree {τ : Type} (related : σ → τ → Prop) (left : Outcome ε π α × σ) (right : Outcome ε π α × τ) : Prop where
  same : left.1 = right.1
  after : ∀ value, left.1 = .ok value → related left.2 right.2

/-- Calls that agree, with rests that agree on what the calls leave behind. -/
theorem Agree.andThen {τ : Type} {related next : σ → τ → Prop} {left : Outcome ε π α × σ} {right : Outcome ε π α × τ}
    {rest : α → σ → Outcome ε π β × σ} {other : α → τ → Outcome ε π β × τ} (calls : Agree related left right)
    (rests : ∀ value, left.1 = .ok value → related left.2 right.2 →
      Agree next (rest value left.2) (other value right.2)) :
    Agree next (Lib.andThen left rest) (Lib.andThen right other) := by
  obtain ⟨outcome, state⟩ := left
  obtain ⟨_, second⟩ := right
  obtain ⟨rfl, after⟩ := calls
  cases outcome with
  | ok value => exact rests value rfl (after value rfl)
  | err | panic | pending => exact ⟨rfl, fun _ returned => by cases returned⟩

/-- The call does not panic. -/
def NoPanic (call : Outcome ε π α × σ) : Prop := ∀ site, call.1 ≠ .panic site

end Lib
