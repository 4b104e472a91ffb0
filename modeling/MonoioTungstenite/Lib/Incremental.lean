import Mathlib.Tactic.Common

/-! # Incremental decoders

A decoder that is called on a growing buffer: each call takes an item off the front, fails, or waits
for more input, having perhaps already consumed some of it into its state.  A decoder is `Incremental`
when a call never has to be taken back: more input behind the buffer changes neither an item nor a
failure, and a call that waited resumes where it stopped.

* `drain` calls the decoder until it no longer returns an item, `feed` does so after each chunk;
* `drain_append`: draining a longer buffer continues from where draining the shorter one stopped;
* `feed_eq_drain`: the chunks do not matter, only the bytes.
-/

namespace Lib

variable {σ α φ ε : Type}

/-- What one call of a decoder does to its state and buffer. -/
inductive Decoding (σ α φ ε : Type) where
  | item (value : φ) (state : σ) (buffer : List α)
  | fail (error : ε)
  | wait (state : σ) (buffer : List α)

/-- A decoder whose calls are stable under more input, and whose items use up input. -/
structure Incremental (σ α φ ε : Type) where
  step : σ → List α → Decoding σ α φ ε
  weight : σ → Nat
  item_shrinks : ∀ {state buffer value state' buffer'}, step state buffer = .item value state' buffer' →
    weight state' + buffer'.length < weight state + buffer.length
  item_append : ∀ {state buffer value state' buffer'}, step state buffer = .item value state' buffer' →
    ∀ more, step state (buffer ++ more) = .item value state' (buffer' ++ more)
  fail_append : ∀ {state buffer error}, step state buffer = .fail error →
    ∀ more, step state (buffer ++ more) = .fail error
  wait_append : ∀ {state buffer state' buffer'}, step state buffer = .wait state' buffer' →
    ∀ more, step state (buffer ++ more) = step state' (buffer' ++ more)

/-- How a decoder stands after it has returned all the items it can. -/
inductive Rest (σ α ε : Type) where
  | failed (error : ε)
  | waiting (state : σ) (buffer : List α)

namespace Incremental

variable (decoder : Incremental σ α φ ε)

/-- Calls the decoder until it no longer returns an item. -/
def drain (state : σ) (buffer : List α) : List φ × Rest σ α ε :=
  match _called : decoder.step state buffer with
  | .item value state' buffer' => (value :: (drain state' buffer').1, (drain state' buffer').2)
  | .fail error => ([], .failed error)
  | .wait state' buffer' => ([], .waiting state' buffer')
termination_by decoder.weight state + buffer.length
decreasing_by all_goals exact decoder.item_shrinks _called

/-- Appends each chunk to the buffer and drains it, up to the first failure. -/
def feed (state : σ) (buffer : List α) : List (List α) → List φ × Rest σ α ε
  | [] => ([], .waiting state buffer)
  | chunk :: chunks =>
    match decoder.drain state (buffer ++ chunk) with
    | (items, .failed error) => (items, .failed error)
    | (items, .waiting state' buffer') =>
      (items ++ (feed state' buffer' chunks).1, (feed state' buffer' chunks).2)

variable {decoder}

theorem drain_item {state state' : σ} {buffer buffer' : List α} {value : φ}
    (called : decoder.step state buffer = .item value state' buffer') :
    decoder.drain state buffer =
      (value :: (decoder.drain state' buffer').1, (decoder.drain state' buffer').2) := by
  rw [drain]
  split <;> simp_all

theorem drain_fail {state : σ} {buffer : List α} {error : ε}
    (called : decoder.step state buffer = .fail error) :
    decoder.drain state buffer = ([], .failed error) := by
  rw [drain]
  split <;> simp_all

theorem drain_wait {state state' : σ} {buffer buffer' : List α}
    (called : decoder.step state buffer = .wait state' buffer') :
    decoder.drain state buffer = ([], .waiting state' buffer') := by
  rw [drain]
  split <;> simp_all

/-- A decoder that has waited waits again on the same buffer. -/
theorem wait_settles {state state' : σ} {buffer buffer' : List α}
    (called : decoder.step state buffer = .wait state' buffer') :
    decoder.step state' buffer' = .wait state' buffer' := by
  have resumed := decoder.wait_append called []
  rw [List.append_nil, List.append_nil, called] at resumed
  exact resumed.symm

/-- Draining a longer buffer goes on from where draining the shorter one stopped. -/
theorem drain_append (state : σ) (buffer more : List α) :
    decoder.drain state (buffer ++ more) =
      match decoder.drain state buffer with
      | (items, .failed error) => (items, .failed error)
      | (items, .waiting state' buffer') =>
        (items ++ (decoder.drain state' (buffer' ++ more)).1, (decoder.drain state' (buffer' ++ more)).2) := by
  cases called : decoder.step state buffer with
  | item value state' buffer' =>
    have shrinks := decoder.item_shrinks called
    have inductionHypothesis := drain_append state' buffer' more
    rw [drain_item (decoder.item_append called more), inductionHypothesis, drain_item called]
    rcases decoder.drain state' buffer' with ⟨items, error | ⟨last, rest⟩⟩ <;> rfl
  | fail error => rw [drain_fail (decoder.fail_append called more), drain_fail called]
  | wait state' buffer' =>
    rw [drain_wait called]
    -- the whole buffer is decoded from the state the first call left
    have resumed := decoder.wait_append called more
    simp only [List.nil_append]
    conv_lhs => rw [drain]
    conv_rhs => rw [drain]
    rw [resumed]
termination_by decoder.weight state + buffer.length

/-- After a call that waited, more input is drained from where the call stopped. -/
theorem drain_resumed {state state' : σ} {buffer buffer' : List α}
    (called : decoder.step state buffer = .wait state' buffer') (more : List α) :
    decoder.drain state (buffer ++ more) = decoder.drain state' (buffer' ++ more) := by
  rw [drain_append state buffer more, drain_wait called]
  rfl

/-- Where draining stops to wait, one more call waits in the same place. -/
theorem drain_settles {state state' : σ} {buffer buffer' : List α} {items : List φ}
    (drained : decoder.drain state buffer = (items, .waiting state' buffer')) :
    decoder.step state' buffer' = .wait state' buffer' := by
  cases called : decoder.step state buffer with
  | item value next rest =>
    have shrinks := decoder.item_shrinks called
    rw [drain_item called] at drained
    obtain ⟨tail, restDrained⟩ : ∃ tail, decoder.drain next rest = (tail, .waiting state' buffer') :=
      ⟨_, Prod.ext rfl (by simpa using congrArg Prod.snd drained)⟩
    exact drain_settles restDrained
  | fail error => rw [drain_fail called] at drained; cases drained
  | wait next rest =>
    rw [drain_wait called] at drained
    cases drained
    exact wait_settles called
termination_by decoder.weight state + buffer.length

/-- A property of every failure of a call holds of the failure that draining ends in. -/
theorem drain_failed (failure : ε → Prop)
    (fails : ∀ {state buffer error}, decoder.step state buffer = .fail error → failure error)
    {state : σ} {buffer : List α} {error : ε} (failed : (decoder.drain state buffer).2 = .failed error) :
    failure error := by
  cases called : decoder.step state buffer with
  | item value next rest =>
    have shrinks := decoder.item_shrinks called
    rw [drain_item called] at failed
    exact drain_failed failure fails failed
  | fail other =>
    rw [drain_fail called] at failed
    cases failed
    exact fails called
  | wait next rest => rw [drain_wait called] at failed; cases failed
termination_by decoder.weight state + buffer.length

/-- The chunks do not matter: feeding them is draining their concatenation. -/
theorem feed_eq_drain {state : σ} {buffer : List α}
    (settled : decoder.step state buffer = .wait state buffer) (chunks : List (List α)) :
    decoder.feed state buffer chunks = decoder.drain state (buffer ++ chunks.flatten) := by
  induction chunks generalizing state buffer with
  | nil => rw [feed, List.flatten_nil, List.append_nil, drain_wait settled]
  | cons chunk chunks inductionHypothesis =>
    rw [feed, List.flatten_cons, ← List.append_assoc, drain_append state (buffer ++ chunk) chunks.flatten]
    rcases drained : decoder.drain state (buffer ++ chunk) with ⟨items, error | ⟨last, rest⟩⟩
    · rfl
    · simp only [inductionHypothesis (drain_settles drained)]

end Incremental

end Lib
