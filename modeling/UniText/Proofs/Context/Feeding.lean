import UniText.CodePoint

/-! Feeding a stream in chunks: calls that are in step with the whole make up the whole. -/

namespace UniText

variable {σ ε : Type}

/-- Feeds the chunks of a stream one after the other, and then ends the stream.

The outputs of the calls are put together, unless one of the calls fails, which ends this. -/
def feedAll (feed : σ → List UInt8 → Except ε (List UInt8) × σ)
    (finish : σ → Except ε (List UInt8) × σ) (state : σ) :
    List (List UInt8) → Except ε (List UInt8) × σ
  | [] => finish state
  | chunk :: chunks =>
    match feed state chunk with
    | (.error error, after) => (.error error, after)
    | (.ok output, after) =>
      let (rest, final) := feedAll feed finish after chunks
      (rest.map (output ++ ·), final)

/-- A result that is changed is there exactly when it was there before. -/
theorem map_eq_ok_iff {α β : Type} {result : Except ε α} {change : α → β} {output : β} :
    result.map change = .ok output ↔ ∃ input, result = .ok input ∧ output = change input := by
  cases result <;> simp [Except.map, eq_comm]

/-- The outcome of feeding a chunk is in step with the stream as a whole.

Either what comes out of the chunk stands before what the state afterwards gives for the rest, or
the stream as a whole gives nothing. -/
inductive InStep (gives : σ → List UInt8 → List UInt8 → Prop) (within : σ → Prop) (state : σ)
    (chunk : List UInt8) : Except ε (List UInt8) × σ → Prop
  | passed {front : List UInt8} {after : σ} (goesOn : within after)
    (whole : ∀ rest output, gives state (chunk ++ rest) output ↔
      ∃ back, gives after rest back ∧ output = front ++ back) :
    InStep gives within state chunk (.ok front, after)
  | failed {error : ε} {after : σ} (whole : ∀ rest output, ¬gives state (chunk ++ rest) output) :
    InStep gives within state chunk (.error error, after)

/-- A chunk is in step if its result and what comes out of the rest make up the whole. -/
theorem InStep.of_parts {gives : σ → List UInt8 → List UInt8 → Prop} {within : σ → Prop}
    {state after : σ} {chunk : List UInt8} {result : Except ε (List UInt8)} (goesOn : within after)
    (parts : ∀ rest output, gives state (chunk ++ rest) output ↔
      ∃ front back, result = .ok front ∧ gives after rest back ∧ output = front ++ back) :
    InStep gives within state chunk (result, after) := by
  cases result with
  | error error =>
    -- A result that is missing is missing from every output of the whole.
    exact .failed fun rest output given => by simp [parts] at given
  | ok front => exact .passed goesOn fun rest output => by simp [parts]

/-- The end of a stream gives what is left, and leads back to the start. -/
def EndsWell (gives : σ → List UInt8 → List UInt8 → Prop) (start state : σ)
    (outcome : Except ε (List UInt8) × σ) : Prop :=
  -- Only a stream that has ended without an error is followed by another one.
  ∀ output, (outcome.1 = .ok output ↔ gives state [] output) ∧
    (outcome.1 = .ok output → outcome.2 = start)

variable {feed : σ → List UInt8 → Except ε (List UInt8) × σ}
  {finish : σ → Except ε (List UInt8) × σ} {gives : σ → List UInt8 → List UInt8 → Prop}
  {within : σ → Prop} {start : σ}

/-- A stream that is fed in step gives what the whole of it gives, and leads back to the start. -/
theorem feedAll_eq_ok_iff
    (step : ∀ state, within state → ∀ chunk, InStep gives within state chunk (feed state chunk))
    (ending : ∀ state, within state → EndsWell gives start state (finish state))
    (chunks : List (List UInt8)) {state : σ} (goesOn : within state) (output : List UInt8) :
    ((feedAll feed finish state chunks).1 = .ok output ↔ gives state chunks.flatten output) ∧
      ((feedAll feed finish state chunks).1 = .ok output →
        (feedAll feed finish state chunks).2 = start) := by
  -- The induction carries over from one call to the next that the stream is still going on.
  induction chunks generalizing state output with
  | nil => exact ending state goesOn output
  | cons chunk chunks ih =>
    have first := step state goesOn chunk
    rw [feedAll, List.flatten_cons]
    generalize feed state chunk = outcome at first
    cases first with
    | failed whole => simp [whole]
    | @passed front after goesOn whole =>
      obtain ⟨⟨rest, final⟩, others⟩ : ∃ outcome, feedAll feed finish after chunks = outcome :=
        ⟨_, rfl⟩
      have later (back : List UInt8) := ih goesOn back
      simp only [others] at later ⊢
      rw [whole, map_eq_ok_iff]
      -- What comes out of the first chunk comes before what comes out of the others.
      constructor
      · constructor
        · rintro ⟨back, given, rfl⟩
          exact ⟨back, (later back).1.mp given, rfl⟩
        · rintro ⟨back, given, rfl⟩
          exact ⟨back, (later back).1.mpr given, rfl⟩
      · rintro ⟨back, given, -⟩
        exact (later back).2 given

end UniText
