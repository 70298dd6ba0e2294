import UniText.Proofs.Context.Requests
import UniText.Proofs.Converter.Delivery

/-! Destinations that turn out too small: to ask for the length takes nothing from a stream. -/

namespace UniText

namespace Written

variable {α : Type}

/-- What a caller takes out of a destination, or the fault that it is told. -/
def outcome (written : Written α) : Except Fault (List α) :=
  match written.status.fault? with
  | some fault => .error fault
  | none => .ok (written.dest.take written.length)

/-- The length of a result is told whether or not it fits. -/
@[simp] theorem length_fill (dest output : List α) : (fill dest output).length = output.length := by
  unfold fill
  split <;> rfl

/-- A destination with room for a result has the result taken out of it. -/
theorem outcome_ofResult {dest : List α} {result : Except Fault (List α)}
    (room : ∀ output, result = .ok output → output.length ≤ dest.length) :
    (ofResult dest result).outcome = result := by
  cases result with
  | error fault => simp [ofResult, failed, outcome]
  | ok output =>
    have fits : ¬dest.length < output.length := Nat.not_lt.mpr (room output rfl)
    have none : Status.success.fault? = none := by decide
    -- What is taken from the front is what has been written there.
    simp [ofResult, fill, if_neg fits, outcome, none]

end Written

/-- Destinations for whatever length is asked for. -/
structure Supply where
  /-- The destination of a length. -/
  dest : (length : Nat) → List UInt8
  /-- Each destination is of just that length. -/
  length_dest : ∀ length, (dest length).length = length

namespace Context

variable {context : Context} {handle : Handle} {input : List UInt8}

/-- A chunk that cannot be processed leaves everything as it was. -/
theorem process_of_error {fault : Fault}
    (failed : (context.process handle input).1 = .error fault) :
    (context.process handle input).2 = context := by
  cases found : context.pipeline handle with
  | error refused => simp [process, run, found]
  | ok pipeline =>
    rw [process, run_eq found] at failed ⊢
    -- The pipeline that is put back is the one that has been there.
    have same := Pipeline.eq_of_attempt (Prod.ext failed rfl)
    simpa only [same] using replace_self found

/-- A destination gets what processing gives, and only a success moves the stream on. -/
theorem processInto_eq (context : Context) (handle : Handle) (input dest : List UInt8) :
    context.processInto handle input dest =
      (.ofResult dest (context.process handle input).1,
        if (Written.ofResult dest (context.process handle input).1).status = .success then
          (context.process handle input).2
        else context) := by
  cases found : context.pipeline handle with
  | error fault => simp [processInto, process, run, found, Written.ofResult]
  | ok pipeline =>
    rw [processInto, process, run_eq found, found]
    rcases ran : pipeline.run context.table input false with ⟨fault | output, after⟩
    · simp [Pipeline.attempt, ran, Written.ofResult, replace_self found]
    · -- Either the pipeline has gone on, or it is put back where it was.
      simp only [Pipeline.attempt, ran, Written.ofResult]
      split
      · rfl
      · rw [replace_self found]

/-- With room for the output, a destination changes nothing about the processing. -/
theorem processInto_of_room {dest : List UInt8}
    (room : ∀ output, (context.process handle input).1 = .ok output →
      output.length ≤ dest.length) :
    ((context.processInto handle input dest).1.outcome, (context.processInto handle input dest).2)
      = context.process handle input := by
  -- Output that fits is all that the destination is good for, so that nothing is put back.
  rw [processInto_eq, Written.outcome_ofResult room]
  refine Prod.ext rfl ?_
  cases result : (context.process handle input).1 with
  | error fault => simp [process_of_error result]
  | ok output =>
    have fits : ¬dest.length < output.length := Nat.not_lt.mpr (room output result)
    simp [Written.ofResult, Written.fill, if_neg fits]

/-- Feeds a chunk into a destination, and again with the length that is asked for if it is too
small. -/
def preflight (context : Context) (handle : Handle) (input dest : List UInt8) (supply : Supply) :
    Except Fault (List UInt8) × Context :=
  let (written, after) := context.processInto handle input dest
  if written.status = .ofFault .bufferTooSmall then
    let (again, final) := after.processInto handle input (supply.dest written.length)
    (again.outcome, final)
  else (written.outcome, after)

/-- To ask for the length first makes no difference to what processing gives. -/
theorem preflight_eq (context : Context) (handle : Handle) (input dest : List UInt8)
    (supply : Supply) :
    context.preflight handle input dest supply = context.process handle input := by
  simp only [preflight]
  split
  · next small =>
    -- The first call has moved nothing on, so that the second one meets the same context.
    have unmoved : (context.processInto handle input dest).2 = context := by
      rw [processInto_eq] at small ⊢
      have failed : Status.ofFault .bufferTooSmall ≠ .success := by decide
      exact if_neg (small ▸ failed)
    rw [unmoved]
    -- It is given just the room that the first one has asked for.
    apply processInto_of_room
    intro output given
    rw [supply.length_dest, processInto_eq, given, Written.ofResult, Written.length_fill]
  · next other =>
    -- Output without room would have been told to be too long.
    apply processInto_of_room
    intro output given
    by_contra less
    rw [processInto_eq, given] at other
    simp [Written.ofResult, Written.fill, Nat.lt_of_not_le less] at other

/-- A request, or a chunk that is processed by way of destinations of fixed size. -/
inductive Entry where
  | request (request : Request)
  | preflight (handle : Handle) (input dest : List UInt8) (supply : Supply)

/-- The request that is made in the place of an entry by a caller with growing output. -/
def Entry.plain : Entry → Request
  | request asked => asked
  | preflight handle input _ _ => .call handle (.use (.process input))

/-- Answers an entry. -/
def answerEntry (context : Context) : Entry → Reply × Context
  | .request asked => context.answer asked
  | .preflight handle input dest supply =>
    (context.preflight handle input dest supply).map (fun result => .used (.output result)) id

/-- Answers entries in their order. -/
def answerEntries (context : Context) : List Entry → List Reply × Context
  | [] => ([], context)
  | entry :: later =>
    let (reply, after) := context.answerEntry entry
    let (replies, final) := after.answerEntries later
    (reply :: replies, final)

/-- An entry is answered as the plain request is. -/
theorem answerEntry_eq (context : Context) (entry : Entry) :
    context.answerEntry entry = context.answer entry.plain := by
  -- Asking for the length first makes no difference to the call itself.
  cases entry with
  | request asked => rfl
  | preflight handle input dest supply =>
    rw [answerEntry, preflight_eq]
    rfl

/-- A run in which both ways are mixed is answered as the plain one is. -/
theorem answerEntries_eq (context : Context) (entries : List Entry) :
    context.answerEntries entries = context.answerAll (entries.map Entry.plain) := by
  -- Each entry leaves the context that the plain request leaves, from which the others go on.
  induction entries generalizing context with
  | nil => rfl
  | cons entry later ih =>
    simp only [answerEntries, List.map_cons, answerAll, answerEntry_eq, ih]

/-- A destination of fixed size gets what processing gives, and costs a stream nothing.

Whatever its size, the destination is told the fault or the length of the output, and holds the
output if there is room for it; only then the context is the one after the processing. So a call
that is repeated with the length asked for gives what processing gives, and a run in which chunks
are processed either way goes on as the run in which they are processed as they are. -/
theorem processInto_delivers (context : Context) :
    (∀ handle input dest,
      Written.Delivers dest ((context.process handle input).1.mapError .ofFault)
        (context.processInto handle input dest).1 ∧
      (context.processInto handle input dest).2 =
        if (context.processInto handle input dest).1.status = .success then
          (context.process handle input).2
        else context) ∧
    (∀ handle input dest supply,
      context.preflight handle input dest supply = context.process handle input) ∧
    ∀ entries : List Entry,
      context.answerEntries entries = context.answerAll (entries.map Entry.plain) := by
  -- A destination holds what the growing call answers, or reports its length.
  refine ⟨?_, context.preflight_eq, context.answerEntries_eq⟩
  intro handle input dest
  rw [Written.delivers_iff, processInto_eq]
  exact ⟨rfl, rfl⟩

end Context

end UniText
