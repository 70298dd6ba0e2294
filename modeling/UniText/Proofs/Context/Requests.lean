import UniText.Proofs.Context.Stream

/-! Requests to a context, made one after the other, and what becomes of those that are refused. -/

namespace UniText

/-- What can be asked of a handle by itself and in the scope that guards it. -/
inductive Use where
  | process (input : List UInt8)
  | processInto (input dest : List UInt8)
  | finish
  deriving DecidableEq, Repr

/-- What can be asked of a handle. -/
inductive Call where
  | use (use : Use)
  | reset
  | close
  /-- The handle is used in a scope, at the end of which it is closed or given back. -/
  | guarded (uses : List Use) (scopeEnd : Context.ScopeEnd)
  deriving DecidableEq, Repr

/-- What a handle can be opened for. -/
inductive Opening where
  | converter (source target : String) (policy : ErrorPolicy)
  | normalizer (form : Form) (charset : String) (policy : ErrorPolicy)
  deriving DecidableEq, Repr

/-- What can be asked of a context. -/
inductive Request where
  | opening (opening : Opening)
  | call (handle : Handle) (call : Call)
  deriving DecidableEq, Repr

/-- What a use of a handle is answered with. -/
inductive Answer where
  | output (result : Except Fault (List UInt8))
  | written (result : Written UInt8)
  deriving DecidableEq

/-- What a request is answered with. -/
inductive Reply where
  | opened (result : Except Fault Handle)
  | used (answer : Answer)
  | done (result : Except Fault Unit)
  | guarded (answers : List Answer)
  deriving DecidableEq

/-- The destination of a use, if it has one. -/
def Use.dest? : Use → Option (List UInt8)
  | processInto _ dest => some dest
  | process _ | finish => none

/-- The destination after a use, if it has one. -/
def Answer.dest? : Answer → Option (List UInt8)
  | written result => some result.dest
  | output _ => none

/-- The destination of a request, if it has one. -/
def Request.dest? : Request → Option (List UInt8)
  | call _ (.use use) => use.dest?
  | call _ .reset | call _ .close | call _ (.guarded _ _) | opening _ => none

/-- The destination after a request, if it has one. -/
def Reply.dest? : Reply → Option (List UInt8)
  | used answer => answer.dest?
  | opened _ | done _ | guarded _ => none

/-- Whether the answer to a use reports an error. -/
def Answer.failed : Answer → Bool
  | output (.ok _) => false
  | output (.error _) => true
  | written result => result.status ≠ .success

/-- Whether the reply to a request reports an error, which for a scope only the uses in it do. -/
def Reply.failed : Reply → Bool
  | opened (.ok _) | done (.ok _) | guarded _ => false
  | opened (.error _) | done (.error _) => true
  | used answer => answer.failed

namespace Context

/-- Makes use of a handle. -/
def use (context : Context) (handle : Handle) : Use → Answer × Context
  | .process input => (context.process handle input).map .output id
  | .processInto input dest => (context.processInto handle input dest).map .written id
  | .finish => (context.finish handle).map .output id

/-- Makes use of a handle several times. -/
def useAll (context : Context) (handle : Handle) : List Use → List Answer × Context
  | [] => ([], context)
  | use :: later =>
    let (answer, after) := context.use handle use
    let (answers, final) := after.useAll handle later
    (answer :: answers, final)

/-- Answers a request. -/
def answer (context : Context) : Request → Reply × Context
  | .opening (.converter source target policy) =>
    (context.openConverter source target policy).map .opened id
  | .opening (.normalizer form charset policy) =>
    (context.openNormalizer form charset policy).map .opened id
  | .call handle (.use use) => (context.use handle use).map .used id
  | .call handle .reset => (context.reset handle).map .done id
  | .call handle .close => (context.close handle).map .done id
  | .call handle (.guarded uses scopeEnd) =>
    let scope := context.withScope handle fun handle context =>
      let (answers, after) := context.useAll handle uses
      (answers, scopeEnd, after)
    scope.map .guarded id

/-- Answers requests in their order. -/
def answerAll (context : Context) : List Request → List Reply × Context
  | [] => ([], context)
  | request :: later =>
    let (reply, after) := context.answer request
    let (replies, final) := after.answerAll later
    (reply :: replies, final)

end Context

/-! ### What a call does to the pipeline of its handle -/

namespace Pipeline

/-- Runs input through a pipeline, which is as before if that fails. -/
def attempt (table : PropertyTable) (pipeline : Pipeline) (input : List UInt8) (flush : Bool) :
    Except Fault (List UInt8) × Pipeline :=
  match pipeline.run table input flush with
  | (.ok output, after) => (.ok output, after)
  | (.error fault, _) => (.error fault, pipeline)

/-- What a use makes of a pipeline. -/
def use (table : PropertyTable) (pipeline : Pipeline) : Use → Answer × Pipeline
  | .process input => (pipeline.attempt table input false).map .output id
  | .processInto input dest =>
    match pipeline.attempt table input false with
    | (.error fault, after) => (.written (.failed dest fault), after)
    | (.ok output, after) =>
      let written := Written.fill dest output
      (.written written, if written.status = .success then after else pipeline)
  | .finish =>
    match pipeline.attempt table [] true with
    | (.error fault, after) => (.output (.error fault), after)
    | (.ok output, after) => (.output (.ok output), after.reset)

/-- What several uses make of a pipeline. -/
def useAll (table : PropertyTable) (pipeline : Pipeline) : List Use → List Answer × Pipeline
  | [] => ([], pipeline)
  | use :: later =>
    let (answer, after) := pipeline.use table use
    let (answers, final) := after.useAll table later
    (answer :: answers, final)

/-- What a call makes of a pipeline, which is gone if the call closes the handle. -/
def call (table : PropertyTable) (pipeline : Pipeline) : Call → Reply × Option Pipeline
  | .use use => (pipeline.use table use).map .used some
  | .reset => (.done (.ok ()), some pipeline.reset)
  | .close => (.done (.ok ()), none)
  | .guarded uses scopeEnd =>
    let (answers, after) := pipeline.useAll table uses
    (.guarded answers, if scopeEnd = .keep then some after else none)

end Pipeline

/-- How a use of a handle is refused that is closed or was never opened. -/
def Use.refusal : Use → Answer
  | process _ | finish => .output (.error .invalidHandle)
  | processInto _ dest => .written (.failed dest .invalidHandle)

/-- How a call to a handle is refused that is closed or was never opened. -/
def Call.refusal : Call → Reply
  | use asked => .used asked.refusal
  | reset | close => .done (.error .invalidHandle)
  | guarded uses _ => .guarded (uses.map Use.refusal)

/-- The pipeline that a handle is opened with. -/
def Opening.start : Opening → Except Fault Pipeline
  | converter source target policy => do
    let source ← Charset.ofName source
    let target ← Charset.ofName target
    return .converting (.new source policy) (.new target policy)
  | normalizer form charset policy => do
    let charset ← Charset.ofName charset
    return .normalizing (.new charset policy) (.new form)

namespace Context

variable {context : Context} {handle : Handle} {pipeline : Pipeline}

/-- The slot of a handle is given free, in its next generation. -/
def vacate (context : Context) (handle : Handle) : Context :=
  { context with
    slots := context.slots.set handle.index.toNat ⟨handle.generation + 1, none⟩
    free := handle.index :: context.free }

/-- The context in which a handle refers to another pipeline, or is closed. -/
def put (context : Context) (handle : Handle) : Option Pipeline → Context
  | some pipeline => context.replace handle pipeline
  | none => context.vacate handle

/-- A handle that refers to no pipeline is refused for just that reason. -/
theorem eq_invalidHandle_of_pipeline {fault : Fault}
    (refused : context.pipeline handle = .error fault) : fault = .invalidHandle := by
  -- There is only one reason for which a handle is refused.
  unfold Context.pipeline at refused
  repeat' split at refused
  all_goals simp_all

/-- A handle is opened with a pipeline that the request alone decides on. -/
theorem answer_opening (context : Context) (opening : Opening) :
    context.answer (.opening opening) =
      match opening.start with
      | .ok pipeline => (.opened (.ok (context.insert pipeline).1), (context.insert pipeline).2)
      | .error fault => (.opened (.error fault), context) := by
  -- The names are looked up first, and what is opened then is put into a slot.
  cases opening with
  | converter source target policy =>
    simp only [answer, openConverter, Opening.start]
    cases Charset.ofName source <;> cases Charset.ofName target <;> rfl
  | normalizer form charset policy =>
    simp only [answer, openNormalizer, Opening.start]
    cases Charset.ofName charset <;> rfl

/-- What is put in the place of a pipeline is put in the place of any other. -/
@[simp] theorem put_replace (context : Context) (handle : Handle) (pipeline : Pipeline)
    (other : Option Pipeline) :
    (context.replace handle pipeline).put handle other = context.put handle other := by
  -- The slot is written over.
  cases other with
  | none => simp [put, vacate, replace]
  | some other => exact replace_replace context handle pipeline other

/-- Closing an open handle vacates its slot. -/
theorem close_eq (opened : context.pipeline handle = .ok pipeline) :
    context.close handle = (.ok (), context.put handle none) := by
  simp [close, opened, put, vacate]

/-- Input for an open handle is run through its pipeline. -/
theorem run_eq (opened : context.pipeline handle = .ok pipeline) (input : List UInt8)
    (flush : Bool) :
    context.run handle input flush = ((pipeline.attempt context.table input flush).1,
      context.replace handle (pipeline.attempt context.table input flush).2) := by
  -- A failed run puts the pipeline back, and so does the attempt.
  simp only [run, opened, Pipeline.attempt]
  rcases pipeline.run context.table input flush with ⟨fault | output, after⟩ <;> rfl

/-- A use of an open handle is a use of its pipeline. -/
theorem use_eq (opened : context.pipeline handle = .ok pipeline) (use : Use) :
    context.use handle use = ((pipeline.use context.table use).1,
      context.replace handle (pipeline.use context.table use).2) := by
  cases use with
  | process input =>
    simp only [Context.use, process, run_eq opened, Pipeline.use]
    rfl
  | processInto input dest =>
    simp only [Context.use, processInto, opened, Pipeline.use, Pipeline.attempt]
    rcases pipeline.run context.table input false with ⟨fault | output, after⟩ <;> rfl
  | finish =>
    simp only [Context.use, finish, run_eq opened, Pipeline.use]
    rcases pipeline.attempt context.table [] true with ⟨result, after⟩
    cases result with
    | error fault => rfl
    | ok output =>
      -- The reset finds the pipeline that the run has left.
      simp [reset, pipeline_replace opened]

/-- Several uses of an open handle are as many uses of its pipeline. -/
theorem useAll_eq (opened : context.pipeline handle = .ok pipeline) (uses : List Use) :
    context.useAll handle uses = ((pipeline.useAll context.table uses).1,
      context.replace handle (pipeline.useAll context.table uses).2) := by
  -- Each use finds in the slot what the one before has left.
  induction uses generalizing context pipeline with
  | nil => simp [useAll, Pipeline.useAll, replace_self opened]
  | cons use later hypothesis =>
    have reopened := pipeline_replace opened (pipeline.use context.table use).2
    simp [useAll, Pipeline.useAll, use_eq opened, hypothesis reopened]

/-- A call to an open handle is answered by its pipeline, and changes nothing else. -/
theorem answer_call (opened : context.pipeline handle = .ok pipeline) (call : Call) :
    context.answer (.call handle call) = ((pipeline.call context.table call).1,
      context.put handle (pipeline.call context.table call).2) := by
  cases call with
  | use use =>
    simp only [answer, use_eq opened]
    rfl
  | reset =>
    simp only [answer, reset, opened]
    rfl
  | close =>
    simp only [answer, close_eq opened]
    rfl
  | guarded uses scopeEnd =>
    -- The scope ends with the pipeline that its uses have left.
    simp only [answer, withScope, useAll_eq opened, Pipeline.call]
    cases scopeEnd with
    | keep => rfl
    | close =>
      have reopened := pipeline_replace opened (pipeline.useAll context.table uses).2
      simp [close_eq reopened]

/-- A handle that refers to no pipeline cannot be used, and nothing changes. -/
theorem use_of_refused {fault : Fault} (refused : context.pipeline handle = .error fault)
    (use : Use) : context.use handle use = (use.refusal, context) := by
  -- The handle is looked up before anything is done.
  have invalid := eq_invalidHandle_of_pipeline refused
  subst invalid
  cases use with
  | process input => simp [Context.use, process, run, refused, Use.refusal]
  | processInto input dest => simp [Context.use, processInto, refused, Use.refusal]
  | finish => simp [Context.use, finish, run, refused, Use.refusal]

/-- A handle that refers to no pipeline stays so while one tries to use it. -/
theorem useAll_of_refused {fault : Fault} (refused : context.pipeline handle = .error fault)
    (uses : List Use) : context.useAll handle uses = (uses.map Use.refusal, context) := by
  -- Every single use is refused, and none of them changes the context.
  induction uses with
  | nil => rfl
  | cons use later hypothesis => simp [useAll, use_of_refused refused, hypothesis]

/-- A call to a handle that refers to no pipeline is refused, and nothing changes. -/
theorem answer_of_refused {fault : Fault} (refused : context.pipeline handle = .error fault)
    (call : Call) : context.answer (.call handle call) = (call.refusal, context) := by
  -- Also at the end of a scope the handle is refused, which is passed over there.
  have invalid := eq_invalidHandle_of_pipeline refused
  cases call with
  | use use => simp [answer, use_of_refused refused, Call.refusal]
  | reset => simp [answer, reset, refused, Call.refusal, invalid]
  | close => simp [answer, close, refused, Call.refusal, invalid]
  | guarded uses scopeEnd =>
    cases scopeEnd with
    | keep => simp [answer, withScope, useAll_of_refused refused, Call.refusal]
    | close => simp [answer, withScope, useAll_of_refused refused, close, refused, Call.refusal]

/-- A context in which a pipeline has been opened has the number that it had. -/
@[simp] theorem number_insert (context : Context) (taken : Pipeline) :
    (context.insert taken).2.number = context.number := by
  -- Only the slots change, and the list of those that are free.
  unfold insert
  cases context.free <;> rfl

/-- A context in which a pipeline has been opened has the property table that it had. -/
@[simp] theorem table_insert (context : Context) (taken : Pipeline) :
    (context.insert taken).2.table = context.table := by
  -- As for the number, it is only the slots that an opening is about.
  unfold insert
  cases context.free <;> rfl

/-- No request changes the number of a context, or its property table. -/
theorem number_table_answer (context : Context) (request : Request) :
    (context.answer request).2.number = context.number ∧
      (context.answer request).2.table = context.table := by
  -- Opening takes a slot, a call that is accepted changes one, and all else changes nothing.
  cases request with
  | opening opening =>
    rw [answer_opening]
    cases opening.start with
    | error fault => exact ⟨rfl, rfl⟩
    | ok pipeline => exact ⟨number_insert context pipeline, table_insert context pipeline⟩
  | call handle call =>
    cases found : context.pipeline handle with
    | error fault =>
      rw [answer_of_refused found]
      exact ⟨rfl, rfl⟩
    | ok pipeline =>
      rw [answer_call found]
      cases (pipeline.call context.table call).2 <;> exact ⟨rfl, rfl⟩

/-- All requests leave the property table alone. -/
@[simp] theorem table_answer (context : Context) (request : Request) :
    (context.answer request).2.table = context.table :=
  (number_table_answer context request).2

/-- A context keeps its number in a run of requests. -/
@[simp] theorem number_answerAll (context : Context) (requests : List Request) :
    (context.answerAll requests).2.number = context.number := by
  -- Each request leaves the number to the next one.
  induction requests generalizing context with
  | nil => rfl
  | cons request later hypothesis =>
    exact (hypothesis _).trans (number_table_answer context request).1

/-- A run of requests leaves the property table alone. -/
@[simp] theorem table_answerAll (context : Context) (requests : List Request) :
    (context.answerAll requests).2.table = context.table := by
  -- Each request leaves the table to the next one.
  induction requests generalizing context with
  | nil => rfl
  | cons request later hypothesis => simp [answerAll, hypothesis]

end Context

/-! ### Requests that fail -/

namespace Pipeline

/-- A run that fails leaves the pipeline as it was. -/
theorem eq_of_attempt {table : PropertyTable} {pipeline after : Pipeline} {input : List UInt8}
    {flush : Bool} {fault : Fault}
    (failed : pipeline.attempt table input flush = (.error fault, after)) : after = pipeline := by
  -- An attempt that fails puts the pipeline back.
  unfold attempt at failed
  split at failed
  · simp at failed
  · exact (Prod.mk.inj failed).2.symm

/-- A use that fails leaves the pipeline and the destination as they were. -/
theorem use_of_failed {table : PropertyTable} {pipeline : Pipeline} {use : Use}
    (failed : (pipeline.use table use).1.failed) :
    (pipeline.use table use).2 = pipeline ∧ (pipeline.use table use).1.dest? = use.dest? := by
  cases use with
  | process input =>
    rcases ran : pipeline.attempt table input false with ⟨fault | output, after⟩
    · simp [Pipeline.use, ran, eq_of_attempt ran, Answer.dest?, Use.dest?]
    · simp [Pipeline.use, ran, Answer.failed] at failed
  | processInto input dest =>
    rcases ran : pipeline.attempt table input false with ⟨fault | output, after⟩
    · simp [Pipeline.use, ran, eq_of_attempt ran, Answer.dest?, Use.dest?, Written.failed]
    · -- The output was there, but the destination was too short for it.
      simp only [Pipeline.use, ran, Answer.failed, decide_eq_true_eq] at failed ⊢
      rw [if_neg failed]
      unfold Written.fill at failed ⊢
      split
      · exact ⟨rfl, rfl⟩
      · simp_all
  | finish =>
    rcases ran : pipeline.attempt table [] true with ⟨fault | output, after⟩
    · simp [Pipeline.use, ran, eq_of_attempt ran, Answer.dest?, Use.dest?]
    · simp [Pipeline.use, ran, Answer.failed] at failed

/-- A call that fails leaves the pipeline and the destination as they were. -/
theorem call_of_failed {table : PropertyTable} {pipeline : Pipeline} {call : Call} (handle : Handle)
    (failed : (pipeline.call table call).1.failed) :
    (pipeline.call table call).2 = some pipeline ∧
      (pipeline.call table call).1.dest? = (Request.call handle call).dest? := by
  -- Of the calls that reach a pipeline only uses can fail.
  cases call with
  | use use =>
    obtain ⟨same, unwritten⟩ := @use_of_failed table pipeline use failed
    exact ⟨congrArg some same, unwritten⟩
  | reset | close | guarded => simp [call, Reply.failed] at failed

end Pipeline

/-- A call that is refused leaves the destination as it was. -/
theorem Call.dest?_refusal (call : Call) (handle : Handle) :
    call.refusal.dest? = (Request.call handle call).dest? := by
  -- Only a use can have a destination, and a refusal leaves it as it is.
  cases call with
  | use use => cases use <;> rfl
  | reset | close | guarded => rfl

namespace Context

/-- A request that fails changes nothing, not even the replies to later requests. -/
theorem answer_of_failed (context : Context) (request : Request)
    (failed : (context.answer request).1.failed) :
    (context.answer request).2 = context ∧
      (context.answer request).1.dest? = request.dest? ∧
      ∀ later, context.answerAll (request :: later) =
        ((context.answer request).1 :: (context.answerAll later).1,
          (context.answerAll later).2) := by
  -- Later requests meet the very context that the failed one was made to.
  suffices same : (context.answer request).2 = context ∧
      (context.answer request).1.dest? = request.dest? by
    refine ⟨same.1, same.2, fun later => ?_⟩
    simp only [answerAll, same.1]
  cases request with
  | opening opening =>
    rw [answer_opening] at failed ⊢
    cases started : opening.start with
    | ok pipeline => simp [started, Reply.failed] at failed
    | error fault => exact ⟨rfl, rfl⟩
  | call handle call =>
    cases found : context.pipeline handle with
    | error fault =>
      rw [answer_of_refused found]
      exact ⟨rfl, call.dest?_refusal handle⟩
    | ok pipeline =>
      rw [answer_call found] at failed ⊢
      obtain ⟨same, unwritten⟩ := Pipeline.call_of_failed handle failed
      refine ⟨?_, unwritten⟩
      rw [same]
      exact replace_self found

/-- A character that cannot be encoded leaves the byte pending that it began with. -/
theorem answer_of_failed_ascii :
    let handle : Handle := ⟨0, 0, 0⟩
    let context := ((new 0 Accents.table).answerAll
      [.opening (.converter "UTF-8" "US-ASCII" .strict),
        .call handle (.use (.process [0x41, 0xC3]))]).2
    context.answer (.call handle (.use (.process [0xA9])))
        = (.used (.output (.error .unmappable)), context) ∧
      (context.answer (.call handle (.use .finish))).1
        = .used (.output (.error .truncatedInput)) := by
  -- The letter has been decoded when it turns out that ASCII does not hold it.
  intro handle context
  have reply : (context.answer (.call handle (.use (.process [0xA9])))).1
      = .used (.output (.error .unmappable)) := by decide +kernel
  have failed : (context.answer (.call handle (.use (.process [0xA9])))).1.failed := by
    rw [reply]
    rfl
  exact ⟨Prod.ext reply (answer_of_failed context _ failed).1, by decide +kernel⟩

end Context

end UniText
