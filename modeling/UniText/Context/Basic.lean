import UniText.Context.Pipeline

/-! Contexts: pipelines kept in slots, and the handles by which callers refer to them. -/

namespace UniText

/-- A reference to a pipeline of a context. -/
structure Handle where
  /-- The number of the context that opened it. -/
  context : UInt32
  /-- The number of its slot. -/
  index : UInt32
  /-- How often the slot had been closed before. -/
  generation : UInt32
  deriving DecidableEq, Repr

/-- A place for a pipeline. -/
structure Slot where
  /-- How often the slot has been closed, up to multiples of two to the power of 32. -/
  generation : UInt32
  pipeline : Option Pipeline
  deriving DecidableEq, Repr

/-- The open pipelines over one property table. -/
structure Context where
  /-- The number that tells this context from others. -/
  number : UInt32
  table : PropertyTable
  slots : List Slot
  /-- The slots that can be opened again, the one closed last being first. -/
  free : List UInt32

namespace Context

/-- A context without open pipelines. -/
def new (number : UInt32) (table : PropertyTable) : Context := ⟨number, table, [], []⟩

/-- The number of open pipelines. -/
def openCount (context : Context) : Nat := context.slots.countP fun slot => slot.pipeline.isSome

/-- Nothing is open in a new context. -/
@[simp] theorem openCount_new (number : UInt32) (table : PropertyTable) :
    (new number table).openCount = 0 := rfl

/-- Puts a pipeline into the slot that was closed last, or into a new one. -/
def insert (context : Context) (pipeline : Pipeline) : Handle × Context :=
  match context.free with
  | index :: free =>
    let generation := match context.slots[index.toNat]? with
      | some slot => slot.generation
      | none => 0
    -- The slot keeps the generation that it got when it was closed.
    (⟨context.number, index, generation⟩,
      { context with
        slots := context.slots.set index.toNat ⟨generation, some pipeline⟩
        free })
  | [] =>
    -- With no slot to open again, there is one more of them.
    (⟨context.number, UInt32.ofNat context.slots.length, 0⟩,
      { context with slots := context.slots ++ [⟨0, some pipeline⟩] })

/-- The pipeline that a handle refers to, if the handle is of this context and still open. -/
def pipeline (context : Context) (handle : Handle) : Except Fault Pipeline :=
  if handle.context ≠ context.number then .error .invalidHandle
  else match context.slots[handle.index.toNat]? with
    | some ⟨generation, some pipeline⟩ =>
      -- A slot that was closed in the meantime has moved on to another generation.
      if generation = handle.generation then .ok pipeline else .error .invalidHandle
    | _ => .error .invalidHandle

/-- The context in which a handle refers to another pipeline. -/
def replace (context : Context) (handle : Handle) (pipeline : Pipeline) : Context :=
  { context with
    slots := context.slots.set handle.index.toNat ⟨handle.generation, some pipeline⟩ }

/-- Opens a conversion between the charsets of two names. -/
def openConverter (context : Context) (source target : String) (policy : ErrorPolicy) :
    Except Fault Handle × Context :=
  -- Both names are looked up before a slot is taken.
  match Charset.ofName source, Charset.ofName target with
  | .ok source, .ok target =>
    let (handle, after) := context.insert (.converting (.new source policy) (.new target policy))
    (.ok handle, after)
  | .error fault, _ | _, .error fault => (.error fault, context)

/-- Opens a normalization of text in the charset of a name. -/
def openNormalizer (context : Context) (form : Form) (charset : String) (policy : ErrorPolicy) :
    Except Fault Handle × Context :=
  match Charset.ofName charset with
  | .ok charset =>
    let (handle, after) := context.insert (.normalizing (.new charset policy) (.new form))
    (.ok handle, after)
  | .error fault => (.error fault, context)

/-- Runs input through the pipeline of a handle, which a failed run leaves as it was. -/
def run (context : Context) (handle : Handle) (input : List UInt8) (flush : Bool) :
    Except Fault (List UInt8) × Context :=
  match context.pipeline handle with
  | .error fault => (.error fault, context)
  | .ok pipeline =>
    match pipeline.run context.table input flush with
    | (.ok output, after) => (.ok output, context.replace handle after)
    -- What a failed run has used up is given back.
    | (.error fault, _) => (.error fault, context.replace handle pipeline)

/-- Goes back to the start of a stream, dropping what is held back. -/
def reset (context : Context) (handle : Handle) : Except Fault Unit × Context :=
  match context.pipeline handle with
  | .error fault => (.error fault, context)
  | .ok pipeline => (.ok (), context.replace handle pipeline.reset)

/-- Feeds a chunk, and gives out what is then final. -/
def process (context : Context) (handle : Handle) (input : List UInt8) :
    Except Fault (List UInt8) × Context :=
  context.run handle input false

/-- Ends a stream, after which the handle is ready for another. -/
def finish (context : Context) (handle : Handle) : Except Fault (List UInt8) × Context :=
  match context.run handle [] true with
  -- Only a stream that has ended well is followed by another one.
  | (.ok output, after) => (.ok output, (after.reset handle).2)
  | (.error fault, after) => (.error fault, after)

/-- Feeds a chunk into a destination of fixed size.

When the destination is too small, the pipeline stays as it was, so that the call can be
repeated. -/
def processInto (context : Context) (handle : Handle) (input dest : List UInt8) :
    Written UInt8 × Context :=
  match context.pipeline handle with
  | .error fault => (.failed dest fault, context)
  | .ok pipeline =>
    match pipeline.run context.table input false with
    | (.error fault, _) => (.failed dest fault, context.replace handle pipeline)
    | (.ok output, after) =>
      let written := Written.fill dest output
      -- Output that does not fit is produced again by the next call.
      let kept := if written.status = .success then after else pipeline
      (written, context.replace handle kept)

/-- Closes a handle, which is not valid any more afterwards. -/
def close (context : Context) (handle : Handle) : Except Fault Unit × Context :=
  match context.pipeline handle with
  | .error fault => (.error fault, context)
  | .ok _ =>
    -- Handles from before the next generation find the slot changed.
    (.ok (), { context with
      slots := context.slots.set handle.index.toNat ⟨handle.generation + 1, none⟩
      free := handle.index :: context.free })

/-- What becomes of a handle when the scope that guards it ends. -/
inductive ScopeEnd where
  /-- The handle is closed. -/
  | close
  /-- The handle is given back to the caller. -/
  | keep
  deriving DecidableEq, Repr

/-- Runs a body with a handle that is closed afterwards, unless the body gives it back.

That the body may have closed it already makes no difference. -/
def withScope {α : Type} (context : Context) (handle : Handle)
    (body : Handle → Context → α × ScopeEnd × Context) : α × Context :=
  let (result, scopeEnd, after) := body handle context
  match scopeEnd with
  | .keep => (result, after)
  | .close => (result, (after.close handle).2)

end Context

end UniText
