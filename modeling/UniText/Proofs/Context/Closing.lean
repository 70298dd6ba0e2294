import UniText.Proofs.Context.Requests

/-! Closed handles stay closed until the generations of their slot begin anew. -/

namespace UniText

/-- Whether a call ends with the handle closed. -/
def Call.closes : Call → Bool
  | close | guarded _ .close => true
  | use _ | reset | guarded _ .keep => false

/-- A pipeline is gone after just those calls that close its handle. -/
theorem Pipeline.isNone_call (table : PropertyTable) (pipeline : Pipeline) (call : Call) :
    (pipeline.call table call).2.isNone = call.closes := by
  -- A scope closes at its end or gives the handle back, whatever was done in it.
  cases call with
  | use | reset | close => rfl
  | guarded uses scopeEnd => cases scopeEnd <;> rfl

namespace Context

variable {context : Context} {handle : Handle} {pipeline : Pipeline}

/-- The handle that a request closes, by itself or at the end of a scope. -/
def closed? (context : Context) : Request → Option Handle
  | .opening _ => none
  | .call handle call =>
    match context.pipeline handle with
    | .ok _ => if call.closes then some handle else none
    | .error _ => none

/-- Any open handle is closed by a call that closes handles. -/
theorem closed?_of_pipeline (opened : context.pipeline handle = .ok pipeline) (call : Call) :
    context.closed? (.call handle call) = if call.closes then some handle else none := by
  simp only [closed?, opened]

/-- A handle that is closed by a request has been open before it. -/
theorem pipeline_of_closed? {request : Request} (closed : context.closed? request = some handle) :
    ∃ pipeline, context.pipeline handle = .ok pipeline := by
  -- A refused call closes nothing, and an opening does not either.
  cases request with
  | opening opening => simp [closed?] at closed
  | call called call =>
    cases found : context.pipeline called with
    | error fault => simp [closed?, found] at closed
    | ok pipeline =>
      obtain ⟨-, rfl⟩ : call.closes ∧ called = handle := by simpa [closed?, found] using closed
      exact ⟨pipeline, found⟩

/-- How often it happens in a run that a context meets a request of some kind. -/
def tally (happens : Context → Request → Bool) (context : Context) : List Request → Nat
  | [] => 0
  | request :: later =>
    (if happens context request then 1 else 0) + (context.answer request).2.tally happens later

/-- How often a slot is closed in a run. -/
def closings (index : UInt32) (context : Context) (requests : List Request) : Nat :=
  context.tally (fun context request =>
    (context.closed? request).any fun handle => handle.index = index) requests

/-- The generation of a slot, if there is such a slot. -/
def generation? (context : Context) (index : UInt32) : Option UInt32 :=
  context.slots[index.toNat]?.map Slot.generation

/-- Whether there is a pipeline in a slot. -/
def occupied (context : Context) (index : UInt32) : Bool :=
  (context.slots[index.toNat]?.bind Slot.pipeline).isSome

/-- A handle is open just if it is of its context and of the present generation of its slot, and
there is a pipeline in the slot. -/
theorem exists_pipeline_iff : (∃ pipeline, context.pipeline handle = .ok pipeline) ↔
    handle.context = context.number ∧
      context.generation? handle.index = some handle.generation ∧
      context.occupied handle.index = true := by
  simp only [pipeline_eq_ok_iff, generation?, occupied]
  -- The slot is one of those that there are, and all is read off what it holds.
  cases context.slots[handle.index.toNat]? with
  | none => simp
  | some slot =>
    obtain ⟨generation, pipeline⟩ := slot
    simp only [Option.some.injEq, Slot.mk.injEq, Option.map_some, Option.bind_some,
      Option.isSome_iff_exists, exists_and_left]

/-- An open handle is of the present generation of its slot. -/
theorem generation?_of_pipeline (opened : context.pipeline handle = .ok pipeline) :
    context.generation? handle.index = some handle.generation := by
  simp [generation?, (pipeline_eq_ok_iff.mp opened).2]

/-- Slots that are taken keep the generation that they have. -/
theorem generation?_insert {index generation : UInt32}
    (held : context.generation? index = some generation) (pipeline : Pipeline) :
    (context.insert pipeline).2.generation? index = some generation := by
  simp only [generation?, Option.map_eq_some_iff] at held ⊢
  obtain ⟨slot, found, rfl⟩ := held
  have within := (List.getElem?_eq_some_iff.mp found).1
  unfold insert
  cases opening : context.free with
  | nil => exact ⟨slot, by simp [List.getElem?_append_left within, found], rfl⟩
  | cons taken others =>
    -- The slot that is taken is written back with the generation that it has.
    by_cases same : taken.toNat = index.toNat
    · have generation_eq : context.slots[index.toNat].generation = slot.generation := by
        rw [(List.getElem?_eq_some_iff.mp found).2]
      simp [same, within, generation_eq]
    · exact ⟨slot, by simp [same, found], rfl⟩

/-- An open handle that is closed takes its slot to the next generation. -/
theorem generation?_put (opened : context.pipeline handle = .ok pipeline)
    {index generation : UInt32} (held : context.generation? index = some generation)
    (other : Option Pipeline) :
    (context.put handle other).generation? index
      = some (generation + if other.isNone && handle.index = index then 1 else 0) := by
  have here := (pipeline_eq_ok_iff.mp opened).2
  have within := (List.getElem?_eq_some_iff.mp here).1
  -- Only the slot of the handle can change its generation.
  by_cases same : handle.index = index
  · subst same
    have generation_eq := held.symm.trans (generation?_of_pipeline opened)
    cases other <;> simp_all [put, vacate, replace, generation?]
  · have apart : handle.index.toNat ≠ index.toNat := fun eq => same (UInt32.toNat_inj.mp eq)
    cases other <;> simp_all [put, vacate, replace, generation?]

/-- A slot moves on by one generation whenever it is closed, and only then. -/
theorem generation?_answer {index generation : UInt32}
    (held : context.generation? index = some generation) (request : Request) :
    (context.answer request).2.generation? index = some (generation +
      if (context.closed? request).any fun handle => handle.index = index then 1 else 0) := by
  -- To open a slot leaves its generation alone, and so does all that does not close it.
  cases request with
  | opening opening =>
    rw [answer_opening]
    cases opening.start with
    | error fault => simpa [closed?] using held
    | ok pipeline => simpa [closed?] using generation?_insert held pipeline
  | call handle call =>
    cases found : context.pipeline handle with
    | error fault =>
      rw [answer_of_refused found]
      simpa [closed?, found] using held
    | ok pipeline =>
      rw [answer_call found, closed?_of_pipeline found]
      simp only [generation?_put found held, Pipeline.isNone_call]
      cases call.closes <;> simp

/-- A slot has moved on by as many generations as it has been closed times. -/
theorem generation?_answerAll {index generation : UInt32}
    (held : context.generation? index = some generation) (requests : List Request) :
    (context.answerAll requests).2.generation? index
      = some (generation + .ofNat (closings index context requests)) := by
  induction requests generalizing context generation with
  | nil => simpa [answerAll, closings, tally] using held
  | cons request later hypothesis =>
    -- The generations wrap around, and so does the number that is added to them.
    have reached := hypothesis (generation?_answer held request)
    rw [UInt32.add_assoc] at reached
    refine reached.trans (congrArg (fun moved => some (generation + moved)) ?_)
    simp only [closings, tally, UInt32.ofNat_add]
    split <;> rfl

/-- A slot is closed and opened again, as often as told, from a generation on. -/
def turnover (opening : Opening) (generation : Nat) : Nat → List Request
  | 0 => []
  | count + 1 => .call ⟨0, 0, .ofNat generation⟩ .close :: .opening opening ::
      turnover opening (generation + 1) count

/-- Opening a slot again and again leads from generation to generation. -/
theorem answerAll_turnover {opening : Opening} (started : opening.start = .ok pipeline)
    (table : PropertyTable) (count generation : Nat) :
    ((⟨0, table, [⟨.ofNat generation, some pipeline⟩], []⟩ : Context).answerAll
      (turnover opening generation count)).2
      = ⟨0, table, [⟨.ofNat (generation + count), some pipeline⟩], []⟩ := by
  induction count generalizing generation with
  | zero => rfl
  | succ count hypothesis =>
    have opened : (⟨0, table, [⟨.ofNat generation, some pipeline⟩], []⟩ : Context).pipeline
        ⟨0, 0, .ofNat generation⟩ = .ok pipeline := pipeline_eq_ok_iff.mpr ⟨rfl, rfl⟩
    -- The slot that has just been closed is the one that is opened next.
    have turned := hypothesis (generation + 1)
    rw [show generation + (count + 1) = generation + 1 + count by omega, ← turned]
    simp [turnover, answerAll, answer_call opened, answer_opening, started, Pipeline.call, put,
      vacate, insert]

/-- A run that follows another one begins where that one has ended. -/
theorem answerAll_append (context : Context) (first second : List Request) :
    (context.answerAll (first ++ second)).2 = ((context.answerAll first).2.answerAll second).2 := by
  -- Each request of the first run leads to the context of the next one.
  induction first generalizing context with
  | nil => rfl
  | cons request later hypothesis => exact hypothesis (context.answer request).2

/-- The context in which a first handle has been opened. -/
theorem answer_first {opening : Opening} (started : opening.start = .ok pipeline)
    (table : PropertyTable) :
    ((new 0 table).answer (.opening opening)).2 = ⟨0, table, [⟨.ofNat 0, some pipeline⟩], []⟩ := by
  -- There is no slot yet, so that one is made.
  rw [answer_opening, started]
  rfl

/-- A converter from UTF-8 to itself can be opened. -/
theorem start_utf8 : (Opening.converter "UTF-8" "UTF-8" .strict).start
    = .ok (.converting (.new .utf8 .strict) (.new .utf8 .strict)) := by
  decide +kernel

/-- A closed handle is refused, unless its slot has come back to the generation of the handle and
there is a pipeline in it.

To come back to a generation takes as many closings as there are generations, the one of the handle
included. Only then is the handle open again, if the slot has been opened since. -/
theorem refused_of_closed {first : Request} (closed : context.closed? first = some handle)
    (later : List Request) :
    let reached := (context.answerAll (first :: later)).2
    let returned := UInt32.size ∣ closings handle.index context (first :: later) ∧
      reached.occupied handle.index = true
    (¬returned → ∀ call, reached.answer (.call handle call) = (call.refusal, reached)) ∧
      (returned → ∃ revived, reached.pipeline handle = .ok revived) := by
  intro reached returned
  obtain ⟨pipeline, opened⟩ := pipeline_of_closed? closed
  have own : handle.context = reached.number :=
    (pipeline_eq_ok_iff.mp opened).1.trans (number_answerAll context (first :: later)).symm
  have moved := generation?_answerAll (generation?_of_pipeline opened) (first :: later)
  -- The slot is of the generation of the handle again just if the closings have gone around.
  have around : reached.generation? handle.index = some handle.generation
      ↔ UInt32.size ∣ closings handle.index context (first :: later) := by
    rw [moved, Option.some.injEq, UInt32.add_eq_left, ← UInt32.toNat_inj, UInt32.toNat_ofNat']
    exact (Nat.dvd_iff_mod_eq_zero ..).symm
  have open_iff : (∃ revived, reached.pipeline handle = .ok revived) ↔ returned := by
    rw [exists_pipeline_iff, around]
    exact and_iff_right own
  refine ⟨?_, open_iff.mpr⟩
  intro away call
  cases found : reached.pipeline handle with
  | error fault => exact answer_of_refused found call
  | ok revived => exact absurd (open_iff.mp ⟨revived, found⟩) away

/-- A handle whose slot has been opened again is refused, and the new one is not; and a handle whose
slot has come back to its generation is refused as long as the slot is empty. -/
theorem refused_of_closed_reopened :
    let opening : Opening := .converter "UTF-8" "UTF-8" .strict
    let context := ((new 0 Accents.table).answer (.opening opening)).2
    let first := Request.call ⟨0, 0, 0⟩ .close
    let last := Request.call ⟨0, 0, .ofNat (UInt32.size - 1)⟩ .close
    let reached := (context.answerAll [first, .opening opening]).2
    let emptied := (context.answerAll
      (first :: (.opening opening :: turnover opening 1 (UInt32.size - 2) ++ [last]))).2
    context.closed? first = some ⟨0, 0, 0⟩ ∧
      (reached.answer (.call ⟨0, 0, 0⟩ (.use (.process [0x41])))
          = (.used (.output (.error .invalidHandle)), reached) ∧
        (reached.answer (.call ⟨0, 0, 1⟩ (.use (.process [0x41])))).1
          = .used (.output (.ok [0x41]))) ∧
      emptied.generation? 0 = some 0 ∧
        emptied.answer (.call ⟨0, 0, 0⟩ .close) = (.done (.error .invalidHandle), emptied) := by
  intro opening context first last reached emptied
  have closed : context.closed? first = some ⟨0, 0, 0⟩ := by decide +kernel
  have once : closings 0 context [first, .opening opening] = 1 := by decide +kernel
  -- A single closing does not lead all the way around.
  have away : ¬(UInt32.size ∣ closings 0 context [first, .opening opening] ∧
      reached.occupied 0 = true) := by
    rw [once]
    exact fun returned => absurd returned.1 (by decide)
  -- The last closing is the one with which the generations begin anew, and nothing is opened after.
  have empty : emptied = ⟨0, Accents.table, [⟨0, none⟩], [0]⟩ := by
    show (context.answerAll (turnover opening 0 (UInt32.size - 2 + 1) ++ [last])).2 = _
    rw [show context = _ from answer_first start_utf8 Accents.table, answerAll_append,
      answerAll_turnover start_utf8]
    rfl
  have vacant : emptied.occupied 0 = false := by
    rw [empty]
    rfl
  obtain ⟨refused, -⟩ := refused_of_closed closed [.opening opening]
  obtain ⟨refused', -⟩ := refused_of_closed closed
    (.opening opening :: turnover opening 1 (UInt32.size - 2) ++ [last])
  refine ⟨closed, ⟨refused away (.use (.process [0x41])), by decide +kernel⟩, ?_, ?_⟩
  · rw [empty]
    rfl
  · apply refused' _ .close
    rintro ⟨-, held⟩
    exact absurd (held.symm.trans vacant) (by decide)

/-- A closed handle is valid again after its slot has been closed as often as there are
generations. -/
theorem revived_of_turnover :
    let opening : Opening := .converter "UTF-8" "UTF-8" .strict
    let context := ((new 0 Accents.table).answer (.opening opening)).2
    let later := .opening opening :: turnover opening 1 (UInt32.size - 1)
    context.closed? (.call ⟨0, 0, 0⟩ .close) = some ⟨0, 0, 0⟩ ∧
      ((context.answerAll (.call ⟨0, 0, 0⟩ .close :: later)).2.answer
        (.call ⟨0, 0, 0⟩ (.use (.process [0x41])))).1 = .used (.output (.ok [0x41])) := by
  intro opening context later
  refine ⟨by decide +kernel, ?_⟩
  -- The whole run is one turnover for each generation, which leads back to the first one.
  have turns : Request.call ⟨0, 0, 0⟩ .close :: later = turnover opening 0 (UInt32.size - 1 + 1) :=
    rfl
  have opened : context = _ := answer_first start_utf8 Accents.table
  have around : UInt32.ofNat (0 + (UInt32.size - 1 + 1)) = .ofNat 0 := by decide
  rw [turns, opened, answerAll_turnover start_utf8, around]
  decide +kernel

end Context

end UniText
