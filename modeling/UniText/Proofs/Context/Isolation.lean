import UniText.Proofs.Context.Slots

/-! Open handles of one context do not notice each other. -/

namespace UniText

/-- The replies that calls get from a pipeline, or without one. -/
def Pipeline.replies (table : PropertyTable) : Option Pipeline → List Call → List Reply
  | _, [] => []
  | none, call :: later => call.refusal :: replies table none later
  | some pipeline, call :: later =>
    let (reply, left) := pipeline.call table call
    reply :: replies table left later

namespace Context

variable {context : Context} {handle : Handle} {pipeline : Pipeline} {live : List Handle}

/-- The calls that are made to a handle in a run until it is closed, with the replies to them. -/
def dealings (context : Context) (handle : Handle) : List Request → List (Call × Reply)
  | [] => []
  | .opening opening :: later => (context.answer (.opening opening)).2.dealings handle later
  | .call called call :: later =>
    let (reply, after) := context.answer (.call called call)
    if called = handle then
      (call, reply) :: if call.closes then [] else after.dealings handle later
    else after.dealings handle later

/-- A request that is not made to a handle is none of its dealings. -/
theorem dealings_of_ne {request : Request} (elsewhere : request.handle? ≠ some handle)
    (later : List Request) :
    context.dealings handle (request :: later)
      = (context.answer request).2.dealings handle later := by
  -- Only what is asked of the handle itself is told of.
  cases request with
  | opening opening => rfl
  | call called call =>
    have different : called ≠ handle := fun same => elsewhere (congrArg some same)
    simp [dealings, different]

/-- A call to an open handle is answered by its pipeline, and may be the last one. -/
theorem dealings_call (opened : context.pipeline handle = .ok pipeline) (call : Call)
    (later : List Request) :
    context.dealings handle (.call handle call :: later)
      = (call, (pipeline.call context.table call).1) :: if call.closes then [] else
        (context.put handle (pipeline.call context.table call).2).dealings handle later := by
  -- Once the handle is closed there is nothing more to tell.
  simp [dealings, answer_call opened]

/-- Calls that are made to one handle only are answered by what it refers to. -/
theorem answerAll_calls (context : Context) (handle : Handle) (calls : List Call) :
    (context.answerAll (calls.map (.call handle))).1
      = Pipeline.replies context.table (context.pipeline handle).toOption calls := by
  -- Each call is answered by the pipeline as the calls before it have left it.
  induction calls generalizing context with
  | nil => simp [answerAll, Pipeline.replies]
  | cons call later hypothesis =>
    simp only [List.map_cons, answerAll, hypothesis, table_answer]
    cases found : context.pipeline handle with
    | error fault =>
      rw [answer_of_refused found, found]
      rfl
    | ok pipeline =>
      rw [answer_call found, pipeline_put found]
      rfl

namespace Sound

/-- A request that is not made to an open handle leaves it open, with the pipeline it has. -/
theorem apart_answer (sound : context.Sound live) {request : Request}
    (used : ∀ handle ∈ request.handle?, handle ∈ live) (member : handle ∈ live)
    (elsewhere : request.handle? ≠ some handle) :
    handle ∈ context.liveAfter live request ∧
      (context.answer request).2.pipeline handle = context.pipeline handle := by
  -- An opening takes a slot that is not in use, and a call changes only the slot of its own handle.
  cases request with
  | opening opening =>
    rw [liveAfter_opening, answer_opening]
    cases opening.start with
    | error fault => exact ⟨member, rfl⟩
    | ok taken =>
      obtain ⟨pipeline, opened⟩ := sound.opened handle member
      exact ⟨List.mem_cons_of_mem _ member,
        (sound.pipeline_insert_of_pipeline opened taken).trans opened.symm⟩
  | call called call =>
    have different : handle ≠ called := fun same => elsewhere (congrArg some same.symm)
    obtain ⟨pipeline, opened⟩ := sound.opened called (used called rfl)
    rw [liveAfter_call opened, answer_call opened]
    refine ⟨?_, pipeline_put_of_ne (sound.index_ne (used called rfl) member different) _⟩
    cases call.closes
    · exact member
    · exact (List.mem_erase_of_ne different).mpr member

/-- The calls to an open handle are answered by its pipeline, whatever else is requested. -/
theorem replies_dealings (sound : context.Sound live) {requests : List Request}
    (proper : context.Proper live requests) (member : handle ∈ live) :
    (context.dealings handle requests).map Prod.snd
      = Pipeline.replies context.table (context.pipeline handle).toOption
        ((context.dealings handle requests).map Prod.fst) := by
  induction requests generalizing context live with
  | nil => simp [dealings, Pipeline.replies]
  | cons request later hypothesis =>
    obtain ⟨used, room, proper⟩ := proper
    have others (stays : handle ∈ context.liveAfter live request) :=
      hypothesis (sound.answer used room) proper stays
    rw [table_answer] at others
    by_cases elsewhere : request.handle? ≠ some handle
    · obtain ⟨stays, same⟩ := sound.apart_answer used member elsewhere
      rw [dealings_of_ne elsewhere, ← same]
      exact others stays
    · obtain ⟨call, rfl⟩ : ∃ call, request = .call handle call := by
        cases request with
        | opening opening => simp [Request.handle?] at elsewhere
        | call called call => exact ⟨call, by simpa [Request.handle?] using elsewhere⟩
      obtain ⟨pipeline, opened⟩ := sound.opened handle member
      rw [answer_call opened, liveAfter_call opened, pipeline_put opened] at others
      simp only [dealings_call opened, opened, List.map_cons]
      cases ends : call.closes with
      | true => simp [Pipeline.replies, Except.toOption]
      | false =>
        -- The handle is left with a pipeline, which answers the calls that follow.
        simpa [Pipeline.replies, Except.toOption] using others (by simpa [ends] using member)

end Sound

/-- A context with one handle answers the calls to it like the pipeline that it is opened with. -/
theorem answerAll_alone {opening : Opening} (started : opening.start = .ok pipeline)
    (number : UInt32) (table : PropertyTable) (calls : List Call) :
    ((new number table).answerAll (.opening opening :: calls.map (.call ⟨number, 0, 0⟩))).1
      = .opened (.ok ⟨number, 0, 0⟩) :: Pipeline.replies table (some pipeline) calls := by
  -- The first handle of a new context has the first slot.
  have opened : ((new number table).answer (.opening opening)).2.pipeline ⟨number, 0, 0⟩
      = .ok pipeline := by
    rw [answer_opening, started]
    exact sound_new number table |>.pipeline_insert pipeline
  simp only [answerAll, answerAll_calls, opened, table_answer]
  rw [answer_opening, started]
  rfl

/-- A handle that is opened among others is dealt with as if it were the only one. -/
theorem Sound.dealings_eq_alone (sound : context.Sound live) {opening : Opening}
    {requests : List Request} (proper : context.Proper live (.opening opening :: requests))
    (replied : (context.answer (.opening opening)).1 = .opened (.ok handle)) (number : UInt32) :
    let told := (context.answer (.opening opening)).2.dealings handle requests
    ((new number context.table).answerAll
      (.opening opening :: (told.map Prod.fst).map (.call ⟨number, 0, 0⟩))).1
      = .opened (.ok ⟨number, 0, 0⟩) :: told.map Prod.snd := by
  -- Whatever the slot that is given out, there is the same new pipeline in it as in a new context.
  intro told
  obtain ⟨used, room, proper⟩ := proper
  have after := sound.answer used room
  have same := context.table_answer (.opening opening)
  rw [liveAfter_opening] at after proper
  cases started : opening.start with
  | error fault => simp [answer_opening, started] at replied
  | ok pipeline =>
    obtain rfl : (context.insert pipeline).1 = handle := by
      simpa [answer_opening, started] using replied
    rw [started] at after proper
    have opened : (context.answer (.opening opening)).2.pipeline (context.insert pipeline).1
        = .ok pipeline := by
      rw [answer_opening, started]
      exact sound.pipeline_insert pipeline
    -- From there on, each side answers the calls in their order by this pipeline alone.
    have replies := after.replies_dealings proper List.mem_cons_self
    rw [opened, same] at replies
    rw [answerAll_alone started, replies]
    rfl

/-- What is requested of the other handles makes no difference to the calls to a handle.

They are answered as they would be in a new context in which nothing else is open. All along the
run the slots agree with the list of the free ones, and the handles that are open have been opened
and not closed. -/
theorem isolated (number : UInt32) (table : PropertyTable) (before later : List Request)
    (proper : (new number table).Proper [] (before ++ later)) :
    let start := new number table
    let reached := (start.answerAll before).2
    reached.Sound (start.liveAll [] before) ∧
      reached.openCount + start.closes before = start.opens before ∧
      ∀ opening rest handle, later = .opening opening :: rest →
        (reached.answer (.opening opening)).1 = .opened (.ok handle) →
        ∀ other : UInt32,
          let told := (reached.answer (.opening opening)).2.dealings handle rest
          ((new other table).answerAll
            (.opening opening :: (told.map Prod.fst).map (.call ⟨other, 0, 0⟩))).1
            = .opened (.ok ⟨other, 0, 0⟩) :: told.map Prod.snd := by
  -- The context that is reached is sound, and from there on the handle is followed.
  intro start reached
  obtain ⟨front, proper⟩ := (proper_append before later).mp proper
  have sound := (sound_new number table).answerAll front
  have counted := (sound_new number table).length_liveAll front
  rw [← sound.count, List.length_nil, Nat.zero_add] at counted
  refine ⟨sound, counted, ?_⟩
  rintro opening rest handle rfl replied other
  -- The table is that of the start, so that a new context over it begins alike.
  have same : reached.table = table := table_answerAll start before
  rw [← same]
  exact sound.dealings_eq_alone proper replied other

/-- A character that is cut in two is converted between the calls to another handle. -/
theorem isolated_converter_normalizer :
    let converter : Opening := .converter "UTF-8" "UTF-16BE" .strict
    let normalizer : Opening := .normalizer .nfc "UTF-8" .strict
    let rest : List Request := [
      .opening normalizer,
      .call ⟨0, 0, 0⟩ (.use (.process [0xE2, 0x82])),
      .call ⟨0, 1, 0⟩ (.guarded [.process [0x65, 0xCC]] .close),
      .call ⟨0, 0, 0⟩ (.use (.process [0xAC])),
      .opening normalizer,
      .call ⟨0, 0, 0⟩ .close]
    (new 0 Accents.table).Proper [] (.opening converter :: rest) ∧
      ((new 1 Accents.table).answerAll [
        .opening converter,
        .call ⟨1, 0, 0⟩ (.use (.process [0xE2, 0x82])),
        .call ⟨1, 0, 0⟩ (.use (.process [0xAC])),
        .call ⟨1, 0, 0⟩ .close]).1 = [
          .opened (.ok ⟨1, 0, 0⟩),
          .used (.output (.ok [])),
          .used (.output (.ok [0x20, 0xAC])),
          .done (.ok ())] := by
  -- In between, a normalizer is opened, fails in a scope, is closed and opened again.
  intro converter normalizer rest
  have proper : (new 0 Accents.table).Proper [] (.opening converter :: rest) := by
    decide +kernel
  have told : ((new 0 Accents.table).answer (.opening converter)).2.dealings ⟨0, 0, 0⟩ rest = [
      (.use (.process [0xE2, 0x82]), .used (.output (.ok []))),
      (.use (.process [0xAC]), .used (.output (.ok [0x20, 0xAC]))),
      (.close, .done (.ok ()))] := by
    decide +kernel
  have given : ((new 0 Accents.table).answer (.opening converter)).1 = .opened (.ok ⟨0, 0, 0⟩) := by
    decide +kernel
  obtain ⟨-, -, alone⟩ := isolated 0 Accents.table [] (.opening converter :: rest) proper
  have same := alone converter rest ⟨0, 0, 0⟩ rfl given 1
  simp only [show ((new 0 Accents.table).answerAll []).2 = new 0 Accents.table from rfl, told]
    at same
  exact ⟨proper, same⟩

end Context

end UniText
