import Mathlib.Data.List.Nodup
import UniText.Proofs.Context.Closing

/-! Slots, the list of the free ones and the handles that are open agree all along a run. -/

namespace UniText

/-- The handle that a reply gives, if it gives one. -/
def Reply.handle? : Reply → Option Handle
  | opened (.ok handle) => some handle
  | opened (.error _) | used _ | done _ | guarded _ => none

/-- A call gives no handle. -/
@[simp] theorem Pipeline.handle?_call (table : PropertyTable) (pipeline : Pipeline) (call : Call) :
    (pipeline.call table call).1.handle? = none := by
  cases call <;> rfl

/-- The handle that a request is made to, unless it opens one. -/
def Request.handle? : Request → Option Handle
  | opening _ => none
  | call handle _ => some handle

namespace Context

variable {context : Context} {handle other : Handle} {pipeline : Pipeline}

/-- The handles that are open after a request, of those that were open before it. -/
def liveAfter (context : Context) (live : List Handle) (request : Request) : List Handle :=
  match (context.answer request).1.handle?, context.closed? request with
  | some handle, _ => handle :: live
  | none, some handle => live.erase handle
  | none, none => live

/-- The handles that are open at the end of a run. -/
def liveAll (context : Context) (live : List Handle) : List Request → List Handle
  | [] => live
  | request :: later => (context.answer request).2.liveAll (context.liveAfter live request) later

/-- A handle that is opened is one more open handle. -/
theorem liveAfter_opening (context : Context) (live : List Handle) (opening : Opening) :
    context.liveAfter live (.opening opening) =
      match opening.start with
      | .ok pipeline => (context.insert pipeline).1 :: live
      | .error _ => live := by
  -- An opening closes nothing, and adds its handle if it succeeds.
  simp only [liveAfter, answer_opening, closed?]
  cases opening.start <;> rfl

/-- An open handle stays open in a call unless the call closes it. -/
theorem liveAfter_call (opened : context.pipeline handle = .ok pipeline) (live : List Handle)
    (call : Call) :
    context.liveAfter live (.call handle call)
      = if call.closes then live.erase handle else live := by
  -- A call opens nothing, and takes its handle away if it closes it.
  simp only [liveAfter, answer_call opened, Pipeline.handle?_call, closed?_of_pipeline opened]
  cases call.closes <;> rfl

/-- How often a handle is opened in a run. -/
def opens (context : Context) (requests : List Request) : Nat :=
  context.tally (fun context request => (context.answer request).1.handle?.isSome) requests

/-- How often a handle is closed in a run. -/
def closes (context : Context) (requests : List Request) : Nat :=
  context.tally (fun context request => (context.closed? request).isSome) requests

/-- All that is used in a run are open handles, of which there are fewer than there are indexes. -/
def Proper (context : Context) (live : List Handle) : List Request → Prop
  | [] => True
  | request :: later =>
    (∀ handle ∈ request.handle?, handle ∈ live) ∧
      (context.liveAfter live request).length < UInt32.size ∧
      (context.answer request).2.Proper (context.liveAfter live request) later

/-- Whether a run is proper can be found out by running it. -/
instance decidableProper (context : Context) (live : List Handle) :
    (requests : List Request) → Decidable (context.Proper live requests)
  | [] => inferInstanceAs (Decidable True)
  | request :: later =>
    have := decidableProper (context.answer request).2 (context.liveAfter live request) later
    inferInstanceAs (Decidable ((∀ handle ∈ request.handle?, handle ∈ live) ∧ _ ∧ _))

/-- The slots of a context agree with the list of free ones and with the open handles. -/
structure Sound (context : Context) (live : List Handle) : Prop where
  /-- Every open handle refers to a pipeline. -/
  opened : ∀ handle ∈ live, ∃ pipeline, context.pipeline handle = .ok pipeline
  /-- No two open handles have the same index. -/
  apart : (live.map Handle.index).Nodup
  /-- The free slots are just the empty ones. -/
  free : ∀ place, place ∈ context.free.map UInt32.toNat ↔
    ∃ generation, context.slots[place]? = some ⟨generation, none⟩
  /-- No free slot is listed twice. -/
  once : context.free.Nodup
  /-- The context counts the open handles. -/
  count : context.openCount = live.length
  /-- There is an index for every slot, and for one more. -/
  room : context.slots.length < UInt32.size

/-- In a new context, nothing is open and there are no slots. -/
theorem sound_new (number : UInt32) (table : PropertyTable) : (new number table).Sound [] where
  -- There is neither a slot nor a handle.
  opened := by simp
  apart := by simp
  free := by simp [new]
  once := by simp [new]
  count := rfl
  room := by simp [new]

/-- What is done to one handle is nothing to a handle of another slot. -/
theorem pipeline_put_of_ne (apart : other.index ≠ handle.index) (left : Option Pipeline) :
    (context.put handle left).pipeline other = context.pipeline other := by
  have elsewhere : handle.index.toNat ≠ other.index.toNat :=
    fun same => apart (UInt32.toNat_inj.mp same).symm
  -- Only the slot of the handle has been written to.
  cases left <;> simp [Context.pipeline, put, replace, vacate, elsewhere]

/-- What is done to a handle decides on what it refers to. -/
theorem pipeline_put (opened : context.pipeline handle = .ok pipeline) (left : Option Pipeline) :
    ((context.put handle left).pipeline handle).toOption = left := by
  cases left with
  | some after =>
    rw [put, pipeline_replace opened after]
    rfl
  | none =>
    -- An empty slot refuses the handle whatever its generation is.
    have within := (List.getElem?_eq_some_iff.mp (pipeline_eq_ok_iff.mp opened).2).1
    have closed : (context.put handle none).pipeline handle = .error .invalidHandle := by
      simp [Context.pipeline, put, vacate, within]
    rw [closed]
    rfl

namespace Sound

variable {live : List Handle}

/-- The slot at the head of the free list is empty. -/
theorem slot_of_free (sound : context.Sound live) {index : UInt32} {others : List UInt32}
    (head : context.free = index :: others) :
    ∃ generation, context.slots[index.toNat]? = some ⟨generation, none⟩ :=
  -- The slots that are free are just those without a pipeline.
  (sound.free index.toNat).mp (by simp [head])

/-- Without free slots, there are as many slots as open handles. -/
theorem length_slots (sound : context.Sound live) (full : context.free = []) :
    context.slots.length = live.length := by
  rw [← sound.count, openCount, eq_comm, List.countP_eq_length]
  intro slot member
  obtain ⟨place, within, rfl⟩ := List.getElem_of_mem member
  -- An empty slot would be in the list of the free ones.
  rcases held : context.slots[place] with ⟨generation, none | pipeline⟩
  · have listed := (sound.free place).mpr
      ⟨generation, by rw [List.getElem?_eq_getElem within, held]⟩
    simp [full] at listed
  · rfl

/-- The index of a new slot is just the number of the others. -/
theorem toNat_length (sound : context.Sound live) :
    (UInt32.ofNat context.slots.length).toNat = context.slots.length := by
  rw [UInt32.toNat_ofNat', Nat.mod_eq_of_lt sound.room]

/-- A new handle takes one slot and leaves the others alone. -/
theorem slots_insert (sound : context.Sound live) (taken : Pipeline) (place : Nat) :
    (context.insert taken).2.slots[place]?
      = if place = (context.insert taken).1.index.toNat then
          some ⟨(context.insert taken).1.generation, some taken⟩
        else context.slots[place]? := by
  unfold insert
  cases head : context.free with
  | nil =>
    -- The new slot stands behind all the others.
    simp only [sound.toNat_length]
    rcases Nat.lt_trichotomy place context.slots.length with within | here | beyond
    · simp [List.getElem?_append_left within, within.ne]
    · simp [here]
    · rw [if_neg beyond.ne', List.getElem?_eq_none (by simp; omega),
        List.getElem?_eq_none (by omega)]
  | cons index others =>
    obtain ⟨generation, held⟩ := sound.slot_of_free head
    have within := (List.getElem?_eq_some_iff.mp held).1
    by_cases here : place = index.toNat
    · simp [here, within]
    · simp [here, Ne.symm here]

/-- The slot that a new handle takes has not held a pipeline before. -/
theorem vacant_insert (sound : context.Sound live) (taken held : Pipeline) (generation : UInt32) :
    context.slots[(context.insert taken).1.index.toNat]? ≠ some ⟨generation, some held⟩ := by
  -- A new slot was not there before, and a free one was empty.
  unfold insert
  cases head : context.free with
  | nil => simp [sound.toNat_length]
  | cons index others =>
    obtain ⟨last, empty⟩ := sound.slot_of_free head
    simp [empty]

/-- The slot that a new handle takes is not free any more, and all others are as before. -/
theorem mem_free_insert (sound : context.Sound live) (taken : Pipeline) (place : Nat) :
    place ∈ (context.insert taken).2.free.map UInt32.toNat ↔
      place ∈ context.free.map UInt32.toNat ∧
        place ≠ (context.insert taken).1.index.toNat := by
  have once := sound.once.map fun _ _ => UInt32.toNat_inj.mp
  unfold insert
  cases head : context.free with
  | nil => simp
  | cons index others =>
    -- The slot that is taken is not listed a second time.
    rw [head, List.map_cons, List.nodup_cons] at once
    simp only [List.map_cons, List.mem_cons]
    constructor
    · intro listed
      exact ⟨.inr listed, fun same => once.1 (same ▸ listed)⟩
    · rintro ⟨same | listed, apart⟩
      · exact absurd same apart
      · exact listed

/-- A new handle refers to its pipeline. -/
theorem pipeline_insert (sound : context.Sound live) (taken : Pipeline) :
    (context.insert taken).2.pipeline (context.insert taken).1 = .ok taken := by
  -- The slots that are free are among those that there are.
  refine Context.pipeline_insert sound.room (fun index listed => ?_) taken
  obtain ⟨generation, empty⟩ := (sound.free index.toNat).mp (List.mem_map_of_mem listed)
  exact (List.getElem?_eq_some_iff.mp empty).1

/-- The slot that a new handle takes belongs to no other handle. -/
theorem index_insert_ne (sound : context.Sound live)
    (opened : context.pipeline other = .ok pipeline) (taken : Pipeline) :
    other.index ≠ (context.insert taken).1.index := by
  intro same
  -- The slot of an open handle holds a pipeline, and the one that is taken does not.
  have held := (pipeline_eq_ok_iff.mp opened).2
  rw [same] at held
  exact sound.vacant_insert taken _ _ held

/-- Opening a handle leaves the others with their pipelines. -/
theorem pipeline_insert_of_pipeline (sound : context.Sound live)
    (opened : context.pipeline other = .ok pipeline) (taken : Pipeline) :
    (context.insert taken).2.pipeline other = .ok pipeline := by
  -- The slot that is taken is another one.
  have apart := sound.index_insert_ne opened taken
  rw [pipeline_eq_ok_iff] at opened ⊢
  rw [number_insert, sound.slots_insert, if_neg fun same => apart (UInt32.toNat_inj.mp same)]
  exact opened

/-- There is one more pipeline when a handle is opened. -/
theorem openCount_insert (sound : context.Sound live) (taken : Pipeline) :
    (context.insert taken).2.openCount = live.length + 1 := by
  -- One more slot holds a pipeline, be it a new one or one that was empty.
  rw [← sound.count]
  unfold Context.insert openCount
  cases head : context.free with
  | nil => simp
  | cons index others =>
    obtain ⟨generation, empty⟩ := sound.slot_of_free head
    obtain ⟨within, held⟩ := List.getElem?_eq_some_iff.mp empty
    simp [List.countP_set within, held]

/-- Opening a handle keeps the slots in order. -/
theorem insert (sound : context.Sound live) (room : live.length + 1 < UInt32.size)
    (taken : Pipeline) :
    (context.insert taken).2.Sound ((context.insert taken).1 :: live) where
  opened := by
    intro handle member
    rcases List.mem_cons.mp member with rfl | member
    · exact ⟨taken, sound.pipeline_insert taken⟩
    · obtain ⟨pipeline, opened⟩ := sound.opened handle member
      exact ⟨pipeline, sound.pipeline_insert_of_pipeline opened taken⟩
  apart := by
    rw [List.map_cons, List.nodup_cons]
    refine ⟨fun member => ?_, sound.apart⟩
    obtain ⟨other, member, same⟩ := List.mem_map.mp member
    obtain ⟨pipeline, opened⟩ := sound.opened other member
    exact sound.index_insert_ne opened taken same
  free := by
    intro place
    rw [sound.mem_free_insert, sound.free, sound.slots_insert]
    split
    · next here => simp [here]
    · next elsewhere => simp [elsewhere]
  once := by
    have once := sound.once
    unfold Context.insert
    cases head : context.free with
    | nil => exact List.nodup_nil
    | cons index others =>
      rw [head] at once
      exact once.of_cons
  count := by
    rw [sound.openCount_insert, List.length_cons]
  room := by
    unfold Context.insert
    cases head : context.free with
    | nil =>
      -- Where a slot is added, all of them are occupied, and so not too many.
      simpa [sound.length_slots head] using room
    | cons index others => simpa using sound.room

/-- Open handles are told apart by their indexes. -/
theorem index_ne (sound : context.Sound live) (member : handle ∈ live) (others : other ∈ live)
    (different : other ≠ handle) : other.index ≠ handle.index :=
  fun same => different (List.inj_on_of_nodup_map sound.apart others member same)

/-- The other open handles still refer to pipelines after a call to one of them. -/
theorem pipeline_put_of_mem (sound : context.Sound live) (member : handle ∈ live)
    (others : other ∈ live.erase handle) (left : Option Pipeline) :
    ∃ pipeline, (context.put handle left).pipeline other = .ok pipeline := by
  -- Handles that are open have slots of their own.
  obtain ⟨different, others⟩ := (sound.apart.of_map.mem_erase_iff).mp others
  rw [pipeline_put_of_ne (sound.index_ne member others different)]
  exact sound.opened other others

/-- Using or resetting a handle keeps the slots in order. -/
theorem replace (sound : context.Sound live) (member : handle ∈ live) (after : Pipeline) :
    (context.replace handle after).Sound live := by
  obtain ⟨pipeline, opened⟩ := sound.opened handle member
  obtain ⟨within, here⟩ := List.getElem?_eq_some_iff.mp (pipeline_eq_ok_iff.mp opened).2
  refine ⟨fun other others => ?_, sound.apart, fun place => ?_, sound.once, ?_, ?_⟩
  · by_cases same : other = handle
    · exact ⟨after, same ▸ pipeline_replace opened after⟩
    · exact sound.pipeline_put_of_mem member ((List.mem_erase_of_ne same).mpr others) (some after)
  · -- The slot of the handle is empty neither before nor afterwards.
    rw [show (context.replace handle after).free = context.free from rfl, sound.free]
    by_cases same : handle.index.toNat = place
    · subst same
      simp [Context.replace, within, here]
    · simp [Context.replace, same]
  · have counted : 0 < context.openCount :=
      List.countP_pos_iff.mpr ⟨_, List.getElem_mem within, by simp [here]⟩
    rw [← sound.count]
    simpa [openCount, Context.replace, List.countP_set within, here]
      using Nat.sub_add_cancel counted
  · simpa [Context.replace] using sound.room

/-- Closing a handle keeps the slots in order. -/
theorem vacate (sound : context.Sound live) (member : handle ∈ live) :
    (context.vacate handle).Sound (live.erase handle) := by
  obtain ⟨pipeline, opened⟩ := sound.opened handle member
  obtain ⟨within, here⟩ := List.getElem?_eq_some_iff.mp (pipeline_eq_ok_iff.mp opened).2
  refine ⟨fun other others => sound.pipeline_put_of_mem member others none, ?_, fun place => ?_,
    ?_, ?_, ?_⟩
  · exact sound.apart.sublist (List.erase_sublist.map _)
  · -- The slot of the handle has become one of the empty ones.
    have listed := sound.free place
    by_cases same : handle.index.toNat = place
    · subst same
      simp [Context.vacate, within]
    · simp only [Context.vacate, List.map_cons, List.mem_cons, Ne.symm same, false_or, listed,
        List.getElem?_set_ne same]
  · refine List.nodup_cons.mpr ⟨fun listed => ?_, sound.once⟩
    obtain ⟨generation, empty⟩ := (sound.free handle.index.toNat).mp (List.mem_map_of_mem listed)
    simp [List.getElem?_eq_getElem within, here] at empty
  · rw [List.length_erase_of_mem member, ← sound.count]
    simp [openCount, Context.vacate, List.countP_set within, here]
  · simpa [Context.vacate] using sound.room

/-- A call to an open handle keeps the slots in order. -/
theorem put (sound : context.Sound live) (member : handle ∈ live) (left : Option Pipeline) :
    (context.put handle left).Sound (if left.isNone then live.erase handle else live) := by
  -- A handle is closed, or its pipeline is another one.
  cases left with
  | none => exact sound.vacate member
  | some after => exact sound.replace member after

/-- A request keeps the slots in order. -/
theorem answer (sound : context.Sound live) {request : Request}
    (used : ∀ handle ∈ request.handle?, handle ∈ live)
    (room : (context.liveAfter live request).length < UInt32.size) :
    (context.answer request).2.Sound (context.liveAfter live request) := by
  -- What is opened becomes live, and what is closed is so no longer.
  cases request with
  | opening opening =>
    rw [liveAfter_opening] at room ⊢
    rw [answer_opening]
    cases started : opening.start with
    | error fault => exact sound
    | ok pipeline =>
      rw [started] at room
      exact sound.insert room pipeline
  | call handle call =>
    have member := used handle rfl
    obtain ⟨pipeline, opened⟩ := sound.opened handle member
    rw [answer_call opened, liveAfter_call opened, ← Pipeline.isNone_call context.table pipeline]
    exact sound.put member _

/-- The handles that are opened in a request become open, and those that are closed do not stay. -/
theorem length_liveAfter (sound : context.Sound live) {request : Request}
    (used : ∀ handle ∈ request.handle?, handle ∈ live) :
    (context.liveAfter live request).length + (if (context.closed? request).isSome then 1 else 0)
      = live.length + if (context.answer request).1.handle?.isSome then 1 else 0 := by
  -- One handle comes with every opening that succeeds, and one goes with every closing.
  cases request with
  | opening opening =>
    rw [liveAfter_opening, answer_opening]
    cases opening.start <;> rfl
  | call handle call =>
    have member := used handle rfl
    obtain ⟨pipeline, opened⟩ := sound.opened handle member
    rw [answer_call opened, liveAfter_call opened, closed?_of_pipeline opened]
    -- The handle that goes is one of those that were live.
    have positive := List.length_pos_of_mem member
    cases call.closes
    · simp
    · simpa [List.length_erase_of_mem member] using Nat.sub_add_cancel positive

/-- A run of proper requests keeps the slots in order. -/
theorem answerAll (sound : context.Sound live) {requests : List Request}
    (proper : context.Proper live requests) :
    (context.answerAll requests).2.Sound (context.liveAll live requests) := by
  -- Each request leaves a sound context to those after it.
  induction requests generalizing context live with
  | nil => exact sound
  | cons request later hypothesis =>
    obtain ⟨used, room, proper⟩ := proper
    exact hypothesis (sound.answer used room) proper

/-- The open handles are those that have been opened less those that have been closed. -/
theorem length_liveAll (sound : context.Sound live) {requests : List Request}
    (proper : context.Proper live requests) :
    (context.liveAll live requests).length + context.closes requests
      = live.length + context.opens requests := by
  induction requests generalizing context live with
  | nil => rfl
  | cons request later hypothesis =>
    obtain ⟨used, room, proper⟩ := proper
    -- The balance of the first request and that of the others add up.
    have step := sound.length_liveAfter used
    have others := hypothesis (sound.answer used room) proper
    simp only [liveAll, closes, opens, tally] at others ⊢
    omega

end Sound

/-- A run is proper if its front and what follows are so. -/
theorem proper_append {live : List Handle} (before later : List Request) :
    context.Proper live (before ++ later) ↔ context.Proper live before ∧
      (context.answerAll before).2.Proper (context.liveAll live before) later := by
  -- The later requests are judged in the context that the others lead to.
  induction before generalizing context live with
  | nil => simp [Proper, answerAll, liveAll]
  | cons request before hypothesis =>
    simp only [List.cons_append, Proper, answerAll, liveAll, hypothesis, and_assoc]

end Context

end UniText
