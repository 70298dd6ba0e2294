import UniText.Context.Basic
import UniText.Proofs.Context.Pipeline
import UniText.Proofs.Normalize.Boundary
import UniText.Transcoder

/-! Streams fed to a handle in chunks: they come out as the whole text does in one piece. -/

namespace UniText

namespace Context

variable {context : Context} {handle : Handle} {pipeline : Pipeline}

/-- A handle refers to a pipeline that is in its slot, in the same generation. -/
theorem pipeline_eq_ok_iff : context.pipeline handle = .ok pipeline ↔
    handle.context = context.number ∧
      context.slots[handle.index.toNat]? = some ⟨handle.generation, some pipeline⟩ := by
  unfold Context.pipeline
  split
  · next foreign => simp [foreign]
  · next own =>
    rw [Decidable.not_not] at own
    simp only [own, true_and]
    -- Any other slot, or none at all, is refused.
    split
    · next generation held found =>
      rw [found]
      split
      · next same => simp [same]
      · next other => simp [other]
    · next refused =>
      simp only [reduceCtorEq, false_iff]
      exact refused _ _

/-- A handle refers to what was put in the place of its pipeline. -/
theorem pipeline_replace (opened : context.pipeline handle = .ok pipeline) (other : Pipeline) :
    (context.replace handle other).pipeline handle = .ok other := by
  -- The slot is written over, and the generation in it is that of the handle.
  obtain ⟨own, held⟩ := pipeline_eq_ok_iff.mp opened
  have within := (List.getElem?_eq_some_iff.mp held).1
  exact pipeline_eq_ok_iff.mpr ⟨own, by simp [replace, within]⟩

/-- The table stays the same, whatever becomes of the pipelines. -/
@[simp] theorem table_replace (context : Context) (handle : Handle) (pipeline : Pipeline) :
    (context.replace handle pipeline).table = context.table := rfl

/-- Only the last of two replacements counts. -/
@[simp] theorem replace_replace (context : Context) (handle : Handle) (one other : Pipeline) :
    (context.replace handle one).replace handle other = context.replace handle other := by
  simp [replace]

/-- Putting a pipeline where it is changes nothing. -/
theorem replace_self (opened : context.pipeline handle = .ok pipeline) :
    context.replace handle pipeline = context := by
  obtain ⟨-, held⟩ := pipeline_eq_ok_iff.mp opened
  have same : context.slots.set handle.index.toNat ⟨handle.generation, some pipeline⟩
      = context.slots := by
    apply List.ext_getElem?
    intro place
    rw [List.getElem?_set]
    split
    · next here =>
      -- The slot of the handle holds just this pipeline.
      subst here
      rw [held]
      simp [(List.getElem?_eq_some_iff.mp held).1]
    · rfl
  simp only [replace, same]

/-- A handle refers to the pipeline that it was opened with, if there is room for it. -/
theorem pipeline_insert (room : context.slots.length < UInt32.size)
    (free : ∀ index ∈ context.free, index.toNat < context.slots.length) (pipeline : Pipeline) :
    (context.insert pipeline).2.pipeline (context.insert pipeline).1 = .ok pipeline := by
  rw [pipeline_eq_ok_iff]
  unfold insert
  cases opening : context.free with
  | nil =>
    -- The new slot comes behind all the others.
    have place : (UInt32.ofNat context.slots.length).toNat = context.slots.length := by
      rw [UInt32.toNat_ofNat', Nat.mod_eq_of_lt room]
    simp [place]
  | cons index others =>
    have within := free index (by simp [opening])
    simp [within]

/-- A handle refers to a pipeline in the course of a stream, and nothing else has changed. -/
def Continues (origin : Context) (handle : Handle) (start : Pipeline) (context : Context) : Prop :=
  ∃ pipeline, context.pipeline handle = .ok pipeline ∧
    Pipeline.Continues origin.table start pipeline ∧ context = origin.replace handle pipeline

/-- What the pipeline of a handle gives for all that is still to come. -/
def Gives (handle : Handle) (context : Context) (bytes output : List UInt8) : Prop :=
  ∃ pipeline, context.pipeline handle = .ok pipeline ∧
    pipeline.Gives context.table bytes output

/-- What a handle gives is up to the pipeline that it refers to. -/
theorem gives_iff (opened : context.pipeline handle = .ok pipeline) (bytes output : List UInt8) :
    Gives handle context bytes output ↔ pipeline.Gives context.table bytes output := by
  simp [Gives, opened]

variable {origin : Context} {start : Pipeline}

/-- Every chunk is processed in step with the whole stream. -/
theorem inStep_process (checked : origin.table.Checked)
    (continues : Continues origin handle start context) (chunk : List UInt8) :
    InStep (Gives handle) (Continues origin handle start) context chunk
      (context.process handle chunk) := by
  obtain ⟨pipeline, opened, continues, rfl⟩ := continues
  have step := Pipeline.inStep_run checked continues chunk
  obtain ⟨outcome, ran⟩ : ∃ outcome, pipeline.run origin.table chunk false = outcome := ⟨_, rfl⟩
  rw [ran] at step
  cases step with
  | @failed fault after whole =>
    have processed : (origin.replace handle pipeline).process handle chunk
        = (.error fault, origin.replace handle pipeline) := by
      simp [process, run, opened, ran]
    rw [processed]
    refine .failed fun rest output => ?_
    rw [gives_iff opened]
    exact whole rest output
  | @passed front after goesOn whole =>
    have reopened := pipeline_replace opened after
    rw [replace_replace] at reopened
    have processed : (origin.replace handle pipeline).process handle chunk
        = (.ok front, origin.replace handle after) := by
      simp [process, run, opened, ran]
    rw [processed]
    -- Only the pipeline has been replaced since the stream began.
    refine .passed ⟨after, reopened, goesOn, rfl⟩ ?_
    intro rest output
    simp only [gives_iff opened, gives_iff reopened]
    exact whole rest output

/-- Ending the stream leaves the context with a pipeline at the start of another one. -/
theorem endsWell_finish (checked : origin.table.Checked)
    (continues : Continues origin handle start context) :
    EndsWell (Gives handle) (origin.replace handle start) context (context.finish handle) := by
  obtain ⟨pipeline, opened, continues, rfl⟩ := continues
  obtain ⟨⟨result, after⟩, ran⟩ : ∃ outcome, pipeline.run origin.table [] true = outcome :=
    ⟨_, rfl⟩
  intro output
  rw [gives_iff opened]
  have ending := Pipeline.run_end_eq_ok_iff checked continues output
  rw [ran] at ending
  cases result with
  | error fault =>
    have finished : ((origin.replace handle pipeline).finish handle).1 = .error fault := by
      simp [finish, run, opened, ran]
    rw [finished]
    exact ⟨ending.1, by simp⟩
  | ok last =>
    have reopened := pipeline_replace opened after
    rw [replace_replace] at reopened
    -- The pipeline is put back to the start after the run.
    have finished : (origin.replace handle pipeline).finish handle
        = (.ok last, origin.replace handle after.reset) := by
      simp [finish, run, opened, ran, reset, reopened]
    rw [finished]
    exact ⟨ending.1, fun given => by rw [ending.2 given]⟩

end Context

namespace Transcoder

/-- A transcoder is in the course of a stream that another one was at the start of. -/
def Continues (start transcoder : Transcoder) : Prop :=
  transcoder.source.reset = start.source ∧ transcoder.target = start.target

/-- What a transcoder gives for all that is still to come. -/
def Gives (transcoder : Transcoder) (bytes output : List UInt8) : Prop :=
  Converter.Transcodes transcoder.source transcoder.target bytes output

variable {start transcoder : Transcoder}

/-- Every chunk is transcoded in step with the whole stream. -/
theorem inStep_feed (continues : Continues start transcoder) (chunk : List UInt8) :
    InStep Gives (Continues start) transcoder chunk (transcoder.feed chunk) := by
  -- The chunk is decoded, and its text is encoded at once.
  obtain ⟨⟨⟨text, failed⟩, after⟩, decoded⟩ :
      ∃ outcome, transcoder.source.decode chunk false = outcome := ⟨_, rfl⟩
  have fed : transcoder.feed chunk
      = ((Progress.mk text failed).result.bind transcoder.target.encodeWhole,
        ⟨after, transcoder.target⟩) := by
    simp [feed, decoded]
  rw [fed]
  cases failed with
  | some error => exact .failed (Converter.not_transcodes_of_decode decoded)
  | none =>
    apply InStep.of_parts
    · refine ⟨?_, continues.2⟩
      rw [← continues.1]
      exact Converter.reset_of_decode decoded
    -- The text of the whole input is that of the chunk and then that of the rest.
    · intro rest output
      show Converter.Transcodes transcoder.source transcoder.target (chunk ++ rest) output ↔
        ∃ front back, (transcoder.target.encode text).result = .ok front ∧
          Converter.Transcodes after transcoder.target rest back ∧ output = front ++ back
      simp only [Progress.result_eq_ok_iff]
      exact Converter.transcodes_iff_of_decode decoded rest output

/-- Ending the stream leaves a transcoder at the start of another one. -/
theorem endsWell_finish (continues : Continues start transcoder) :
    EndsWell Gives start transcoder transcoder.finish := by
  obtain ⟨⟨⟨text, failed⟩, after⟩, decoded⟩ :
      ∃ outcome, transcoder.source.decode [] true = outcome := ⟨_, rfl⟩
  have finished : transcoder.finish
      = ((Progress.mk text failed).result.bind transcoder.target.encodeWhole,
        ⟨after.reset, transcoder.target⟩) := by
    simp [finish, decoded]
  have whole : transcoder.source.ahead [] = ⟨text, failed⟩ := by
    rw [← Converter.decode_end, decoded]
  intro output
  rw [finished, Gives, Converter.Transcodes, whole]
  refine ⟨Progress.bind_result_eq_ok_iff, fun given => ?_⟩
  -- An output means that no error stopped the decoding.
  obtain ⟨all, same, -⟩ := Progress.bind_result_eq_ok_iff.mp given
  rw [Converter.reset_of_decode (same ▸ decoded), continues.1, continues.2]

/-- At the start of a stream, what is still to come is transcoded like a whole buffer. -/
theorem gives_iff_of_start (start : transcoder.source.reset = transcoder.source)
    (bytes output : List UInt8) :
    transcoder.Gives bytes output ↔ (transcoder.transcode bytes).1 = .ok output := by
  -- At the start of a stream a reset changes nothing.
  have whole : (transcoder.source.reset.decode bytes true).1
      = transcoder.source.ahead bytes := by
    rw [start, Converter.decode_end]
  simp only [transcode, Converter.decodeWhole, whole]
  exact Progress.bind_result_eq_ok_iff.symm

end Transcoder

namespace Context

variable {context : Context} {handle : Handle} {pipeline : Pipeline}

/-- A stream that is fed in chunks comes out as the whole of it does in one piece.

This holds for the pipelines of handles and for transcoders. All calls succeed exactly when the
whole can be converted, and then the next stream is met like a new one. -/
theorem feedAll_eq_oneShot {bytes : List UInt8}
    (loaded : PropertyTable.load bytes = .ok context.table)
    (opened : context.pipeline handle = .ok pipeline) (start : pipeline.reset = pipeline)
    (keeps : pipeline.KeepsApart context.table) (chunks : List (List UInt8)) :
    (∀ output,
      ((feedAll (process · handle) (finish · handle) context chunks).1 = .ok output ↔
        pipeline.oneShot context.table chunks.flatten = .ok output) ∧
      ((feedAll (process · handle) (finish · handle) context chunks).1 = .ok output →
        (feedAll (process · handle) (finish · handle) context chunks).2 = context)) ∧
      ∀ transcoder : Transcoder, transcoder.source.reset = transcoder.source → ∀ output,
        ((feedAll Transcoder.feed Transcoder.finish transcoder chunks).1 = .ok output ↔
          (transcoder.transcode chunks.flatten).1 = .ok output) ∧
        ((feedAll Transcoder.feed Transcoder.finish transcoder chunks).1 = .ok output →
          (feedAll Transcoder.feed Transcoder.finish transcoder chunks).2 = transcoder) := by
  have checked := PropertyTable.checked_of_load loaded
  -- Both are in the course of a stream that they themselves are at the start of.
  refine ⟨fun output => ?_, fun transcoder fresh output => ?_⟩
  · have continues : Continues context handle pipeline context :=
      ⟨pipeline, opened, ⟨start, keeps⟩, (replace_self opened).symm⟩
    have step (state : Context) (goesOn : Continues context handle pipeline state)
        (chunk : List UInt8) : InStep (Gives handle) (Continues context handle pipeline) state
          chunk ((process · handle) state chunk) := inStep_process checked goesOn chunk
    have ending (state : Context) (goesOn : Continues context handle pipeline state) :
        EndsWell (Gives handle) (context.replace handle pipeline) state
          ((finish · handle) state) := endsWell_finish checked goesOn
    have streamed := feedAll_eq_ok_iff step ending chunks continues output
    rwa [gives_iff opened, Pipeline.gives_iff_of_start start, replace_self opened] at streamed
  · have streamed := feedAll_eq_ok_iff (fun _ goesOn => Transcoder.inStep_feed goesOn)
      (fun _ goesOn => Transcoder.endsWell_finish goesOn) chunks
      (⟨fresh, rfl⟩ : Transcoder.Continues transcoder transcoder) output
    rwa [Transcoder.gives_iff_of_start fresh] at streamed

/-- A letter and two accents are normalized although both accents are cut in two. -/
theorem feedAll_eq_oneShot_accents : PropertyTable.load Accents.bytes = .ok Accents.table ∧
    ∃ handle context,
      (new 0 Accents.table).openNormalizer .nfc "UTF-8" .strict = (.ok handle, context) ∧
        feedAll (process · handle) (finish · handle) context
          [[0x65, 0xCC], [], [0xA3, 0xCC], [0x81]] = (.ok [0xC3, 0xA9, 0xCC, 0xA3], context) := by
  refine ⟨Accents.load_bytes, ?_⟩
  let pipeline : Pipeline := .normalizing (.new .utf8 .strict) (.new .nfc)
  let context := ((new 0 Accents.table).insert pipeline).2
  let handle := ((new 0 Accents.table).insert pipeline).1
  have named : Charset.ofName "UTF-8" = .ok .utf8 := Charset.ofName_name .utf8
  refine ⟨handle, context, by simp [openNormalizer, named, handle, context, pipeline], ?_⟩
  have loaded : PropertyTable.load Accents.bytes = .ok context.table := Accents.load_bytes
  have opened : context.pipeline handle = .ok pipeline :=
    pipeline_insert (by decide) (by simp [new]) pipeline
  have streamed := (feedAll_eq_oneShot loaded opened rfl
    (fun _ => PropertyTable.keepsApart_accents)
    [[0x65, 0xCC], [], [0xA3, 0xCC], [0x81]]).1 [0xC3, 0xA9, 0xCC, 0xA3]
  -- The whole text is a letter, a mark of the lower class and the accent that composes past it.
  have decoded : Charset.utf8.decode .strict [0x65, 0xCC, 0xA3, 0xCC, 0x81]
      = ⟨[0x65, 0x323, 0x301], none⟩ := by decide +kernel
  have encoded : Charset.utf8.encode .strict [0xE9, 0x323] = ⟨[0xC3, 0xA9, 0xCC, 0xA3], none⟩ := by
    decide
  have whole : pipeline.oneShot context.table [0x65, 0xCC, 0xA3, 0xCC, 0x81]
      = .ok [0xC3, 0xA9, 0xCC, 0xA3] := by
    refine Progress.bind_outcome_eq_ok_iff.mpr ⟨_, decoded, ?_⟩
    show Charset.utf8.encode .strict (Accents.table.normalize .nfc [0x65, 0x323, 0x301]) = _
    rw [PropertyTable.normalize_accents, encoded]
  have given := streamed.1.mpr whole
  exact Prod.ext given (streamed.2 given)

end Context

end UniText
