import UniText.Context.Pipeline
import UniText.Proofs.Charset.Encoding
import UniText.Proofs.Charset.Range
import UniText.Proofs.Context.Feeding
import UniText.Proofs.Converter.Chunks
import UniText.Proofs.Normalize.Stream

/-! Running a chunk through a pipeline takes nothing away from what the whole stream gives. -/

namespace UniText

/-- A conversion has an outcome exactly when no error stopped it. -/
theorem Progress.outcome_eq_ok_iff {α : Type} {progress : Progress α} {output : List α} :
    progress.outcome = .ok output ↔ progress = ⟨output, none⟩ := by
  obtain ⟨written, _ | error⟩ := progress <;> simp [outcome, result, Except.mapError]

/-- One conversion after another has an outcome exactly when no error stopped either. -/
theorem Progress.bind_outcome_eq_ok_iff {α β : Type} {first : Progress α}
    {next : List α → Progress β} {output : List β} :
    (first.outcome.bind fun between => (next between).outcome) = .ok output ↔
      ∃ between, first = ⟨between, none⟩ ∧ next between = ⟨output, none⟩ := by
  -- Both conversions go to their end, the second one on the output of the first.
  show (first.outcome >>= fun between => (next between).outcome) = .ok output ↔ _
  simp only [bind_eq_ok_iff, outcome_eq_ok_iff]

/-- One conversion after another has a result exactly when no error stopped either. -/
theorem Progress.bind_result_eq_ok_iff {α β : Type} {first : Progress α}
    {next : List α → Progress β} {output : List β} :
    (first.result.bind fun between => (next between).result) = .ok output ↔
      ∃ between, first = ⟨between, none⟩ ∧ next between = ⟨output, none⟩ := by
  -- Both conversions go to their end, the second one on the output of the first.
  show (first.result >>= fun between => (next between).result) = .ok output ↔ _
  simp only [bind_eq_ok_iff, result_eq_ok_iff]

/-- Output that comes first is part of the whole output of a conversion that does not fail. -/
theorem Progress.before_eq_iff {α : Type} {first output : List α} {later : Progress α} :
    later.before first = ⟨output, none⟩ ↔
      ∃ rest, later = ⟨rest, none⟩ ∧ output = first ++ rest := by
  -- The error is that of what is written later.
  obtain ⟨rest, failed⟩ := later
  simp [Progress.before, eq_comm, and_comm]

namespace Converter

/-- The decoding of the bytes that a converter holds and of all that are still to come. -/
def ahead (converter : Converter) (bytes : List UInt8) : Progress CodePoint :=
  converter.charset.decodeFrom converter.policy converter.position (converter.pending ++ bytes)

variable {converter after : Converter} {chunk : List UInt8} {flush : Bool}
  {text : List CodePoint}

/-- What is decoded from a chunk comes before the decoding of what is still to come. -/
theorem ahead_of_decode (decoded : converter.decode chunk flush = (⟨text, none⟩, after)) :
    after.charset = converter.charset ∧ after.policy = converter.policy ∧
      ∀ rest, (flush = true → rest = []) →
        converter.ahead (chunk ++ rest) = (after.ahead rest).before text := by
  have reads := reads_decode converter chunk flush
  rw [decoded] at reads
  cases reads with
  | passed within waits ended whole =>
    refine ⟨rfl, rfl, ?_⟩
    intro rest none
    -- The bytes that are held are taken together with the chunk.
    rw [ahead, ← List.append_assoc, whole rest none]
    rfl

/-- Decoding without an error changes nothing that another stream would begin with. -/
theorem reset_of_decode (decoded : converter.decode chunk flush = (⟨text, none⟩, after)) :
    after.reset = converter.reset := by
  -- Decoding changes what is held back and the offset, which a reset drops.
  obtain ⟨charset, policy, -⟩ := ahead_of_decode decoded
  simp only [reset, charset, policy]

/-- At the end of a stream all that was still to come is decoded, as far as that goes. -/
theorem decode_end (converter : Converter) (chunk : List UInt8) :
    (converter.decode chunk true).1 = converter.ahead chunk :=
  (reads_decode converter chunk true).eq_decodeFrom

/-- A converter at the start of a stream has everything still to come. -/
theorem ahead_of_start (start : converter.reset = converter) (bytes : List UInt8) :
    converter.ahead bytes = converter.charset.decode converter.policy bytes := by
  -- Nothing is held back at the start of a stream.
  rw [← start]
  rfl

/-- An error in a chunk is the one that stops the decoding of all that is still to come. -/
theorem ahead_of_decode_error {error : CodecError}
    (decoded : converter.decode chunk false = (⟨text, some error⟩, after)) (rest : List UInt8) :
    converter.ahead (chunk ++ rest) = ⟨text, some error⟩ := by
  -- A failure of a chunk is one of the whole input, whatever follows.
  have reads := reads_decode converter chunk false
  rw [decoded] at reads
  cases reads with
  | failed whole => rw [ahead, ← List.append_assoc, whole rest (by simp)]

/-- What is decoded from a chunk are code points. -/
theorem le_last_of_decode (decoded : converter.decode chunk flush = (⟨text, none⟩, after)) :
    ∀ code ∈ text, code ≤ CodePoint.last := by
  obtain ⟨-, -, whole⟩ := ahead_of_decode decoded
  have all := whole [] fun _ => rfl
  intro code member
  -- They are the first ones of the whole decoding.
  have early : code ∈ (converter.ahead (chunk ++ [])).output := by
    rw [all, Progress.output_before]
    exact List.mem_append_left _ member
  exact Charset.le_last_of_mem_decodeFrom early

/-- What is still to come is decoded by one converter and encoded by another, without fail. -/
def Transcodes (source target : Converter) (bytes output : List UInt8) : Prop :=
  ∃ text, source.ahead bytes = ⟨text, none⟩ ∧ target.encode text = ⟨output, none⟩

/-- What is still to come is transcoded exactly when the text of a chunk and the rest of it are. -/
theorem transcodes_iff_of_decode {target : Converter}
    (decoded : converter.decode chunk false = (⟨text, none⟩, after)) (rest output : List UInt8) :
    Transcodes converter target (chunk ++ rest) output ↔
      ∃ front back, target.encode text = ⟨front, none⟩ ∧ Transcodes after target rest back ∧
        output = front ++ back := by
  obtain ⟨-, -, whole⟩ := ahead_of_decode decoded
  simp only [Transcodes, whole rest (by simp), Progress.before_eq_iff, encode]
  -- Both parts of the text are encoded, one after the other.
  constructor
  · rintro ⟨_, ⟨later, behind, rfl⟩, encoded⟩
    obtain ⟨front, back, one, two, rfl⟩ := Charset.encode_append_iff.mp encoded
    exact ⟨front, back, one, ⟨later, behind, two⟩, rfl⟩
  · rintro ⟨front, back, one, ⟨later, behind, two⟩, rfl⟩
    exact ⟨_, ⟨later, behind, rfl⟩, Charset.encode_append_iff.mpr ⟨front, back, one, two, rfl⟩⟩

/-- Nothing is transcoded if a chunk of it cannot be decoded. -/
theorem not_transcodes_of_decode {target : Converter} {error : CodecError}
    (decoded : converter.decode chunk false = (⟨text, some error⟩, after))
    (rest output : List UInt8) : ¬Transcodes converter target (chunk ++ rest) output := by
  -- The whole input would have to be decoded, and it fails in this chunk.
  rintro ⟨all, whole, -⟩
  rw [ahead_of_decode_error decoded rest] at whole
  simp at whole

end Converter

namespace Pipeline

/-- What a pipeline gives for all that is still to come, up to the end of the stream. -/
def Gives (table : PropertyTable) (pipeline : Pipeline) (bytes output : List UInt8) : Prop :=
  match pipeline with
  | converting source target => Converter.Transcodes source target bytes output
  | normalizing codec stream =>
    -- The text that was held back comes before what is decoded.
    ∃ text, codec.ahead bytes = ⟨text, none⟩ ∧
      codec.encode (table.normalize stream.form (stream.pending ++ text)) = ⟨output, none⟩

/-- What a normalizing pipeline relies on if its form is a composing one. -/
def KeepsApart (table : PropertyTable) : Pipeline → Prop
  | converting _ _ => True
  | normalizing _ stream => stream.form.isComposing = true → table.KeepsApart stream.form

/-- A pipeline is in the course of a stream that another one was at the start of. -/
def Continues (table : PropertyTable) (start pipeline : Pipeline) : Prop :=
  pipeline.reset = start ∧ pipeline.KeepsApart table

variable {table : PropertyTable} {start : Pipeline}

/-- A conversion of a chunk is in step with that of the whole stream. -/
theorem inStep_converting {source target : Converter}
    (continues : Continues table start (converting source target)) (chunk : List UInt8) :
    InStep (Gives table) (Continues table start) (converting source target) chunk
      ((converting source target).run table chunk false) := by
  -- The chunk is decoded, and its text is encoded at once.
  obtain ⟨⟨⟨text, failed⟩, after⟩, decoded⟩ : ∃ outcome, source.decode chunk false = outcome :=
    ⟨_, rfl⟩
  have ran : (converting source target).run table chunk false
      = ((Progress.mk text failed).outcome.bind fun text => (target.encode text).outcome,
        converting after target) := by
    simp [run, decoded]
  rw [ran]
  cases failed with
  | some error => exact .failed (Converter.not_transcodes_of_decode decoded)
  | none =>
    apply InStep.of_parts
    · refine ⟨?_, trivial⟩
      rw [← continues.1, reset, reset, Converter.reset_of_decode decoded]
    -- The text of the whole input is that of the chunk and then that of the rest.
    · intro rest output
      show Converter.Transcodes source target (chunk ++ rest) output ↔
        ∃ front back, (target.encode text).outcome = .ok front ∧
          Converter.Transcodes after target rest back ∧ output = front ++ back
      simp only [Progress.outcome_eq_ok_iff]
      exact Converter.transcodes_iff_of_decode decoded rest output

/-- A run makes of a decoded text what is final and what is held back, which at the end is flushed.

With whatever comes later, both have the normalization that the whole text has. -/
theorem exists_run_normalizing (checked : table.Checked) {codec after : Converter}
    {stream : NormalizingStream}
    (keeps : stream.form.isComposing = true → table.KeepsApart stream.form)
    {chunk : List UInt8} {flush : Bool} {text : List CodePoint}
    (decoded : codec.decode chunk flush = (⟨text, none⟩, after)) :
    ∃ final held, held.form = stream.form ∧
      (normalizing codec stream).run table chunk flush
        = (if flush then
            ((codec.encode (final ++ table.normalize stream.form held.pending)).outcome,
              normalizing after held.reset)
          else ((codec.encode final).outcome, normalizing after held)) ∧
      ∀ later, table.normalize stream.form (stream.pending ++ (text ++ later))
        = final ++ table.normalize stream.form (held.pending ++ later) := by
  obtain ⟨charset, policy, -⟩ := Converter.ahead_of_decode decoded
  -- Decoded text is never refused by the normalization.
  obtain ⟨count, final, held, pushed, form, -, normalized⟩ :=
    NormalizingStream.pushOnto_eq checked stream keeps [] (Converter.le_last_of_decode decoded)
  refine ⟨final, held, form, ?_, fun later => ?_⟩
  · cases flush <;>
      simp [run, decoded, pushed, Progress.outcome, Progress.result, Except.mapError,
        NormalizingStream.flushOnto, PropertyTable.normalizeOnto_eq, Converter.encode, charset,
        policy, form]
  · rw [← List.append_assoc, normalized later, List.nil_append]

/-- A normalization of a chunk is in step with that of the whole stream. -/
theorem inStep_normalizing (checked : table.Checked) {codec : Converter}
    {stream : NormalizingStream} (continues : Continues table start (normalizing codec stream))
    (chunk : List UInt8) :
    InStep (Gives table) (Continues table start) (normalizing codec stream) chunk
      ((normalizing codec stream).run table chunk false) := by
  obtain ⟨same, keeps⟩ := continues
  obtain ⟨⟨⟨text, failed⟩, after⟩, decoded⟩ : ∃ outcome, codec.decode chunk false = outcome :=
    ⟨_, rfl⟩
  cases failed with
  | some error =>
    have ran : (normalizing codec stream).run table chunk false
        = (.error error.fault, normalizing after stream) := by
      simp [run, decoded, Progress.outcome, Progress.result, Except.mapError]
    rw [ran]
    refine .failed ?_
    rintro rest output ⟨all, whole, -⟩
    rw [Converter.ahead_of_decode_error decoded rest] at whole
    simp at whole
  | none =>
    obtain ⟨charset, policy, whole⟩ := Converter.ahead_of_decode decoded
    obtain ⟨final, held, form, ran, apart⟩ := exists_run_normalizing checked keeps decoded
    rw [ran, if_neg Bool.false_ne_true]
    apply InStep.of_parts
    · refine ⟨?_, by simpa only [KeepsApart, form] using keeps⟩
      rw [← same]
      simp only [reset, Converter.reset_of_decode decoded, NormalizingStream.reset, form]
    · intro rest output
      simp only [Gives, whole rest (by simp), Progress.before_eq_iff,
        Progress.outcome_eq_ok_iff, Converter.encode, charset, policy, form]
      -- The normalization of the whole falls apart where the chunk has become final.
      constructor
      · rintro ⟨_, ⟨later, behind, rfl⟩, encoded⟩
        rw [apart] at encoded
        obtain ⟨front, back, one, two, rfl⟩ := Charset.encode_append_iff.mp encoded
        exact ⟨front, back, one, ⟨later, behind, two⟩, rfl⟩
      · rintro ⟨front, back, one, ⟨later, behind, two⟩, rfl⟩
        refine ⟨_, ⟨later, behind, rfl⟩, ?_⟩
        rw [apart]
        exact Charset.encode_append_iff.mpr ⟨front, back, one, two, rfl⟩

/-- Every chunk is run through a pipeline in step with the whole stream. -/
theorem inStep_run (checked : table.Checked) {pipeline : Pipeline}
    (continues : Continues table start pipeline) (chunk : List UInt8) :
    InStep (Gives table) (Continues table start) pipeline chunk
      (pipeline.run table chunk false) := by
  -- Both kinds of pipelines keep in step, each for its own reason.
  cases pipeline with
  | converting source target => exact inStep_converting continues chunk
  | normalizing codec stream => exact inStep_normalizing checked continues chunk

/-- At its end a conversion gives what is left, and is one of the same kind. -/
theorem run_end_converting {source target : Converter} (output : List UInt8) :
    (((converting source target).run table [] true).1 = .ok output ↔
        (converting source target).Gives table [] output) ∧
      (((converting source target).run table [] true).1 = .ok output →
        ((converting source target).run table [] true).2.reset
          = (converting source target).reset) := by
  obtain ⟨⟨⟨text, failed⟩, after⟩, decoded⟩ : ∃ outcome, source.decode [] true = outcome :=
    ⟨_, rfl⟩
  have ran : (converting source target).run table [] true
      = ((Progress.mk text failed).outcome.bind fun text => (target.encode text).outcome,
        converting after target) := by
    simp [run, decoded]
  have whole : source.ahead [] = ⟨text, failed⟩ := by rw [← Converter.decode_end, decoded]
  rw [ran]
  refine ⟨?_, fun given => ?_⟩
  · rw [Gives, Converter.Transcodes, whole]
    exact Progress.bind_outcome_eq_ok_iff
  · -- An output means that no error stopped the decoding.
    obtain ⟨all, same, -⟩ := Progress.bind_outcome_eq_ok_iff.mp given
    rw [reset, reset, Converter.reset_of_decode (same ▸ decoded)]

/-- At its end a normalization gives what is left, and is one of the same kind. -/
theorem run_end_normalizing (checked : table.Checked) {codec : Converter}
    {stream : NormalizingStream}
    (keeps : stream.form.isComposing = true → table.KeepsApart stream.form)
    (output : List UInt8) :
    (((normalizing codec stream).run table [] true).1 = .ok output ↔
        (normalizing codec stream).Gives table [] output) ∧
      (((normalizing codec stream).run table [] true).1 = .ok output →
        ((normalizing codec stream).run table [] true).2.reset
          = (normalizing codec stream).reset) := by
  obtain ⟨⟨⟨text, failed⟩, after⟩, decoded⟩ : ∃ outcome, codec.decode [] true = outcome :=
    ⟨_, rfl⟩
  have whole : codec.ahead [] = ⟨text, failed⟩ := by rw [← Converter.decode_end, decoded]
  cases failed with
  | some error =>
    -- Neither the run nor the whole has an output.
    simp [run, decoded, Gives, whole, Progress.outcome, Progress.result, Except.mapError]
  | none =>
    obtain ⟨final, held, form, ran, apart⟩ := exists_run_normalizing checked keeps decoded
    -- What has become final and what is still held make up the normalization of the whole.
    have flushed : final ++ table.normalize stream.form held.pending
        = table.normalize stream.form (stream.pending ++ text) := by
      simpa using (apart []).symm
    rw [if_pos rfl, flushed] at ran
    rw [ran]
    refine ⟨?_, fun _ => ?_⟩
    · simp only [Gives, whole, Progress.mk.injEq, and_true, exists_eq_left']
      exact Progress.outcome_eq_ok_iff
    · simp only [reset, Converter.reset_of_decode decoded, NormalizingStream.reset,
        NormalizingStream.new, form]

/-- At the end of a stream a pipeline gives what is left, and is one of the same kind. -/
theorem run_end_eq_ok_iff (checked : table.Checked) {pipeline : Pipeline}
    (continues : Continues table start pipeline) (output : List UInt8) :
    ((pipeline.run table [] true).1 = .ok output ↔ pipeline.Gives table [] output) ∧
      ((pipeline.run table [] true).1 = .ok output →
        (pipeline.run table [] true).2.reset = start) := by
  obtain ⟨rfl, keeps⟩ := continues
  -- At the end all that is held is decoded, and all text that is held back is normalized.
  cases pipeline with
  | converting source target => exact run_end_converting output
  | normalizing codec stream => exact run_end_normalizing checked keeps output

/-- What a pipeline makes of a whole text: decoded, normalized if need be, and encoded. -/
def oneShot (table : PropertyTable) (pipeline : Pipeline) (bytes : List UInt8) :
    Except Fault (List UInt8) :=
  match pipeline with
  | converting source target =>
    (source.charset.decode source.policy bytes).outcome.bind fun text =>
      (target.charset.encode target.policy text).outcome
  | normalizing codec stream =>
    (codec.charset.decode codec.policy bytes).outcome.bind fun text =>
      (codec.charset.encode codec.policy (table.normalize stream.form text)).outcome

/-- At the start of a stream, what is still to come is all there is. -/
theorem gives_iff_of_start {pipeline : Pipeline} (start : pipeline.reset = pipeline)
    (bytes output : List UInt8) :
    pipeline.Gives table bytes output ↔ pipeline.oneShot table bytes = .ok output := by
  cases pipeline with
  | converting source target =>
    simp only [reset, converting.injEq, and_true] at start
    simp only [Gives, Converter.Transcodes, Converter.ahead_of_start start]
    exact Progress.bind_outcome_eq_ok_iff.symm
  | normalizing codec stream =>
    simp only [reset, normalizing.injEq] at start
    -- Nothing is held back, so that only what is decoded is normalized.
    have nothing : stream.pending = [] := by rw [← start.2]; rfl
    simp only [Gives, Converter.ahead_of_start start.1, nothing, List.nil_append]
    exact Progress.bind_outcome_eq_ok_iff.symm

end Pipeline

end UniText
