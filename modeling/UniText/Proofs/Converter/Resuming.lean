import UniText.Proofs.Charset.Resuming
import UniText.Proofs.Charset.RoundTrip

/-! Decoding a stream that goes on behind errors: which bytes survive an error, and which do not. -/

namespace UniText.Converter

open Decoder (eventsFrom eventsFrom_of_before)

/-- After an error nothing is held, and the converter stands behind the ill-formed bytes. -/
def StandsBehind (converter : Converter) (outcome : Progress CodePoint × Converter) : Prop :=
  ∀ error ∈ outcome.1.error,
    outcome.2 = { converter with pending := [], position := error.offset + error.length } ∧
      converter.position ≤ error.offset ∧ 0 < error.length

/-- A step that is an error is stood behind. -/
theorem standsBehind_stop (converter : Converter) (step : Step) (fault : Fault) :
    converter.StandsBehind (.stop (converter.errorAt step fault), converter.move step []) := by
  -- The converter moves on over the step for which the error is reported.
  intro error same
  obtain rfl : converter.errorAt step fault = error := by simpa [Progress.stop] using same
  exact ⟨rfl, Nat.le_refl _, Step.advance_pos step⟩

/-- What is stood behind after a step is stood behind from before the step. -/
theorem StandsBehind.before {converter after : Converter} {step : Step} {held : List UInt8}
    {later : Progress CodePoint} (stands : (converter.move step held).StandsBehind (later, after))
    (output : List CodePoint) : converter.StandsBehind (later.before output, after) := by
  -- The step in front moves the converter on, and never back.
  intro error member
  obtain ⟨same, beyond, positive⟩ := stands error member
  refine ⟨same, ?_, positive⟩
  simp only [move] at beyond
  omega

/-- Decoding a chunk stands behind its error. -/
theorem standsBehind_decodeChunk (flush : Bool) (converter : Converter) (bytes : List UInt8) :
    converter.StandsBehind (decodeChunk flush converter bytes) := by
  -- Every step leaves fewer bytes behind it.
  induction size : bytes.length using Nat.strongRecOn generalizing converter bytes with
  | _ size ih =>
    by_cases nonempty : bytes = []
    · subst nonempty
      rw [decodeChunk]
      simp [StandsBehind, Progress.done]
    · rw [decodeChunk_eq flush converter nonempty rfl]
      split
      · simp [StandsBehind, Progress.done]
      · split
        · exact standsBehind_stop converter _ _
        · have moved := Step.advance_pos (converter.charset.next bytes flush)
          have some_ := List.length_pos_iff.mpr nonempty
          refine StandsBehind.before (ih _ ?_ _ _ rfl) _
          rw [List.length_drop]
          omega

/-- Decoding held bytes and a chunk stands behind its error. -/
theorem standsBehind_decodeHeld (flush : Bool) (converter : Converter) (chunk held : List UInt8) :
    converter.StandsBehind (decodeHeld flush converter chunk held) := by
  induction size : held.length using Nat.strongRecOn generalizing converter held with
  | _ size ih =>
    by_cases nonempty : held = []
    · subst nonempty
      rw [decodeHeld]
      exact standsBehind_decodeChunk flush { converter with pending := [] } chunk
    · rw [decodeHeld_eq flush converter chunk nonempty rfl rfl]
      split
      · simp [StandsBehind, Progress.done]
      · split
        · exact standsBehind_stop converter _ _
        · simp only
          split
          · exact StandsBehind.before (standsBehind_decodeChunk flush _ _) _
          · -- What is left of the held bytes is less than before.
            next used =>
            refine StandsBehind.before (ih _ ?_ _ _ rfl) _
            have moved := Step.advance_pos (converter.charset.next
              (held ++ chunk.take converter.charset.maxLength)
              (flush && chunk.length ≤ converter.charset.maxLength))
            rw [List.length_drop]
            omega

/-- A call that fails leaves nothing held, and has had something to decode. -/
theorem decode_failed {converter after : Converter} {chunk : List UInt8} {flush : Bool}
    {output : List CodePoint} {error : CodecError}
    (failed : converter.decode chunk flush = (⟨output, some error⟩, after)) :
    after = { converter with pending := [], position := error.offset + error.length } ∧
      converter.position ≤ error.offset ∧ 0 < error.length ∧
      0 < converter.pending.length + chunk.length := by
  have stands := standsBehind_decodeHeld flush converter chunk converter.pending
  rw [← decode, failed] at stands
  obtain ⟨same, beyond, positive⟩ := stands error rfl
  refine ⟨same, beyond, positive, Nat.pos_of_ne_zero fun none => ?_⟩
  -- Without any bytes there is no error.
  have held : converter.pending = [] := List.eq_nil_of_length_eq_zero (by omega)
  have given : chunk = [] := List.eq_nil_of_length_eq_zero (by omega)
  simp [decode, held, given, decodeHeld, decodeChunk, Progress.done] at failed

/-- Feeds a chunk of a stream, and after each error what lies behind the ill-formed bytes.

The first byte of the chunk has a given offset in the stream. What was fed in earlier chunks is not
fed again, even if an error ends before the chunk begins. -/
def decodeResuming (flush : Bool) (converter : Converter) (start : Nat) (chunk : List UInt8) :
    List (Except CodecError CodePoint) × Converter :=
  match _fed : converter.decode chunk flush with
  | (⟨output, none⟩, after) => (output.map .ok, after)
  | (⟨output, some error⟩, after) =>
    let stop := error.offset + error.length
    -- The rest of the chunk is fed even if it is empty.
    let (later, final) :=
      decodeResuming flush after (max start stop) (chunk.drop (stop - start))
    (output.map .ok ++ .error error :: later, final)
termination_by converter.pending.length + chunk.length + (start - converter.position)
decreasing_by
  obtain ⟨rfl, beyond, positive, something⟩ := decode_failed _fed
  simp only [List.length_nil, List.length_drop]
  omega

/-- Feeds a stream in chunks, of which the last one ends it, going on behind every error. -/
def streamResuming (converter : Converter) (start : Nat) :
    List (List UInt8) → (last : List UInt8) → List (Except CodecError CodePoint)
  | [], last => (decodeResuming true converter start last).1
  | chunk :: chunks, last =>
    let (events, after) := decodeResuming false converter start chunk
    events ++ after.streamResuming (start + chunk.length) chunks last

/-- A call without an error is the whole feeding of its chunk. -/
theorem decodeResuming_of_passed {flush : Bool} {converter after : Converter} {start : Nat}
    {chunk : List UInt8} {output : List CodePoint}
    (passed : converter.decode chunk flush = (⟨output, none⟩, after)) :
    decodeResuming flush converter start chunk = (output.map .ok, after) := by
  -- There is no error behind which the chunk would have to be resumed.
  rw [decodeResuming]
  split
  · next fed =>
    rw [passed] at fed
    simp only [Prod.mk.injEq, Progress.mk.injEq, and_true] at fed
    rw [fed.1, fed.2]
  · next fed => simp [passed] at fed

/-- After a call with an error, the rest of its chunk is fed. -/
theorem decodeResuming_of_failed {flush : Bool} {converter after : Converter} {start : Nat}
    {chunk : List UInt8} {output : List CodePoint} {error : CodecError}
    (failed : converter.decode chunk flush = (⟨output, some error⟩, after)) :
    decodeResuming flush converter start chunk =
      (output.map .ok ++ .error error :: (decodeResuming flush after
          (max start (error.offset + error.length))
          (chunk.drop (error.offset + error.length - start))).1,
        (decodeResuming flush after (max start (error.offset + error.length))
          (chunk.drop (error.offset + error.length - start))).2) := by
  -- The chunk is resumed behind the error, or from its start if the error ends before it.
  rw [decodeResuming]
  split
  · next fed => simp [failed] at fed
  · next fed =>
    rw [failed] at fed
    simp only [Prod.mk.injEq, Progress.mk.injEq, Option.some.injEq] at fed
    obtain ⟨⟨rfl, rfl⟩, rfl⟩ := fed
    rfl

/-- A converter that has been fed the front of a stream holds what it has not decoded of it. -/
structure Synced (converter : Converter) (front : List UInt8) : Prop where
  strict : converter.policy = .strict
  within : converter.position ≤ front.length
  held : converter.pending = front.drop converter.position
  waits : Waits converter.charset converter.pending

/-- What is held is as long as the place of the converter is behind. -/
theorem Synced.length_pending {converter : Converter} {front : List UInt8}
    (synced : converter.Synced front) :
    converter.position + converter.pending.length = front.length := by
  -- What is pending lies between the position and the end of what was fed.
  have within := synced.within
  rw [synced.held, List.length_drop]
  omega

/-- From its place on, a stream begins with what is held. -/
theorem Synced.drop_eq {converter : Converter} {front : List UInt8}
    (synced : converter.Synced front) (rest : List UInt8) :
    (front ++ rest).drop converter.position = converter.pending ++ rest := by
  -- The position lies within what was fed, and what is left of that is pending.
  rw [List.drop_append_of_le_length synced.within, synced.held]

/-- What is held and what comes after it decode as the walk over the whole stream says. -/
theorem Synced.eventsFrom_eq {converter : Converter} {front rest : List UInt8}
    (synced : converter.Synced front) {progress : Progress CodePoint}
    (decoded : converter.charset.decodeFrom .strict converter.position
      (converter.pending ++ rest) = progress) :
    eventsFrom converter.charset (front ++ rest) converter.position = progress.output.map Except.ok
        ++ Decoder.eventsBehind converter.charset (front ++ rest) progress.error ∧
      ∀ error ∈ progress.error, converter.position ≤ error.offset ∧
        error.offset + error.length ≤ front.length + rest.length := by
  -- The bytes from the position on are those that are pending and then the rest.
  rw [← synced.drop_eq] at decoded
  have within := synced.within
  obtain ⟨events, bounds⟩ := Decoder.eventsFrom_eq converter.charset (by
    rw [List.length_append]
    omega) decoded
  refine ⟨events, fun error member => ?_⟩
  obtain ⟨beyond, -, stop⟩ := bounds error member
  rw [List.length_append] at stop
  exact ⟨beyond, stop⟩

/-- A converter that holds nothing stands where what it was fed ends. -/
theorem synced_of_length (converter : Converter) (strict : converter.policy = .strict)
    {front : List UInt8} {stop : Nat} (ended : front.length = stop) :
    { converter with pending := [], position := stop }.Synced front :=
  -- Nothing is pending, and the position is the end of what was fed.
  ⟨strict, Nat.le_of_eq ended.symm, (List.drop_of_length_le (Nat.le_of_eq ended)).symm, .inl rfl⟩

/-- The first error ends where a chunk begins or behind it, if all errors cover what waited. -/
theorem Synced.le_of_error {converter : Converter} {front rest : List UInt8}
    (synced : converter.Synced front)
    (covered : ∀ error,
      .error error ∈ eventsFrom converter.charset (front ++ rest) converter.position →
        (converter.charset.next (front.drop error.offset) false).decoded = .incomplete →
          front.length ≤ error.offset + error.length)
    (output : List CodePoint) (error : CodecError)
    (decoded : converter.charset.decodeFrom .strict converter.position
      (converter.pending ++ rest) = ⟨output, some error⟩) :
    front.length ≤ error.offset + error.length := by
  have length := synced.length_pending
  by_cases nothing : converter.pending = []
  · -- With nothing held the error cannot begin before the chunk.
    have beyond := ((synced.eventsFrom_eq decoded).2 error rfl).1
    rw [nothing, List.length_nil] at length
    omega
  · have open_ := synced.waits.resolve_left nothing
    have nonempty : converter.pending ++ rest ≠ [] := by simp [nothing]
    have met : .error error ∈ eventsFrom converter.charset (front ++ rest) converter.position := by
      rw [(synced.eventsFrom_eq decoded).1]
      simp [Decoder.eventsBehind]
    rw [Charset.decodeFrom_eq _ _ _ nonempty rfl] at decoded
    split at decoded
    · -- The error is that of the held bytes themselves.
      obtain rfl := Option.some.inj (Progress.mk.inj decoded).2
      exact covered _ met (synced.held ▸ open_)
    · next code scalar =>
      -- A character that held bytes begin with covers all of them, and the error is behind it.
      rw [Decoded.resolve_strict_eq_ok_iff] at scalar
      have covers : converter.pending.length
          ≤ (converter.charset.next (converter.pending ++ rest) true).advance := by
        refine Nat.le_trans ?_ (Nat.le_max_left ..)
        refine (Charset.le_length_next nothing open_ rest).resolve_right ?_
        rintro ⟨-, lone, surrogate⟩
        simp [scalar] at surrogate
      rw [← synced.drop_eq] at covers nonempty decoded
      rw [List.drop_drop] at decoded
      have inside : converter.position < (front ++ rest).length := by simpa using nonempty
      -- What is decoded behind the character has its error there as well.
      obtain ⟨stays, -⟩ := Decoder.eventsFrom_of_lt converter.charset inside rfl
      have beyond := ((Decoder.eventsFrom_eq converter.charset stays rfl).2 error
        (Progress.mk.inj decoded).2).1
      omega

/-- A call that passes gives the events of the walk up to what it holds. -/
theorem Synced.of_passed {converter after : Converter} {front chunk rest : List UInt8}
    (synced : converter.Synced front) {flush : Bool} (ended : flush = true → rest = [])
    {output : List CodePoint} (passed : converter.decode chunk flush = (⟨output, none⟩, after)) :
    after.Synced (front ++ chunk) ∧ after.charset = converter.charset ∧
      (flush = true → after.pending = []) ∧
      eventsFrom converter.charset (front ++ (chunk ++ rest)) converter.position
        = output.map .ok
          ++ eventsFrom converter.charset (front ++ (chunk ++ rest)) after.position := by
  have length := synced.length_pending
  have reads := reads_decode converter chunk flush
  rw [passed] at reads
  cases reads with
  | @passed _ used inside waits none whole =>
    have decoded := whole rest ended
    rw [synced.strict, List.append_assoc, ← synced.drop_eq] at decoded
    -- What is not used of the held bytes and the chunk is the end of all that was fed.
    have moved : (converter.pending ++ chunk).drop used
        = (front ++ chunk).drop (converter.position + used) := by
      rw [← synced.drop_eq, List.drop_drop]
    rw [List.length_append] at inside
    have stays : converter.position + used ≤ (front ++ chunk).length := by
      rw [List.length_append]
      omega
    refine ⟨⟨synced.strict, stays, moved, waits⟩, rfl, none, ?_⟩
    rw [moved, ← List.drop_append_of_le_length stays, List.append_assoc] at decoded
    refine eventsFrom_of_before converter.charset ?_ ?_ decoded
    · rw [List.length_append]
      omega
    · simp only [← List.append_assoc front]
      rw [List.length_append]
      omega

/-- A call that fails gives the events of the walk up to its error, which lies in what was fed. -/
theorem Synced.of_failed {converter after : Converter} {front chunk rest : List UInt8}
    (synced : converter.Synced front) {flush : Bool} (ended : flush = true → rest = [])
    {output : List CodePoint} {error : CodecError}
    (failed : converter.decode chunk flush = (⟨output, some error⟩, after)) :
    converter.charset.decodeFrom .strict converter.position (converter.pending ++ (chunk ++ rest))
        = ⟨output, some error⟩ ∧
      error.offset + error.length ≤ front.length + chunk.length ∧
      eventsFrom converter.charset (front ++ (chunk ++ rest)) converter.position
        = output.map .ok ++ .error error
          :: eventsFrom converter.charset (front ++ (chunk ++ rest))
            (error.offset + error.length) := by
  -- The error is the same whatever follows the chunk, and also if nothing does.
  have reads := reads_decode converter chunk flush
  rw [failed] at reads
  cases reads with
  | failed whole =>
    have decoded := whole rest ended
    have alone := whole [] fun _ => rfl
    rw [synced.strict, List.append_assoc] at decoded alone
    have stop := ((synced.eventsFrom_eq alone).2 error rfl).2
    rw [List.append_nil] at stop
    exact ⟨decoded, stop, (synced.eventsFrom_eq decoded).1⟩

/-- Feeding a chunk gives the events of the walk up to what is held after it.

The first error must end where the chunk begins or behind it. -/
theorem Synced.decodeResuming {converter : Converter} {front : List UInt8}
    (synced : converter.Synced front) (flush : Bool) (chunk rest : List UInt8)
    (ended : flush = true → rest = [])
    (reaches : ∀ output error, converter.charset.decodeFrom .strict converter.position
      (converter.pending ++ (chunk ++ rest)) = ⟨output, some error⟩ →
        front.length ≤ error.offset + error.length) :
    ∃ events after,
      Converter.decodeResuming flush converter front.length chunk = (events, after) ∧
      after.Synced (front ++ chunk) ∧ after.charset = converter.charset ∧
      (flush = true → after.pending = []) ∧
      eventsFrom converter.charset (front ++ (chunk ++ rest)) converter.position = events
        ++ eventsFrom converter.charset (front ++ (chunk ++ rest)) after.position := by
  -- After an error nothing is held any more, or fewer bytes of the chunk are left.
  induction size : converter.pending.length + chunk.length using Nat.strongRecOn
    generalizing converter front chunk with
  | ind size ih =>
    subst size
    cases called : converter.decode chunk flush with
    | mk progress after =>
      obtain ⟨output, failure⟩ := progress
      cases failure with
      | none => exact ⟨_, _, decodeResuming_of_passed called, synced.of_passed ended called⟩
      | some error =>
        obtain ⟨rfl, beyond, positive, something⟩ := decode_failed called
        obtain ⟨decoded, stop, events⟩ := synced.of_failed ended called
        have length := synced.length_pending
        -- The rest of the chunk is what comes behind the error.
        obtain ⟨more, fits⟩ := Nat.exists_eq_add_of_le (reaches output error decoded)
        have fed : (front ++ chunk.take more).length = error.offset + error.length := by
          rw [List.length_append, List.length_take]
          omega
        have restarted := synced_of_length converter synced.strict fed
        obtain ⟨later, final, again, kept, same, none, others⟩ := ih _ (by
          simp only [List.length_nil, List.length_drop]
          omega) restarted (chunk.drop more) (by
            intro output' error' decoded'
            -- No error begins before the place of the converter.
            have bound := ((restarted.eventsFrom_eq decoded').2 error' rfl).1
            simp only at bound
            omega) rfl
        have joined : front ++ chunk.take more ++ (chunk.drop more ++ rest)
            = front ++ (chunk ++ rest) := by
          rw [List.append_assoc, ← List.append_assoc (chunk.take more), List.take_append_drop]
        refine ⟨output.map .ok ++ .error error :: later, final, ?_, ?_, same, none, ?_⟩
        · have behind : max front.length (error.offset + error.length)
              = (front ++ chunk.take more).length := by omega
          have left_ : error.offset + error.length - front.length = more := by omega
          rw [decodeResuming_of_failed called, behind, left_, again]
        · rwa [List.append_assoc, List.take_append_drop] at kept
        · rw [joined] at others
          simp only at others
          rw [events, others, List.append_assoc, List.cons_append]

/-- Where chunks end within bytes that wait for more, no error covers less than those bytes. -/
def CutsCovered (charset : Charset) (chunks : List (List UInt8)) (last : List UInt8) : Prop :=
  ∀ before after, before ++ after = chunks →
    ∀ error, .error error
        ∈ (Decoder.start charset .strict (chunks.flatten ++ last)).itemsResuming →
      (charset.next (before.flatten.drop error.offset) false).decoded = .incomplete →
        before.flatten.length ≤ error.offset + error.length

/-- Outside of UTF-16 every error covers the bytes that waited for it. -/
theorem cutsCovered_of_ne_utf16 {charset : Charset} (other : ∀ order, charset ≠ .utf16 order)
    (chunks : List (List UInt8)) (last : List UInt8) : CutsCovered charset chunks last := by
  rintro before after rfl error member open_
  by_cases beyond : before.flatten.length ≤ error.offset
  · omega
  · -- The step that the error reports begins with the bytes that waited.
    have waited : before.flatten.drop error.offset ≠ [] := by
      simpa using beyond
    have covers := (Charset.le_length_next waited open_ (after.flatten ++ last)).resolve_right
      fun lone => lone.1.elim other
    have length := Decoder.length_of_mem_itemsResuming member
    simp only [Decoder.start, List.flatten_append, List.append_assoc] at length
    rw [List.drop_append_of_le_length (by omega)] at length
    rw [List.length_drop] at covers
    rw [length]
    have least : ∀ step : Step, step.length ≤ step.advance := fun step => Nat.le_max_left ..
    have moved := least (charset.next
      (before.flatten.drop error.offset ++ (after.flatten ++ last)) true)
    omega

/-- An error of a walk is one of its items. -/
theorem error_mem_eventsFrom {charset : Charset} {source : List UInt8} {position : Nat}
    {error : CodecError} : .error error ∈ eventsFrom charset source position ↔
      .error error
        ∈ (⟨charset, .strict, source, position, false⟩ : Decoder).itemsResuming := by
  -- An event leaves out where a character was, but it keeps all of an error.
  simp only [eventsFrom, List.mem_map]
  constructor
  · rintro ⟨char | other, member, same⟩
    · simp only [Except.map, Except.error.injEq] at same
      rwa [same] at member
    · simp [Except.map] at same
  · intro member
    exact ⟨_, member, rfl⟩

/-- Feeding all chunks gives the events of the walk from the place of the converter on. -/
theorem Synced.streamResuming {converter : Converter} {front : List UInt8}
    (synced : converter.Synced front) (chunks : List (List UInt8)) (last : List UInt8)
    (covered : ∀ before after, before ++ after = chunks → ∀ error,
      .error error ∈ eventsFrom converter.charset (front ++ (chunks.flatten ++ last))
          converter.position →
        (converter.charset.next ((front ++ before.flatten).drop error.offset) false).decoded
            = .incomplete →
          (front ++ before.flatten).length ≤ error.offset + error.length) :
    converter.streamResuming front.length chunks last
      = eventsFrom converter.charset (front ++ (chunks.flatten ++ last)) converter.position := by
  induction chunks generalizing converter front with
  | nil =>
    -- At the end of the stream nothing is held, so that the walk is over as well.
    have here := covered [] [] rfl
    rw [List.flatten_nil, List.append_nil] at here
    obtain ⟨events, after, fed, kept, same, ended, whole⟩ := synced.decodeResuming true last []
      (fun _ => rfl) (synced.le_of_error (by simpa using here))
    have length := kept.length_pending
    rw [ended rfl, List.length_nil] at length
    have finished : eventsFrom converter.charset (front ++ last) after.position = [] := by
      rw [eventsFrom, Decoder.itemsResuming_of_le (by simp only; omega), List.map_nil]
    rw [List.append_nil, finished, List.append_nil] at whole
    rw [Converter.streamResuming, fed, List.flatten_nil, List.nil_append, whole]
  | cons chunk chunks ih =>
    have here := covered [] (chunk :: chunks) rfl
    rw [List.flatten_nil, List.append_nil] at here
    rw [List.flatten_cons, List.append_assoc] at here covered ⊢
    obtain ⟨events, after, fed, kept, same, -, whole⟩ := synced.decodeResuming false chunk _
      (by simp) (synced.le_of_error here)
    rw [Converter.streamResuming, fed, whole, ← List.append_assoc, ← same, ← List.length_append]
    -- What is met behind this chunk is met by the walk as a whole.
    simp only
    rw [ih kept]
    intro before later split_ error member
    rw [same, List.append_assoc] at member
    have met := covered (chunk :: before) later (by rw [List.cons_append, split_]) error (by
      rw [whole]
      exact List.mem_append_right _ member)
    rwa [same, List.append_assoc]

/-- A strict stream that goes on behind errors has the events of a walk that does so.

In UTF-16 this needs that chunks end in the right places: a lead and one more byte may be held, of
which the byte is lost if the lead turns out to have no partner. -/
theorem streamResuming_new (charset : Charset) (chunks : List (List UInt8)) (last : List UInt8)
    (covered : ∀ order, charset = .utf16 order → CutsCovered charset chunks last) :
    (new charset .strict).streamResuming 0 chunks last
      = (Decoder.start charset .strict (chunks.flatten ++ last)).itemsResuming.map
          (Except.map DecodedChar.code) := by
  have all : CutsCovered charset chunks last := by
    by_cases utf16 : ∃ order, charset = .utf16 order
    · exact utf16.elim covered
    · exact cutsCovered_of_ne_utf16 (not_exists.mp utf16) chunks last
  -- A new converter has been fed nothing.
  have fresh : (new charset .strict).Synced [] := ⟨rfl, Nat.le_refl _, rfl, .inl rfl⟩
  refine fresh.streamResuming chunks last ?_
  intro before after split_ error member
  exact all before after split_ error (error_mem_eventsFrom.mp member)

/-- A lead whose chunk ends behind it, and a pair that is cut into three chunks, lose no byte. -/
theorem streamResuming_new_cut :
    (∀ order, Charset.utf16 .big = .utf16 order →
      CutsCovered (.utf16 .big) [[0xD8, 0], [0, 0x41, 0xD8], [0x3D, 0xDE]] [0]) ∧
    (new (.utf16 .big) .strict).streamResuming 0 [[0xD8, 0], [0, 0x41, 0xD8], [0x3D, 0xDE]] [0]
      = [.error ⟨.illegalSequence, 0, 2⟩, .ok 0x41, .ok 0x1F600] := by
  have items : (Decoder.start (.utf16 .big) .strict
      [0xD8, 0, 0, 0x41, 0xD8, 0x3D, 0xDE, 0]).itemsResuming
        = [.error ⟨.illegalSequence, 0, 2⟩, .ok ⟨0x41, 2, 2⟩, .ok ⟨0x1F600, 4, 4⟩] := by
    rw [Decoder.start, Decoder.itemsResuming_of_lt rfl (by decide) rfl (by decide),
      Decoder.itemsResuming_of_lt rfl (by decide) rfl (by decide),
      Decoder.itemsResuming_of_lt rfl (by decide) rfl (by decide),
      Decoder.itemsResuming_of_le (by decide)]
    rfl
  have covered : CutsCovered (.utf16 .big) [[0xD8, 0], [0, 0x41, 0xD8], [0x3D, 0xDE]] [0] := by
    intro before after cut error met
    -- The lead is the only error, and at every further cut the unit behind it is known.
    obtain rfl : error = ⟨.illegalSequence, 0, 2⟩ := by
      change .error error ∈ (Decoder.start (.utf16 .big) .strict
        [0xD8, 0, 0, 0x41, 0xD8, 0x3D, 0xDE, 0]).itemsResuming at met
      rw [items] at met
      simpa using met
    have front : before = [[0xD8, 0], [0, 0x41, 0xD8], [0x3D, 0xDE]].take before.length := by
      rw [← cut, List.take_left]
    match length : before.length with
    | 0 | 1 | 2 => rw [front, length]; decide
    | more + 3 => rw [front, length]; simp; decide
  exact ⟨fun _ _ => covered,
    (streamResuming_new (.utf16 .big) _ _ fun _ _ => covered).trans (congrArg _ items)⟩

/-- A byte that is held behind a lead is lost when the lead turns out to have no partner.

The other byte of its unit is then taken for a truncated unit, at two offsets one after the
other. -/
theorem streamResuming_new_lost :
    (new (.utf16 .big) .strict).streamResuming 0 [[0xD8, 0, 0]] [0x41]
        = [.error ⟨.illegalSequence, 0, 2⟩, .error ⟨.truncatedInput, 2, 1⟩,
          .error ⟨.truncatedInput, 3, 1⟩] ∧
      (Decoder.start (.utf16 .big) .strict [0xD8, 0, 0, 0x41]).itemsResuming.map
          (Except.map DecodedChar.code)
        = [.error ⟨.illegalSequence, 0, 2⟩, .ok 0x41] := by
  constructor
  · -- The converter is left at the offset of the lost byte, with nothing held.
    have held : (new (.utf16 .big) .strict).decode [0xD8, 0, 0] false
        = (⟨[], none⟩, ⟨.utf16 .big, .strict, [0xD8, 0, 0], 0⟩) := by decide +kernel
    have lost : (⟨.utf16 .big, .strict, [0xD8, 0, 0], 0⟩ : Converter).decode [0x41] true
        = (⟨[], some ⟨.illegalSequence, 0, 2⟩⟩, ⟨.utf16 .big, .strict, [], 2⟩) := by
      decide +kernel
    have lagging : (⟨.utf16 .big, .strict, [], 2⟩ : Converter).decode [0x41] true
        = (⟨[], some ⟨.truncatedInput, 2, 1⟩⟩, ⟨.utf16 .big, .strict, [], 3⟩) := by
      decide +kernel
    have again : (⟨.utf16 .big, .strict, [], 3⟩ : Converter).decode [0x41] true
        = (⟨[], some ⟨.truncatedInput, 3, 1⟩⟩, ⟨.utf16 .big, .strict, [], 4⟩) := by
      decide +kernel
    have finished : (⟨.utf16 .big, .strict, [], 4⟩ : Converter).decode [] true
        = (⟨[], none⟩, ⟨.utf16 .big, .strict, [], 4⟩) := by decide +kernel
    simp [streamResuming, decodeResuming_of_passed held, decodeResuming_of_failed lost,
      decodeResuming_of_failed lagging, decodeResuming_of_failed again,
      decodeResuming_of_passed finished]
  · rw [Decoder.start, Decoder.itemsResuming_of_lt rfl (by decide) rfl (by decide),
      Decoder.itemsResuming_of_lt rfl (by decide) rfl (by decide),
      Decoder.itemsResuming_of_le (by decide)]
    rfl

end UniText.Converter
