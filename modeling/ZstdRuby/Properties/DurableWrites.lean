import ZstdRuby.Properties.EndToEnd
import ZstdRuby.Properties.RawBlocks

/-! # What a writer has stored

Every `StreamWriter#write` drains the encoder into the `IO`. From what the `IO`
then holds a decoder gets back everything that has been written so far.
-/

namespace ZstdRuby

open Libzstd Streaming

variable {CCtx : Type} {library : CompressLibrary CCtx}
  {initial : CCtx × List (Response UInt8 ErrorCode)} {Frame Part : Bytes → Bytes → Prop}
  {writer : StreamWriter (CCtx × List (Response UInt8 ErrorCode))} {written : Bytes}

/-! ## One write -/

/-- What a writer keeps, beside what it keeps on the way to a frame: everything
the encoder has emitted is in the `IO`, and everything written can be told from
it. -/
structure Durable (library : CompressLibrary CCtx)
    (initial : CCtx × List (Response UInt8 ErrorCode)) (Part : Bytes → Bytes → Prop)
    (writer : StreamWriter (CCtx × List (Response UInt8 ErrorCode))) (written : Bytes) : Prop
    extends Writing library.recording initial writer written where
  stored : writer.io.content = emitted writer.stream.ctx.2
  part : Part writer.io.content written

/-- The last call the library has received has left it nothing to flush. -/
def EndsFlushed (calls : List (Response UInt8 ErrorCode)) : Prop :=
  ∃ output, calls.getLast? = some ⟨output, .ok 0⟩

theorem write_emits {stream next : StreamingCompress (CCtx × List (Response UInt8 ErrorCode))}
    {argv : List Value} {total : Nat}
    (settles : Settles (fun fuel => rbStreamingCompressWrite library.recording fuel stream argv)
      ⟨.ok total, next⟩) :
    ∃ added, next.ctx.2 = stream.ctx.2 ++ added ∧
      next.pending = stream.pending ++ emitted added := by
  rcases settles with ⟨enough, settles⟩
  rcases writeLoop_records (settles enough (le_refl enough)) with
    ⟨added, appended, -, -, succeeds, received⟩
  exact ⟨added, appended, received (succeeds ⟨total, rfl⟩)⟩

theorem noCompress_emits {ctx next : CCtx × List (Response UInt8 ErrorCode)}
    {endOp : Directive} {bytes : Bytes}
    (settles : Settles (fun fuel => noCompress library.recording endOp fuel ctx)
      (.ok bytes, next)) :
    ∃ added, next.2 = ctx.2 ++ added ∧ bytes = emitted added := by
  rcases settles with ⟨enough, settles⟩
  rcases noCompress_records (settles enough (le_refl enough)) with
    ⟨added, appended, -, -, -, received⟩
  exact ⟨added, appended, received bytes rfl⟩

theorem Durable.write
    (contract : EncoderContract library.recording.compressStream2 initial Frame)
    (flushes : FlushContract library.recording.compressStream2 initial Part)
    (durable : Durable library initial Part writer written) (data : List Bytes) :
    ∃ next, Writes library.recording writer data next ∧
      Durable library initial Part next (written ++ data.flatten) ∧
      EndsFlushed next.stream.ctx.2 := by
  rcases writeStrings_settles contract durable.session data with ⟨fed, output, writes, session⟩
  rcases noCompress_carriesOut contract session (by decide : Directive.flush ≠ .proceed) with
    ⟨state, phase, allowed, session, finished, drains⟩
  rw [durable.pending, List.nil_append] at writes
  rcases write_emits writes with ⟨added, recorded, received⟩
  rw [durable.pending, List.nil_append] at received
  rcases noCompress_emits drains with ⟨more, recordedMore, receivedMore⟩
  -- Everything the `write` of the stream has put aside, and what the flush has drained.
  let reply := noCompressReply library.recording .flush state
  have drained : Settles (fun fuel => rbStreamingCompressFlush library.recording fuel ⟨fed, output⟩)
      ⟨.ok (output ++ (state.result ++ reply.output)), ⟨reply.context, []⟩⟩ := drains.map _
  have stored := Io.write_atEnd durable.atEnd (output ++ (state.result ++ reply.output))
  refine ⟨⟨writer.io.write (output ++ (state.result ++ reply.output)), ⟨reply.context, []⟩⟩,
    ⟨_, writes.bind (drained.map _)⟩, ⟨⟨?_, rfl, ?_⟩, ?_, ?_⟩, ?_⟩
  · rw [stored]
    simp only [← List.append_assoc]
    exact .flushed session allowed finished
  · rw [stored]
  · rw [stored]
    simp only
    rw [recordedMore, recorded, emitted_append, emitted_append, ← durable.stored, ← receivedMore,
      ← received, List.append_assoc]
  · rw [stored]
    simp only [← List.append_assoc]
    exact flushes.flushes session allowed finished
  · refine ⟨reply.output, ?_⟩
    have last : reply.context.2 = state.ctx.2 ++ [⟨reply.output, reply.status⟩] := rfl
    rw [last, finished, List.getLast?_concat]

theorem streamWriterInitialize_io {library : CompressLibrary CCtx} {io : Io} {level : Value}
    {writer : StreamWriter CCtx} (created : streamWriterInitialize library io level = .ok writer) :
    writer.io = io := by
  rw [streamWriterInitialize] at created
  cases initialized : rbStreamingCompressInitialize library [("level", level)] with
  | error raised => simp [initialized, Except.map] at created
  | ok stream =>
      simp only [initialized, Except.map, Except.ok.injEq] at created
      rw [← created]

theorem Durable.start {level : Value} (nothing : Part [] [])
    (created : streamWriterInitialize library.recording .empty level = .ok writer) :
    Durable library writer.stream.ctx Part writer [] := by
  rcases Writing.start created with ⟨prepared, writing⟩
  have io := streamWriterInitialize_io created
  refine ⟨writing, ?_, ?_⟩
  · rw [io, prepared.of_recording.2]
    rfl
  · rw [io]
    exact nothing

theorem Durable.of_run
    (contract : EncoderContract library.recording.compressStream2 initial Frame)
    (flushes : FlushContract library.recording.compressStream2 initial Part)
    {data : List (List Bytes)}
    {last : StreamWriter (CCtx × List (Response UInt8 ErrorCode))}
    (start : Durable library initial Part writer [])
    (writes : Run (Writes library.recording) writer data last) :
    Durable library initial Part last data.flatten.flatten ∧
      (data ≠ [] → EndsFlushed last.stream.ctx.2) := by
  induction writes with
  | nil => exact ⟨start, fun absurd => (absurd rfl).elim⟩
  | @snoc before after data more run taken induction =>
      rcases induction.1.write contract flushes more with ⟨next, ⟨count, settles⟩, durable, flushed⟩
      rcases taken with ⟨count', settles'⟩
      cases settles.unique settles'
      refine ⟨?_, fun _ => flushed⟩
      simpa using durable

/-! ## Any writes -/

/-- However the library cuts what it emits into calls, after any writes nothing
is pending, the `IO` holds what the library has emitted, in order, the last call
has left the library nothing to flush, and a decoder that is drained gets back
exactly what has been written. -/
theorem streamWriterWrite_durable {blocks : BlockDecoder} {level : Value}
    {last : StreamWriter (CCtx × List (Response UInt8 ErrorCode))} {data : List (List Bytes)}
    (encodes : EncoderContract library.compressStream2 writer.stream.ctx.1
      ((streamFormat blocks).DataFrame none))
    (flushes : FlushContract library.compressStream2 writer.stream.ctx.1 (streamPart blocks none))
    (created : streamWriterInitialize library.recording .empty level = .ok writer)
    (writes : Run (Writes library.recording) writer data last) :
    (∀ more, ∃ next, Writes library.recording last more next) ∧
    last.stream.pending = [] ∧
    last.io.content = emitted last.stream.ctx.2 ∧
    (data ≠ [] → EndsFlushed last.stream.ctx.2) ∧
    ∀ dctx, (streamLibrary blocks).Prepared none dctx → ∀ content,
      DrainsTo (streamLibrary blocks).decompressStream dctx last.io.content content ↔
        content = data.flatten.flatten := by
  have contract := encodes.recording writer.stream.ctx.2
  have flushing := flushes.recording writer.stream.ctx.2
  have nothing : streamPart blocks none [] [] := ⟨_, rfl, Nat.succ_ne_zero 4, Or.inl rfl⟩
  rcases Durable.of_run contract flushing (Durable.start nothing created) writes with
    ⟨durable, flushed⟩
  refine ⟨fun more => ?_, durable.pending, durable.stored, flushed, ?_⟩
  · rcases durable.write contract flushing more with ⟨next, returns, -⟩
    exact ⟨next, returns⟩
  · intro dctx decoding content
    -- A `finish` would complete the frame.
    rcases noCompress_settles contract durable.session (by decide : Directive.finish ≠ .proceed)
      with ⟨next, more, -, -, finishes⟩
    exact decompressStream_drainsTo_iff decoding durable.part (finishes rfl).2
      (List.prefix_append _ _) content

theorem streamWriterWrite_durable_abc : ∃ last,
    Run (Writes (compressLibrary storedWriter).recording) ⟨.empty, ⟨(.create Unit, []), []⟩⟩
      [[[0x61, 0x62, 0x63], []], []] last ∧
    last.io.content = emitted last.stream.ctx.2 ∧
    DrainsTo (decompressStream storedBlocks) (.create Unit) last.io.content
      [0x61, 0x62, 0x63] := by
  have prepared : (compressLibrary storedWriter).Prepared none (.create Unit) := .create rfl
  have encodes := storedWriter_encoderContract (by simp) prepared
  have flushes := storedWriter_flushContract (by simp) prepared
  have durable := fun data last => @streamWriterWrite_durable (CStream Unit)
    (compressLibrary storedWriter) ⟨.empty, ⟨(.create Unit, []), []⟩⟩ storedBlocks .nil last data
    encodes flushes rfl
  have fresh : Run (Writes (compressLibrary storedWriter).recording)
      ⟨.empty, ⟨(.create Unit, []), []⟩⟩ [] ⟨.empty, ⟨(.create Unit, []), []⟩⟩ := .nil
  rcases (durable _ _ fresh).1 [[0x61, 0x62, 0x63], []] with ⟨first, writesFirst⟩
  rcases (durable _ _ (fresh.snoc writesFirst)).1 [] with ⟨last, writesLast⟩
  have writes := (fresh.snoc writesFirst).snoc writesLast
  have facts := durable _ _ writes
  exact ⟨last, writes, facts.2.2.1, (facts.2.2.2.2 (.create Unit) (.create rfl) _).mpr rfl⟩

end ZstdRuby
