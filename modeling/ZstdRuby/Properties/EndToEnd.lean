import ZstdRuby.Extension.StreamIo
import ZstdRuby.Properties.StoredEncoder
import ZstdRuby.Properties.StreamingCompress
import ZstdRuby.Properties.StreamingDecompress

/-! # From a writer to a reader

Each `StreamWriter#write` ends with a flush, so that everything written lies in
one frame, which `finish` completes. A reader cuts the frame into pieces of any
length. A decoder that withholds the last byte of a frame until it has given all
of it leaves nothing behind.
-/

namespace ZstdRuby

open Libzstd Streaming

variable {CCtx DCtx : Type}

/-! ## Writing -/

def Writes (library : CompressLibrary CCtx) (before : StreamWriter CCtx) (data : List Bytes)
    (after : StreamWriter CCtx) : Prop :=
  ∃ count, Settles (fun fuel => streamWriterWrite library fuel before (data.map .string))
    ⟨.ok count, after⟩

/-- What a writer keeps: the `IO` holds what the encoder has given of its current
frame, and nothing is pending. -/
structure Writing (library : CompressLibrary CCtx) (initial : CCtx) (writer : StreamWriter CCtx)
    (written : Bytes) : Prop where
  session : EncodingSession library.compressStream2 initial writer.stream.ctx none written
    writer.io.content
  pending : writer.stream.pending = []
  atEnd : writer.io.pos = writer.io.content.length

section

variable {library : CompressLibrary CCtx} {initial : CCtx} {Frame : Bytes → Bytes → Prop}
  {writer : StreamWriter CCtx} {written : Bytes}

theorem Writing.write (contract : EncoderContract library.compressStream2 initial Frame)
    (writing : Writing library initial writer written) (data : List Bytes) :
    ∃ next, Writes library writer data next ∧
      Writing library initial next (written ++ data.flatten) := by
  rcases writeStrings_settles contract writing.session data with ⟨ctx, output, fed, session⟩
  rcases @drainPending_settles _ _ _ _ ⟨ctx, writer.stream.pending ++ output⟩ _ _ contract session
    .flush (by decide) with ⟨last, more, drained, flushed, -⟩
  have stored := Io.write_atEnd writing.atEnd (writer.stream.pending ++ output ++ more)
  refine ⟨⟨writer.io.write (writer.stream.pending ++ output ++ more), ⟨last, []⟩⟩,
    ⟨_, fed.bind (drained.map _)⟩, ?_, rfl, by rw [stored]⟩
  rw [stored, writing.pending, List.nil_append, ← List.append_assoc]
  exact flushed rfl

theorem Writing.finish (contract : EncoderContract library.compressStream2 initial Frame)
    (writing : Writing library initial writer written) :
    ∃ count finished, Settles (fun fuel => streamWriterFinish library fuel writer)
        ⟨.ok count, finished⟩ ∧ Frame finished.io.content written := by
  rcases drainPending_settles contract writing.session (by decide : Directive.finish ≠ .proceed)
    with ⟨last, more, drained, -, finishes⟩
  refine ⟨_, ⟨writer.io.write (writer.stream.pending ++ more), ⟨last, []⟩⟩, drained.map _, ?_⟩
  rw [Io.write_atEnd writing.atEnd, writing.pending, List.nil_append]
  exact (finishes rfl).2

theorem Writing.start {level : Value}
    (created : streamWriterInitialize library .empty level = .ok writer) :
    library.Prepared none writer.stream.ctx ∧ Writing library writer.stream.ctx writer [] := by
  rw [streamWriterInitialize] at created
  cases initialized : rbStreamingCompressInitialize library [("level", level)] with
  | error raised => simp [initialized, Except.map] at created
  | ok stream =>
      simp only [initialized, Except.map, Except.ok.injEq] at created
      subst created
      rcases rbStreamingCompressInitialize_prepared initialized with ⟨prepared, nothing⟩
      exact ⟨prepared, .initial, nothing, rfl⟩

theorem Writing.of_run (contract : EncoderContract library.compressStream2 initial Frame)
    {data : List (List Bytes)} {last : StreamWriter CCtx}
    (start : Writing library initial writer []) (writes : Run (Writes library) writer data last) :
    Writing library initial last data.flatten.flatten := by
  induction writes with
  | nil => exact start
  | @snoc before after data more run taken induction =>
      rcases induction.write contract more with ⟨next, written, writing⟩
      rcases taken with ⟨count, settles⟩
      rcases written with ⟨count', settles'⟩
      cases settles.unique settles'
      simpa using writing

end

/-! ## Reading -/

structure ReadProgress (DCtx : Type) where
  reader : StreamReader DCtx
  returned : Bytes

def Reads (library : DecompressLibrary DCtx) (before : ReadProgress DCtx) (length : Nat)
    (after : ReadProgress DCtx) : Prop :=
  0 < length ∧ ∃ data,
    Settles (fun fuel => streamReaderRead library fuel before.reader length)
      ⟨.ok data, after.reader⟩ ∧
    after.returned = before.returned ++ data

/-- What a reader of a frame keeps: the decoder has been given the frame up to
the position of the `IO`, and stands in it, or at its end with all of its
content returned. -/
structure Reading (library : DecompressLibrary DCtx) (initial : DCtx)
    (Frame : Bytes → Bytes → Prop) (frame content : Bytes) (progress : ReadProgress DCtx) :
    Prop where
  stored : progress.reader.io.content = frame
  pos_le : progress.reader.io.pos ≤ frame.length
  stays : StaysInFrame library initial Frame frame content []
    (frame.take progress.reader.io.pos) progress.returned progress.reader.dctx

section

variable {library : DecompressLibrary DCtx} {initial : DCtx} {Frame : Bytes → Bytes → Prop}
  {frame content : Bytes} {progress : ReadProgress DCtx} {length : Nat}

theorem Reading.eof_iff (reading : Reading library initial Frame frame content progress) :
    progress.reader.io.eof = true ↔ progress.reader.io.pos = frame.length := by
  have within := reading.pos_le
  rw [Io.eof, decide_eq_true_eq, reading.stored]
  omega

theorem Reading.returned_eq (reading : Reading library initial Frame frame content progress)
    (atEnd : progress.reader.io.eof = true) : progress.returned = content := by
  rcases reading.stays with position | ⟨-, given, -⟩
  · have inside := (position.inside frame content [] rfl).1
    rw [reading.eof_iff.mp atEnd, List.take_length] at inside
    exact absurd inside (lt_irrefl _)
  · exact given

theorem Reading.read (contract : WithholdingContract library.decompressStream initial Frame)
    (reading : Reading library initial Frame frame content progress)
    (left : progress.reader.io.eof = false) (positive : 0 < length) :
    ∃ after, Reads library progress length after ∧
      Reading library initial Frame frame content after ∧
      after.reader.io.pos = min (progress.reader.io.pos + length) frame.length := by
  rcases progress with ⟨⟨⟨stored, pos⟩, dctx⟩, returned⟩
  have same := reading.stored
  have within := reading.pos_le
  have stays : StaysInFrame library initial Frame frame content [] (frame.take pos) returned
    dctx := reading.stays
  simp only at same within
  subst same
  have short : pos < stored.length := by
    simpa [Io.eof] using left
  have takenLength : (stored.take pos).length = pos := by
    rw [List.length_take, min_eq_left within]
  have dataLength : ((stored.drop pos).take length).length = min length (stored.length - pos) := by
    rw [List.length_take, List.length_drop]
  rcases stays with position | ⟨ended, -⟩
  · have presented : (stored.drop pos).take length <+:
        Position.bytesLeft [(stored, content)] (stored.take pos) := by
      simpa [Position.bytesLeft, takenLength] using List.take_prefix length (stored.drop pos)
    rcases decompress_withinFrame contract position presented (by omega) with
      ⟨output, next, settles, stays⟩
    have moved : stored.take pos ++ (stored.drop pos).take length =
        stored.take (pos + ((stored.drop pos).take length).length) := by
      rw [List.take_add, ← List.prefix_iff_eq_take.mp (List.take_prefix length _)]
    refine ⟨⟨⟨⟨stored, pos + ((stored.drop pos).take length).length⟩, next⟩, returned ++ output⟩,
      ⟨positive, output, ?_, rfl⟩, ⟨rfl, ?_, moved ▸ stays⟩, ?_⟩
    · simp only [streamReaderRead, left, Io.read_inside left]
      exact settles.map _
    · simp only
      omega
    · simp only
      omega
  · omega

theorem Reading.start {format : FrameFormat} (contract : library.WithholdingContract format)
    {io : Io} {reader : StreamReader DCtx}
    (created : streamReaderInitialize library io.rewind = .ok reader)
    (isFrame : format.DataFrame none io.content content) :
    library.Prepared none reader.dctx ∧
      Reading library reader.dctx (format.Frame none) io.content content ⟨reader, []⟩ ∧
      reader.io.pos = 0 := by
  rw [streamReaderInitialize] at created
  cases initialized : rbStreamingDecompressInitialize library [] with
  | error raised => simp [initialized, Except.map] at created
  | ok dctx =>
      simp only [initialized, Except.map, Except.ok.injEq] at created
      subst created
      have prepared := rbStreamingDecompressInitialize_prepared initialized
      have valid : ∀ frame ∈ [(io.content, content)], format.Frame none frame.1 frame.2 := by
        intro frame member
        rw [List.mem_singleton.mp member]
        exact Or.inl isFrame
      have position := Position.start (contract.decodes prepared).toDecoderContract valid
        (.initial _)
      exact ⟨prepared, ⟨rfl, Nat.zero_le _, Or.inl position⟩, rfl⟩

theorem Reading.of_run (contract : WithholdingContract library.decompressStream initial Frame)
    {first : ReadProgress DCtx} {lengths : List Nat}
    (start : Reading library initial Frame frame content first) (atStart : first.reader.io.pos = 0)
    (reads : Run (Reads library) first lengths progress) :
    Reading library initial Frame frame content progress ∧
      progress.reader.io.pos = min lengths.sum frame.length := by
  induction reads with
  | nil => exact ⟨start, by simp [atStart]⟩
  | @snoc before after lengths length run taken induction =>
      rcases induction with ⟨reading, pos⟩
      rcases taken with ⟨positive, data, settles, returned⟩
      have left : before.reader.io.eof = false := by
        by_contra atEnd
        rw [Bool.not_eq_false] at atEnd
        have absurd := settles.unique (streamReaderRead_atEnd atEnd length)
        simp at absurd
      rcases reading.read contract left positive with
        ⟨next, ⟨-, data', settles', returned'⟩, reading', pos'⟩
      have same := settles.unique settles'
      simp only [ReaderOutcome.mk.injEq, Except.ok.injEq] at same
      have whole : after = next := by
        rcases after with ⟨reader, bytes⟩
        rcases next with ⟨reader', bytes'⟩
        simp only at same returned returned'
        rw [same.2, returned, returned', same.1]
      subst whole
      refine ⟨reading', ?_⟩
      rw [pos', pos, List.sum_append, List.sum_singleton]
      omega

end

/-! ## End to end -/

/-- Any writes and a `finish` return normally. From then on, reads of any
positive lengths return normally before the end of the file, reach it when the
lengths add up, and have then returned everything that has been written. -/
theorem streamReader_read_streamWriter_write {cLibrary : CompressLibrary CCtx}
    {dLibrary : DecompressLibrary DCtx} {format : FrameFormat} {level : Value}
    {writer written : StreamWriter CCtx} {data : List (List Bytes)}
    (encodes : EncoderContract cLibrary.compressStream2 writer.stream.ctx (format.DataFrame none))
    (decodes : dLibrary.WithholdingContract format)
    (created : streamWriterInitialize cLibrary .empty level = .ok writer)
    (writes : Run (Writes cLibrary) writer data written) :
    (∀ more, ∃ next, Writes cLibrary written more next) ∧
    ∃ count finished, Settles (fun fuel => streamWriterFinish cLibrary fuel written)
        ⟨.ok count, finished⟩ ∧
      ∀ {reader lengths progress},
        streamReaderInitialize dLibrary finished.io.rewind = .ok reader →
        Run (Reads dLibrary) ⟨reader, []⟩ lengths progress →
        (progress.reader.io.eof = true ↔ finished.io.content.length ≤ lengths.sum) ∧
        (progress.reader.io.eof = false → ∀ length, 0 < length →
          ∃ after, Reads dLibrary progress length after) ∧
        (progress.reader.io.eof = true → progress.returned = data.flatten.flatten ∧
          ∀ length, Settles (fun fuel => streamReaderRead dLibrary fuel progress.reader length)
            ⟨.error (.standardError "EOF"), progress.reader⟩) := by
  have writing := Writing.of_run encodes (Writing.start created).2 writes
  refine ⟨fun more => ?_, ?_⟩
  · rcases writing.write encodes more with ⟨next, returns, -⟩
    exact ⟨next, returns⟩
  · rcases writing.finish encodes with ⟨count, finished, finishes, isFrame⟩
    refine ⟨count, finished, finishes, ?_⟩
    intro reader lengths progress opened reads
    rcases Reading.start decodes opened isFrame with ⟨readerPrepared, readingStart, atStart⟩
    have withholds := decodes.decodes readerPrepared
    rcases Reading.of_run withholds readingStart atStart reads with ⟨reading, pos⟩
    refine ⟨?_, fun left length positive => ?_, fun atEnd =>
      ⟨reading.returned_eq atEnd, streamReaderRead_atEnd atEnd⟩⟩
    · rw [reading.eof_iff, pos]
      omega
    · rcases reading.read withholds left positive with ⟨after, returns, -⟩
      exact ⟨after, returns⟩

theorem streamReader_read_streamWriter_write_abcdef : ∃ written finished progress length,
    Run (Writes (storedLibrary 4)) ⟨.empty, ⟨.fresh, []⟩⟩
      [[[0x61, 0x62, 0x63], []], [[0x64, 0x65, 0x66]]] written ∧
    Run (Reads (streamLibrary storedBlocks)) ⟨⟨(finished : StreamWriter StoredEncoder).io.rewind,
      .create Unit⟩, []⟩ [length] progress ∧
    progress.returned = [0x61, 0x62, 0x63, 0x64, 0x65, 0x66] := by
  have encodes : EncoderContract (storedLibrary 4).compressStream2 .fresh
      ((undeclaredFormat storedBlocks).DataFrame none) :=
    storedStream_contract (by decide) (by decide) none
  have decodes := (streamLibrary_eagerContract storedBlocks).toWithholdingContract
  have created : streamWriterInitialize (storedLibrary 4) .empty .nil =
      .ok ⟨.empty, ⟨.fresh, []⟩⟩ := rfl
  have fresh : Run (Writes (storedLibrary 4)) ⟨.empty, ⟨.fresh, []⟩⟩ []
      ⟨.empty, ⟨.fresh, []⟩⟩ := .nil
  rcases (streamReader_read_streamWriter_write encodes decodes created fresh).1
    [[0x61, 0x62, 0x63], []] with ⟨first, writesFirst⟩
  rcases (streamReader_read_streamWriter_write encodes decodes created (fresh.snoc writesFirst)).1
    [[0x64, 0x65, 0x66]] with ⟨written, writesSecond⟩
  have writes := (fresh.snoc writesFirst).snoc writesSecond
  rcases (streamReader_read_streamWriter_write encodes decodes created writes).2 with
    ⟨count, finished, -, reading⟩
  have opened : streamReaderInitialize (streamLibrary storedBlocks) finished.io.rewind =
      .ok ⟨finished.io.rewind, .create Unit⟩ := rfl
  have notRead : Run (Reads (streamLibrary storedBlocks))
      ⟨⟨finished.io.rewind, .create Unit⟩, []⟩ [] ⟨⟨finished.io.rewind, .create Unit⟩, []⟩ := .nil
  have start := reading opened notRead
  have left : finished.io.rewind.eof = false := by
    by_contra atEnd
    rw [Bool.not_eq_false] at atEnd
    exact absurd (start.2.2 atEnd).1 (by simp)
  rcases start.2.1 left (finished.io.content.length + 1) (Nat.succ_pos _) with ⟨progress, read⟩
  have reads := notRead.snoc read
  have whole := reading opened reads
  refine ⟨written, finished, progress, _, writes, reads, (whole.2.2 (whole.1.mpr ?_)).1⟩
  simp

end ZstdRuby
