import ZstdRuby.Libzstd.CompressStream
import ZstdRuby.Properties.FrameWriting

/-! # The loop of `ZSTD_compressStream_generic`

What one pass keeps, and that the loop is left: with the frame handed on, with the
caller's buffer full, or with nothing left to do.
-/

namespace ZstdRuby.Libzstd

open Streaming

/-! ## The buffers -/

section

variable {State : Type} {session : CStreamSession State}

structure SessionBuffers (session : CStreamSession State) : Prop where
  order : session.inToCompress ≤ session.inBuffPos
  room : session.inBuffPos < session.inBuffTarget
  target : session.inBuffTarget ≤ session.inBuff.length
  block : session.inBuffTarget ≤ session.inToCompress + session.frame.blockSizeMax +
    if session.frame.pledgedSrcSizePlusOne = session.frame.blockSizeMax + 1 then 1 else 0
  wrap : session.frame.blockSizeMax ≤ session.inBuff.length
  outBuffSize : session.outBuffSize = compressBound session.frame.blockSizeMax + 1
  buffered : session.stable = false

theorem overwrite_length {buffer content : Bytes} {position : Nat}
    (fits : position + content.length ≤ buffer.length) :
    (overwrite buffer position content).length = buffer.length := by
  simp only [overwrite, List.length_append, List.length_take, List.length_drop]
  omega

theorem SessionBuffers.pending_load (buffers : SessionBuffers session) {loaded : Bytes}
    (fits : session.inBuffPos + loaded.length ≤ session.inBuffTarget) :
    (session.load loaded).pending = session.pending ++ loaded := by
  have order := buffers.order
  have target := buffers.target
  have front : (session.inBuff.take session.inBuffPos).length = session.inBuffPos := by
    rw [List.length_take]
    omega
  have size : session.inBuffPos + loaded.length - session.inToCompress =
      ((session.inBuff.take session.inBuffPos).drop session.inToCompress ++ loaded).length := by
    rw [List.length_append, List.length_drop, front]
    omega
  simp only [CStreamSession.pending, CStreamSession.load, overwrite]
  rw [List.append_assoc, List.drop_append_of_le_length (by omega), ← List.append_assoc, size,
    List.take_left, List.drop_take]

theorem SessionBuffers.pending_length (buffers : SessionBuffers session) :
    session.pending.length = session.inBuffPos - session.inToCompress := by
  have room := buffers.room
  have target := buffers.target
  rw [CStreamSession.pending, List.length_take, List.length_drop]
  omega

theorem pending_nextBlock : session.nextBlock.pending = [] := by
  rw [CStreamSession.nextBlock]
  split <;> simp [CStreamSession.pending]

theorem nextBlock_same (session : CStreamSession State) :
    session.nextBlock.frame = session.frame ∧
      session.nextBlock.streamStage = session.streamStage ∧
      session.nextBlock.unflushed = session.unflushed ∧
      session.nextBlock.frameEnded = session.frameEnded := by
  rw [CStreamSession.nextBlock]
  split <;> exact ⟨rfl, rfl, rfl, rfl⟩

theorem SessionBuffers.nextBlock {next : CStreamSession State} (buffers : SessionBuffers session)
    (positive : 0 < session.frame.blockSizeMax)
    (position : next.inBuff.length = session.inBuff.length)
    (params : next.frame.blockSizeMax = session.frame.blockSizeMax)
    (output : next.outBuffSize = session.outBuffSize) (mode : next.stable = session.stable) :
    SessionBuffers next.nextBlock := by
  have wrap := buffers.wrap
  have outBuffSize := buffers.outBuffSize
  have buffered := buffers.buffered
  rw [CStreamSession.nextBlock]
  split
  · constructor <;> simp only [params, position, output, mode] <;> omega
  · constructor <;> simp only [params, position, output, mode] <;> omega

end

/-! ## What is kept from pass to pass -/

def frameBound : Nat := compressBound blockSizeMax

def CStreamSession.held {State : Type} (session : CStreamSession State) : Nat :=
  session.unflushed.length + frameBound * session.pending.length +
    if session.frameEnded then 0 else frameBound

section

variable {writer : BlockWriter} {blocks : BlockDecoder}
  {Agree : writer.State → blocks.Entropy → Bytes → Prop}

/-- A session whose frame has not ended: what has been given and what is still in the
output buffer is the beginning of a frame. -/
structure SessionWritten (Agree : writer.State → blocks.Entropy → Bytes → Prop)
    (dictionary : Option Bytes) (session : CStreamSession writer.State) (given taken : Bytes) :
    Prop where
  buffers : SessionBuffers session
  frame : ∃ content, FrameWritten Agree (usedDictionary dictionary) session.frame
    (given ++ session.unflushed) content ∧ taken = content ++ session.pending
  unended : session.frameEnded = false
  loads : session.streamStage = .load → session.unflushed = []

structure SessionEnded (blocks : BlockDecoder) (dictionary : Option Bytes)
    (session : CStreamSession writer.State) (given taken : Bytes) : Prop where
  ended : session.frameEnded = true
  flushes : session.streamStage = .flush
  reads : (streamFormat blocks).DataFrame dictionary (given ++ session.unflushed) taken

/-- What holds between two passes of a call: `total` is the input of the frame up to
the end of the call's, and `limit` what the session held with the call's input. -/
structure CallWritten (Agree : writer.State → blocks.Entropy → Bytes → Prop)
    (dictionary : Option Bytes) (directive : Directive) (outSize : Nat) (given total : Bytes)
    (limit : Nat) (call : CStreamCall writer) : Prop where
  session : ∃ taken, SessionWritten Agree dictionary call.session (given ++ call.op) taken ∧
    taken ++ call.ip = total
  pledge : call.session.frame.pledgedSrcSizePlusOne ≠ 0 →
    directive = .finish ∧ call.session.frame.pledgedSrcSizePlusOne = total.length + 1
  fits : call.op.length ≤ outSize
  held : call.op.length + call.session.held + frameBound * call.ip.length ≤ limit

structure CallEnded (blocks : BlockDecoder) (dictionary : Option Bytes) (directive : Directive)
    (outSize : Nat) (given total : Bytes) (limit : Nat) (call : CStreamCall writer) : Prop where
  session : SessionEnded blocks dictionary call.session (given ++ call.op) total
  ip : call.ip = []
  finish : directive = .finish
  fits : call.op.length ≤ outSize
  held : call.op.length + call.session.held ≤ limit

/-- How a call ends: the frame has been handed on completely, or the caller's buffer
is full, or there is nothing left to do. -/
inductive Stopped (Agree : writer.State → blocks.Entropy → Bytes → Prop)
    (dictionary : Option Bytes) (directive : Directive) (outSize : Nat) (given total : Bytes)
    (limit : Nat) : CStreamStop writer → Prop
  | complete {op : Bytes} (finish : directive = .finish) (fits : op.length ≤ outSize)
      (reads : (streamFormat blocks).DataFrame dictionary (given ++ op) total) :
      Stopped Agree dictionary directive outSize given total limit ⟨none, [], op⟩
  | ended {session : CStreamSession writer.State} {op : Bytes}
      (written : CallEnded blocks dictionary directive outSize given total limit ⟨session, [], op⟩)
      (unflushed : session.unflushed ≠ []) (full : op.length = outSize) :
      Stopped Agree dictionary directive outSize given total limit ⟨some session, [], op⟩
  | full {session : CStreamSession writer.State} {ip op : Bytes}
      (written : CallWritten Agree dictionary directive outSize given total limit
        ⟨session, ip, op⟩)
      (unflushed : session.unflushed ≠ []) (full : op.length = outSize) :
      Stopped Agree dictionary directive outSize given total limit ⟨some session, ip, op⟩
  | idle {session : CStreamSession writer.State} {op : Bytes}
      (written : CallWritten Agree dictionary directive outSize given total limit
        ⟨session, [], op⟩)
      (flushed : session.unflushed = [])
      (idle : directive = .proceed ∨ directive = .flush ∧ session.pending = []) :
      Stopped Agree dictionary directive outSize given total limit ⟨some session, [], op⟩

variable {dictionary : Option Bytes} {directive : Directive} {outSize limit : Nat}
  {given total : Bytes} {call : CStreamCall writer}

/-! ## Flushing -/

theorem unflushed_flush (session : CStreamSession writer.State) (size : Nat) :
    ({ session with outBuffFlushedSize := session.outBuffFlushedSize + size }
      : CStreamSession writer.State).unflushed = session.unflushed.drop size := by
  rw [CStreamSession.unflushed, CStreamSession.unflushed, List.drop_drop]

theorem CallWritten.flushStage
    (written : CallWritten Agree dictionary directive outSize given total limit call) :
    (Libzstd.flushStage writer outSize call).Ensures
      (fun next => CallWritten Agree dictionary directive outSize given total limit next ∧
        next.session.streamStage = .load ∧ next.session.pending = call.session.pending ∧
        next.ip = call.ip)
      (fun result => ∃ stop, result = .ok stop ∧
        Stopped Agree dictionary directive outSize given total limit stop) := by
  rcases call with ⟨session, ip, op⟩
  rcases written with ⟨⟨taken, ⟨buffers, ⟨content, frame, split⟩, unended, loads⟩, whole⟩, pledge,
    fits, held⟩
  simp only [CStreamSession.held] at fits held split
  rw [Libzstd.flushStage]
  simp only
  by_cases enough : session.unflushed.length ≤ outSize - op.length
  · have ongoing : ¬session.frameEnded = true := Bool.eq_false_iff.mp unended
    rw [List.take_of_length_le enough, if_neg (not_not.mpr rfl), if_neg ongoing]
    refine ⟨⟨⟨taken, ⟨⟨buffers.order, buffers.room, buffers.target, buffers.block, buffers.wrap,
      buffers.outBuffSize, buffers.buffered⟩, ⟨content, ?_, split⟩, unended, fun _ => rfl⟩, whole⟩,
      pledge, ?_, ?_⟩, rfl, rfl, rfl⟩
    · rw [List.append_assoc] at frame
      simpa [CStreamSession.unflushed] using frame
    · simp only [List.length_append]
      omega
    · have same : ({ session with outBuff := [], outBuffFlushedSize := 0, streamStage := .load }
          : CStreamSession writer.State).unflushed = [] := rfl
      simp only [CStreamSession.held, same, List.length_append, List.length_nil]
      change _ + (0 + frameBound * session.pending.length + _) + _ ≤ limit
      omega
  · have short : (session.unflushed.take (outSize - op.length)).length = outSize - op.length := by
      rw [List.length_take]
      omega
    rw [if_pos (by rw [short]; omega), short]
    refine ⟨_, rfl, .full ⟨⟨taken, ⟨⟨buffers.order, buffers.room, buffers.target, buffers.block,
      buffers.wrap, buffers.outBuffSize, buffers.buffered⟩, ⟨content, ?_, split⟩, unended, ?_⟩,
      whole⟩, pledge, ?_, ?_⟩ ?_ ?_⟩
    · rw [unflushed_flush, ← List.append_assoc, List.append_assoc _ (List.take _ _),
        List.take_append_drop]
      exact frame
    · intro load
      rw [unflushed_flush, loads load, List.drop_nil]
    · rw [List.length_append, short]
      omega
    · simp only [CStreamSession.held, unflushed_flush, List.length_append, short,
        List.length_drop]
      change _ + (_ + frameBound * session.pending.length + _) + _ ≤ limit
      omega
    · rw [unflushed_flush, ← List.length_pos_iff, List.length_drop]
      omega
    · rw [List.length_append, short]
      omega

theorem CallEnded.flushStage
    (written : CallEnded blocks dictionary directive outSize given total limit call) :
    (Libzstd.flushStage writer outSize call).Ensures (fun _ => False)
      (fun result => ∃ stop, result = .ok stop ∧
        Stopped Agree dictionary directive outSize given total limit stop) := by
  rcases call with ⟨session, ip, op⟩
  rcases written with ⟨⟨ended, flushes, reads⟩, rfl, finish, fits, held⟩
  simp only [CStreamSession.held] at fits held
  rw [Libzstd.flushStage]
  simp only
  by_cases enough : session.unflushed.length ≤ outSize - op.length
  · rw [List.take_of_length_le enough, if_neg (not_not.mpr rfl), if_pos ended]
    refine ⟨_, rfl, .complete finish ?_ ?_⟩
    · rw [List.length_append]
      omega
    · rwa [← List.append_assoc]
  · have short : (session.unflushed.take (outSize - op.length)).length = outSize - op.length := by
      rw [List.length_take]
      omega
    rw [if_pos (by rw [short]; omega), short]
    refine ⟨_, rfl, .ended ⟨⟨ended, flushes, ?_⟩, rfl, finish, ?_, ?_⟩ ?_ ?_⟩
    · rw [unflushed_flush, ← List.append_assoc, List.append_assoc _ (List.take _ _),
        List.take_append_drop]
      exact reads
    · rw [List.length_append, short]
      omega
    · simp only [CStreamSession.held, unflushed_flush, List.length_append, short,
        List.length_drop]
      change _ + (_ + frameBound * session.pending.length + _) ≤ limit
      omega
    · rw [unflushed_flush, ← List.length_pos_iff, List.length_drop]
      omega
    · rw [List.length_append, short]
      omega

/-! ## Compressing -/

theorem chunkBound_mono {left right : Nat} (less : left ≤ right) :
    chunkBound left ≤ chunkBound right := by
  simp only [chunkBound, blockHeaderSize]
  split <;> split <;> omega

theorem chunk_le_frameBound {size : Nat} (small : size ≤ blockSizeMax) :
    frameHeaderSizeMax + chunkBound size + epilogueSizeMax ≤ frameBound := by
  have mono := chunkBound_mono small
  have bound := frame_le_compressBound blockSizeMax
  rw [frameBound]
  omega

theorem le_frameBound_mul {size : Nat} (positive : 0 < size) :
    frameBound ≤ frameBound * size :=
  Nat.le_mul_of_pos_right frameBound positive

variable {session base : CStreamSession writer.State} {loaded ip op : Bytes}

structure CallLoaded (Agree : writer.State → blocks.Entropy → Bytes → Prop)
    (dictionary : Option Bytes) (directive : Directive) (outSize : Nat) (given total : Bytes)
    (limit : Nat) (base : CStreamSession writer.State) (loaded : Bytes)
    (session : CStreamSession writer.State) (ip op : Bytes) : Prop where
  buffers : SessionBuffers base
  fill : base.inBuffPos + loaded.length ≤ base.inBuffTarget
  reached : session = base.load loaded
  loads : session.streamStage = .load ∧ session.unflushed = []
  frame : ∃ content, FrameWritten Agree (usedDictionary dictionary) session.frame
    (given ++ op) content ∧ content ++ session.pending ++ ip = total
  pledge : session.frame.pledgedSrcSizePlusOne ≠ 0 →
    directive = .finish ∧ session.frame.pledgedSrcSizePlusOne = total.length + 1
  fits : op.length ≤ outSize
  held : op.length + (frameBound * session.pending.length + frameBound) +
    frameBound * ip.length ≤ limit
  small : session.pending.length ≤ session.frame.blockSizeMax

theorem CallLoaded.oSize
    (filled : CallLoaded Agree dictionary directive outSize given total limit base loaded
      session ip op) (room : Nat) :
    frameHeaderSizeMax + chunkBound session.pending.length + epilogueSizeMax ≤
      if decide (room ≥ compressBound session.pending.length) then room
      else session.outBuffSize := by
  split
  · rename_i direct
    have bound := frame_le_compressBound session.pending.length
    have direct := of_decide_eq_true direct
    omega
  · have size : session.outBuffSize = compressBound session.frame.blockSizeMax + 1 := by
      rw [filled.reached]
      exact filled.buffers.outBuffSize
    have mono := chunkBound_mono filled.small
    have bound := frame_le_compressBound session.frame.blockSizeMax
    omega

theorem CallLoaded.compressLast (contract : BlockContract writer blocks Agree)
    (bound : BlockBound writer blocks Agree) (splits : SplitContract writer)
    (filled : CallLoaded Agree dictionary .finish outSize given total limit base loaded
      session [] op) :
    (compressStage writer .finish outSize ⟨session, [], op⟩).Ensures (fun _ => False)
      (fun result => ∃ stop, result = .ok stop ∧
        Stopped Agree dictionary .finish outSize given total limit stop) := by
  rcases filled.frame with ⟨content, frame, whole⟩
  rw [List.append_nil] at whole
  have sized : session.frame.pledgedSrcSizePlusOne ≠ 0 → session.frame.pledgedSrcSizePlusOne =
      content.length + session.pending.length + 1 := by
    intro known
    rw [← List.length_append, whole]
    exact (filled.pledge known).2
  have small := chunk_le_frameBound (filled.small.trans frame.valid.small)
  rcases frame.compressEnd_succeeds contract bound splits sized
    (filled.oSize (outSize - op.length)) with ⟨next, bytes, compressed, short⟩
  have reads := frame.compressEnd contract splits compressed
  rw [whole] at reads
  have held := (Nat.le_add_right _ _).trans filled.held
  have fits := filled.fits
  rw [compressStage]
  simp only [and_self, decide_true, if_true, compressed]
  by_cases direct : outSize - op.length ≥ compressBound session.pending.length
  · rw [if_pos (decide_eq_true direct)]
    refine ⟨_, rfl, .complete rfl ?_ ?_⟩
    · have covers := frame_le_compressBound session.pending.length
      rw [List.length_append]
      omega
    · rwa [← List.append_assoc]
  · rw [if_neg (by simpa using direct)]
    have ended := (nextBlock_same { session with frame := next, frameEnded := true }).2.2.2
    have none := @pending_nextBlock _ { session with frame := next, frameEnded := true }
    generalize CStreamSession.nextBlock { session with frame := next, frameEnded := true } =
      reached at ended none
    refine CallEnded.flushStage ⟨⟨ended, rfl, ?_⟩, rfl, rfl, fits, ?_⟩
    · exact reads
    · change op.length + (bytes.length + frameBound * reached.pending.length +
        if reached.frameEnded = true then 0 else frameBound) ≤ limit
      simp only [none, ended, List.length_nil, Nat.mul_zero, Nat.add_zero, if_true]
      omega

theorem CallLoaded.compressNext (contract : BlockContract writer blocks Agree)
    (bound : BlockBound writer blocks Agree) (splits : SplitContract writer)
    (filled : CallLoaded Agree dictionary directive outSize given total limit base loaded
      session ip op) (more : ¬(directive = .finish ∧ ip = []))
    (nonempty : session.pending ≠ []) :
    (compressStage writer directive outSize ⟨session, ip, op⟩).Ensures
      (fun next => CallWritten Agree dictionary directive outSize given total limit next ∧
        next.session.streamStage = .load ∧ next.session.pending = [] ∧ next.ip = ip)
      (fun result => ∃ stop, result = .ok stop ∧
        Stopped Agree dictionary directive outSize given total limit stop) := by
  rcases filled.frame with ⟨content, frame, whole⟩
  have pledge : session.frame.pledgedSrcSizePlusOne ≠ 0 →
      content.length + session.pending.length + 1 ≤ session.frame.pledgedSrcSizePlusOne := by
    intro known
    have equal := (filled.pledge known).2
    rw [← whole, List.length_append, List.length_append] at equal
    omega
  have small := chunk_le_frameBound (filled.small.trans frame.valid.small)
  have enough := filled.oSize (outSize - op.length)
  rcases frame.compressContinue_succeeds contract bound splits pledge
    (fun absurd : false = true => by cases absurd)
    (enough.trans' (by simp only [epilogueSizeMax, blockHeaderSize]; omega)) with
    ⟨next, bytes, compressed, short⟩
  have kept := (frame.compressContinue contract splits (Or.inl rfl) compressed).1
  have same := (compressContinueInternal_same compressed).1
  have positive := le_frameBound_mul (List.length_pos_iff.mpr nonempty)
  have held := filled.held
  have fits := filled.fits
  have inBuff : session.inBuff.length = base.inBuff.length := by
    rw [filled.reached]
    exact overwrite_length (filled.fill.trans filled.buffers.target)
  have blockSize : next.blockSizeMax = base.frame.blockSizeMax := by
    rw [same.blockSize, filled.reached]
    rfl
  have outBuffSize : session.outBuffSize = base.outBuffSize := by
    rw [filled.reached]
    rfl
  have mode : session.stable = base.stable := by
    rw [filled.reached]
    rfl
  have buffers : SessionBuffers
      { session with frame := next, frameEnded := false }.nextBlock :=
    filled.buffers.nextBlock (by rw [← blockSize]; exact kept.valid.positive) inBuff blockSize
      outBuffSize mode
  have pledged : next.pledgedSrcSizePlusOne ≠ 0 →
      directive = .finish ∧ next.pledgedSrcSizePlusOne = total.length + 1 := by
    rw [same.pledge]
    exact filled.pledge
  have step := nextBlock_same { session with frame := next, frameEnded := false }
  have none := @pending_nextBlock _ { session with frame := next, frameEnded := false }
  rw [compressStage]
  simp only [more, decide_false, Bool.false_eq_true, if_false]
  simp only [Libzstd.compressContinue, compressed]
  generalize CStreamSession.nextBlock { session with frame := next, frameEnded := false } =
    reached at buffers step none
  rcases step with ⟨frameEq, stageEq, unflushedEq, endedEq⟩
  have unflushed : reached.unflushed = [] := unflushedEq.trans filled.loads.2
  by_cases direct : outSize - op.length ≥ compressBound session.pending.length
  · rw [if_pos (decide_eq_true direct)]
    have covers := frame_le_compressBound session.pending.length
    refine ⟨⟨⟨_, ⟨buffers, ⟨content ++ session.pending, ?_, rfl⟩, endedEq, fun _ => unflushed⟩,
      ?_⟩, ?_, ?_, ?_⟩, stageEq.trans filled.loads.1, none, rfl⟩
    · rw [frameEq, unflushed, List.append_nil, ← List.append_assoc]
      exact kept
    · rwa [none, List.append_nil]
    · rw [frameEq]
      exact pledged
    · rw [List.length_append]
      omega
    · simp only [CStreamSession.held, unflushed, none, endedEq, List.length_append,
        List.length_nil, Bool.false_eq_true, if_false]
      omega
  · rw [if_neg (by simpa using direct)]
    have written : CallWritten Agree dictionary directive outSize given total limit
        ⟨{ reached with outBuff := bytes, outBuffFlushedSize := 0, streamStage := .flush },
          ip, op⟩ := by
      refine ⟨⟨_, ⟨⟨buffers.order, buffers.room, buffers.target, buffers.block, buffers.wrap,
        buffers.outBuffSize, buffers.buffered⟩, ⟨content ++ session.pending, ?_, rfl⟩, endedEq,
        fun absurd => by cases absurd⟩, ?_⟩, ?_, fits, ?_⟩
      · rw [frameEq]
        exact kept
      · change content ++ session.pending ++ reached.pending ++ ip = total
        rwa [none, List.append_nil]
      · rw [frameEq]
        exact pledged
      · change op.length + (bytes.length + frameBound * reached.pending.length +
          if reached.frameEnded = true then 0 else frameBound) + frameBound * ip.length ≤ limit
        simp only [none, endedEq, List.length_nil, Bool.false_eq_true, if_false]
        omega
    have flushed := written.flushStage
    rw [show ({ reached with outBuff := bytes, outBuffFlushedSize := 0, streamStage := .flush }
      : CStreamSession writer.State).pending = [] from none] at flushed
    exact flushed

/-! ## Loading -/

theorem CallWritten.load
    (written : CallWritten Agree dictionary directive outSize given total limit
      ⟨session, ip, op⟩) (loads : session.streamStage = .load) :
    let loaded := ip.take (session.inBuffTarget - session.inBuffPos)
    let rest := ip.drop (session.inBuffTarget - session.inBuffPos)
    CallLoaded Agree dictionary directive outSize given total limit session loaded
        (session.load loaded) rest op ∧
      (session.load loaded).pending.length + rest.length = session.pending.length + ip.length ∧
      (session.load loaded).pending.length =
        session.inBuffPos + loaded.length - session.inToCompress := by
  intro loaded rest
  rcases written with ⟨⟨taken, ⟨buffers, ⟨content, frame, rfl⟩, unended, flushed⟩, whole⟩, pledge,
    fits, held⟩
  simp only at buffers frame unended flushed whole pledge fits held
  have order := buffers.order
  have room := buffers.room
  have loadedLength : loaded.length =
      min (session.inBuffTarget - session.inBuffPos) ip.length := List.length_take
  have restLength : rest.length = ip.length - (session.inBuffTarget - session.inBuffPos) :=
    List.length_drop
  have fill : session.inBuffPos + loaded.length ≤ session.inBuffTarget := by omega
  have pending := buffers.pending_load fill
  have size := buffers.pending_length
  have sizeAfter : (session.load loaded).pending.length =
      session.inBuffPos + loaded.length - session.inToCompress := by
    rw [pending, List.length_append, size]
    omega
  have parts : (session.load loaded).pending.length + rest.length =
      session.pending.length + ip.length := by
    rw [pending, List.length_append]
    omega
  have whole' : content ++ (session.load loaded).pending ++ rest = total := by
    rw [pending, ← whole, ← List.append_assoc, List.append_assoc _ loaded,
      List.take_append_drop]
  refine ⟨⟨buffers, fill, rfl, ⟨loads, flushed loads⟩, ⟨content, ?_, whole'⟩, pledge, fits, ?_,
    ?_⟩, parts, sizeAfter⟩
  · rwa [flushed loads, List.append_nil] at frame
  · simp only [CStreamSession.held, flushed loads, unended, List.length_nil,
      Bool.false_eq_true, if_false] at held
    have both : frameBound * (session.load loaded).pending.length + frameBound * rest.length =
        frameBound * session.pending.length + frameBound * ip.length := by
      rw [← Nat.mul_add, ← Nat.mul_add, parts]
    omega
  · have block := buffers.block
    change _ ≤ session.frame.blockSizeMax
    split at block
    · rename_i exact
      have length := congrArg List.length whole'
      rw [List.length_append, List.length_append] at length
      have pledged := (pledge (by omega)).2
      omega
    · omega

theorem CallLoaded.written
    (filled : CallLoaded Agree dictionary directive outSize given total limit base loaded
      (base.load loaded) ip op) (room : base.inBuffPos + loaded.length < base.inBuffTarget)
    (unended : base.frameEnded = false) :
    CallWritten Agree dictionary directive outSize given total limit
      ⟨base.load loaded, ip, op⟩ := by
  rcases filled with ⟨buffers, fill, -, loads, ⟨content, frame, whole⟩, pledge, fits, held, -⟩
  have order := buffers.order
  have length : (base.load loaded).inBuff.length = base.inBuff.length :=
    overwrite_length (fill.trans buffers.target)
  have kept : SessionBuffers (base.load loaded) := by
    constructor
    · change base.inToCompress ≤ base.inBuffPos + loaded.length
      omega
    · exact room
    · rw [length]
      exact buffers.target
    · exact buffers.block
    · rw [length]
      exact buffers.wrap
    · exact buffers.outBuffSize
    · exact buffers.buffered
  refine ⟨⟨_, ⟨kept, ⟨content, ?_, rfl⟩, unended, fun _ => loads.2⟩, whole⟩, pledge, fits, ?_⟩
  · rwa [loads.2, List.append_nil]
  · have ongoing : (base.load loaded).frameEnded = false := unended
    simp only [CStreamSession.held, loads.2, ongoing, List.length_nil, Bool.false_eq_true,
      if_false]
    omega

theorem CallWritten.loadStage (contract : BlockContract writer blocks Agree)
    (bound : BlockBound writer blocks Agree) (splits : SplitContract writer)
    (written : CallWritten Agree dictionary directive outSize given total limit
      ⟨session, ip, op⟩) (loads : session.streamStage = .load) :
    (Libzstd.loadStage writer directive outSize ⟨session, ip, op⟩).Ensures
      (fun next => CallWritten Agree dictionary directive outSize given total limit next ∧
        next.session.streamStage = .load ∧
        next.session.pending.length + next.ip.length < session.pending.length + ip.length)
      (fun result => ∃ stop, result = .ok stop ∧
        Stopped Agree dictionary directive outSize given total limit stop) := by
  rw [Libzstd.loadStage]
  simp only
  by_cases shortcut : directive = .finish ∧
      (outSize - op.length ≥ compressBound ip.length ∨ session.stable = true) ∧
      session.inBuffPos = 0
  · rw [if_pos shortcut]
    rcases written with ⟨⟨taken, ⟨buffers, ⟨content, frame, rfl⟩, -, flushed⟩, whole⟩, pledge,
      fits, -⟩
    simp only at buffers frame flushed whole pledge fits
    rcases shortcut with ⟨finish, roomy, position⟩
    have order := buffers.order
    have empty : session.pending = [] := by
      rw [← List.length_eq_zero_iff, buffers.pending_length]
      omega
    rw [flushed loads, List.append_nil] at frame
    rw [empty, List.append_nil] at whole
    have sized : session.frame.pledgedSrcSizePlusOne ≠ 0 →
        session.frame.pledgedSrcSizePlusOne = content.length + ip.length + 1 := by
      intro known
      rw [← List.length_append, whole]
      exact (pledge known).2
    have covers := frame_le_compressBound ip.length
    have roomy : outSize - op.length ≥ compressBound ip.length := by
      simpa [buffers.buffered] using roomy
    rcases frame.compressEnd_succeeds contract bound splits sized (covers.trans roomy) with
      ⟨next, bytes, compressed, short⟩
    have reads := frame.compressEnd contract splits compressed
    rw [whole] at reads
    simp only [compressed]
    refine ⟨_, rfl, .complete finish ?_ ?_⟩
    · rw [List.length_append]
      omega
    · rwa [← List.append_assoc]
  · rw [if_neg shortcut]
    rcases written.load loads with ⟨filled, parts, size⟩
    have buffers := filled.buffers
    have order := buffers.order
    have room := buffers.room
    generalize loadedEq : ip.take (session.inBuffTarget - session.inBuffPos) = loaded
      at filled parts size
    generalize restEq : ip.drop (session.inBuffTarget - session.inBuffPos) = rest
      at filled parts size
    have loadedLength : loaded.length =
        min (session.inBuffTarget - session.inBuffPos) ip.length := by
      rw [← loadedEq, List.length_take]
    have restLength : rest.length = ip.length - (session.inBuffTarget - session.inBuffPos) := by
      rw [← restEq, List.length_drop]
    by_cases stop : directive = .proceed ∧
        session.inBuffPos + loaded.length < session.inBuffTarget ∨
        directive = .flush ∧ session.inBuffPos + loaded.length = session.inToCompress
    · have unfilled : session.inBuffPos + loaded.length < session.inBuffTarget := by
        rcases stop with ⟨-, unfilled⟩ | ⟨-, none⟩
        · exact unfilled
        · omega
      have exhausted : rest = [] := by
        rw [← List.length_eq_zero_iff]
        omega
      rcases written.session with ⟨taken, kept, -⟩
      rw [if_pos (by exact stop)]
      subst exhausted
      refine ⟨_, rfl, .idle (filled.written unfilled kept.unended) filled.loads.2 ?_⟩
      rcases stop with ⟨proceed, -⟩ | ⟨flush, none⟩
      · exact Or.inl proceed
      · refine Or.inr ⟨flush, ?_⟩
        rw [← List.length_eq_zero_iff, size]
        omega
    · rw [if_neg (by exact stop)]
      by_cases last : directive = .finish ∧ rest = []
      · rcases last with ⟨rfl, rfl⟩
        exact (filled.compressLast contract bound splits).mono (fun _ => False.elim)
          fun _ stopped => stopped
      · have nonempty : (session.load loaded).pending ≠ [] := by
          rw [← List.length_pos_iff, size]
          cases directive with
          | proceed =>
              have full : ¬session.inBuffPos + loaded.length < session.inBuffTarget :=
                fun short => stop (Or.inl ⟨rfl, short⟩)
              omega
          | flush =>
              have some : ¬session.inBuffPos + loaded.length = session.inToCompress :=
                fun none => stop (Or.inr ⟨rfl, none⟩)
              omega
          | finish =>
              have more : rest ≠ [] := fun none => last ⟨rfl, none⟩
              have more := List.length_pos_iff.mpr more
              omega
        refine (filled.compressNext contract bound splits last nonempty).mono ?_
          fun _ stopped => stopped
        rintro next ⟨kept, stage, none, same⟩
        have some := List.length_pos_iff.mpr nonempty
        refine ⟨kept, stage, ?_⟩
        rw [none, same, List.length_nil]
        omega

/-! ## Calls -/

def CallRuns (Agree : writer.State → blocks.Entropy → Bytes → Prop)
    (dictionary : Option Bytes) (directive : Directive) (outSize : Nat) (given total : Bytes)
    (limit : Nat) (call : CStreamCall writer) : Prop :=
  CallWritten Agree dictionary directive outSize given total limit call ∨
    CallEnded blocks dictionary directive outSize given total limit call

/-- What the passes still have to do: input that is not compressed, and a flush. -/
def CStreamCall.remaining (call : CStreamCall writer) : Nat :=
  2 * (call.session.pending.length + call.ip.length) +
    if call.session.streamStage = .flush then 1 else 0

theorem compressStreamPass_ensures (contract : BlockContract writer blocks Agree)
    (bound : BlockBound writer blocks Agree) (splits : SplitContract writer)
    (call : CStreamCall writer)
    (runs : CallRuns Agree dictionary directive outSize given total limit call) :
    (compressStreamPass writer directive outSize call).Ensures
      (fun next => CallRuns Agree dictionary directive outSize given total limit next ∧
        next.remaining < call.remaining)
      (fun result => ∃ stop, result = .ok stop ∧
        Stopped Agree dictionary directive outSize given total limit stop) := by
  rcases call with ⟨session, ip, op⟩
  rw [compressStreamPass]
  rcases runs with written | ended
  · cases stage : session.streamStage with
    | load =>
        refine (written.loadStage contract bound splits stage).mono ?_ fun _ stopped => stopped
        rintro next ⟨kept, loads, less⟩
        refine ⟨Or.inl kept, ?_⟩
        simp only [CStreamCall.remaining, loads, stage, reduceCtorEq, if_false]
        omega
    | flush =>
        refine written.flushStage.mono ?_ fun _ stopped => stopped
        rintro next ⟨kept, loads, pending, same⟩
        refine ⟨Or.inl kept, ?_⟩
        simp only [CStreamCall.remaining, loads, stage, pending, same, reduceCtorEq, if_false,
          if_true]
        omega
  · have stage : session.streamStage = .flush := ended.session.flushes
    simp only [stage]
    exact ended.flushStage.mono (fun _ => False.elim) fun _ stopped => stopped

theorem compressStreamGeneric_ensures (contract : BlockContract writer blocks Agree)
    (bound : BlockBound writer blocks Agree) (splits : SplitContract writer) {source : Bytes}
    (runs : CallRuns Agree dictionary directive outSize given total limit ⟨session, source, []⟩) :
    ∃ stop, compressStreamGeneric writer session directive outSize source = .ok stop ∧
      Stopped Agree dictionary directive outSize given total limit stop := by
  have enough : CStreamCall.remaining ⟨session, source, []⟩ <
      compressStreamFuel writer ⟨session, source, []⟩ := by
    simp only [CStreamCall.remaining, compressStreamFuel]
    split <;> omega
  rcases Loop.run_of_variant _ _ CStreamCall.remaining
    (compressStreamPass_ensures contract bound splits) runs enough with
    ⟨result, run, stop, rfl, stopped⟩
  refine ⟨stop, ?_, stopped⟩
  rw [compressStreamGeneric, run, Option.getD_some]

theorem compressStreamGeneric_suffix {source : Bytes} {stop : CStreamStop writer}
    (generic : compressStreamGeneric writer session directive outSize source = .ok stop) :
    stop.ip <:+ source := by
  have flush : ∀ call : CStreamCall writer, call.ip <:+ source →
      (Libzstd.flushStage writer outSize call).Ensures (fun next => next.ip <:+ source)
        (fun result => ∀ stop, result = .ok stop → stop.ip <:+ source) := by
    intro call suffix
    rw [Libzstd.flushStage]
    simp only
    split
    · rintro stop ⟨⟩
      exact suffix
    · split
      · rintro stop ⟨⟩
        exact suffix
      · exact suffix
  have compress : ∀ call : CStreamCall writer, call.ip <:+ source →
      (compressStage writer directive outSize call).Ensures (fun next => next.ip <:+ source)
        (fun result => ∀ stop, result = .ok stop → stop.ip <:+ source) := by
    intro call suffix
    rw [compressStage]
    simp only
    split
    · rintro stop ⟨⟩
    · split
      · split
        · rintro stop ⟨⟩
          exact suffix
        · exact suffix
      · exact flush _ suffix
  have pass : ∀ call : CStreamCall writer, call.ip <:+ source →
      (compressStreamPass writer directive outSize call).Ensures (fun next => next.ip <:+ source)
        (fun result => ∀ stop, result = .ok stop → stop.ip <:+ source) := by
    intro call suffix
    rw [compressStreamPass]
    split
    · rw [Libzstd.loadStage]
      split
      · split
        · rintro stop ⟨⟩
        · rintro stop ⟨⟩
          exact List.nil_suffix
      · simp only
        have rest := (List.drop_suffix (call.session.inBuffTarget - call.session.inBuffPos)
          call.ip).trans suffix
        split
        · rintro stop ⟨⟩
          exact rest
        · exact compress _ rest
    · exact flush call suffix
  rw [compressStreamGeneric] at generic
  cases run : Loop.run (compressStreamPass writer directive outSize)
      (compressStreamFuel writer ⟨session, source, []⟩) ⟨session, source, []⟩ with
  | none => simp [run] at generic
  | some result =>
      rw [run, Option.getD_some] at generic
      exact Loop.run_ensures _ _ pass List.suffix_rfl run stop generic

end

end ZstdRuby.Libzstd
