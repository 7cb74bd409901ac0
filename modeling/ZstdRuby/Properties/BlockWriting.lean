import ZstdRuby.Libzstd.CompressContinue
import ZstdRuby.Properties.StoredFrames

/-! # Chunks that are written block by block

Whatever way a chunk is cut into blocks: if a decoder reads every block, it reads
the chunk.
-/

namespace ZstdRuby.Libzstd

open Streaming

/-! ## What is required of the blocks -/

/-- The blocks a writer makes of a part of the input are read by a decoder whose
tables agree with the writer's state, given what the frame holds so far. -/
structure BlockContract (writer : BlockWriter) (blocks : BlockDecoder)
    (Agree : writer.State → blocks.Entropy → Bytes → Prop) : Prop where
  begins : ∀ {cdict cParams pledgedSrcSize state},
    writer.compressBegin cdict cParams pledgedSrcSize = .ok state →
    Agree state (blocks.decompressBegin (usedDictionary (cdict.map CDict.dict))) []
  reads : ∀ {state next isFirstBlock capacity src lastBlock block}
    {frame : FrameState blocks.Entropy},
    Agree state frame.entropy frame.decoded → src ≠ [] → src.length ≤ blockSizeMax →
    src.length ≤ frame.fParams.blockSizeMax →
    writer.compressBlock state isFirstBlock capacity src lastBlock = .ok (next, block) →
    block ≠ [] ∧ ∃ entropy, Agree next entropy (frame.decoded ++ src) ∧
      ∀ {stage}, endOfBlock blocks ⟨frame.fParams, entropy, frame.decoded ++ src⟩ lastBlock =
        .ok stage → ∀ dictionary, (streamMachine blocks dictionary).scanAll
          ⟨.frame (.decodeBlockHeader frame), []⟩ block = some (⟨.frame stage, []⟩, src)
  dictID : ∀ cdict, writer.dictID cdict =
    blocks.dictID (usedDictionary (cdict.map CDict.dict)) ∧ writer.dictID cdict < 2 ^ 32
  xxh64 : ∀ content, writer.xxh64 content = blocks.xxh64 content

/-- A block never grows by more than its header, and only full blocks are split,
into parts of at least 1 KB. -/
structure BlockBound (writer : BlockWriter) (blocks : BlockDecoder)
    (Agree : writer.State → blocks.Entropy → Bytes → Prop) : Prop where
  fits : ∀ {state entropy decoded isFirstBlock capacity src lastBlock},
    Agree state entropy decoded → src ≠ [] → src.length ≤ blockSizeMax →
    src.length + blockHeaderSize ≤ capacity →
    ∃ next block, writer.compressBlock state isFirstBlock capacity src lastBlock =
      .ok (next, block) ∧ block.length ≤ src.length + blockHeaderSize

structure SplitContract (writer : BlockWriter) : Prop where
  split : ∀ {src level}, src.length = blockSizeMax →
    2 ^ 10 ≤ writer.splitBlock src level ∧ writer.splitBlock src level ≤ blockSizeMax

/-! ## Sizes of blocks -/

section

variable {writer : BlockWriter}

theorem optimalBlockSize_bounds (splits : SplitContract writer) {src : Bytes} (nonempty : src ≠ [])
    {limit : Nat} (positive : 0 < limit) (small : limit ≤ blockSizeMax) (splitLevel : Nat)
    (strat : Strategy) (savings : Int) :
    0 < optimalBlockSize writer src limit splitLevel strat savings ∧
      optimalBlockSize writer src limit splitLevel strat savings ≤ min src.length limit ∧
      (optimalBlockSize writer src limit splitLevel strat savings = src.length ∨
        min (2 ^ 10) limit ≤ optimalBlockSize writer src limit splitLevel strat savings) := by
  have some := List.length_pos_iff.mpr nonempty
  simp only [blockSizeMax] at small
  rw [optimalBlockSize]
  split
  · omega
  · rename_i full
    have exact : (src.take limit).length = blockSizeMax := by
      rw [List.length_take, blockSizeMax]
      omega
    have cut := @splits.split _ (if splitLevel = 0 then splitLevels.getD strat.number 0
      else splitLevel - 2) exact
    simp only [blockSizeMax] at cut
    split
    · omega
    · split <;> omega

end

/-! ## Chunks -/

section

variable {writer : BlockWriter} {blocks : BlockDecoder}
  {Agree : writer.State → blocks.Entropy → Bytes → Prop}

structure FrameContext.SameFrame {State : Type} (cctx next : FrameContext State) : Prop where
  params : next.appliedParams = cctx.appliedParams
  blockSize : next.blockSizeMax = cctx.blockSizeMax
  dictID : next.dictID = cctx.dictID
  pledge : next.pledgedSrcSizePlusOne = cctx.pledgedSrcSizePlusOne

theorem FrameContext.SameFrame.trans {State : Type} {first second third : FrameContext State}
    (front : first.SameFrame second) (back : second.SameFrame third) : first.SameFrame third where
  params := back.params.trans front.params
  blockSize := back.blockSize.trans front.blockSize
  dictID := back.dictID.trans front.dictID
  pledge := back.pledge.trans front.pledge

theorem FrameContext.sameFrame_hash {State : Type} (cctx : FrameContext State) (src : Bytes) :
    cctx.SameFrame (cctx.hash src) :=
  ⟨rfl, rfl, rfl, rfl⟩

theorem FrameContext.SameFrame.headerFields {State : Type} {cctx next : FrameContext State}
    (same : cctx.SameFrame next) : next.headerFields = cctx.headerFields := by
  rw [FrameContext.headerFields, FrameContext.headerFields, same.params, same.dictID, same.pledge]

structure FrameContext.SameChunk {State : Type} (cctx next : FrameContext State) : Prop
    extends FrameContext.SameFrame cctx next where
  consumed : next.consumedSrcSize = cctx.consumedSrcSize
  hashed : next.xxhState = cctx.xxhState

def ContentSizeOk (fParams : FrameParameters) (content : Bytes) : Prop :=
  ∀ size, fParams.frameContentSize = some size → content.length = size

theorem endOfBlock_ok {fParams : FrameParameters} {entropy : blocks.Entropy} {content : Bytes}
    {lastBlock : Bool} (sized : lastBlock = true → ContentSizeOk fParams content) :
    endOfBlock blocks ⟨fParams, entropy, content⟩ lastBlock =
      .ok (if lastBlock then endOfBlocks blocks ⟨fParams, entropy, content⟩
        else .decodeBlockHeader ⟨fParams, entropy, content⟩) := by
  cases lastBlock with
  | false => rfl
  | true =>
      have sized := sized rfl
      rw [endOfBlock, if_pos rfl, if_pos rfl]
      cases known : fParams.frameContentSize with
      | none => rfl
      | some size => simp [sized size known]

/-- The frame a chunk is added to, as a decoder has read it, and what limits the
chunk. -/
structure ChunkSetting (writer : BlockWriter) (blocks : BlockDecoder) where
  frame : FrameState blocks.Entropy
  cctx : FrameContext writer.State
  src : Bytes
  last : Bool
  positive : 0 < cctx.blockSizeMax
  small : cctx.blockSizeMax ≤ blockSizeMax
  within : min src.length cctx.blockSizeMax ≤ frame.fParams.blockSizeMax
  sized : last = true → ContentSizeOk frame.fParams (frame.decoded ++ src)

/-- What a chunk's loop keeps: the blocks so far are read as the part of the input
that has been taken. -/
structure ChunkWritten (Agree : writer.State → blocks.Entropy → Bytes → Prop)
    (setting : ChunkSetting writer blocks) (call : ChunkCall writer) (entropy : blocks.Entropy)
    (done : Bytes) : Prop where
  split : setting.src = done ++ call.remaining
  agree : Agree call.cctx.blockState entropy (setting.frame.decoded ++ done)
  same : setting.cctx.SameChunk call.cctx
  stage : call.cctx.stage = setting.cctx.stage
  started : done ≠ [] → call.op ≠ []
  reads : ∀ dictionary, (streamMachine blocks dictionary).scanAll
    ⟨.frame (.decodeBlockHeader setting.frame), []⟩ call.op =
      some (⟨.frame (if setting.last && decide (call.remaining = [] ∧ done ≠ []) then
        endOfBlocks blocks ⟨setting.frame.fParams, entropy, setting.frame.decoded ++ done⟩
        else .decodeBlockHeader ⟨setting.frame.fParams, entropy,
          setting.frame.decoded ++ done⟩), []⟩, done)

theorem ChunkWritten.start {setting : ChunkSetting writer blocks} {savings : Int}
    (agree : Agree setting.cctx.blockState setting.frame.entropy setting.frame.decoded)
    (nonempty : setting.src ≠ []) :
    ChunkWritten Agree setting ⟨setting.cctx, setting.src, [], savings⟩
      setting.frame.entropy [] where
  split := rfl
  agree := by rwa [List.append_nil]
  same := ⟨⟨rfl, rfl, rfl, rfl⟩, rfl, rfl⟩
  stage := rfl
  started := fun absurd => (absurd rfl).elim
  reads := by
    intro dictionary
    simp [nonempty]

theorem ChunkWritten.pass (contract : BlockContract writer blocks Agree)
    (splits : SplitContract writer) {setting : ChunkSetting writer blocks}
    {call next : ChunkCall writer} {entropy : blocks.Entropy} {done : Bytes} {capacity : Nat}
    (written : ChunkWritten Agree setting call entropy done)
    (again : frameChunkPass writer capacity setting.last call = .again next) :
    next.remaining.length < call.remaining.length ∧
      ∃ entropy done, ChunkWritten Agree setting next entropy done := by
  rcases written with ⟨split, agree, same, stage, started, reads⟩
  simp only [frameChunkPass] at again
  by_cases finished : call.remaining = []
  · rw [if_pos finished] at again
    cases again
  have limit : call.cctx.blockSizeMax = setting.cctx.blockSizeMax := same.blockSize
  have bounds := @optimalBlockSize_bounds writer splits call.remaining finished
    call.cctx.blockSizeMax (limit ▸ setting.positive) (limit ▸ setting.small)
    call.cctx.appliedParams.preBlockSplitterLevel call.cctx.appliedParams.strategy
    call.savings
  rw [if_neg finished] at again
  generalize optimalBlockSize writer call.remaining call.cctx.blockSizeMax
    call.cctx.appliedParams.preBlockSplitterLevel call.cctx.appliedParams.strategy
    call.savings = blockSize at again bounds
  split at again
  · cases again
  generalize lastEq : (setting.last && decide (blockSize = call.remaining.length)) = last at again
  cases compressed : writer.compressBlock call.cctx.blockState call.cctx.isFirstBlock
    (capacity - call.op.length) (call.remaining.take blockSize) last with
  | error code => simp [compressed] at again
  | ok reached =>
      rcases reached with ⟨blockState, block⟩
      simp only [compressed, Pass.again.injEq] at again
      subst again
      have length : (call.remaining.take blockSize).length = blockSize := by
        rw [List.length_take]
        omega
      have nonempty : call.remaining.take blockSize ≠ [] := by
        rw [← List.length_pos_iff, length]
        exact bounds.1
      have whole : setting.src.length = done.length + call.remaining.length := by
        rw [split, List.length_append]
      have within := setting.within
      have fits : (call.remaining.take blockSize).length ≤ setting.frame.fParams.blockSizeMax := by
        rw [length]
        omega
      have small : (call.remaining.take blockSize).length ≤ blockSizeMax := by
        have largest := setting.small
        omega
      have taken : setting.src = done ++ call.remaining.take blockSize ++
          call.remaining.drop blockSize := by
        rw [List.append_assoc, List.take_append_drop, split]
      have lastIff : last = (setting.last && decide (call.remaining.drop blockSize = [] ∧
          done ++ call.remaining.take blockSize ≠ [])) := by
        have equal : blockSize = call.remaining.length ↔ call.remaining.drop blockSize = [] ∧
            done ++ call.remaining.take blockSize ≠ [] := by
          rw [List.drop_eq_nil_iff]
          simp only [ne_eq, List.append_eq_nil_iff, nonempty, and_false, not_false_eq_true,
            and_true]
          omega
        rw [← lastEq, decide_eq_decide.mpr equal]
      rcases @contract.reads _ _ _ _ _ _ _
        ⟨setting.frame.fParams, entropy, setting.frame.decoded ++ done⟩ agree nonempty small fits
        compressed with ⟨filled, entropy', agree', scan⟩
      have sized : last = true → ContentSizeOk setting.frame.fParams
          (setting.frame.decoded ++ done ++ call.remaining.take blockSize) := by
        intro isLast
        have both := lastIff.symm.trans isLast
        rw [Bool.and_eq_true, decide_eq_true_eq] at both
        have content := setting.sized both.1
        rwa [taken, both.2.1, List.append_nil, ← List.append_assoc] at content
      have front := reads
      simp only [finished, false_and, decide_false, Bool.and_false, Bool.false_eq_true, if_false]
        at front
      refine ⟨by rw [List.length_drop]; omega, entropy', done ++ call.remaining.take blockSize,
        ?_⟩
      constructor
      · exact taken
      · rwa [← List.append_assoc]
      · exact ⟨⟨same.params, same.blockSize, same.dictID, same.pledge⟩, same.consumed, same.hashed⟩
      · exact stage
      · simp [filled]
      · intro dictionary
        have back := @scan _ (endOfBlock_ok sized) dictionary
        rw [lastIff] at back
        rw [List.append_assoc] at back
        exact UnitMachine.scanAll_append_some (front dictionary) back

theorem compressFrameChunk_inv {cctx next : FrameContext writer.State} {capacity : Nat}
    {src bytes : Bytes} {last : Bool}
    (written : compressFrameChunk writer cctx capacity src last = .ok (next, bytes)) :
    ∃ call, Loop.run (frameChunkPass writer capacity last) (src.length + 1)
        ⟨cctx.hash src, src, [], (cctx.hash src).consumedSrcSize - (cctx.hash src).producedCSize⟩ =
          some (.ok call) ∧
      next = (if last ∧ call.op ≠ [] then { call.cctx with stage := .ending } else call.cctx) ∧
      bytes = call.op := by
  simp only [compressFrameChunk] at written
  cases run : Loop.run (frameChunkPass writer capacity last) (src.length + 1)
      ⟨cctx.hash src, src, [], (cctx.hash src).consumedSrcSize - (cctx.hash src).producedCSize⟩ with
  | none => simp [run, bind, Except.bind] at written
  | some result =>
      cases result with
      | error code => simp [run, bind, Except.bind] at written
      | ok call =>
          refine ⟨call, rfl, ?_⟩
          simp only [run, Option.getD_some, bind, Except.bind] at written
          split at written
          · rename_i ending
            simp only [pure, Except.pure, Except.ok.injEq, Prod.mk.injEq] at written
            rw [if_pos ending]
            exact ⟨written.1.symm, written.2.symm⟩
          · rename_i ongoing
            simp only [pure, Except.pure, Except.ok.injEq, Prod.mk.injEq] at written
            rw [if_neg ongoing]
            exact ⟨written.1.symm, written.2.symm⟩

theorem frameChunkPass_leave {capacity : Nat} {last : Bool} {call final : ChunkCall writer}
    (leave : frameChunkPass writer capacity last call = .leave (.ok final)) :
    call.remaining = [] ∧ final = call := by
  simp only [frameChunkPass] at leave
  split at leave
  · rename_i finished
    simp only [Pass.leave.injEq, Except.ok.injEq] at leave
    exact ⟨finished, leave.symm⟩
  · split at leave
    · cases leave
    · split at leave <;> cases leave

theorem compressFrameChunk_same {cctx next : FrameContext writer.State} {capacity : Nat}
    {src bytes : Bytes} {last : Bool}
    (written : compressFrameChunk writer cctx capacity src last = .ok (next, bytes)) :
    (cctx.hash src).SameChunk next := by
  rcases compressFrameChunk_inv written with ⟨call, run, rfl, rfl⟩
  have pass : ∀ state : ChunkCall writer, (cctx.hash src).SameChunk state.cctx →
      (frameChunkPass writer capacity last state).Ensures
        (fun next => (cctx.hash src).SameChunk next.cctx)
        (fun result => ∀ final, result = .ok final → (cctx.hash src).SameChunk final.cctx) := by
    intro state same
    cases decided : frameChunkPass writer capacity last state with
    | leave result =>
        rintro final rfl
        rwa [(frameChunkPass_leave decided).2]
    | again next =>
        simp only [frameChunkPass] at decided
        split at decided
        · cases decided
        · split at decided
          · cases decided
          · split at decided
            · cases decided
            · cases decided
              rw [Pass.ensures_again]
              exact ⟨⟨same.params, same.blockSize, same.dictID, same.pledge⟩, same.consumed,
                same.hashed⟩
  have same := Loop.run_ensures _ _ pass ⟨⟨rfl, rfl, rfl, rfl⟩, rfl, rfl⟩ run call rfl
  split
  · exact ⟨⟨same.params, same.blockSize, same.dictID, same.pledge⟩, same.consumed, same.hashed⟩
  · exact same

/-- What a chunk adds to a frame is read as the input it was made of. -/
theorem compressFrameChunk_reads (contract : BlockContract writer blocks Agree)
    (splits : SplitContract writer) {frame : FrameState blocks.Entropy}
    {cctx next : FrameContext writer.State} {capacity : Nat} {src bytes : Bytes} {last : Bool}
    (agree : Agree cctx.blockState frame.entropy frame.decoded) (nonempty : src ≠ [])
    (positive : 0 < cctx.blockSizeMax) (small : cctx.blockSizeMax ≤ blockSizeMax)
    (within : min src.length cctx.blockSizeMax ≤ frame.fParams.blockSizeMax)
    (sized : last = true → ContentSizeOk frame.fParams (frame.decoded ++ src))
    (written : compressFrameChunk writer cctx capacity src last = .ok (next, bytes)) :
    next.stage = (if last then .ending else cctx.stage) ∧
      ∃ entropy, Agree next.blockState entropy (frame.decoded ++ src) ∧
      ∀ dictionary, (streamMachine blocks dictionary).scanAll
        ⟨.frame (.decodeBlockHeader frame), []⟩ bytes =
          some (⟨.frame (if last then endOfBlocks blocks ⟨frame.fParams, entropy,
            frame.decoded ++ src⟩ else .decodeBlockHeader ⟨frame.fParams, entropy,
            frame.decoded ++ src⟩), []⟩, src) := by
  rcases compressFrameChunk_inv written with ⟨call, run, rfl, rfl⟩
  let setting : ChunkSetting writer blocks :=
    ⟨frame, cctx.hash src, src, last, positive, small, within, sized⟩
  have start : ChunkWritten Agree setting
      ⟨cctx.hash src, src, [], (cctx.hash src).consumedSrcSize - (cctx.hash src).producedCSize⟩
      frame.entropy [] := .start agree nonempty
  have post := Loop.run_ensures
    (fun call => ∃ entropy done, ChunkWritten Agree setting call entropy done)
    (fun result => ∀ final, result = .ok final →
      final.remaining = [] ∧ ∃ entropy done, ChunkWritten Agree setting final entropy done)
    (by
      rintro state ⟨entropy, done, kept⟩
      cases pass : frameChunkPass writer capacity last state with
      | again next => exact (kept.pass contract splits pass).2
      | leave result =>
          rintro final rfl
          rcases frameChunkPass_leave pass with ⟨finished, rfl⟩
          exact ⟨finished, entropy, done, kept⟩)
    ⟨_, _, start⟩ run
  rcases post call rfl with ⟨finished, entropy, done, split, agree, -, stage, started, reads⟩
  have whole : done = src := by
    rw [finished, List.append_nil] at split
    exact split.symm
  subst whole
  refine ⟨?_, entropy, ?_, ?_⟩
  · cases last with
    | false => exact stage
    | true => rw [if_pos ⟨rfl, started nonempty⟩, if_pos rfl]
  · split <;> exact agree
  · intro dictionary
    have scan := reads dictionary
    rw [finished] at scan
    cases last <;> simpa [nonempty, setting] using scan

/-! ## Room for a chunk -/

/-- What the blocks of an input come to at most, if they are of 1 KB but the last. -/
def chunkBound (size : Nat) : Nat :=
  if size = 0 then 0 else size + blockHeaderSize * (size / 2 ^ 10 + 1)

theorem ChunkWritten.pass_bound (bound : BlockBound writer blocks Agree)
    (splits : SplitContract writer) {setting : ChunkSetting writer blocks}
    {call : ChunkCall writer} {entropy : blocks.Entropy} {done : Bytes} {capacity : Nat}
    (written : ChunkWritten Agree setting call entropy done)
    (unfinished : call.remaining ≠ [])
    (large : 2 ^ 10 ≤ setting.cctx.blockSizeMax ∨
      setting.src.length ≤ setting.cctx.blockSizeMax)
    (room : call.op.length + chunkBound call.remaining.length + 2 ≤ capacity) :
    ∃ next, frameChunkPass writer capacity setting.last call = .again next ∧
      next.op.length + chunkBound next.remaining.length ≤
        call.op.length + chunkBound call.remaining.length := by
  have agree := written.agree
  have limit : call.cctx.blockSizeMax = setting.cctx.blockSizeMax := written.same.blockSize
  have positive := limit ▸ setting.positive
  have small := limit ▸ setting.small
  have some := List.length_pos_iff.mpr unfinished
  have whole : setting.src.length = done.length + call.remaining.length := by
    rw [written.split, List.length_append]
  have bounds := @optimalBlockSize_bounds writer splits call.remaining unfinished
    call.cctx.blockSizeMax positive small call.cctx.appliedParams.preBlockSplitterLevel
    call.cctx.appliedParams.strategy call.savings
  simp only [frameChunkPass]
  rw [if_neg unfinished]
  generalize optimalBlockSize writer call.remaining call.cctx.blockSizeMax
    call.cctx.appliedParams.preBlockSplitterLevel call.cctx.appliedParams.strategy
    call.savings = blockSize at bounds ⊢
  have bounded : chunkBound call.remaining.length =
      call.remaining.length + 3 * (call.remaining.length / 2 ^ 10 + 1) := by
    rw [chunkBound, if_neg (by omega), blockHeaderSize]
  rw [bounded] at room ⊢
  rw [if_neg (by simp only [blockHeaderSize]; omega)]
  have length : (call.remaining.take blockSize).length = blockSize := by
    rw [List.length_take]
    omega
  have nonempty : call.remaining.take blockSize ≠ [] := by
    rw [← List.length_pos_iff, length]
    exact bounds.1
  rcases @bound.fits _ _ _ call.cctx.isFirstBlock (capacity - call.op.length)
    (call.remaining.take blockSize)
    (setting.last && decide (blockSize = call.remaining.length)) agree nonempty
    (by rw [length]; omega) (by rw [length, blockHeaderSize]; omega) with
    ⟨next, block, compressed, short⟩
  rw [length, blockHeaderSize] at short
  rw [compressed]
  refine ⟨_, rfl, ?_⟩
  simp only [List.length_append, List.length_drop]
  rw [chunkBound, blockHeaderSize]
  split <;> omega

theorem compressFrameChunk_succeeds (contract : BlockContract writer blocks Agree)
    (bound : BlockBound writer blocks Agree) (splits : SplitContract writer)
    {frame : FrameState blocks.Entropy} {cctx : FrameContext writer.State} {capacity : Nat}
    {src : Bytes} {last : Bool} (agree : Agree cctx.blockState frame.entropy frame.decoded)
    (nonempty : src ≠ []) (positive : 0 < cctx.blockSizeMax)
    (small : cctx.blockSizeMax ≤ blockSizeMax)
    (within : min src.length cctx.blockSizeMax ≤ frame.fParams.blockSizeMax)
    (sized : last = true → ContentSizeOk frame.fParams (frame.decoded ++ src))
    (large : 2 ^ 10 ≤ cctx.blockSizeMax ∨ src.length ≤ cctx.blockSizeMax)
    (room : chunkBound src.length + 2 ≤ capacity) :
    ∃ next bytes, compressFrameChunk writer cctx capacity src last = .ok (next, bytes) ∧
      bytes.length ≤ chunkBound src.length := by
  let setting : ChunkSetting writer blocks :=
    ⟨frame, cctx.hash src, src, last, positive, small, within, sized⟩
  have start : ChunkWritten Agree setting
      ⟨cctx.hash src, src, [], (cctx.hash src).consumedSrcSize - (cctx.hash src).producedCSize⟩
      frame.entropy [] := .start agree nonempty
  have pass : ∀ call : ChunkCall writer,
      ((∃ entropy done, ChunkWritten Agree setting call entropy done) ∧
        call.op.length + chunkBound call.remaining.length ≤ chunkBound src.length) →
      (frameChunkPass writer capacity last call).Ensures
        (fun next => ((∃ entropy done, ChunkWritten Agree setting next entropy done) ∧
          next.op.length + chunkBound next.remaining.length ≤ chunkBound src.length) ∧
          next.remaining.length < call.remaining.length)
        (fun result => ∃ final : ChunkCall writer, result = Except.ok final ∧
          final.op.length ≤ chunkBound src.length) := by
    rintro call ⟨⟨entropy, done, kept⟩, fits⟩
    by_cases finished : call.remaining = []
    · simp only [frameChunkPass, if_pos finished]
      exact ⟨call, rfl, by omega⟩
    · have enough : call.op.length + chunkBound call.remaining.length + 2 ≤ capacity := by omega
      rcases kept.pass_bound bound splits finished large enough with
        ⟨next, again, shorter⟩
      have again : frameChunkPass writer capacity last call = .again next := again
      have progress := kept.pass contract splits again
      rw [again]
      exact ⟨⟨progress.2, by omega⟩, progress.1⟩
  have run := Loop.run_of_variant _ _ (fun call : ChunkCall writer => call.remaining.length) pass
    ⟨⟨_, _, start⟩, (Nat.zero_add _).le⟩ (Nat.lt_succ_self src.length)
  rcases run with ⟨result, run, final, rfl, short⟩
  simp only [compressFrameChunk, run, Option.getD_some, bind, Except.bind]
  split
  · exact ⟨_, _, rfl, short⟩
  · exact ⟨_, _, rfl, short⟩

end

end ZstdRuby.Libzstd
