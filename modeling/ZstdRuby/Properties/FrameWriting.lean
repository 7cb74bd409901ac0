import ZstdRuby.Properties.BlockWriting

/-! # Frames that are written chunk by chunk

The header with the first chunk, and the epilogue after the last one: whatever way
the input is cut into chunks, a decoder reads the frame.
-/

namespace ZstdRuby.Libzstd

open Streaming

section

variable {writer : BlockWriter} {blocks : BlockDecoder}
  {Agree : writer.State → blocks.Entropy → Bytes → Prop}

/-! ## Frames -/

structure FrameContext.Valid (cctx : FrameContext writer.State) : Prop where
  windowLog : windowLogAbsoluteMin ≤ cctx.appliedParams.windowLog
  windowSize : 2 ^ cctx.appliedParams.windowLog ≤ maxWindowSizeDefault
  pledged : cctx.pledgedSrcSizePlusOne < 2 ^ 64
  known : cctx.appliedParams.fParams.contentSizeFlag = true → cctx.pledgedSrcSizePlusOne ≠ 0
  dictID : cctx.dictID < 2 ^ 32
  positive : 0 < cctx.blockSizeMax
  small : cctx.blockSizeMax ≤ Libzstd.blockSizeMax
  window : cctx.blockSizeMax ≤ 2 ^ cctx.appliedParams.windowLog
  large : 2 ^ 10 ≤ cctx.blockSizeMax ∨
    cctx.pledgedSrcSizePlusOne ≠ 0 ∧ cctx.pledgedSrcSizePlusOne ≤ cctx.blockSizeMax + 1

section

variable {cctx : FrameContext writer.State} {dictionary : Option Bytes}
  {written content : Bytes}

theorem headerFields_pledged (valid : cctx.Valid) (known : cctx.pledgedSrcSizePlusOne ≠ 0) :
    cctx.headerFields.pledgedSrcSize = cctx.pledgedSrcSizePlusOne - 1 := by
  have bound := valid.pledged
  simp only [FrameContext.headerFields, contentSizeUnknown]
  omega

theorem FrameContext.Valid.representable (valid : cctx.Valid) :
    cctx.headerFields.Representable where
  windowLog := by
    refine ⟨valid.windowLog, ?_⟩
    by_contra large
    have power : 2 ^ 32 ≤ 2 ^ cctx.appliedParams.windowLog :=
      Nat.pow_le_pow_right (by decide) (Nat.lt_of_not_le large)
    have small := valid.windowSize
    simp only [maxWindowSizeDefault] at small
    omega
  pledgedSrcSize := Nat.mod_lt _ (by decide)
  dictID := valid.dictID

theorem FrameContext.Valid.parameters_windowSize (valid : cctx.Valid) :
    cctx.headerFields.parameters.windowSize ≤ maxWindowSizeDefault := by
  simp only [HeaderFields.parameters]
  split
  · rename_i single
    rw [HeaderFields.singleSegment, Bool.and_eq_true, decide_eq_true_eq] at single
    exact single.2.trans valid.windowSize
  · exact valid.windowSize

theorem FrameContext.Valid.block_within (valid : cctx.Valid) {size : Nat}
    (pledge : cctx.pledgedSrcSizePlusOne ≠ 0 → size + 1 ≤ cctx.pledgedSrcSizePlusOne) :
    min size cctx.blockSizeMax ≤ cctx.headerFields.parameters.blockSizeMax := by
  have small := valid.small
  have window := valid.window
  simp only [HeaderFields.parameters]
  split
  · rename_i single
    rw [HeaderFields.singleSegment, Bool.and_eq_true] at single
    have known := valid.known single.1
    have size := pledge known
    rw [headerFields_pledged valid known]
    omega
  · change _ ≤ min (2 ^ cctx.appliedParams.windowLog) _
    omega

theorem FrameContext.Valid.of_sameFrame (valid : cctx.Valid) {next : FrameContext writer.State}
    (same : cctx.SameFrame next) : next.Valid := by
  rcases same with ⟨params, blockSize, dictID, pledge⟩
  constructor
  · rw [params]
    exact valid.windowLog
  · rw [params]
    exact valid.windowSize
  · rw [pledge]
    exact valid.pledged
  · rw [params, pledge]
    exact valid.known
  · rw [dictID]
    exact valid.dictID
  · rw [blockSize]
    exact valid.positive
  · rw [blockSize]
    exact valid.small
  · rw [blockSize, params]
    exact valid.window
  · rw [blockSize, pledge]
    exact valid.large

theorem scanAll_header {machine : UnitMachine (StreamState blocks.Entropy) UInt8 UInt8 ErrorCode}
    {fields : HeaderFields} {stage : DecodeStage blocks.Entropy}
    (representable : fields.Representable)
    (needs : machine.need = StreamState.need)
    (waits : ∀ {unit size}, getFrameHeader unit = .ok (.wanted size) →
      machine.feed (streamStart blocks) unit = .ok (.header unit size, []))
    (reads : ∀ {buffer unit size},
      getFrameHeader (buffer ++ unit) = .ok (.filled (.frame fields.parameters)) →
      machine.feed (.header buffer size) unit = .ok (.frame stage, [])) :
    machine.scanAll ⟨streamStart blocks, []⟩ fields.header = some (⟨.frame stage, []⟩, []) := by
  have long := fields.lt_header_length
  simp only [startingInputLength] at long
  generalize frontEq : fields.header.take 5 = front
  generalize backEq : fields.header.drop 5 = back
  have whole : front ++ back = fields.header := by
    rw [← frontEq, ← backEq, List.take_append_drop]
  have frontLength : front.length = 5 := by
    rw [← frontEq, List.length_take]
    omega
  have length : front.length + back.length = fields.header.length := by
    rw [← List.length_append, whole]
  have nonempty : back ≠ [] := by
    rw [← List.length_pos_iff]
    omega
  have wanted := fields.getFrameHeader_incomplete whole nonempty
  rw [if_neg (by rw [frontLength]; decide)] at wanted
  have filled := fields.getFrameHeader_header representable []
  rw [List.append_nil, ← whole] at filled
  rw [← whole]
  refine UnitMachine.scanAll_append_some
    (UnitMachine.scanAll_unit ?_ ?_ (waits wanted)) (UnitMachine.scanAll_unit ?_ ?_ (reads filled))
  all_goals rw [needs]
  · change startingInputLength - 0 ≠ 0
    decide
  · exact frontLength
  · change fields.header.length - front.length ≠ 0
    omega
  · change back.length = fields.header.length - front.length
    omega

theorem consumeHeader_parameters {fields : HeaderFields}
    (window : fields.parameters.windowSize ≤ maxWindowSizeDefault)
    (dict : fields.parameters.dictID ≠ 0 →
      blocks.dictID dictionary = fields.parameters.dictID) :
    consumeHeader blocks dictionary (.frame fields.parameters) =
      .ok (.decodeBlockHeader
        ⟨fields.parameters, blocks.decompressBegin dictionary, []⟩) := by
  have size : max fields.parameters.windowSize (2 ^ windowLogAbsoluteMin) ≤
      maxWindowSizeDefault := max_le window (by decide)
  have accepted : acceptFrameHeader blocks dictionary fields.parameters = .ok fields.parameters :=
    if_neg (fun absurd => absurd.2 (dict absurd.1))
  simp only [consumeHeader, accepted, bind, Except.bind]
  rw [if_neg (by omega)]

theorem scanAll_frameHeader {fields : HeaderFields}
    (representable : fields.Representable)
    (window : fields.parameters.windowSize ≤ maxWindowSizeDefault)
    (dict : fields.parameters.dictID ≠ 0 →
      blocks.dictID dictionary = fields.parameters.dictID) :
    (streamMachine blocks dictionary).scanAll ⟨streamStart blocks, []⟩ fields.header =
      some (⟨.frame (.decodeBlockHeader
        ⟨fields.parameters, blocks.decompressBegin dictionary, []⟩), []⟩, []) :=
  scanAll_header representable rfl
    (fun wanted => undeclaredMachine_restricts.feed (feedStream_start wanted))
    (fun filled => feedStream_filled filled (consumeHeader_parameters window dict))

theorem scanAll_undeclaredHeader {fields : HeaderFields}
    (representable : fields.Representable)
    (window : fields.parameters.windowSize ≤ maxWindowSizeDefault)
    (dict : fields.parameters.dictID ≠ 0 →
      blocks.dictID dictionary = fields.parameters.dictID)
    (undeclared : fields.parameters.frameContentSize = none) :
    (undeclaredMachine blocks dictionary).scanAll ⟨streamStart blocks, []⟩ fields.header =
      some (⟨.frame (.decodeBlockHeader
        ⟨fields.parameters, blocks.decompressBegin dictionary, []⟩), []⟩, []) :=
  scanAll_header representable rfl feedStream_start
    (fun filled => feedUndeclared_filled filled (by simp [FrameHeader.declaresSize, undeclared])
      (consumeHeader_parameters window dict))

/-- Where a decoder is that has read what has been written of a frame, from its
header on. -/
def readsTo (blocks : BlockDecoder) (dictionary : Option Bytes) (fields : HeaderFields)
    (written : Bytes) (stage : DecodeStage blocks.Entropy) (content : Bytes) : Prop :=
  fields.header <+: written ∧
    (streamMachine blocks dictionary).scanAll ⟨streamStart blocks, []⟩ written =
      some (⟨.frame stage, []⟩, content)

theorem readsTo.append {fields : HeaderFields} {more added : Bytes}
    {stage next : DecodeStage blocks.Entropy}
    (reads : readsTo blocks dictionary fields written stage content)
    (scan : (streamMachine blocks dictionary).scanAll ⟨.frame stage, []⟩ more =
      some (⟨.frame next, []⟩, added)) :
    readsTo blocks dictionary fields (written ++ more) next (content ++ added) :=
  ⟨reads.1.trans (List.prefix_append _ _), UnitMachine.scanAll_append_some reads.2 scan⟩

structure FrameTaken (blocks : BlockDecoder) (dictionary : Option Bytes)
    (cctx : FrameContext writer.State) (content : Bytes) : Prop where
  valid : cctx.Valid
  dict : cctx.dictID = blocks.dictID dictionary
  hashed : cctx.appliedParams.fParams.checksumFlag = true → cctx.xxhState = content
  consumed : cctx.consumedSrcSize = content.length
  pledge : ¬exceedsPledge writer cctx

/-- What a context has written of its current frame is read as the content it has
taken, and the decoder agrees with the context. -/
structure FrameWritten (Agree : writer.State → blocks.Entropy → Bytes → Prop)
    (dictionary : Option Bytes) (cctx : FrameContext writer.State) (written content : Bytes) :
    Prop extends FrameTaken blocks dictionary cctx content where
  stage : (cctx.stage = .init ∧ written = [] ∧ content = [] ∧
      Agree cctx.blockState (blocks.decompressBegin dictionary) []) ∨
    (cctx.stage = .ongoing ∧ ∃ entropy, Agree cctx.blockState entropy content ∧
      readsTo blocks dictionary cctx.headerFields written
        (.decodeBlockHeader ⟨cctx.headerFields.parameters, entropy, content⟩) content)

theorem FrameWritten.started (frame : FrameWritten Agree dictionary cctx written content) :
    cctx.stage ≠ .created := by
  rcases frame.stage with ⟨stage, -⟩ | ⟨stage, -⟩ <;> simp [stage]

theorem header_dict (dict : cctx.dictID = blocks.dictID dictionary) :
    cctx.headerFields.parameters.dictID ≠ 0 →
      blocks.dictID dictionary = cctx.headerFields.parameters.dictID := by
  simp only [HeaderFields.parameters]
  split
  · exact fun absurd => (absurd rfl).elim
  · exact fun _ => dict.symm

theorem writeFrameHeader_ok {capacity : Nat} {fields : HeaderFields} {header : Bytes}
    (wrote : writeFrameHeader capacity fields = .ok header) :
    header = fields.header ∧ header.length ≤ capacity := by
  have short := fields.header_length_le
  rw [writeFrameHeader] at wrote
  split at wrote
  · cases wrote
  · cases wrote
    exact ⟨rfl, by omega⟩

theorem startFrame_ok {next : FrameContext writer.State} {capacity : Nat} {fields : HeaderFields}
    {header : Bytes}
    (started : Libzstd.startFrame writer cctx capacity fields = .ok (next, header)) :
    cctx.SameChunk next ∧ next.blockState = cctx.blockState ∧ header.length ≤ capacity ∧
      (cctx.stage = .init ∧ next.stage = .ongoing ∧ header = fields.header ∨
        cctx.stage ≠ .init ∧ next.stage = cctx.stage ∧ header = []) := by
  rw [Libzstd.startFrame] at started
  split at started
  · rename_i stage
    cases wrote : writeFrameHeader capacity fields with
    | error code => simp [wrote, Except.map] at started
    | ok bytes =>
        simp only [wrote, Except.map, Except.ok.injEq, Prod.mk.injEq] at started
        rcases started with ⟨rfl, rfl⟩
        rcases writeFrameHeader_ok wrote with ⟨rfl, short⟩
        exact ⟨⟨⟨rfl, rfl, rfl, rfl⟩, rfl, rfl⟩, rfl, short, Or.inl ⟨stage, rfl, rfl⟩⟩
  · rename_i stage
    cases started
    exact ⟨⟨⟨rfl, rfl, rfl, rfl⟩, rfl, rfl⟩, rfl, Nat.zero_le _, Or.inr ⟨stage, rfl, rfl⟩⟩

theorem FrameTaken.reads_undeclared {next : DecodeStage blocks.Entropy} {read : Bytes}
    (taken : FrameTaken blocks dictionary cctx content)
    (unknown : cctx.pledgedSrcSizePlusOne = 0)
    (reads : readsTo blocks dictionary cctx.headerFields written next read) :
    (undeclaredMachine blocks dictionary).scanAll ⟨streamStart blocks, []⟩ written =
      some (⟨.frame next, []⟩, read) := by
  have unflagged : cctx.headerFields.fParams.contentSizeFlag = false := by
    by_contra flag
    exact taken.valid.known (Bool.eq_true_of_not_eq_false flag) unknown
  have undeclared : cctx.headerFields.parameters.frameContentSize = none := by
    simp only [HeaderFields.parameters, unflagged]
    rfl
  have header := scanAll_undeclaredHeader taken.valid.representable
    taken.valid.parameters_windowSize (header_dict taken.dict) undeclared
  rcases reads with ⟨⟨rest, rfl⟩, scan⟩
  rcases UnitMachine.scanAll_append_inv scan with ⟨middle, first, second, left, right, rfl⟩
  rw [undeclaredMachine_restricts.scanAll header] at left
  cases left
  exact UnitMachine.scanAll_append_some header ((scanAll_frame_undeclared rest).trans right)

theorem FrameWritten.startFrame {next : FrameContext writer.State} {capacity : Nat}
    {header : Bytes} (frame : FrameWritten Agree dictionary cctx written content)
    (started : Libzstd.startFrame writer cctx capacity cctx.headerFields = .ok (next, header)) :
    next.stage = .ongoing ∧ ∃ entropy, Agree cctx.blockState entropy content ∧
      readsTo blocks dictionary cctx.headerFields (written ++ header)
        (.decodeBlockHeader ⟨cctx.headerFields.parameters, entropy, content⟩) content := by
  rcases startFrame_ok started with ⟨-, -, -, ⟨init, stage, rfl⟩ | ⟨ongoing, stage, rfl⟩⟩
  · rcases frame.stage with ⟨-, rfl, rfl, agree⟩ | ⟨ongoing, -⟩
    · have scan := @scanAll_frameHeader blocks dictionary _ frame.valid.representable
        frame.valid.parameters_windowSize (header_dict frame.dict)
      rw [List.nil_append]
      exact ⟨stage, _, agree, List.prefix_rfl, scan⟩
    · rw [init] at ongoing
      cases ongoing
  · rcases frame.stage with ⟨init, -⟩ | ⟨already, entropy, agree, reads⟩
    · exact (ongoing init).elim
    · rw [List.append_nil]
      exact ⟨stage.trans already, entropy, agree, reads⟩

theorem compressContinueInternal_ok {next : FrameContext writer.State} {capacity : Nat}
    {src bytes : Bytes} {last : Bool}
    (compressed : compressContinueInternal writer cctx capacity src last = .ok (next, bytes)) :
    ∃ started header, Libzstd.startFrame writer cctx capacity cctx.headerFields =
        .ok (started, header) ∧
      (src = [] ∧ next = started ∧ bytes = header ∨
        src ≠ [] ∧ ¬exceedsPledge writer next ∧
          next.consumedSrcSize = cctx.consumedSrcSize + src.length ∧
          cctx.SameFrame next ∧ next.xxhState = (started.hash src).xxhState ∧
          ∃ reached chunk, compressFrameChunk writer started (capacity - header.length) src last =
              .ok (reached, chunk) ∧ next.stage = reached.stage ∧
            next.blockState = reached.blockState ∧ bytes = header ++ chunk) := by
  rw [compressContinueInternal] at compressed
  split at compressed
  · cases compressed
  cases begun : Libzstd.startFrame writer cctx capacity cctx.headerFields with
  | error code => simp [begun, bind, Except.bind] at compressed
  | ok reached =>
      rcases reached with ⟨started, header⟩
      refine ⟨started, header, rfl, ?_⟩
      simp only [begun, bind, Except.bind] at compressed
      split at compressed
      · rename_i empty
        cases compressed
        exact Or.inl ⟨empty, rfl, rfl⟩
      · rename_i nonempty
        cases chunked : compressFrameChunk writer started (capacity - header.length) src last with
        | error code => simp [chunked] at compressed
        | ok reached =>
            rcases reached with ⟨reached, chunk⟩
            simp only [chunked] at compressed
            split at compressed
            · cases compressed
            · rename_i pledge
              cases compressed
              have front := (startFrame_ok begun).1
              have back := compressFrameChunk_same chunked
              apply Or.inr
              refine ⟨nonempty, pledge, ?_, ?_, back.hashed, reached, chunk, rfl, rfl, rfl, rfl⟩
              · exact congrArg (· + src.length) (back.consumed.trans front.consumed)
              · have same := front.toSameFrame.trans
                  ((started.sameFrame_hash src).trans back.toSameFrame)
                exact ⟨same.params, same.blockSize, same.dictID, same.pledge⟩

theorem compressContinueInternal_same {next : FrameContext writer.State} {capacity : Nat}
    {src bytes : Bytes} {last : Bool}
    (compressed : compressContinueInternal writer cctx capacity src last = .ok (next, bytes)) :
    cctx.SameFrame next ∧ next.consumedSrcSize = cctx.consumedSrcSize + src.length := by
  rcases compressContinueInternal_ok compressed with
    ⟨started, header, begun, ⟨rfl, rfl, -⟩ | ⟨-, -, consumed, same, -⟩⟩
  · have same := (startFrame_ok begun).1
    exact ⟨same.toSameFrame, same.consumed⟩
  · exact ⟨same, consumed⟩

theorem FrameContext.Valid.contentSizeOk (valid : cctx.Valid) {content : Bytes}
    (whole : cctx.pledgedSrcSizePlusOne ≠ 0 →
      cctx.pledgedSrcSizePlusOne = content.length + 1) :
    ContentSizeOk cctx.headerFields.parameters content := by
  intro size sized
  simp only [HeaderFields.parameters] at sized
  split at sized
  · rename_i known
    have known := valid.known known
    have pledged := headerFields_pledged valid known
    have whole := whole known
    have equal := Option.some.inj sized
    omega
  · cases sized

theorem FrameWritten.compressChunk (contract : BlockContract writer blocks Agree)
    (splits : SplitContract writer) {next : FrameContext writer.State} {capacity : Nat}
    {src bytes : Bytes} {last : Bool}
    (frame : FrameWritten Agree dictionary cctx written content) (nonempty : src ≠ [])
    (whole : last = true → cctx.pledgedSrcSizePlusOne ≠ 0 →
      cctx.pledgedSrcSizePlusOne = content.length + src.length + 1)
    (compressed : compressContinueInternal writer cctx capacity src last = .ok (next, bytes)) :
    FrameTaken blocks dictionary next (content ++ src) ∧
      next.stage = (if last then .ending else .ongoing) ∧
      ∃ entropy, Agree next.blockState entropy (content ++ src) ∧
        readsTo blocks dictionary cctx.headerFields (written ++ bytes)
          (if last then endOfBlocks blocks ⟨cctx.headerFields.parameters, entropy, content ++ src⟩
            else .decodeBlockHeader ⟨cctx.headerFields.parameters, entropy, content ++ src⟩)
          (content ++ src) := by
  rcases compressContinueInternal_ok compressed with
    ⟨started, header, begun, ⟨empty, -⟩ | ⟨-, pledge, consumed, same, hashed, reached, chunk,
      chunked, stage, state, rfl⟩⟩
  · exact (nonempty empty).elim
  have front := (startFrame_ok begun).1
  rcases frame.startFrame begun with ⟨ongoing, entropy, agree, reads⟩
  have fits : cctx.pledgedSrcSizePlusOne ≠ 0 → src.length + 1 ≤ cctx.pledgedSrcSizePlusOne := by
    intro known
    have pledged := same.pledge
    simp only [exceedsPledge] at pledge
    omega
  have sized : last = true → ContentSizeOk cctx.headerFields.parameters (content ++ src) :=
    fun ending => frame.valid.contentSizeOk fun known => by
      rw [List.length_append]
      exact whole ending known
  rw [← (startFrame_ok begun).2.1] at agree
  rcases @compressFrameChunk_reads writer blocks Agree contract splits
    ⟨cctx.headerFields.parameters, entropy, content⟩ started reached (capacity - header.length)
    src chunk last agree nonempty (front.blockSize ▸ frame.valid.positive)
    (front.blockSize ▸ frame.valid.small) (front.blockSize ▸ frame.valid.block_within fits) sized
    chunked with ⟨ended, entropy', agree', scan⟩
  have read := reads.append (scan dictionary)
  rw [List.append_assoc] at read
  refine ⟨⟨frame.valid.of_sameFrame same, same.dictID.trans frame.dict, ?_, ?_, pledge⟩, ?_,
    entropy', state ▸ agree', read⟩
  · intro checksum
    rw [same.params] at checksum
    rw [hashed]
    simp only [FrameContext.hash]
    rw [front.params, if_pos checksum, front.hashed, frame.hashed checksum]
  · rw [consumed, frame.consumed, List.length_append]
  · rw [stage, ended, ongoing]

theorem FrameWritten.compressContinue (contract : BlockContract writer blocks Agree)
    (splits : SplitContract writer) {next : FrameContext writer.State} {capacity : Nat}
    {src bytes : Bytes} {last : Bool}
    (frame : FrameWritten Agree dictionary cctx written content)
    (unended : last = false ∨ src = [])
    (compressed : compressContinueInternal writer cctx capacity src last = .ok (next, bytes)) :
    FrameWritten Agree dictionary next (written ++ bytes) (content ++ src) ∧
      next.stage = .ongoing := by
  have same := (compressContinueInternal_same compressed).1
  by_cases empty : src = []
  · subst empty
    rcases compressContinueInternal_ok compressed with
      ⟨started, header, begun, ⟨-, rfl, rfl⟩ | ⟨nonempty, -⟩⟩
    · have front := (startFrame_ok begun).1
      rcases frame.startFrame begun with ⟨stage, entropy, agree, reads⟩
      rw [List.append_nil]
      refine ⟨⟨⟨frame.valid.of_sameFrame same, same.dictID.trans frame.dict, ?_,
        front.consumed.trans frame.consumed, ?_⟩, Or.inr ⟨stage, entropy, ?_, ?_⟩⟩, stage⟩
      · rw [front.params, front.hashed]
        exact frame.hashed
      · have pledge := frame.pledge
        rwa [exceedsPledge, ← front.pledge, ← front.consumed] at pledge
      · rw [(startFrame_ok begun).2.1]
        exact agree
      · rw [front.headerFields]
        exact reads
    · exact (nonempty rfl).elim
  · have notLast : last = false := by simpa [empty] using unended
    subst notLast
    rcases frame.compressChunk contract splits empty (fun absurd => by cases absurd) compressed with
      ⟨taken, stage, entropy, agree, reads⟩
    refine ⟨⟨taken, Or.inr ⟨stage, entropy, agree, ?_⟩⟩, stage⟩
    rw [same.headerFields]
    exact reads

theorem reads_checksum {fields : HeaderFields} {frame : FrameState blocks.Entropy}
    {checksum : Bytes}
    (reads : readsTo blocks dictionary fields written (endOfBlocks blocks frame) frame.decoded)
    (summed : checksum = if frame.fParams.checksumFlag then
      writeLE32 (blocks.xxh64 frame.decoded) else []) :
    writeLE32 magicNumber <+: written ++ checksum ∧
      (streamMachine blocks dictionary).Reads ⟨streamStart blocks, []⟩ (written ++ checksum)
        frame.decoded := by
  subst summed
  refine ⟨fields.magic_prefix_header.trans (reads.1.trans (List.prefix_append _ _)), ?_⟩
  have scan := reads.2
  rw [endOfBlocks] at scan
  split
  · rename_i flag
    rw [if_pos flag] at scan
    have sum := readLE32_writeLE32 (blocks.xxh64 frame.decoded) []
    rw [List.append_nil] at sum
    have checked : decompressContinue blocks (.checkChecksum frame)
        (writeLE32 (blocks.xxh64 frame.decoded)) = .ok (.getFrameHeaderSize, []) := by
      simp only [decompressContinue, sum, ne_eq, not_true_eq_false, if_false]
    have back := @scanAll_frame_unit dictionary blocks _ _ _ _ checked (Nat.succ_ne_zero 3)
      (writeLE32_length _)
    have both := UnitMachine.scanAll_append_some scan back
    rw [List.append_nil] at both
    exact ⟨_, both, rfl⟩
  · rename_i flag
    rw [if_neg flag] at scan
    rw [List.append_nil]
    exact ⟨_, scan, rfl⟩

theorem scanAll_lastBlock (frame : FrameState blocks.Entropy) :
    (streamMachine blocks dictionary).scanAll ⟨.frame (.decodeBlockHeader frame), []⟩
      (blockHeader true 0 0) = some (⟨.frame (endOfBlocks blocks frame), []⟩, []) := by
  have header : getcBlockSize (blockHeader true 0 0) = .ok (.raw, 0, true) := by decide
  have continued : decompressContinue blocks (.decodeBlockHeader frame) (blockHeader true 0 0) =
      .ok (endOfBlocks blocks frame, []) := by
    simp only [decompressContinue, header, bind, Except.bind, lt_irrefl, dite_false, if_true]
    rw [if_neg (Nat.not_lt_zero _)]
  exact scanAll_frame_unit continued (Nat.succ_ne_zero 2) rfl

theorem writeEpilogue_ok {next : FrameContext writer.State} {capacity : Nat} {bytes : Bytes}
    (wrote : writeEpilogue writer cctx capacity = .ok (next, bytes)) :
    cctx.SameChunk next ∧ (cctx.stage ≠ .init →
      bytes = (if cctx.stage ≠ .ending then blockHeader true 0 0 else []) ++
        (if cctx.appliedParams.fParams.checksumFlag then writeLE32 (writer.xxh64 cctx.xxhState)
          else [])) := by
  rw [writeEpilogue] at wrote
  split at wrote
  · cases wrote
  cases begun : Libzstd.startFrame writer cctx capacity
      { cctx.headerFields with pledgedSrcSize := 0, dictID := 0 } with
  | error code => simp [begun, bind, Except.bind] at wrote
  | ok reached =>
      rcases reached with ⟨started, header⟩
      have front := startFrame_ok begun
      simp only [begun, bind, Except.bind] at wrote
      by_cases noBlock : started.stage ≠ .ending ∧ capacity - header.length < 3
      · rw [if_pos noBlock] at wrote
        cases wrote
      rw [if_neg noBlock] at wrote
      generalize lastEq : (if started.stage ≠ .ending then blockHeader true 0 0 else []) =
        lastBlock at wrote
      by_cases noSum : started.appliedParams.fParams.checksumFlag ∧
          capacity - header.length - lastBlock.length < 4
      · rw [if_pos noSum] at wrote
        cases wrote
      rw [if_neg noSum] at wrote
      cases wrote
      refine ⟨⟨⟨front.1.params, front.1.blockSize, front.1.dictID, front.1.pledge⟩,
        front.1.consumed, front.1.hashed⟩, ?_⟩
      intro ongoing
      rcases front.2.2.2 with ⟨init, -⟩ | ⟨-, stage, rfl⟩
      · exact (ongoing init).elim
      · rw [List.nil_append, ← lastEq, stage, front.1.params, front.1.hashed]

theorem FrameTaken.checksum (contract : BlockContract writer blocks Agree)
    (taken : FrameTaken blocks dictionary cctx content) :
    (if cctx.appliedParams.fParams.checksumFlag then writeLE32 (writer.xxh64 cctx.xxhState)
      else []) = if cctx.headerFields.parameters.checksumFlag then
        writeLE32 (blocks.xxh64 content) else [] := by
  change _ = if cctx.appliedParams.fParams.checksumFlag = true then _ else _
  split
  · rename_i flag
    rw [taken.hashed flag, contract.xxh64]
  · rfl

/-- `ZSTD_compressEnd` completes the frame: what has been written of it is read as
what has been taken. -/
theorem FrameWritten.compressEnd (contract : BlockContract writer blocks Agree)
    (splits : SplitContract writer) {next : FrameContext writer.State} {capacity : Nat}
    {src bytes : Bytes} (frame : FrameWritten Agree dictionary cctx written content)
    (ended : Libzstd.compressEnd writer cctx capacity src = .ok (next, bytes)) :
    writeLE32 magicNumber <+: written ++ bytes ∧
      (streamMachine blocks dictionary).Reads ⟨streamStart blocks, []⟩ (written ++ bytes)
        (content ++ src) := by
  rw [Libzstd.compressEnd] at ended
  cases compressed : compressContinueInternal writer cctx capacity src true with
  | error code => simp [compressed, bind, Except.bind] at ended
  | ok reached =>
  rcases reached with ⟨second, chunk⟩
  simp only [compressed, bind, Except.bind] at ended
  cases wrote : writeEpilogue writer second (capacity - chunk.length) with
  | error code => simp [wrote] at ended
  | ok reached =>
  rcases reached with ⟨third, epilogue⟩
  simp only [wrote] at ended
  split at ended
  · cases ended
  rename_i pledge
  cases ended
  have same := compressContinueInternal_same compressed
  by_cases empty : src = []
  · rcases frame.compressContinue contract splits (Or.inr empty) compressed with
      ⟨ongoing, stage⟩
    have epilogue := (writeEpilogue_ok wrote).2 (by simp [stage])
    rcases ongoing.stage with ⟨init, -⟩ | ⟨-, entropy, agree, reads⟩
    · rw [stage] at init
      cases init
    · have read := reads.append (scanAll_lastBlock _)
      rw [List.append_nil] at read
      rw [epilogue, if_pos (by simp [stage]), ← List.append_assoc, ← List.append_assoc]
      exact reads_checksum read (ongoing.checksum contract)
  · have kept := (writeEpilogue_ok wrote).1
    have whole : true = true → cctx.pledgedSrcSizePlusOne ≠ 0 →
        cctx.pledgedSrcSizePlusOne = content.length + src.length + 1 := by
      intro _ known
      have consumed := frame.consumed
      have pledged := kept.pledge.trans same.1.pledge
      have taken := kept.consumed.trans same.2
      omega
    rcases frame.compressChunk contract splits empty whole compressed with
      ⟨taken, stage, entropy, agree, reads⟩
    have epilogue := (writeEpilogue_ok wrote).2 (by simp [stage])
    rw [epilogue, if_neg (by simp [stage]), List.nil_append, ← List.append_assoc]
    apply reads_checksum reads
    rw [taken.checksum contract, same.1.headerFields]

/-! ## Room for a frame -/

theorem startFrame_succeeds {capacity : Nat} {fields : HeaderFields}
    (room : frameHeaderSizeMax ≤ capacity) :
    ∃ next header, Libzstd.startFrame writer cctx capacity fields = .ok (next, header) ∧
      header.length ≤ frameHeaderSizeMax := by
  rw [Libzstd.startFrame]
  split
  · rw [writeFrameHeader, if_neg (by omega)]
    exact ⟨_, _, rfl, fields.header_length_le⟩
  · exact ⟨_, _, rfl, Nat.zero_le _⟩

theorem FrameWritten.compressContinue_succeeds (contract : BlockContract writer blocks Agree)
    (bound : BlockBound writer blocks Agree) (splits : SplitContract writer) {capacity : Nat}
    {src : Bytes} {last : Bool} (frame : FrameWritten Agree dictionary cctx written content)
    (pledge : cctx.pledgedSrcSizePlusOne ≠ 0 →
      content.length + src.length + 1 ≤ cctx.pledgedSrcSizePlusOne)
    (whole : last = true → cctx.pledgedSrcSizePlusOne ≠ 0 →
      cctx.pledgedSrcSizePlusOne = content.length + src.length + 1)
    (room : frameHeaderSizeMax + chunkBound src.length + 2 ≤ capacity) :
    ∃ next bytes, compressContinueInternal writer cctx capacity src last = .ok (next, bytes) ∧
      bytes.length ≤ frameHeaderSizeMax + chunkBound src.length := by
  rw [compressContinueInternal, if_neg frame.started]
  rcases @startFrame_succeeds writer cctx capacity cctx.headerFields (by omega) with
    ⟨started, header, begun, short⟩
  simp only [begun, bind, Except.bind]
  split
  · exact ⟨_, _, rfl, by omega⟩
  · rename_i nonempty
    have front := (startFrame_ok begun).1
    rcases frame.startFrame begun with ⟨-, entropy, agree, -⟩
    have fits : cctx.pledgedSrcSizePlusOne ≠ 0 →
        src.length + 1 ≤ cctx.pledgedSrcSizePlusOne := fun known => by
      have pledge := pledge known
      omega
    have sized : last = true → ContentSizeOk cctx.headerFields.parameters (content ++ src) :=
      fun ending => frame.valid.contentSizeOk fun known => by
        rw [List.length_append]
        exact whole ending known
    have large : 2 ^ 10 ≤ cctx.blockSizeMax ∨ src.length ≤ cctx.blockSizeMax := by
      rcases frame.valid.large with large | ⟨known, small⟩
      · exact Or.inl large
      · have fits := fits known
        exact Or.inr (by omega)
    rw [← (startFrame_ok begun).2.1] at agree
    rw [← front.blockSize] at large
    rcases @compressFrameChunk_succeeds writer blocks Agree contract bound splits
      ⟨cctx.headerFields.parameters, entropy, content⟩ started (capacity - header.length) src last
      agree nonempty (front.blockSize ▸ frame.valid.positive)
      (front.blockSize ▸ frame.valid.small) (front.blockSize ▸ frame.valid.block_within fits) sized
      large (by omega) with ⟨reached, chunk, chunked, bounded⟩
    have same := compressFrameChunk_same chunked
    have kept : ¬exceedsPledge writer { reached with
        consumedSrcSize := reached.consumedSrcSize + src.length
        producedCSize := reached.producedCSize + (chunk.length + header.length) } := by
      rintro ⟨known, exceeds⟩
      have pledged : reached.pledgedSrcSizePlusOne = cctx.pledgedSrcSizePlusOne :=
        same.pledge.trans front.pledge
      have consumed : reached.consumedSrcSize = content.length :=
        (same.consumed.trans front.consumed).trans frame.consumed
      simp only [pledged, consumed] at known exceeds
      have pledge := pledge known
      omega
    simp only [chunked]
    rw [if_neg kept]
    refine ⟨_, _, rfl, ?_⟩
    rw [List.length_append]
    omega

def epilogueSizeMax : Nat := blockHeaderSize + 4

theorem writeEpilogue_succeeds {capacity : Nat}
    (begun : cctx.stage = .ongoing ∨ cctx.stage = .ending) (room : epilogueSizeMax ≤ capacity) :
    ∃ next bytes, writeEpilogue writer cctx capacity = .ok (next, bytes) ∧
      bytes.length ≤ epilogueSizeMax := by
  have created : cctx.stage ≠ .created := by rcases begun with stage | stage <;> simp [stage]
  have init : cctx.stage ≠ .init := by rcases begun with stage | stage <;> simp [stage]
  have length : (blockHeader true 0 0).length = 3 := rfl
  simp only [epilogueSizeMax, blockHeaderSize] at room ⊢
  rw [writeEpilogue, if_neg created]
  simp only [Libzstd.startFrame, if_neg init, bind, Except.bind, List.length_nil, Nat.sub_zero]
  rw [if_neg (by omega), if_neg]
  · refine ⟨_, _, rfl, ?_⟩
    rw [List.nil_append, List.length_append]
    split <;> split <;> simp only [length, writeLE32_length, List.length_nil] <;> omega
  · split <;> simp only [length, List.length_nil] <;> omega

theorem FrameWritten.compressEnd_succeeds (contract : BlockContract writer blocks Agree)
    (bound : BlockBound writer blocks Agree) (splits : SplitContract writer) {capacity : Nat}
    {src : Bytes} (frame : FrameWritten Agree dictionary cctx written content)
    (whole : cctx.pledgedSrcSizePlusOne ≠ 0 →
      cctx.pledgedSrcSizePlusOne = content.length + src.length + 1)
    (room : frameHeaderSizeMax + chunkBound src.length + epilogueSizeMax ≤ capacity) :
    ∃ next bytes, Libzstd.compressEnd writer cctx capacity src = .ok (next, bytes) ∧
      bytes.length ≤ frameHeaderSizeMax + chunkBound src.length + epilogueSizeMax := by
  have enough : frameHeaderSizeMax + chunkBound src.length + 2 ≤ capacity := by
    simp only [epilogueSizeMax, blockHeaderSize] at room
    omega
  rcases @FrameWritten.compressContinue_succeeds writer blocks Agree cctx dictionary written content
    contract bound splits capacity src true frame (fun known => (whole known).ge) (fun _ => whole)
    enough with ⟨second, chunk, compressed, short⟩
  have same := compressContinueInternal_same compressed
  have begun : second.stage = .ongoing ∨ second.stage = .ending := by
    by_cases empty : src = []
    · exact Or.inl (frame.compressContinue contract splits (Or.inr empty) compressed).2
    · exact Or.inr (frame.compressChunk contract splits empty (fun _ => whole) compressed).2.1
  rcases @writeEpilogue_succeeds writer second (capacity - chunk.length) begun (by omega) with
    ⟨third, epilogue, wrote, bounded⟩
  have kept := (writeEpilogue_ok wrote).1
  simp only [Libzstd.compressEnd, compressed, wrote, bind, Except.bind]
  rw [if_neg]
  · refine ⟨_, _, rfl, ?_⟩
    rw [List.length_append]
    omega
  · rintro ⟨known, differs⟩
    apply differs
    rw [kept.consumed, same.2, frame.consumed, kept.pledge, same.1.pledge]
    rw [kept.pledge, same.1.pledge] at known
    exact whole known

/-- `ZSTD_compressBound` covers a frame, whatever its parameters. -/
theorem frame_le_compressBound (size : Nat) :
    frameHeaderSizeMax + chunkBound size + epilogueSizeMax ≤ compressBound size := by
  simp only [frameHeaderSizeMax, chunkBound, epilogueSizeMax, blockHeaderSize, compressBound]
  split <;> split <;> omega

end

end

end ZstdRuby.Libzstd
