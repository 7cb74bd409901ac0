import ZstdRuby.Libzstd.DecompressFrame

/-! # Frames in a single pass

What `ZSTD_decompressFrame` decodes is read unit by unit with the same content, by a
reader that refuses nothing for its size. Where such a reader comes to the end of a
frame, `ZSTD_findFrameCompressedSize` finds it.
-/

namespace ZstdRuby.Libzstd

open Streaming

section

variable (blocks : BlockDecoder) (dictionary : Option Bytes)

/-! ## Frames of any size -/

def formatHeader : FrameHeader → Except ErrorCode (DecodeStage blocks.Entropy)
  | .skippable _ frameContentSize => .ok (.skipFrame frameContentSize)
  | .frame fParams => do
      let fParams ← acceptFrameHeader blocks dictionary fParams
      return .decodeBlockHeader ⟨fParams, blocks.decompressBegin dictionary, []⟩

def formatBlock (frame : FrameState blocks.Entropy) (lastBlock : Bool)
    (entropy : blocks.Entropy) (output : Bytes) :
    Except ErrorCode (DecodeStage blocks.Entropy × Bytes) := do
  let stage ← endOfBlock blocks
    { frame with entropy := entropy, decoded := frame.decoded ++ output } lastBlock
  return (stage, output)

def formatContinue (stage : DecodeStage blocks.Entropy) (src : Bytes) :
    Except ErrorCode (DecodeStage blocks.Entropy × Bytes) :=
  match stage with
  | .decodeBlockHeader frame => do
      let (blockType, cBlockSize, lastBlock) ← getcBlockSize src
      if nonempty : 0 < cBlockSize then
        return (.decompressBlock frame blockType lastBlock cBlockSize nonempty, [])
      else if lastBlock then return (endOfBlocks blocks frame, [])
      else return (.decodeBlockHeader frame, [])
  | .decompressBlock frame (.rle size) lastBlock _ _ =>
      formatBlock blocks frame lastBlock frame.entropy (List.replicate size (src.getD 0 0))
  | .decompressBlock frame .compressed lastBlock _ _ => do
      let (entropy, output) ← decompressBlockInternal blocks frame src
      formatBlock blocks frame lastBlock entropy output
  | stage => decompressContinue blocks stage src

def feedFormat (state : StreamState blocks.Entropy) (src : Bytes) :
    Except ErrorCode (StreamState blocks.Entropy × Bytes) :=
  match state with
  | .header headerBuffer _ => do
      match ← getFrameHeader (headerBuffer ++ src) with
      | .wanted size => return (.header (headerBuffer ++ src) size, [])
      | .filled header => do
          let stage ← formatHeader blocks dictionary header
          return (.frame stage, [])
  | .frame stage => do
      let (stage, output) ← formatContinue blocks stage src
      return (.frame stage, output)

/-- The machine that reads frames as they are, within no limits of a decoder. -/
def formatMachine : UnitMachine (StreamState blocks.Entropy) UInt8 UInt8 ErrorCode :=
  (streamMachine blocks dictionary).refeed (feedFormat blocks dictionary) <| by
    rintro (⟨headerBuffer, size⟩ | stage) unit streams
    · cases streams
    · cases stage with
      | decompressBlock frame blockType lastBlock expected positive =>
          cases blockType with
          | raw => rfl
          | _ => cases streams
      | failedBlock => rfl
      | _ => cases streams

end

section

variable {blocks : BlockDecoder} {dictionary : Option Bytes} {capacity room fuel : Nat}
  {frame next last : FrameState blocks.Entropy} {src rest content : Bytes}

theorem endOfWholeBlock_formatBlock {lastBlock : Bool} {entropy : blocks.Entropy}
    {output : Bytes} {reached : DecodeStage blocks.Entropy × Bytes}
    (ends : endOfWholeBlock blocks frame lastBlock entropy output = .ok reached) :
    formatBlock blocks frame lastBlock entropy output = .ok reached := by
  rw [endOfWholeBlock] at ends
  split at ends
  · cases ends
  · exact ends

theorem decompressContinue_formatContinue {stage : DecodeStage blocks.Entropy}
    {reached : DecodeStage blocks.Entropy × Bytes}
    (continued : decompressContinue blocks stage src = .ok reached) :
    formatContinue blocks stage src = .ok reached := by
  cases stage with
  | decodeBlockHeader frame =>
      simp only [decompressContinue, formatContinue] at continued ⊢
      cases read : getcBlockSize src with
      | error code => simp [read, bind, Except.bind] at continued
      | ok header =>
          simp only [read, bind, Except.bind] at continued ⊢
          split at continued
          · cases continued
          · exact continued
  | decompressBlock frame blockType lastBlock expected positive =>
      cases blockType with
      | raw => exact continued
      | rle size => exact endOfWholeBlock_formatBlock continued
      | compressed =>
          simp only [decompressContinue, formatContinue] at continued ⊢
          cases decoded : decompressBlockInternal blocks frame src with
          | error code => simp [decoded, bind, Except.bind] at continued
          | ok output =>
              simp only [decoded, bind, Except.bind] at continued ⊢
              exact endOfWholeBlock_formatBlock continued
  | _ => exact continued

theorem consumeHeader_formatHeader {header : FrameHeader} {stage : DecodeStage blocks.Entropy}
    (consumed : consumeHeader blocks dictionary header = .ok stage) :
    formatHeader blocks dictionary header = .ok stage := by
  cases header with
  | skippable variant size => exact consumed
  | frame fParams =>
      simp only [consumeHeader, formatHeader] at consumed ⊢
      cases accepted : acceptFrameHeader blocks dictionary fParams with
      | error code => simp [accepted, bind, Except.bind] at consumed
      | ok fParams =>
          simp only [accepted, bind, Except.bind] at consumed ⊢
          split at consumed
          · cases consumed
          · exact consumed

theorem streamMachine_restricts :
    (streamMachine blocks dictionary).Restricts (formatMachine blocks dictionary) where
  need := rfl
  streams := rfl
  feed := by
    rintro (⟨headerBuffer, size⟩ | stage) unit reached fed
    · simp only [streamMachine, feedStream] at fed
      simp only [formatMachine, UnitMachine.refeed, feedFormat]
      cases read : getFrameHeader (headerBuffer ++ unit) with
      | error code => simp [read, bind, Except.bind] at fed
      | ok result =>
          cases result with
          | wanted size => simpa only [read, bind, Except.bind] using fed
          | filled header =>
              simp only [read, bind, Except.bind] at fed ⊢
              cases consumed : consumeHeader blocks dictionary header with
              | error code => simp [consumed] at fed
              | ok stage =>
                  rw [consumed] at fed
                  rw [consumeHeader_formatHeader consumed]
                  exact fed
    · simp only [streamMachine, feedStream] at fed
      simp only [formatMachine, UnitMachine.refeed, feedFormat]
      cases continued : decompressContinue blocks stage unit with
      | error code => simp [continued, bind, Except.bind] at fed
      | ok next =>
          rw [continued] at fed
          rw [decompressContinue_formatContinue continued]
          exact fed

/-! ## Blocks -/

theorem getcBlockSize_rle {header : Bytes} {size cBlockSize : Nat} {lastBlock : Bool}
    (read : getcBlockSize header = .ok (.rle size, cBlockSize, lastBlock)) : cBlockSize = 1 := by
  simp only [getcBlockSize] at read
  split at read <;> simp_all

theorem nextBlock_split {block : FrameBlock} (found : nextBlock src = .ok block) :
    ∃ header, src = header ++ (block.content ++ block.rest) ∧
      header.length = blockHeaderSize ∧
      getcBlockSize header = .ok (block.blockType, block.content.length, block.lastBlock) := by
  rw [nextBlock] at found
  split at found
  · cases found
  · rename_i enough
    rcases bind_eq_ok.mp found with ⟨⟨blockType, cBlockSize, lastBlock⟩, read, found⟩
    simp only at found
    split at found
    · cases found
    · rename_i fits
      cases found
      refine ⟨src.take blockHeaderSize, ?_, ?_, ?_⟩
      · rw [List.take_append_drop, List.take_append_drop]
      · rw [List.length_take]
        omega
      · rw [read, List.length_take, min_eq_left (not_lt.mp fits)]

theorem nextBlock_append {header body : Bytes} {blockType : BlockType} {lastBlock : Bool}
    (headerSize : header.length = blockHeaderSize)
    (read : getcBlockSize header = .ok (blockType, body.length, lastBlock)) (rest : Bytes) :
    nextBlock (header ++ (body ++ rest)) = .ok ⟨blockType, body, lastBlock, rest⟩ := by
  have front : (header ++ (body ++ rest)).take blockHeaderSize = header :=
    List.take_left' headerSize
  have back : (header ++ (body ++ rest)).drop blockHeaderSize = body ++ rest :=
    List.drop_left' headerSize
  rw [nextBlock, if_neg (by rw [List.length_append]; omega), front, back]
  simp only [read, bind, Except.bind]
  rw [if_neg (by rw [List.length_append]; omega), List.take_left, List.drop_left]

theorem skipBlocks_split (skipped : skipBlocks fuel src = .ok rest) :
    ∃ part, src = part ++ rest ∧ blockHeaderSize ≤ part.length ∧
      ∀ fuel' more, part.length ≤ fuel' → skipBlocks fuel' (part ++ more) = .ok more := by
  induction fuel generalizing src with
  | zero => cases skipped
  | succ fuel induction =>
      rcases bind_eq_ok.mp skipped with ⟨block, found, skipped⟩
      rcases nextBlock_split found with ⟨header, split, headerSize, read⟩
      have again := nextBlock_append headerSize read
      split at skipped
      · rename_i lastBlock
        cases skipped
        refine ⟨header ++ block.content, ?_, ?_, ?_⟩
        · rw [split, List.append_assoc]
        · rw [List.length_append]
          omega
        · intro fuel' more enough
          rw [List.length_append, headerSize] at enough
          cases fuel' with
          | zero => simp [blockHeaderSize] at enough
          | succ fuel' =>
              rw [skipBlocks, List.append_assoc, again]
              simp only [bind, Except.bind, lastBlock, if_true]
      · rename_i goesOn
        rcases induction skipped with ⟨part, splitRest, long, skips⟩
        refine ⟨header ++ (block.content ++ part), ?_, ?_, ?_⟩
        · rw [split, splitRest]
          simp only [List.append_assoc]
        · rw [List.length_append]
          omega
        · intro fuel' more enough
          rw [List.length_append, List.length_append, headerSize] at enough
          cases fuel' with
          | zero => simp [blockHeaderSize] at enough
          | succ fuel' =>
              rw [skipBlocks, List.append_assoc, List.append_assoc, again]
              simp only [bind, Except.bind, goesOn]
              exact skips fuel' more (by simp only [blockHeaderSize] at enough; omega)

def checksumSize (fParams : FrameParameters) : Nat := if fParams.checksumFlag then 4 else 0

theorem findFrameSizeInfo_split {size : Nat} (found : findFrameSizeInfo src = .ok size) :
    startingInputLength + blockHeaderSize ≤ size ∧ size ≤ src.length ∧
      ∀ more, findFrameSizeInfo (src.take size ++ more) = .ok size := by
  rcases bind_eq_ok.mp found with ⟨result, read, measured⟩
  rcases result with wanted | ⟨variant, payload⟩ | fParams
  · cases measured
  · cases measured
  · rcases bind_eq_ok.mp measured with ⟨rest, skipped, -⟩
    rcases getFrameHeader_filled_frame read with ⟨-, -, complete, -⟩
    have long := lt_frameHeaderSize src 4
    have header := getFrameHeader_take read
    change skipBlocks src.length (src.drop (frameHeaderSize (byteAt src 4))) = _ at skipped
    rcases skipBlocks_split skipped with ⟨part, split, partSize, skips⟩
    have length : (src.take (frameHeaderSize (byteAt src 4))).length =
        frameHeaderSize (byteAt src 4) := by
      rw [List.length_take, min_eq_left complete]
    have whole : src = src.take (frameHeaderSize (byteAt src 4)) ++ (part ++ rest) := by
      rw [← split, List.take_append_drop]
    have fhd : byteAt (src.take (frameHeaderSize (byteAt src 4))) 4 = byteAt src 4 := by
      simp only [startingInputLength] at long
      conv_rhs => rw [whole]
      exact (byteAt_append (part ++ rest) (by omega)).symm
    generalize src.take (frameHeaderSize (byteAt src 4)) = front at header length whole fhd
    -- The size is that of the header, the blocks, and the checksum.
    have again : ∀ more, findFrameSizeInfo (front ++ (part ++ more)) =
        if more.length < checksumSize fParams then .error .srcSizeWrong
        else .ok (front.length + part.length + checksumSize fParams) := by
      intro more
      rw [findFrameSizeInfo, getFrameHeader_filled_append header]
      simp only [bind, Except.bind]
      rw [byteAt_append _ (by simp only [startingInputLength] at long; omega), fhd,
        List.drop_left' length, skips _ more (by simp only [List.length_append]; omega)]
      simp only [List.length_append, checksumSize]
      split
      · split
        · rfl
        · congr 1
          omega
      · rw [if_neg (Nat.not_lt_zero _)]
        congr 1
        omega
    rw [whole, again] at found
    split at found
    · cases found
    · rename_i enough
      cases found
      refine ⟨by omega, ?_, fun more => ?_⟩
      · rw [whole, List.length_append, List.length_append]
        omega
      · have taken : src.take (front.length + part.length + checksumSize fParams) =
            front ++ (part ++ rest.take (checksumSize fParams)) := by
          rw [whole, Nat.add_assoc, List.take_length_add_append, List.take_length_add_append]
        rw [taken, List.append_assoc, List.append_assoc, again, if_neg]
        rw [List.length_append, List.length_take]
        omega

theorem findFrameCompressedSize_pos {size : Nat}
    (found : findFrameCompressedSize src = some size) : 0 < size ∧ size ≤ src.length := by
  rw [findFrameCompressedSize] at found
  split at found
  · generalize measured : readSkippableFrameSize src = total at found
    simp only at found
    split at found
    · cases found
    · rename_i accepted
      cases found
      simp only [readSkippableFrameSize] at measured
      split at measured
      · simp [← measured, error_isError] at accepted
      · split at measured
        · simp [← measured, error_isError] at accepted
        · split at measured
          · simp [← measured, error_isError] at accepted
          · simp only [skippableHeaderSize] at *
            omega
  · cases measured : findFrameSizeInfo src with
    | error code => simp [measured, Except.toOption] at found
    | ok size =>
        simp only [measured, Except.toOption, Option.some.injEq] at found
        have bounds := findFrameSizeInfo_split measured
        simp only [startingInputLength] at bounds
        omega

theorem findFrameCompressedSize_take {size : Nat} (magic : readLE32 src = magicNumber)
    (found : findFrameCompressedSize src = some size) (more : Bytes) :
    findFrameCompressedSize (src.take size ++ more) = some size := by
  have other : ∀ bytes : Bytes, readLE32 bytes = magicNumber →
      findFrameCompressedSize bytes = (findFrameSizeInfo bytes).toOption := by
    intro bytes magic
    rw [findFrameCompressedSize, magic, isSkippableMagic_magicNumber, if_neg (by simp)]
  rw [other src magic] at found
  cases measured : findFrameSizeInfo src with
  | error code => simp [measured, Except.toOption] at found
  | ok size' =>
      simp only [measured, Except.toOption, Option.some.injEq] at found
      subst found
      rcases findFrameSizeInfo_split measured with ⟨long, within, again⟩
      simp only [startingInputLength] at long
      have same : readLE32 (src.take size' ++ more) = magicNumber := by
        rw [readLE32_append more (by rw [List.length_take]; omega), ← magic]
        conv_rhs => rw [← List.take_append_drop size' src]
        exact (readLE32_append _ (by rw [List.length_take]; omega)).symm
      rw [other _ same, again more, Except.toOption]

/-! ## Blocks that are decoded at once -/

theorem endOfBlock_sized {lastBlock : Bool} (sized : lastBlock = true →
      frame.fParams.frameContentSize = none ∨
        frame.fParams.frameContentSize = some frame.decoded.length) :
    endOfBlock blocks frame lastBlock =
      .ok (if lastBlock then endOfBlocks blocks frame else .decodeBlockHeader frame) := by
  cases lastBlock with
  | false => rfl
  | true => rcases sized rfl with unknown | known <;> simp [endOfBlock, *]

theorem reads_of_formatUnit {stage next : DecodeStage blocks.Entropy} {unit more output : Bytes}
    (continued : formatContinue blocks stage unit = .ok (next, output))
    (needed : stage.expected ≠ 0) (size : unit.length = stage.expected)
    (reads : (formatMachine blocks dictionary).Reads ⟨.frame next, []⟩ rest more) :
    (formatMachine blocks dictionary).Reads ⟨.frame stage, []⟩ (unit ++ rest)
      (output ++ more) := by
  refine .of_unit needed size ?_ reads
  simp only [formatMachine, UnitMachine.refeed, feedFormat, continued, bind, Except.bind, pure,
    Except.pure]

section

variable {block : FrameBlock} {entropy : blocks.Entropy} {output header : Bytes}
  {stage : DecodeStage blocks.Entropy}
  (decoded : decodedBlock blocks frame block = .ok (entropy, output))
  (read : getcBlockSize header =
    .ok (block.blockType, block.content.length, block.lastBlock))

include decoded read in
theorem decodedBlock_empty (empty : block.content.length = 0) :
    entropy = frame.entropy ∧ output = [] := by
  cases kind : block.blockType with
  | raw =>
      simp only [decodedBlock, kind, Except.ok.injEq, Prod.mk.injEq] at decoded
      exact ⟨decoded.1.symm, decoded.2 ▸ List.length_eq_zero_iff.mp empty⟩
  | rle size =>
      rw [kind] at read
      exact absurd (getcBlockSize_rle read) (by omega)
  | compressed =>
      simp [decodedBlock, kind, decompressBlockInternal, empty, minCBlockSize] at decoded

include decoded in
theorem formatContinue_decodedBlock (positive : 0 < block.content.length)
    (ends : endOfBlock blocks
      { frame with entropy := entropy, decoded := frame.decoded ++ output } block.lastBlock =
        .ok stage) :
    formatContinue blocks (.decompressBlock frame block.blockType block.lastBlock
      block.content.length positive) block.content = .ok (stage, output) := by
  cases kind : block.blockType with
  | raw =>
      simp only [decodedBlock, kind, Except.ok.injEq, Prod.mk.injEq] at decoded
      rcases decoded with ⟨rfl, rfl⟩
      simp only [formatContinue, decompressContinue, Nat.sub_self, lt_irrefl, dif_neg,
        not_false_eq_true, ends, bind, Except.bind, pure, Except.pure]
  | rle size =>
      simp only [decodedBlock, kind, Except.ok.injEq, Prod.mk.injEq] at decoded
      rcases decoded with ⟨rfl, rfl⟩
      simp only [formatContinue, formatBlock, ends, bind, Except.bind, pure, Except.pure]
  | compressed =>
      simp only [decodedBlock, kind] at decoded
      simp only [formatContinue, decoded, formatBlock, ends, bind, Except.bind, pure, Except.pure]

end

theorem decompressBlock_ok {block : FrameBlock}
    (decoded : decompressBlock blocks frame room block = .ok next) :
    ∃ entropy output, decodedBlock blocks frame block = .ok (entropy, output) ∧
      output.length ≤ room ∧
      next = { frame with entropy := entropy, decoded := frame.decoded ++ output } := by
  rw [decompressBlock] at decoded
  rcases bind_eq_ok.mp decoded with ⟨⟨entropy, output⟩, produced, accepted⟩
  simp only at accepted
  split at accepted
  · cases accepted
  · rename_i fits
    cases accepted
    exact ⟨entropy, output, produced, not_lt.mp fits, rfl⟩

theorem reads_of_decompressBlock {block : FrameBlock} {more : Bytes}
    (found : nextBlock src = .ok block)
    (decoded : decompressBlock blocks frame room block = .ok next)
    (sized : block.lastBlock = true → next.fParams.frameContentSize = none ∨
      next.fParams.frameContentSize = some next.decoded.length)
    (reads : (formatMachine blocks dictionary).Reads ⟨.frame (if block.lastBlock then
      endOfBlocks blocks next else .decodeBlockHeader next), []⟩ block.rest more) :
    ∃ output, next.decoded = frame.decoded ++ output ∧
      (formatMachine blocks dictionary).Reads ⟨.frame (.decodeBlockHeader frame), []⟩ src
        (output ++ more) := by
  rcases nextBlock_split found with ⟨header, split, headerSize, read⟩
  rcases decompressBlock_ok decoded with ⟨entropy, output, produced, -, rfl⟩
  refine ⟨output, rfl, ?_⟩
  rw [split]
  by_cases empty : block.content.length = 0
  · rcases decodedBlock_empty produced read empty with ⟨rfl, rfl⟩
    simp only [List.append_nil] at reads
    have continued : formatContinue blocks (.decodeBlockHeader frame) header =
        .ok (if block.lastBlock then endOfBlocks blocks frame else .decodeBlockHeader frame,
          []) := by
      simp only [formatContinue, read, bind, Except.bind, empty, lt_irrefl, dif_neg,
        not_false_eq_true, pure, Except.pure]
      split <;> rfl
    rw [List.length_eq_zero_iff.mp empty, List.nil_append]
    exact reads_of_formatUnit continued (Nat.succ_ne_zero 2) headerSize reads
  · have positive : 0 < block.content.length := Nat.pos_of_ne_zero empty
    have first : formatContinue blocks (.decodeBlockHeader frame) header =
        .ok (.decompressBlock frame block.blockType block.lastBlock block.content.length
          positive, []) := by
      simp only [formatContinue, read, bind, Except.bind, positive, dif_pos, pure, Except.pure]
    have body := formatContinue_decodedBlock produced positive (endOfBlock_sized sized)
    have whole := reads_of_formatUnit first (Nat.succ_ne_zero 2) headerSize
      (reads_of_formatUnit body empty rfl reads)
    exact whole

theorem reads_of_decompressBlocks
    (decoded : decompressBlocks blocks capacity fuel frame src = .ok (last, rest))
    (sized : last.fParams.frameContentSize = none ∨
      last.fParams.frameContentSize = some last.decoded.length)
    (reads : (formatMachine blocks dictionary).Reads ⟨.frame (endOfBlocks blocks last), []⟩
      rest []) :
    ∃ output, last.decoded = frame.decoded ++ output ∧
      (formatMachine blocks dictionary).Reads ⟨.frame (.decodeBlockHeader frame), []⟩ src
        output := by
  induction fuel generalizing frame src with
  | zero => cases decoded
  | succ fuel induction =>
      rw [decompressBlocks] at decoded
      rcases bind_eq_ok.mp decoded with ⟨block, found, decoded⟩
      rcases bind_eq_ok.mp decoded with ⟨next, decodedBlock, decoded⟩
      split at decoded
      · rename_i lastBlock
        cases decoded
        rcases reads_of_decompressBlock found decodedBlock (fun _ => sized)
          (by rwa [if_pos lastBlock]) with ⟨output, equal, readsAll⟩
        rw [List.append_nil] at readsAll
        exact ⟨output, equal, readsAll⟩
      · rename_i goesOn
        rcases induction decoded with ⟨more, equal, readsRest⟩
        rcases reads_of_decompressBlock found decodedBlock
          (fun lastBlock => absurd lastBlock goesOn) (by rwa [if_neg goesOn]) with
          ⟨output, first, readsAll⟩
        refine ⟨output ++ more, ?_, readsAll⟩
        rw [equal, first, List.append_assoc]

theorem decompressBlocks_fits (fits : frame.decoded.length ≤ capacity)
    (decoded : decompressBlocks blocks capacity fuel frame src = .ok (last, rest)) :
    last.fParams = frame.fParams ∧ last.decoded.length ≤ capacity := by
  induction fuel generalizing frame src with
  | zero => cases decoded
  | succ fuel induction =>
      rw [decompressBlocks] at decoded
      rcases bind_eq_ok.mp decoded with ⟨block, found, decoded⟩
      rcases bind_eq_ok.mp decoded with ⟨next, decodedBlock, decoded⟩
      rcases decompressBlock_ok decodedBlock with ⟨entropy, output, -, small, rfl⟩
      have nextFits : (frame.decoded ++ output).length ≤ capacity := by
        rw [List.length_append]
        omega
      split at decoded
      · cases decoded
        exact ⟨rfl, nextFits⟩
      · exact @induction ⟨frame.fParams, entropy, frame.decoded ++ output⟩ _ nextFits decoded

/-! ## Whole frames -/

theorem reads_endOfBlocks {frame : FrameState blocks.Entropy}
    (size : rest.length = checksumSize frame.fParams)
    (agrees : frame.fParams.checksumFlag = true →
      readLE32 rest = blocks.xxh64 frame.decoded % 2 ^ 32) :
    (formatMachine blocks dictionary).Reads ⟨.frame (endOfBlocks blocks frame), []⟩ rest [] := by
  rw [endOfBlocks]
  rw [checksumSize] at size
  split at size
  · rename_i flag
    rw [if_pos flag]
    have continued : formatContinue blocks (.checkChecksum frame) rest =
        .ok (.getFrameHeaderSize, []) := by
      simp only [formatContinue, decompressContinue, agrees flag, ne_eq, not_true_eq_false,
        if_false]
    have ended : (formatMachine blocks dictionary).Reads
        ⟨.frame .getFrameHeaderSize, []⟩ [] [] := .ended rfl
    have whole := reads_of_formatUnit continued (Nat.succ_ne_zero 3) size ended
    rwa [List.append_nil] at whole
  · rename_i flag
    rw [if_neg flag, List.length_eq_zero_iff.mp size]
    exact .ended rfl

theorem reads_of_header {machine : UnitMachine (StreamState blocks.Entropy) UInt8 UInt8 ErrorCode}
    (needs : machine.need = StreamState.need) {front back : Bytes} {size : Nat}
    {stage : DecodeStage blocks.Entropy} (frontSize : front.length = startingInputLength)
    (whole : (front ++ back).length = size) (longer : startingInputLength < size)
    (first : machine.feed (streamStart blocks) front = .ok (.header front size, []))
    (second : machine.feed (.header front size) back = .ok (.frame stage, []))
    (reads : machine.Reads ⟨.frame stage, []⟩ rest content) :
    machine.Reads ⟨streamStart blocks, []⟩ (front ++ (back ++ rest)) content := by
  rw [List.length_append] at whole
  refine .of_unit ?_ ?_ first (.of_unit ?_ ?_ second reads)
  · rw [needs]
    exact Nat.succ_ne_zero 4
  · rw [needs]
    exact frontSize
  · rw [needs]
    change size - front.length ≠ 0
    omega
  · rw [needs]
    change back.length = size - front.length
    omega

theorem getFrameHeader_front {fParams : FrameParameters}
    (filled : getFrameHeader src = .ok (.filled (.frame fParams))) :
    getFrameHeader (src.take startingInputLength) =
      .ok (.wanted (frameHeaderSize (byteAt src 4))) := by
  rcases getFrameHeader_filled_frame filled with ⟨long, magic, -, -⟩
  have size := lt_frameHeaderSize src 4
  have length : (src.take startingInputLength).length = startingInputLength := by
    rw [List.length_take, min_eq_left long]
  have split := List.take_append_drop startingInputLength src
  generalize src.take startingInputLength = front at length split ⊢
  generalize src.drop startingInputLength = back at split
  subst split
  simp only [startingInputLength] at length
  rw [readLE32_append back (by omega : 4 ≤ front.length)] at magic
  rw [byteAt_append back (by omega : 4 < front.length)] at size ⊢
  simp only [startingInputLength] at size
  rw [getFrameHeader_frame (by simp only [startingInputLength]; omega) magic, if_pos (by omega)]

theorem feedFormat_filled {buffer unit : Bytes} {size : Nat} {header : FrameHeader}
    {stage : DecodeStage blocks.Entropy}
    (filled : getFrameHeader (buffer ++ unit) = .ok (.filled header))
    (consumed : formatHeader blocks dictionary header = .ok stage) :
    (formatMachine blocks dictionary).feed (.header buffer size) unit =
      .ok (.frame stage, []) := by
  simp only [formatMachine, UnitMachine.refeed, feedFormat, filled, consumed, bind, Except.bind,
    pure, Except.pure]

theorem reads_of_decodeFrameHeader {header : Bytes} {fParams : FrameParameters}
    (size : header.length = frameHeaderSize (byteAt header 4))
    (decoded : decodeFrameHeader blocks dictionary header = .ok fParams)
    (reads : (formatMachine blocks dictionary).Reads ⟨.frame (.decodeBlockHeader
      ⟨fParams, blocks.decompressBegin dictionary, []⟩), []⟩ rest content) :
    (formatMachine blocks dictionary).Reads ⟨streamStart blocks, []⟩ (header ++ rest)
      content := by
  rw [decodeFrameHeader] at decoded
  rcases bind_eq_ok.mp decoded with ⟨result, read, accepted⟩
  rcases result with wanted | ⟨variant, payload⟩ | parameters
  · cases accepted
  · cases accepted
  · have accepted : acceptFrameHeader blocks dictionary parameters = .ok fParams := accepted
    have wanted := getFrameHeader_front read
    have longer := lt_frameHeaderSize header 4
    have split := List.take_append_drop startingInputLength header
    rw [← split, List.append_assoc]
    refine reads_of_header rfl ?_ (by rw [split]; exact size) longer ?_
      (feedFormat_filled (by rw [split]; exact read) ?_) reads
    · rw [List.length_take]
      omega
    · simp only [formatMachine, UnitMachine.refeed, feedFormat, streamStart, List.nil_append,
        wanted, bind, Except.bind, pure, Except.pure]
    · simp only [formatHeader, accepted, bind, Except.bind, pure, Except.pure]

theorem decompressFrame_ok (decoded : decompressFrame blocks dictionary capacity src =
      .ok (content, rest)) :
    ∃ fParams last behind, frameHeaderSize (byteAt src 4) ≤ src.length ∧
      decodeFrameHeader blocks dictionary (src.take (frameHeaderSize (byteAt src 4))) =
        .ok fParams ∧
      decompressBlocks blocks capacity src.length ⟨fParams, blocks.decompressBegin dictionary, []⟩
        (src.drop (frameHeaderSize (byteAt src 4))) = .ok (last, behind) ∧
      (fParams.frameContentSize = none ∨
        fParams.frameContentSize = some last.decoded.length) ∧
      content = last.decoded ∧ behind.length = checksumSize fParams + rest.length ∧
      (fParams.checksumFlag = true → readLE32 behind = blocks.xxh64 last.decoded % 2 ^ 32) := by
  simp only [decompressFrame] at decoded
  split at decoded
  · cases decoded
  · split at decoded
    · cases decoded
    · rename_i long enough
      rcases bind_eq_ok.mp decoded with ⟨fParams, header, decoded⟩
      rcases bind_eq_ok.mp decoded with ⟨⟨last, behind⟩, blocksDecoded, decoded⟩
      simp only at decoded
      split at decoded
      · cases decoded
      · rename_i sized
        have sized : fParams.frameContentSize = none ∨
            fParams.frameContentSize = some last.decoded.length :=
          or_iff_not_imp_left.mpr fun known => not_ne_iff.mp fun other => sized ⟨known, other⟩
        refine ⟨fParams, last, behind, by omega, header, blocksDecoded, sized, ?_⟩
        rw [checksumSize]
        split at decoded
        · rename_i flag
          split at decoded
          · cases decoded
          · split at decoded
            · cases decoded
            · rename_i enough agrees
              cases decoded
              refine ⟨rfl, ?_, fun _ => not_ne_iff.mp agrees⟩
              rw [if_pos flag, List.length_drop]
              omega
        · rename_i flag
          cases decoded
          exact ⟨rfl, by rw [if_neg flag, Nat.zero_add], fun set => absurd set flag⟩

theorem decompressUsingDDict_length_le
    (decoded : decompressUsingDDict blocks dictionary capacity src = .ok content) :
    content.length ≤ capacity := by
  rw [decompressUsingDDict] at decoded
  split at decoded
  · cases decoded
    exact Nat.zero_le capacity
  · rcases bind_eq_ok.mp decoded with ⟨⟨output, rest⟩, decoded, ends⟩
    simp only at ends
    split at ends
    · cases ends
      rcases decompressFrame_ok decoded with ⟨fParams, last, behind, -, -, blocks, -, rfl, -⟩
      exact (decompressBlocks_fits (Nat.zero_le capacity) blocks).2
    · cases ends

/-- What is decoded in a single pass is read unit by unit with the same content. -/
theorem reads_of_decompressUsingDDict (magic : readLE32 src = magicNumber)
    (decoded : decompressUsingDDict blocks dictionary capacity src = .ok content) :
    (formatMachine blocks dictionary).Reads ⟨streamStart blocks, []⟩ src content := by
  rw [decompressUsingDDict, magic, isSkippableMagic_magicNumber, if_neg (by simp)] at decoded
  rcases bind_eq_ok.mp decoded with ⟨⟨output, rest⟩, decoded, ends⟩
  simp only at ends
  split at ends
  · rename_i nothing
    cases ends
    subst nothing
    rcases decompressFrame_ok decoded with
      ⟨fParams, last, behind, long, header, blocksDecoded, sized, rfl, behindSize, agrees⟩
    have fits := (decompressBlocks_fits (Nat.zero_le capacity) blocksDecoded).1
    have size : (src.take (frameHeaderSize (byteAt src 4))).length =
        frameHeaderSize (byteAt src 4) := by
      rw [List.length_take, min_eq_left long]
    have descriptor : byteAt (src.take (frameHeaderSize (byteAt src 4))) 4 = byteAt src 4 := by
      have longer := lt_frameHeaderSize src 4
      simp only [startingInputLength] at longer
      have split := List.take_append_drop (frameHeaderSize (byteAt src 4)) src
      conv_rhs => rw [← split]
      exact (byteAt_append _ (by omega)).symm
    rw [← show last.fParams = fParams from fits] at sized behindSize agrees
    rcases @reads_of_decompressBlocks _ dictionary _ _ _ _ _ _ blocksDecoded sized
      (reads_endOfBlocks behindSize agrees) with ⟨output, equal, reads⟩
    rw [List.nil_append] at equal
    rw [equal, ← List.take_append_drop (frameHeaderSize (byteAt src 4)) src]
    exact reads_of_decodeFrameHeader (by rw [size, descriptor]) header reads
  · cases ends

/-! ## The end of a frame that is read -/

theorem endOfBlock_stage {lastBlock : Bool} {stage : DecodeStage blocks.Entropy}
    (ends : endOfBlock blocks frame lastBlock = .ok stage) :
    stage = if lastBlock then endOfBlocks blocks frame else .decodeBlockHeader frame := by
  rw [endOfBlock] at ends
  cases lastBlock with
  | false =>
      cases ends
      rfl
  | true =>
      simp only [if_true] at ends ⊢
      split at ends
      · split at ends <;> cases ends
        rfl
      · cases ends
        rfl

theorem formatBlock_stage {lastBlock : Bool} {entropy : blocks.Entropy} {output more : Bytes}
    {stage : DecodeStage blocks.Entropy}
    (formatted : formatBlock blocks frame lastBlock entropy output = .ok (stage, more)) :
    ∃ next : FrameState blocks.Entropy, next.fParams = frame.fParams ∧
      stage = if lastBlock then endOfBlocks blocks next else .decodeBlockHeader next := by
  rw [formatBlock] at formatted
  rcases bind_eq_ok.mp formatted with ⟨reached, ends, formatted⟩
  cases formatted
  exact ⟨⟨frame.fParams, entropy, frame.decoded ++ output⟩, rfl, endOfBlock_stage ends⟩

theorem formatContinue_stage {blockType : BlockType} {lastBlock : Bool} {size : Nat}
    {positive : 0 < size} {body output : Bytes} {stage : DecodeStage blocks.Entropy}
    (whole : body.length = size)
    (continued : formatContinue blocks (.decompressBlock frame blockType lastBlock size positive)
      body = .ok (stage, output)) :
    ∃ next : FrameState blocks.Entropy, next.fParams = frame.fParams ∧
      stage = if lastBlock then endOfBlocks blocks next else .decodeBlockHeader next := by
  cases blockType with
  | raw =>
      simp only [formatContinue, decompressContinue, whole, Nat.sub_self, lt_irrefl, dif_neg,
        not_false_eq_true] at continued
      rcases bind_eq_ok.mp continued with ⟨reached, ends, continued⟩
      cases continued
      exact ⟨⟨frame.fParams, frame.entropy, frame.decoded ++ body⟩, rfl, endOfBlock_stage ends⟩
  | rle size => exact formatBlock_stage continued
  | compressed =>
      rw [formatContinue] at continued
      rcases bind_eq_ok.mp continued with ⟨decoded, -, formatted⟩
      exact formatBlock_stage formatted

theorem formatMachine_feed_frame {stage : DecodeStage blocks.Entropy}
    {reached : StreamState blocks.Entropy} {unit output : Bytes}
    (fed : (formatMachine blocks dictionary).feed (.frame stage) unit = .ok (reached, output)) :
    ∃ next, formatContinue blocks stage unit = .ok (next, output) ∧ reached = .frame next := by
  simp only [formatMachine, UnitMachine.refeed, feedFormat] at fed
  rcases bind_eq_ok.mp fed with ⟨⟨next, produced⟩, continued, fed⟩
  cases fed
  exact ⟨next, continued, rfl⟩

theorem length_of_reads_endOfBlocks
    (reads : (formatMachine blocks dictionary).Reads ⟨.frame (endOfBlocks blocks frame), []⟩
      rest content) : rest.length = checksumSize frame.fParams := by
  rw [endOfBlocks] at reads
  rw [checksumSize]
  split at reads
  · rename_i flag
    rcases reads.unit (Nat.succ_ne_zero 3) with ⟨unit, behind, next, output, more, rfl, size, fed,
      -, readsBehind⟩
    rcases formatMachine_feed_frame fed with ⟨stage, continued, rfl⟩
    simp only [formatContinue, decompressContinue] at continued
    split at continued
    · cases continued
    · cases continued
      rw [(readsBehind.eq_nil rfl).1, List.append_nil, if_pos flag]
      exact size
  · rename_i flag
    rw [if_neg flag, (reads.eq_nil rfl).1, List.length_nil]

theorem skipBlocks_of_reads (enough : src.length ≤ fuel)
    (reads : (formatMachine blocks dictionary).Reads ⟨.frame (.decodeBlockHeader frame), []⟩
      src content) :
    ∃ rest, skipBlocks fuel src = .ok rest ∧ rest.length = checksumSize frame.fParams := by
  induction fuel generalizing frame src content with
  | zero =>
      have empty : src = [] := List.length_eq_zero_iff.mp (by omega)
      exact absurd empty (reads.nonempty (Nat.succ_ne_zero 2))
  | succ fuel induction =>
      rcases reads.unit (Nat.succ_ne_zero 2) with
        ⟨header, rest, next, output, more, rfl, headerSize, fed, -, readsRest⟩
      have headerSize : header.length = blockHeaderSize := headerSize
      rcases formatMachine_feed_frame fed with ⟨stage, continued, rfl⟩
      rw [formatContinue] at continued
      rcases bind_eq_ok.mp continued with ⟨⟨blockType, size, lastBlock⟩, read, continued⟩
      -- The block, which may be empty, and where it leads.
      have behind : ∃ body behind content', ∃ next : FrameState blocks.Entropy,
          rest = body ++ behind ∧ body.length = size ∧ next.fParams = frame.fParams ∧
          (formatMachine blocks dictionary).Reads ⟨.frame (if lastBlock then
            endOfBlocks blocks next else .decodeBlockHeader next), []⟩ behind content' := by
        simp only at continued
        split at continued
        · rename_i positive
          cases continued
          rcases readsRest.unit (Nat.pos_iff_ne_zero.mp positive) with
            ⟨body, behind, next, output, more, rfl, bodySize, fed, -, readsBehind⟩
          rcases formatMachine_feed_frame fed with ⟨stage, continued, rfl⟩
          rcases formatContinue_stage bodySize continued with ⟨next, same, rfl⟩
          exact ⟨body, behind, more, next, rfl, bodySize, same, readsBehind⟩
        · rename_i empty
          refine ⟨[], rest, more, frame, rfl, by simp only [List.length_nil]; omega, rfl, ?_⟩
          split at continued <;> cases continued <;> simp_all
      rcases behind with ⟨body, behind, content', next, rfl, rfl, same, readsBehind⟩
      have block := nextBlock_append headerSize read behind
      rw [skipBlocks, block]
      simp only [bind, Except.bind]
      split at readsBehind
      · rename_i last
        rw [if_pos last, ← same]
        exact ⟨behind, rfl, length_of_reads_endOfBlocks readsBehind⟩
      · rename_i goesOn
        rw [if_neg goesOn, ← same]
        simp only [List.length_append, headerSize, blockHeaderSize] at enough
        exact induction (by omega) readsBehind

theorem formatMachine_feed_header {buffer unit output : Bytes} {size : Nat}
    {reached : StreamState blocks.Entropy}
    (fed : (formatMachine blocks dictionary).feed (.header buffer size) unit =
      .ok (reached, output)) :
    output = [] ∧ ((∃ size, getFrameHeader (buffer ++ unit) = .ok (.wanted size) ∧
      reached = .header (buffer ++ unit) size) ∨
    ∃ header stage, getFrameHeader (buffer ++ unit) = .ok (.filled header) ∧
      formatHeader blocks dictionary header = .ok stage ∧ reached = .frame stage) := by
  simp only [formatMachine, UnitMachine.refeed, feedFormat] at fed
  rcases bind_eq_ok.mp fed with ⟨result, read, fed⟩
  cases result with
  | wanted size =>
      cases fed
      exact ⟨rfl, Or.inl ⟨size, read, rfl⟩⟩
  | filled header =>
      rcases bind_eq_ok.mp fed with ⟨stage, consumed, fed⟩
      cases fed
      exact ⟨rfl, Or.inr ⟨header, stage, read, consumed, rfl⟩⟩

theorem acceptFrameHeader_eq {fParams accepted : FrameParameters}
    (accepts : acceptFrameHeader blocks dictionary fParams = .ok accepted) :
    accepted = fParams := by
  rw [acceptFrameHeader] at accepts
  split at accepts <;> cases accepts
  rfl

theorem header_of_reads (magic : readLE32 src = magicNumber)
    (reads : (formatMachine blocks dictionary).Reads ⟨streamStart blocks, []⟩ src content) :
    ∃ header rest fParams, src = header ++ rest ∧
      getFrameHeader header = .ok (.filled (.frame fParams)) ∧
      header.length = frameHeaderSize (byteAt header 4) ∧
      (formatMachine blocks dictionary).Reads ⟨.frame (.decodeBlockHeader
        ⟨fParams, blocks.decompressBegin dictionary, []⟩), []⟩ rest content := by
  rcases reads.unit (Nat.succ_ne_zero 4) with
    ⟨front, rest, next, output, more, rfl, frontSize, fed, rfl, readsRest⟩
  have frontSize : front.length = 5 := frontSize
  rw [readLE32_append rest (by omega)] at magic
  have longer := lt_frameHeaderSize front 4
  simp only [startingInputLength] at longer
  have wanted : getFrameHeader front = .ok (.wanted (frameHeaderSize (byteAt front 4))) := by
    rw [getFrameHeader_frame (by rw [frontSize]; decide) magic, if_pos (by omega)]
  rcases formatMachine_feed_header fed with ⟨rfl, ⟨size, read, rfl⟩ | ⟨header, stage, read, -⟩⟩
  · cases read.symm.trans wanted
    rcases readsRest.unit (by change frameHeaderSize (byteAt front 4) - front.length ≠ 0; omega)
      with ⟨back, behind, next, output', more, rfl, backSize, fed, rfl, readsBehind⟩
    have backSize : back.length = frameHeaderSize (byteAt front 4) - front.length := backSize
    have size : (front ++ back).length = frameHeaderSize (byteAt (front ++ back) 4) := by
      rw [byteAt_append back (by omega), List.length_append]
      omega
    have sameMagic : readLE32 (front ++ back) = magicNumber :=
      (readLE32_append back (by omega)).trans magic
    have complete := getFrameHeader_frame (by rw [size]; exact (lt_frameHeaderSize _ 4).asymm)
      sameMagic
    rw [if_neg size.not_lt] at complete
    cases parsed : frameParameters (front ++ back) with
    | error code =>
        rw [parsed, Except.map] at complete
        rcases formatMachine_feed_header fed with
          ⟨-, ⟨wantedSize, read, -⟩ | ⟨header, stage, read, -⟩⟩
        all_goals cases read.symm.trans complete
    | ok fParams =>
        rw [parsed, Except.map] at complete
        rcases formatMachine_feed_header fed with
          ⟨rfl, ⟨wantedSize, read, -⟩ | ⟨header, stage, read, consumed, rfl⟩⟩
        · cases read.symm.trans complete
        · cases read.symm.trans complete
          rcases bind_eq_ok.mp consumed with ⟨accepted, accepts, consumed⟩
          cases consumed
          rw [acceptFrameHeader_eq accepts] at readsBehind
          exact ⟨front ++ back, behind, fParams, (List.append_assoc _ _ _).symm, read, size,
            readsBehind⟩
  · cases read.symm.trans wanted

/-- The end of a data frame that is read is found. -/
theorem findFrameCompressedSize_of_reads (magic : readLE32 src = magicNumber)
    (reads : (formatMachine blocks dictionary).Reads ⟨streamStart blocks, []⟩ src content) :
    findFrameCompressedSize src = some src.length := by
  rcases header_of_reads magic reads with ⟨header, rest, fParams, rfl, read, size, readsRest⟩
  rcases skipBlocks_of_reads (by simp : rest.length ≤ (header ++ rest).length) readsRest with
    ⟨checksum, skipped, checksumLength⟩
  have longer := lt_frameHeaderSize header 4
  simp only [startingInputLength] at longer
  have measured : findFrameSizeInfo (header ++ rest) = .ok (header ++ rest).length := by
    rw [findFrameSizeInfo, getFrameHeader_filled_append read]
    simp only [bind, Except.bind]
    rw [byteAt_append _ (by omega), List.drop_left' size, skipped]
    rw [checksumSize] at checksumLength
    simp only
    split
    · rename_i flag
      rw [if_pos flag] at checksumLength
      rw [if_neg (by omega), checksumLength, Nat.sub_self, Nat.sub_zero]
    · rename_i flag
      rw [if_neg flag] at checksumLength
      rw [checksumLength, Nat.sub_zero]
  rw [findFrameCompressedSize, magic, isSkippableMagic_magicNumber, if_neg (by simp), measured]
  rfl

end

end ZstdRuby.Libzstd
