import ZstdRuby.Foundation.Loop
import ZstdRuby.Libzstd.CompressionParameters
import ZstdRuby.Libzstd.DecompressContinue
import ZstdRuby.Libzstd.FrameHeaderWriter
import ZstdRuby.Ruby.Value

/-! # `ZSTD_compressContinue` and `ZSTD_compressEnd`

Writing a frame: its header with the first chunk, a number of blocks for each
chunk, and an epilogue. How a block is compressed is a parameter.
-/

namespace ZstdRuby.Libzstd

/-- What frame writing calls and is not modelled here. -/
structure BlockWriter where
  /-- What a context keeps from block to block: the match finder, the entropy
  tables and the repeated offsets. -/
  State : Type
  /-- The state for the first block, with a dictionary and for an input of a
  pledged size: the block state `ZSTD_compressBegin_internal` leaves. -/
  compressBegin : Option CDict → CompressionParameters → (pledgedSrcSize : Nat) →
    Except ErrorCode State
  /-- The identifier of a dictionary; 0 without one. -/
  dictID : Option CDict → Nat
  /-- `ZSTD_splitBlock`: where it is best to divide a block of 128 KB. -/
  splitBlock : (src : Bytes) → (level : Nat) → Nat
  /-- `ZSTD_compressBlock_internal` or `ZSTD_compressBlock_splitBlock`: the blocks
  they make of a part of the input, with the headers. -/
  compressBlock : State → (isFirstBlock : Bool) → (capacity : Nat) → (src : Bytes) →
    (lastBlock : Bool) → Except ErrorCode (State × Bytes)
  /-- `XXH64_digest` of the content. -/
  xxh64 : Bytes → Nat

inductive CompressionStage
  | created
  | init
  | ongoing
  | ending
  deriving DecidableEq

structure AppliedParameters where
  fParams : FrameFlags
  windowLog : Nat
  strategy : Strategy
  preBlockSplitterLevel : Nat
  deriving DecidableEq

/-- The fields of a `ZSTD_CCtx` that writing a frame uses. What has been hashed
stands for the state of the checksum. -/
structure FrameContext (State : Type) where
  stage : CompressionStage
  appliedParams : AppliedParameters
  blockSizeMax : Nat
  dictID : Nat
  /-- 0 where nothing has been pledged. -/
  pledgedSrcSizePlusOne : Nat
  consumedSrcSize : Nat
  producedCSize : Nat
  isFirstBlock : Bool
  xxhState : Bytes
  blockState : State
  deriving DecidableEq

def FrameContext.headerFields {State : Type} (cctx : FrameContext State) : HeaderFields where
  fParams := cctx.appliedParams.fParams
  windowLog := cctx.appliedParams.windowLog
  pledgedSrcSize := (cctx.pledgedSrcSizePlusOne + contentSizeUnknown) % 2 ^ 64
  dictID := cctx.dictID

/-- `XXH64_update`, where the frame has a checksum. -/
def FrameContext.hash {State : Type} (cctx : FrameContext State) (src : Bytes) :
    FrameContext State :=
  { cctx with
    xxhState := if cctx.appliedParams.fParams.checksumFlag then cctx.xxhState ++ src
      else cctx.xxhState }

/-- The levels `ZSTD_optimalBlockSize` splits with, by strategy. -/
def splitLevels : List Nat := [0, 0, 1, 2, 2, 3, 3, 4, 4, 4]

def BlockType.number : BlockType → Nat
  | .raw => 0
  | .rle _ => 1
  | .compressed => 2

def blockHeader (lastBlock : Bool) (blockType size : Nat) : Bytes :=
  LittleEndian.encode blockHeaderSize (lastBlock.toNat + blockType * 2 + size * 2 ^ 3)

section

variable (writer : BlockWriter)

def optimalBlockSize (src : Bytes) (blockSizeMax splitLevel : Nat) (strat : Strategy)
    (savings : Int) : Nat :=
  if src.length < 128 * 2 ^ 10 ∨ blockSizeMax < 128 * 2 ^ 10 then min src.length blockSizeMax
  else if savings < 3 then 128 * 2 ^ 10
  else if splitLevel = 1 then 128 * 2 ^ 10
  else writer.splitBlock (src.take blockSizeMax)
    (if splitLevel = 0 then splitLevels.getD strat.number 0 else splitLevel - 2)

/-- The local state of `ZSTD_compress_frameChunk`: the context, what remains of the
input, what has been written, and the savings so far. -/
structure ChunkCall where
  cctx : FrameContext writer.State
  remaining : Bytes
  op : Bytes
  savings : Int

def frameChunkPass (dstCapacity : Nat) (lastFrameChunk : Bool) (call : ChunkCall writer) :
    Pass (ChunkCall writer) (Except ErrorCode (ChunkCall writer)) :=
  if call.remaining = [] then .leave (.ok call)
  else
    let params := call.cctx.appliedParams
    let blockSize := optimalBlockSize writer call.remaining call.cctx.blockSizeMax
      params.preBlockSplitterLevel params.strategy call.savings
    let lastBlock := lastFrameChunk && decide (blockSize = call.remaining.length)
    let capacity := dstCapacity - call.op.length
    if capacity < blockHeaderSize + 2 + 1 then .leave (.error .dstSizeTooSmall)
    else
      match writer.compressBlock call.cctx.blockState call.cctx.isFirstBlock capacity
        (call.remaining.take blockSize) lastBlock with
      | .error code => .leave (.error code)
      | .ok (blockState, block) =>
          .again
            { cctx := { call.cctx with blockState := blockState, isFirstBlock := false }
              remaining := call.remaining.drop blockSize
              op := call.op ++ block
              savings := call.savings + blockSize - block.length }

/-- `ZSTD_compress_frameChunk`. The fuel is never used up: every pass takes a block. -/
def compressFrameChunk (cctx : FrameContext writer.State) (dstCapacity : Nat) (src : Bytes)
    (lastFrameChunk : Bool) : Except ErrorCode (FrameContext writer.State × Bytes) := do
  let cctx := cctx.hash src
  let call ← (Loop.run (frameChunkPass writer dstCapacity lastFrameChunk) (src.length + 1)
    ⟨cctx, src, [], cctx.consumedSrcSize - cctx.producedCSize⟩).getD (.error .generic)
  if lastFrameChunk ∧ call.op ≠ [] then
    return ({ call.cctx with stage := .ending }, call.op)
  else return (call.cctx, call.op)

def startFrame (cctx : FrameContext writer.State) (dstCapacity : Nat) (fields : HeaderFields) :
    Except ErrorCode (FrameContext writer.State × Bytes) :=
  if cctx.stage = .init then
    (writeFrameHeader dstCapacity fields).map fun header =>
      ({ cctx with stage := .ongoing }, header)
  else .ok (cctx, [])

/-- The control of the source size in `ZSTD_compressContinue_internal`. -/
def exceedsPledge (cctx : FrameContext writer.State) : Prop :=
  cctx.pledgedSrcSizePlusOne ≠ 0 ∧ cctx.consumedSrcSize + 1 > cctx.pledgedSrcSizePlusOne

instance (cctx : FrameContext writer.State) : Decidable (exceedsPledge writer cctx) :=
  inferInstanceAs (Decidable (_ ∧ _))

/-- `ZSTD_compressContinue_internal`, in frame mode. No block is made of no input. -/
def compressContinueInternal (cctx : FrameContext writer.State) (dstCapacity : Nat) (src : Bytes)
    (lastFrameChunk : Bool) : Except ErrorCode (FrameContext writer.State × Bytes) :=
  if cctx.stage = .created then .error .stageWrong
  else do
    let (cctx, header) ← startFrame writer cctx dstCapacity cctx.headerFields
    if src = [] then .ok (cctx, header)
    else do
      let (cctx, chunk) ←
        compressFrameChunk writer cctx (dstCapacity - header.length) src lastFrameChunk
      let cctx := { cctx with
        consumedSrcSize := cctx.consumedSrcSize + src.length
        producedCSize := cctx.producedCSize + (chunk.length + header.length) }
      if exceedsPledge writer cctx then .error .srcSizeWrong else .ok (cctx, header ++ chunk)

def compressContinue (cctx : FrameContext writer.State) (dstCapacity : Nat) (src : Bytes) :
    Except ErrorCode (FrameContext writer.State × Bytes) :=
  compressContinueInternal writer cctx dstCapacity src false

def writeEpilogue (cctx : FrameContext writer.State) (dstCapacity : Nat) :
    Except ErrorCode (FrameContext writer.State × Bytes) :=
  if cctx.stage = .created then .error .stageWrong
  else do
    let (cctx, header) ← startFrame writer cctx dstCapacity
      { cctx.headerFields with pledgedSrcSize := 0, dictID := 0 }
    let dstCapacity := dstCapacity - header.length
    if cctx.stage ≠ .ending ∧ dstCapacity < 3 then .error .dstSizeTooSmall
    else
      let lastBlock := if cctx.stage ≠ .ending then blockHeader true 0 0 else []
      let dstCapacity := dstCapacity - lastBlock.length
      if cctx.appliedParams.fParams.checksumFlag ∧ dstCapacity < 4 then .error .dstSizeTooSmall
      else
        let checksum := if cctx.appliedParams.fParams.checksumFlag then
          writeLE32 (writer.xxh64 cctx.xxhState) else []
        .ok ({ cctx with stage := .created }, header ++ (lastBlock ++ checksum))

def compressEnd (cctx : FrameContext writer.State) (dstCapacity : Nat) (src : Bytes) :
    Except ErrorCode (FrameContext writer.State × Bytes) := do
  let (cctx, chunk) ← compressContinueInternal writer cctx dstCapacity src true
  let (cctx, epilogue) ← writeEpilogue writer cctx (dstCapacity - chunk.length)
  if cctx.pledgedSrcSizePlusOne ≠ 0 ∧ cctx.pledgedSrcSizePlusOne ≠ cctx.consumedSrcSize + 1 then
    .error .srcSizeWrong
  else .ok (cctx, chunk ++ epilogue)

end

end ZstdRuby.Libzstd
