import ZstdRuby.Foundation.UnitMachine
import ZstdRuby.Libzstd.Decompression
import ZstdRuby.Libzstd.FrameHeader

/-! # `ZSTD_decompressContinue`

The decoder's state machine behind the stream: after the header, a frame is read
in units of exactly the expected size. The entropy decoder and the checksum
function are parameters. The buffer the output goes to is taken to have room:
libzstd's has room for every block of a frame that holds no more than its header
says. In any other frame a block it has no room for fails with `dstSize_tooSmall`,
and here the frame fails at its end; and a block that repeats a byte more often than
a block may be long fails in either case, there with this code if it has no room.
-/

namespace ZstdRuby.Libzstd

open Streaming

/-- What frame decoding calls and is not modelled here. -/
structure BlockDecoder where
  /-- The tables a frame's blocks share. -/
  Entropy : Type
  /-- `ZSTD_decompressBegin_usingDDict`. -/
  decompressBegin : Option Bytes → Entropy
  /-- The identifier of a dictionary; 0 without one. -/
  dictID : Option Bytes → Nat
  /-- What `ZSTD_decompressBlock_internal` does with a block of an allowed size, with
  what the frame has decoded so far. -/
  decompressBlock : Entropy → (decoded block : Bytes) → Except ErrorCode (Entropy × Bytes)
  /-- `XXH64_digest` of the decoded content. -/
  xxh64 : Bytes → Nat

def maxWindowSizeDefault : Nat := 2 ^ 27 + 1

inductive BlockType
  | raw
  | rle (size : Nat)
  | compressed
  deriving DecidableEq

structure FrameState (Entropy : Type) where
  fParams : FrameParameters
  entropy : Entropy
  decoded : Bytes
  deriving DecidableEq

/-- `ZSTD_dStage`, as far as streaming goes through it, with what each stage
uses. A block stage expects at least one more byte. -/
inductive DecodeStage (Entropy : Type)
  | getFrameHeaderSize
  | decodeBlockHeader (frame : FrameState Entropy)
  | decompressBlock (frame : FrameState Entropy) (blockType : BlockType) (lastBlock : Bool)
      (expected : Nat) (positive : 0 < expected)
  /-- A block stage whose block has failed, with the bytes that were read. -/
  | failedBlock (frame : FrameState Entropy) (blockType : BlockType) (lastBlock : Bool)
      (block : Bytes)
  | checkChecksum (frame : FrameState Entropy)
  | skipFrame (expected : Nat)
  deriving DecidableEq

namespace DecodeStage

variable {Entropy : Type}

/-- `ZSTD_nextSrcSizeToDecompress`. Nothing is expected once a frame is over. -/
def expected : DecodeStage Entropy → Nat
  | getFrameHeaderSize => 0
  | decodeBlockHeader _ => blockHeaderSize
  | decompressBlock _ _ _ size _ => size
  | failedBlock _ _ _ _ => 0
  | checkChecksum _ => 4
  | skipFrame size => size

def streams : DecodeStage Entropy → Bool
  | decompressBlock _ .raw _ _ _ => true
  | failedBlock _ .raw _ _ => true
  | _ => false

/-- `ZSTD_nextSrcSizeToDecompressWithInputSize`. -/
def expectedWithInputSize (stage : DecodeStage Entropy) (inputSize : Nat) : Nat :=
  if stage.streams then max 1 (min inputSize stage.expected) else stage.expected

def isSkipFrame : DecodeStage Entropy → Bool
  | skipFrame _ => true
  | _ => false

/-- `ZSTD_nextInputType(zds) == ZSTDnit_block`. -/
def nextIsBlock : DecodeStage Entropy → Bool
  | decompressBlock _ _ lastBlock _ _ => !lastBlock
  | failedBlock _ _ lastBlock _ => !lastBlock
  | _ => false

end DecodeStage

def minCBlockSize : Nat := 2

section

variable (blocks : BlockDecoder)

/-- A decoded block header: `ZSTD_getcBlockSize`. The size is that of the block's
bytes in the frame. -/
def getcBlockSize (header : Bytes) : Except ErrorCode (BlockType × Nat × Bool) :=
  let cBlockHeader := LittleEndian.value header
  let cSize := cBlockHeader / 2 ^ 3
  let lastBlock := cBlockHeader % 2 = 1
  match cBlockHeader / 2 % 4 with
  | 0 => .ok (.raw, cSize, lastBlock)
  | 1 => .ok (.rle cSize, 1, lastBlock)
  | 2 => .ok (.compressed, cSize, lastBlock)
  | _ => .error .corruptionDetected

def endOfBlocks (frame : FrameState blocks.Entropy) : DecodeStage blocks.Entropy :=
  if frame.fParams.checksumFlag then .checkChecksum frame else .getFrameHeaderSize

def endOfBlock (frame : FrameState blocks.Entropy) (lastBlock : Bool) :
    Except ErrorCode (DecodeStage blocks.Entropy) :=
  if lastBlock then
    match frame.fParams.frameContentSize with
    | some size =>
        if frame.decoded.length ≠ size then .error .corruptionDetected
        else .ok (endOfBlocks blocks frame)
    | none => .ok (endOfBlocks blocks frame)
  else .ok (.decodeBlockHeader frame)

def decompressBlockInternal (frame : FrameState blocks.Entropy) (src : Bytes) :
    Except ErrorCode (blocks.Entropy × Bytes) :=
  if src.length > frame.fParams.blockSizeMax then .error .srcSizeWrong
  else if src.length < minCBlockSize then .error .corruptionDetected
  else blocks.decompressBlock frame.entropy frame.decoded src

/-- What follows the decoding of a compressed block, or of one that repeats a
byte. -/
def endOfWholeBlock (frame : FrameState blocks.Entropy) (lastBlock : Bool)
    (entropy : blocks.Entropy) (output : Bytes) :
    Except ErrorCode (DecodeStage blocks.Entropy × Bytes) :=
  if output.length > frame.fParams.blockSizeMax then .error .corruptionDetected
  else do
    let frame := { frame with entropy := entropy, decoded := frame.decoded ++ output }
    let stage ← endOfBlock blocks frame lastBlock
    return (stage, output)

/-- `ZSTD_decompressContinue` on as many bytes as are expected, or, in a raw
block, on some of them. A block whose output exceeds the block size is refused;
for a raw block its header was already. -/
def decompressContinue (stage : DecodeStage blocks.Entropy) (src : Bytes) :
    Except ErrorCode (DecodeStage blocks.Entropy × Bytes) :=
  match stage with
  | .getFrameHeaderSize => .error .srcSizeWrong
  | .decodeBlockHeader frame => do
      let (blockType, cBlockSize, lastBlock) ← getcBlockSize src
      if cBlockSize > frame.fParams.blockSizeMax then .error .corruptionDetected
      else if nonempty : 0 < cBlockSize then
        .ok (.decompressBlock frame blockType lastBlock cBlockSize nonempty, [])
      else if lastBlock then .ok (endOfBlocks blocks frame, [])
      else .ok (.decodeBlockHeader frame, [])
  | .decompressBlock frame .raw lastBlock expected _ =>
      let frame := { frame with decoded := frame.decoded ++ src }
      if more : 0 < expected - src.length then
        .ok (.decompressBlock frame .raw lastBlock (expected - src.length) more, src)
      else do
        let stage ← endOfBlock blocks frame lastBlock
        return (stage, src)
  | .decompressBlock frame (.rle size) lastBlock _ _ =>
      endOfWholeBlock blocks frame lastBlock frame.entropy (List.replicate size (src.getD 0 0))
  | .decompressBlock frame .compressed lastBlock _ _ => do
      let (entropy, output) ← decompressBlockInternal blocks frame src
      endOfWholeBlock blocks frame lastBlock entropy output
  -- The next three are met after an error only, and expect nothing. A raw block is
  -- given one byte all the same, and its expected size, a `size_t`, wraps round.
  | .failedBlock frame .raw lastBlock _ =>
      .ok (.decompressBlock { frame with decoded := frame.decoded ++ src } .raw lastBlock
        (sizeRange - 1) (by decide), src)
  | .failedBlock frame (.rle size) lastBlock block =>
      endOfWholeBlock blocks frame lastBlock frame.entropy (List.replicate size (block.getD 0 0))
  | .failedBlock frame .compressed lastBlock _ => do
      let (entropy, output) ← decompressBlockInternal blocks frame src
      endOfWholeBlock blocks frame lastBlock entropy output
  | .checkChecksum frame =>
      if readLE32 src ≠ blocks.xxh64 frame.decoded % 2 ^ 32 then .error .checksumWrong
      else .ok (.getFrameHeaderSize, [])
  | .skipFrame _ => .ok (.getFrameHeaderSize, [])

/-- The stage a `ZSTD_decompressContinue` leaves that fails. A block is over, and
counts as decoded if only the size of the frame's content was wrong. -/
def failedStage (stage : DecodeStage blocks.Entropy) (src : Bytes) :
    DecodeStage blocks.Entropy :=
  let repeated (frame : FrameState blocks.Entropy) (size : Nat) (byte : UInt8) :=
    if size > frame.fParams.blockSizeMax then frame
    else { frame with decoded := frame.decoded ++ List.replicate size byte }
  match stage with
  | .decompressBlock frame .raw lastBlock _ _ =>
      .failedBlock { frame with decoded := frame.decoded ++ src } .raw lastBlock src
  | .decompressBlock frame (.rle size) lastBlock _ _ =>
      .failedBlock (repeated frame size (src.getD 0 0)) (.rle size) lastBlock src
  | .decompressBlock frame .compressed lastBlock _ _ => .failedBlock frame .compressed lastBlock src
  | .failedBlock frame (.rle size) lastBlock block =>
      .failedBlock (repeated frame size (block.getD 0 0)) (.rle size) lastBlock block
  | stage => stage

/-- `ZSTD_decodeFrameHeader`, behind the parsing of the header. -/
def acceptFrameHeader (dictionary : Option Bytes) (fParams : FrameParameters) :
    Except ErrorCode FrameParameters :=
  if fParams.dictID ≠ 0 ∧ blocks.dictID dictionary ≠ fParams.dictID then
    .error .dictionaryWrong
  else .ok fParams

/-- How `ZSTD_decompressStream` consumes a complete header. -/
def consumeHeader (dictionary : Option Bytes) (header : FrameHeader) :
    Except ErrorCode (DecodeStage blocks.Entropy) :=
  match header with
  | .skippable _ frameContentSize => .ok (.skipFrame frameContentSize)
  | .frame fParams => do
      let fParams ← acceptFrameHeader blocks dictionary fParams
      if max fParams.windowSize (2 ^ windowLogAbsoluteMin) > maxWindowSizeDefault then
        .error .frameParameterWindowTooLarge
      else .ok (.decodeBlockHeader ⟨fParams, blocks.decompressBegin dictionary, []⟩)

/-! ## As a unit machine -/

/-- The states in which a stream expects input: a header of a certain size, of
which some bytes have been read, or a stage of the frame. -/
inductive StreamState (Entropy : Type)
  | header (headerBuffer : Bytes) (size : Nat)
  | frame (stage : DecodeStage Entropy)
  deriving DecidableEq

namespace StreamState

variable {Entropy : Type}

def need : StreamState Entropy → Nat
  | header headerBuffer size => size - headerBuffer.length
  | frame stage => stage.expected

def streams : StreamState Entropy → Bool
  | header _ _ => false
  | frame stage => stage.streams

end StreamState

def feedStream (dictionary : Option Bytes) (state : StreamState blocks.Entropy) (src : Bytes) :
    Except ErrorCode (StreamState blocks.Entropy × Bytes) :=
  match state with
  | .header headerBuffer _ => do
      match ← getFrameHeader (headerBuffer ++ src) with
      | .wanted size => return (.header (headerBuffer ++ src) size, [])
      | .filled header => do
          let stage ← consumeHeader blocks dictionary header
          return (.frame stage, [])
  | .frame stage => do
      let (stage, output) ← decompressContinue blocks stage src
      return (.frame stage, output)

theorem decompressContinue_append (frame : FrameState blocks.Entropy) (lastBlock : Bool)
    {expected : Nat} (positive : 0 < expected) {left right : Bytes} (rightNonempty : right ≠ [])
    (within : left.length + right.length ≤ expected) :
    ∃ more : 0 < expected - left.length,
      decompressContinue blocks (.decompressBlock frame .raw lastBlock expected positive) left =
        .ok (.decompressBlock { frame with decoded := frame.decoded ++ left } .raw lastBlock
          (expected - left.length) more, left) ∧
      decompressContinue blocks (.decompressBlock frame .raw lastBlock expected positive)
          (left ++ right) = (decompressContinue blocks
            (.decompressBlock { frame with decoded := frame.decoded ++ left } .raw lastBlock
              (expected - left.length) more) right).map fun reached =>
                (reached.1, left ++ reached.2) := by
  have rightPositive := List.length_pos_iff.mpr rightNonempty
  have more : 0 < expected - left.length := by omega
  have sameRest : expected - (left ++ right).length = expected - left.length - right.length := by
    rw [List.length_append]
    omega
  refine ⟨more, by simp only [decompressContinue, more, dif_pos], ?_⟩
  simp only [decompressContinue, List.append_assoc]
  by_cases unfinished : 0 < expected - left.length - right.length
  · rw [dif_pos (by omega), dif_pos unfinished]
    simp only [Except.map, sameRest]
  · rw [dif_neg (by omega), dif_neg unfinished]
    cases endOfBlock blocks { frame with decoded := frame.decoded ++ (left ++ right) } lastBlock <;>
      rfl

def streamMachine (dictionary : Option Bytes) :
    UnitMachine (StreamState blocks.Entropy) UInt8 UInt8 ErrorCode where
  need := StreamState.need
  streams := StreamState.streams
  feed := feedStream blocks dictionary
  feed_append := by
    rintro (⟨headerBuffer, size⟩ | stage) left right streams leftNonempty rightNonempty within
    · cases streams
    · cases stage with
      | decompressBlock frame blockType lastBlock expected positive =>
          cases blockType with
          | raw =>
              have within : left.length + right.length ≤ expected := within
              rcases decompressContinue_append blocks frame lastBlock positive rightNonempty
                within with ⟨more, first, both⟩
              simp only [feedStream, first, both, bind, Except.bind, pure, Except.pure]
              cases decompressContinue blocks _ right <;> rfl
          | rle size => cases streams
          | compressed => cases streams
      | failedBlock frame blockType lastBlock block =>
          have within : left.length + right.length ≤ 0 := within
          exact absurd (List.length_eq_zero_iff.mp (by omega)) leftNonempty
      | _ => cases streams
  feed_part := by
    rintro (⟨headerBuffer, size⟩ | stage) next part output streams nonempty short fed
    · cases streams
    · cases stage with
      | decompressBlock frame blockType lastBlock expected positive =>
          cases blockType with
          | raw =>
              have more : 0 < expected - part.length := by
                have short : part.length < expected := short
                omega
              simp only [feedStream, decompressContinue, more, dif_pos, bind, Except.bind, pure,
                Except.pure, Except.ok.injEq, Prod.mk.injEq] at fed
              rw [← fed.1]
              exact ⟨rfl, rfl⟩
          | rle size => cases streams
          | compressed => cases streams
      | failedBlock frame blockType lastBlock block => exact absurd short (Nat.not_lt_zero _)
      | _ => cases streams

def streamStart : StreamState blocks.Entropy := .header [] startingInputLength

end

end ZstdRuby.Libzstd
