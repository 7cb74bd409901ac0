import ZstdRuby.Libzstd.DecompressContinue

/-! # Frames in a single pass

How `zstd_decompress.c` finds the end of a frame without decoding it, and how it
decodes a frame that is there as a whole into a destination that takes all of
its content. `ZSTD_decompressStream` has a shortcut that does both.
-/

namespace ZstdRuby.Libzstd

/-! ## Finding the end of a frame -/

structure FrameBlock where
  blockType : BlockType
  content : Bytes
  lastBlock : Bool
  rest : Bytes

/-- `ZSTD_getcBlockSize` on the rest of a source, and the check that the block is
there. -/
def nextBlock (src : Bytes) : Except ErrorCode FrameBlock :=
  if src.length < blockHeaderSize then .error .srcSizeWrong
  else do
    let (blockType, cBlockSize, lastBlock) ← getcBlockSize (src.take blockHeaderSize)
    let remaining := src.drop blockHeaderSize
    if cBlockSize > remaining.length then .error .srcSizeWrong
    else .ok ⟨blockType, remaining.take cBlockSize, lastBlock, remaining.drop cBlockSize⟩

/-- The loop of `ZSTD_findFrameSizeInfo`, up to what follows the last block. -/
def skipBlocks : (fuel : Nat) → Bytes → Except ErrorCode Bytes
  | 0, _ => .error .srcSizeWrong
  | fuel + 1, src => do
      let block ← nextBlock src
      if block.lastBlock then .ok block.rest else skipBlocks fuel block.rest

def findFrameSizeInfo (src : Bytes) : Except ErrorCode Nat := do
  match ← getFrameHeader src with
  -- A complete header is never that of a skippable frame here.
  | .wanted _ | .filled (.skippable _ _) => .error .srcSizeWrong
  | .filled (.frame fParams) => do
      let rest ← skipBlocks src.length (src.drop (frameHeaderSize (byteAt src 4)))
      if fParams.checksumFlag then
        if rest.length < 4 then .error .srcSizeWrong
        else .ok (src.length - (rest.length - 4))
      else .ok (src.length - rest.length)

/-- `ZSTD_findFrameCompressedSize_advanced`. Its errors are larger than any size,
and are not told apart. -/
def findFrameCompressedSize (src : Bytes) : Option Nat :=
  if src.length ≥ skippableHeaderSize ∧ isSkippableMagic (readLE32 src) then
    let size := readSkippableFrameSize src
    if isError size then none else some size
  else (findFrameSizeInfo src).toOption

/-! ## Decoding a frame -/

section

variable (blocks : BlockDecoder) (dictionary : Option Bytes) (capacity : Nat)

def decodedBlock (frame : FrameState blocks.Entropy) (block : FrameBlock) :
    Except ErrorCode (blocks.Entropy × Bytes) :=
  match block.blockType with
  | .compressed => decompressBlockInternal blocks frame block.content
  | .raw => .ok (frame.entropy, block.content)
  | .rle size => .ok (frame.entropy, List.replicate size (block.content.getD 0 0))

/-- A block in the loop of `ZSTD_decompressFrame`, with `room` left in the
destination. -/
def decompressBlock (frame : FrameState blocks.Entropy) (room : Nat) (block : FrameBlock) :
    Except ErrorCode (FrameState blocks.Entropy) := do
  let (entropy, output) ← decodedBlock blocks frame block
  if output.length > room then .error .dstSizeTooSmall
  else .ok { frame with entropy := entropy, decoded := frame.decoded ++ output }

def decompressBlocks : (fuel : Nat) → FrameState blocks.Entropy → Bytes →
    Except ErrorCode (FrameState blocks.Entropy × Bytes)
  | 0, _, _ => .error .srcSizeWrong
  | fuel + 1, frame, src => do
      let block ← nextBlock src
      let frame ← decompressBlock blocks frame (capacity - frame.decoded.length) block
      if block.lastBlock then .ok (frame, block.rest)
      else decompressBlocks fuel frame block.rest

def decodeFrameHeader (src : Bytes) : Except ErrorCode FrameParameters := do
  match ← getFrameHeader src with
  | .wanted _ | .filled (.skippable _ _) => .error .srcSizeWrong
  | .filled (.frame fParams) => acceptFrameHeader blocks dictionary fParams

def decompressFrame (src : Bytes) : Except ErrorCode (Bytes × Bytes) :=
  let headerSize := frameHeaderSize (byteAt src 4)
  if src.length < frameHeaderSizeMin + blockHeaderSize then .error .srcSizeWrong
  else if src.length < headerSize + blockHeaderSize then .error .srcSizeWrong
  else do
    let fParams ← decodeFrameHeader blocks dictionary (src.take headerSize)
    let (frame, rest) ← decompressBlocks blocks capacity src.length
      ⟨fParams, blocks.decompressBegin dictionary, []⟩ (src.drop headerSize)
    if fParams.frameContentSize ≠ none ∧ fParams.frameContentSize ≠ some frame.decoded.length then
      .error .corruptionDetected
    else if fParams.checksumFlag then
      if rest.length < 4 then .error .checksumWrong
      else if readLE32 rest ≠ blocks.xxh64 frame.decoded % 2 ^ 32 then .error .checksumWrong
      else .ok (frame.decoded, rest.drop 4)
    else .ok (frame.decoded, rest)

/-- `ZSTD_decompress_usingDDict` on exactly one frame: `ZSTD_decompressMultiFrame`
makes one round of its loop, which steps over a skippable frame. -/
def decompressUsingDDict (src : Bytes) : Except ErrorCode Bytes :=
  if isSkippableMagic (readLE32 src) then .ok []
  else do
    let (content, rest) ← decompressFrame blocks dictionary capacity src
    if rest = [] then .ok content else .error .srcSizeWrong

end

end ZstdRuby.Libzstd
