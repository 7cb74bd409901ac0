import ZstdRuby.Libzstd.CompressContinue

/-! # Blocks without compression

Raw blocks as they are written, and a writer of blocks that writes nothing else.
-/

namespace ZstdRuby.Libzstd

def noCompressBlock (dstCapacity : Nat) (src : Bytes) (lastBlock : Bool) : Except ErrorCode Bytes :=
  if src.length + blockHeaderSize > dstCapacity then .error .dstSizeTooSmall
  else .ok (blockHeader lastBlock BlockType.raw.number src.length ++ src)

def storedWriter : BlockWriter where
  State := Unit
  compressBegin _ _ _ := .ok ()
  dictID _ := 0
  splitBlock _ _ := blockSizeMax
  compressBlock _ _ capacity src lastBlock :=
    (noCompressBlock capacity src lastBlock).map fun block => ((), block)
  xxh64 _ := 0

end ZstdRuby.Libzstd
