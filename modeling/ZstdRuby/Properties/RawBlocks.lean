import ZstdRuby.Libzstd.RawBlocks
import ZstdRuby.Properties.CompressStreamSession

/-! # Reading raw blocks

Every decoder reads raw blocks, whatever its tables are. A writer that compresses
nothing keeps what is required of a writer of blocks.
-/

namespace ZstdRuby.Libzstd

open Streaming

section

variable {blocks : BlockDecoder} {frame : FrameState blocks.Entropy} {dictionary : Option Bytes}

theorem blockHeader_length (lastBlock : Bool) (blockType size : Nat) :
    (blockHeader lastBlock blockType size).length = blockHeaderSize :=
  LittleEndian.encode_length _ _

theorem getcBlockSize_blockHeader (lastBlock : Bool) {size : Nat} (fits : size < 2 ^ 21) :
    getcBlockSize (blockHeader lastBlock BlockType.raw.number size) =
      .ok (.raw, size, lastBlock) := by
  have bit := Bool.toNat_lt lastBlock
  have encoded := @LittleEndian.value_encode_of_lt blockHeaderSize
    (lastBlock.toNat + BlockType.raw.number * 2 + size * 2 ^ 3)
    (by simp only [blockHeaderSize, BlockType.number]; omega)
  have cSize : (lastBlock.toNat + size * 2 ^ 3) / 2 ^ 3 = size := by omega
  have blockType : (lastBlock.toNat + size * 2 ^ 3) / 2 % 4 = 0 := by omega
  have last : ((lastBlock.toNat + size * 2 ^ 3) % 2 = 1) = (lastBlock = true) := by
    cases lastBlock <;> simp only [Bool.toNat_false, Bool.toNat_true] <;> simp <;> omega
  rw [getcBlockSize, blockHeader, encoded]
  simp only [BlockType.number, Nat.zero_mul, Nat.add_zero, cSize, blockType, last,
    Bool.decide_eq_true]

theorem scanAll_noCompressBlock {capacity : Nat} {src block : Bytes} {lastBlock : Bool}
    {stage : DecodeStage blocks.Entropy} (nonempty : src ≠ []) (fits : src.length < 2 ^ 21)
    (small : src.length ≤ frame.fParams.blockSizeMax)
    (wrote : noCompressBlock capacity src lastBlock = .ok block)
    (ended : endOfBlock blocks { frame with decoded := frame.decoded ++ src } lastBlock =
      .ok stage) :
    (streamMachine blocks dictionary).scanAll ⟨.frame (.decodeBlockHeader frame), []⟩ block =
      some (⟨.frame stage, []⟩, src) := by
  rw [noCompressBlock] at wrote
  split at wrote
  · cases wrote
  · cases wrote
    have positive := List.length_pos_iff.mpr nonempty
    have first : decompressContinue blocks (.decodeBlockHeader frame)
        (blockHeader lastBlock BlockType.raw.number src.length) =
          .ok (.decompressBlock frame .raw lastBlock src.length positive, []) := by
      simp only [decompressContinue, getcBlockSize_blockHeader lastBlock fits, bind, Except.bind]
      rw [if_neg (Nat.not_lt.mpr small), dif_pos positive]
    have second : decompressContinue blocks (.decompressBlock frame .raw lastBlock src.length
        positive) src = .ok (stage, src) := by
      simp only [decompressContinue, Nat.sub_self, lt_irrefl, dite_false, ended, bind, Except.bind,
        pure, Except.pure]
    exact UnitMachine.scanAll_append_some
      (scanAll_frame_unit first (Nat.succ_ne_zero 2) (blockHeader_length _ _ _))
      (scanAll_frame_unit second positive.ne' rfl)

theorem noCompressBlock_length {capacity : Nat} {src block : Bytes} {lastBlock : Bool}
    (wrote : noCompressBlock capacity src lastBlock = .ok block) :
    block.length = src.length + blockHeaderSize := by
  rw [noCompressBlock] at wrote
  split at wrote
  · cases wrote
  · cases wrote
    rw [List.length_append, blockHeader_length, Nat.add_comm]

end

/-! ## A writer that compresses nothing -/

def storedAgree (_ _ : Unit) (_ : Bytes) : Prop := True

theorem storedWriter_compressBlock {state next : Unit} {isFirstBlock : Bool} {capacity : Nat}
    {src block : Bytes} {lastBlock : Bool}
    (wrote : storedWriter.compressBlock state isFirstBlock capacity src lastBlock =
      .ok (next, block)) : noCompressBlock capacity src lastBlock = .ok block := by
  simp only [storedWriter] at wrote
  cases result : noCompressBlock capacity src lastBlock with
  | error code => simp [result, Except.map] at wrote
  | ok bytes => simpa [result, Except.map] using wrote

theorem storedWriter_contract : BlockContract storedWriter storedBlocks storedAgree where
  begins := fun _ => trivial
  reads := by
    intro state next isFirstBlock capacity src lastBlock block frame agree nonempty small fits
      wrote
    have raw := storedWriter_compressBlock wrote
    have length := noCompressBlock_length raw
    simp only [blockHeaderSize] at length
    refine ⟨List.length_pos_iff.mp (by omega), (), trivial, fun ended dictionary => ?_⟩
    simp only [blockSizeMax] at small
    exact scanAll_noCompressBlock nonempty (by omega) fits raw ended
  dictID := fun _ => ⟨rfl, Nat.two_pow_pos 32⟩
  xxh64 := fun _ => rfl

theorem storedWriter_bound : BlockBound storedWriter storedBlocks storedAgree where
  fits := by
    intro state entropy decoded isFirstBlock capacity src lastBlock agree nonempty small room
    have wrote : noCompressBlock capacity src lastBlock =
        .ok (blockHeader lastBlock BlockType.raw.number src.length ++ src) :=
      if_neg (Nat.not_lt.mpr room)
    refine ⟨(), _, ?_, (noCompressBlock_length wrote).le⟩
    simp only [storedWriter, wrote, Except.map]

theorem storedWriter_splits : SplitContract storedWriter where
  split := fun _ => ⟨Nat.pow_le_pow_right Nat.two_pos (by decide : 10 ≤ 17), le_refl _⟩

theorem storedWriter_loads {dictionary : Option Bytes}
    (short : ∀ dict, dictionary = some dict → dict.length < 2 ^ 63) :
    Loads storedWriter dictionary where
  short := short
  begins := fun _ _ _ _ => ⟨(), rfl⟩

section

variable {dictionary : Option Bytes} {cctx : CStream Unit}

/-- The stream encoder of libzstd, with this writer, satisfies the contract of an
encoder. -/
theorem storedWriter_encoderContract
    (short : ∀ dict, dictionary = some dict → dict.length < 2 ^ 63)
    (prepared : (compressLibrary storedWriter).Prepared dictionary cctx) :
    EncoderContract (compressLibrary storedWriter).compressStream2 cctx
      ((streamFormat storedBlocks).DataFrame dictionary) :=
  compressLibrary_encoderContract storedWriter_contract storedWriter_bound storedWriter_splits
    (storedWriter_loads short) prepared

theorem storedWriter_flushContract
    (short : ∀ dict, dictionary = some dict → dict.length < 2 ^ 63)
    (prepared : (compressLibrary storedWriter).Prepared dictionary cctx) :
    FlushContract (compressLibrary storedWriter).compressStream2 cctx
      (streamPart storedBlocks dictionary) :=
  compressLibrary_flushContract storedWriter_contract storedWriter_bound storedWriter_splits
    (storedWriter_loads short) prepared

theorem storedWriter_oneShotContract
    (short : ∀ dict, dictionary = some dict → dict.length < 2 ^ 63) :
    (compressLibrary storedWriter).OneShotContract (streamFormat storedBlocks) dictionary :=
  compressLibrary_oneShotContract storedWriter_contract storedWriter_bound storedWriter_splits
    (storedWriter_loads short)

end

end ZstdRuby.Libzstd
