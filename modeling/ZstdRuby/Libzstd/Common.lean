import ZstdRuby.Foundation.LittleEndian

/-! # Shared vocabulary of libzstd: bytes, sizes, error codes and magic numbers -/

namespace ZstdRuby

abbrev Bytes := List UInt8

namespace Libzstd

/-! ## Error codes (`zstd_errors.h`, `error_private.c`) -/

inductive ErrorCode
  | generic
  | prefixUnknown
  | versionUnsupported
  | frameParameterUnsupported
  | frameParameterWindowTooLarge
  | corruptionDetected
  | checksumWrong
  | literalsHeaderWrong
  | dictionaryCorrupted
  | dictionaryWrong
  | dictionaryCreationFailed
  | parameterUnsupported
  | parameterCombinationUnsupported
  | parameterOutOfBound
  | tableLogTooLarge
  | maxSymbolValueTooLarge
  | maxSymbolValueTooSmall
  | cannotProduceUncompressedBlock
  | stabilityConditionNotRespected
  | stageWrong
  | initMissing
  | memoryAllocation
  | workSpaceTooSmall
  | dstSizeTooSmall
  | srcSizeWrong
  | dstBufferNull
  | noForwardProgressDestFull
  | noForwardProgressInputEmpty
  | frameIndexTooLarge
  | seekableIo
  | dstBufferWrong
  | srcBufferWrong
  | sequenceProducerFailed
  | externalSequencesInvalid
  deriving DecidableEq, Repr

namespace ErrorCode

def number : ErrorCode → Nat
  | generic => 1
  | prefixUnknown => 10
  | versionUnsupported => 12
  | frameParameterUnsupported => 14
  | frameParameterWindowTooLarge => 16
  | corruptionDetected => 20
  | checksumWrong => 22
  | literalsHeaderWrong => 24
  | dictionaryCorrupted => 30
  | dictionaryWrong => 32
  | dictionaryCreationFailed => 34
  | parameterUnsupported => 40
  | parameterCombinationUnsupported => 41
  | parameterOutOfBound => 42
  | tableLogTooLarge => 44
  | maxSymbolValueTooLarge => 46
  | maxSymbolValueTooSmall => 48
  | cannotProduceUncompressedBlock => 49
  | stabilityConditionNotRespected => 50
  | stageWrong => 60
  | initMissing => 62
  | memoryAllocation => 64
  | workSpaceTooSmall => 66
  | dstSizeTooSmall => 70
  | srcSizeWrong => 72
  | dstBufferNull => 74
  | noForwardProgressDestFull => 80
  | noForwardProgressInputEmpty => 82
  | frameIndexTooLarge => 100
  | seekableIo => 102
  | dstBufferWrong => 104
  | srcBufferWrong => 105
  | sequenceProducerFailed => 106
  | externalSequencesInvalid => 107

def getErrorName : ErrorCode → String
  | generic => "Error (generic)"
  | prefixUnknown => "Unknown frame descriptor"
  | versionUnsupported => "Version not supported"
  | frameParameterUnsupported => "Unsupported frame parameter"
  | frameParameterWindowTooLarge => "Frame requires too much memory for decoding"
  | corruptionDetected => "Data corruption detected"
  | checksumWrong => "Restored data doesn't match checksum"
  | literalsHeaderWrong => "Header of Literals' block doesn't respect format specification"
  | dictionaryCorrupted => "Dictionary is corrupted"
  | dictionaryWrong => "Dictionary mismatch"
  | dictionaryCreationFailed => "Cannot create Dictionary from provided samples"
  | parameterUnsupported => "Unsupported parameter"
  | parameterCombinationUnsupported => "Unsupported combination of parameters"
  | parameterOutOfBound => "Parameter is out of bound"
  | tableLogTooLarge => "tableLog requires too much memory : unsupported"
  | maxSymbolValueTooLarge => "Unsupported max Symbol Value : too large"
  | maxSymbolValueTooSmall => "Specified maxSymbolValue is too small"
  | cannotProduceUncompressedBlock => "This mode cannot generate an uncompressed block"
  | stabilityConditionNotRespected => "pledged buffer stability condition is not respected"
  | stageWrong => "Operation not authorized at current processing stage"
  | initMissing => "Context should be init first"
  | memoryAllocation => "Allocation error : not enough memory"
  | workSpaceTooSmall => "workSpace buffer is not large enough"
  | dstSizeTooSmall => "Destination buffer is too small"
  | srcSizeWrong => "Src size is incorrect"
  | dstBufferNull => "Operation on NULL destination buffer"
  | noForwardProgressDestFull =>
      "Operation made no progress over multiple calls, due to output buffer being full"
  | noForwardProgressInputEmpty =>
      "Operation made no progress over multiple calls, due to input being empty"
  | frameIndexTooLarge => "Frame index is too large"
  | seekableIo => "An I/O error occurred when reading/seeking"
  | dstBufferWrong => "Destination buffer is wrong"
  | srcBufferWrong => "Source buffer is wrong"
  | sequenceProducerFailed =>
      "Block-level external sequence producer returned an error code"
  | externalSequencesInvalid => "External sequences are not valid"

def all : List ErrorCode :=
  [.generic, .prefixUnknown, .versionUnsupported, .frameParameterUnsupported,
    .frameParameterWindowTooLarge, .corruptionDetected, .checksumWrong,
    .literalsHeaderWrong, .dictionaryCorrupted, .dictionaryWrong,
    .dictionaryCreationFailed, .parameterUnsupported,
    .parameterCombinationUnsupported, .parameterOutOfBound, .tableLogTooLarge,
    .maxSymbolValueTooLarge, .maxSymbolValueTooSmall,
    .cannotProduceUncompressedBlock, .stabilityConditionNotRespected,
    .stageWrong, .initMissing, .memoryAllocation, .workSpaceTooSmall,
    .dstSizeTooSmall, .srcSizeWrong, .dstBufferNull, .noForwardProgressDestFull,
    .noForwardProgressInputEmpty, .frameIndexTooLarge, .seekableIo,
    .dstBufferWrong, .srcBufferWrong, .sequenceProducerFailed,
    .externalSequencesInvalid]

end ErrorCode

/-! ## `size_t` results

libzstd returns a size and an error code through one `size_t`: an error is the
two's complement of its code, so the largest values are errors. -/

abbrev sizeRange : Nat := 2 ^ 64

def maxCode : Nat := 120

def error (code : ErrorCode) : Nat := sizeRange - code.number

def isError (result : Nat) : Bool := decide (result > sizeRange - maxCode)

def getErrorName (result : Nat) : String :=
  match ErrorCode.all.find? fun code => error code == result with
  | some code => code.getErrorName
  | none => if isError result then "Unspecified error code" else "No error detected"

theorem error_isError (code : ErrorCode) : isError (error code) = true := by
  cases code <;> decide

/-! ## Magic numbers and sizes (`zstd.h`, `zstd_internal.h`) -/

def magicNumber : Nat := 0xFD2FB528

def magicSkippableStart : Nat := 0x184D2A50

def magicSkippableMask : Nat := 0xFFFFFFF0

def skippableHeaderSize : Nat := 8

def frameIdSize : Nat := 4

def blockSizeMax : Nat := 2 ^ 17

def blockHeaderSize : Nat := 3

def dStreamOutSize : Nat := blockSizeMax

def compressBound (sourceSize : Nat) : Nat :=
  sourceSize + sourceSize / 2 ^ 8 +
    if sourceSize < 128 * 2 ^ 10 then (128 * 2 ^ 10 - sourceSize) / 2 ^ 11 else 0

def cStreamOutSize : Nat := compressBound blockSizeMax + blockHeaderSize + 4

example : cStreamOutSize = 131591 := by decide

def readLE32 (source : Bytes) : Nat := LittleEndian.value (source.take 4)

def writeLE32 (number : Nat) : Bytes := LittleEndian.encode 4 number

@[simp] theorem writeLE32_length (number : Nat) : (writeLE32 number).length = 4 :=
  LittleEndian.encode_length 4 number

@[simp] theorem readLE32_writeLE32 (number : Nat) (rest : Bytes) :
    readLE32 (writeLE32 number ++ rest) = number % 2 ^ 32 := by
  rw [readLE32, List.take_left' (writeLE32_length number)]
  exact LittleEndian.value_encode 4 number

theorem readLE32_lt (source : Bytes) : readLE32 source < 2 ^ 32 := by
  have bound := LittleEndian.value_lt (source.take 4)
  have short : (source.take 4).length ≤ 4 := List.length_take_le 4 source
  calc readLE32 source < 256 ^ (source.take 4).length := bound
    _ ≤ 256 ^ 4 := Nat.pow_le_pow_right (by decide) short
    _ = 2 ^ 32 := by decide

theorem writeLE32_readLE32 {source : Bytes} (enough : 4 ≤ source.length) :
    writeLE32 (readLE32 source) = source.take 4 := by
  have length : (source.take 4).length = 4 := by
    rw [List.length_take]
    omega
  have encoded := LittleEndian.encode_value (source.take 4)
  rwa [length] at encoded

theorem eq_writeLE32_writeLE32 {header : Bytes} (length : header.length = 8) :
    header = writeLE32 (readLE32 header) ++ writeLE32 (readLE32 (header.drop frameIdSize)) := by
  have rest : (header.drop frameIdSize).length = 4 := by
    rw [List.length_drop, length, frameIdSize]
  rw [writeLE32_readLE32 (by omega), writeLE32_readLE32 rest.ge,
    List.take_of_length_le rest.le, frameIdSize, List.take_append_drop]

theorem readLE32_append {source : Bytes} (more : Bytes) (enough : 4 ≤ source.length) :
    readLE32 (source ++ more) = readLE32 source := by
  rw [readLE32, readLE32, List.take_append_of_le_length enough]

def isSkippableMagic (magic : Nat) : Bool :=
  magic &&& magicSkippableMask == magicSkippableStart

theorem isSkippableMagic_variant {variant : Nat} (fits : variant < 16) :
    isSkippableMagic (magicSkippableStart + variant) = true := by
  have every : ∀ variant : Fin 16,
      isSkippableMagic (magicSkippableStart + variant.val) = true := by decide
  exact every ⟨variant, fits⟩

theorem isSkippableMagic_inv {magic : Nat} (fits : magic < 2 ^ 32)
    (skippable : isSkippableMagic magic = true) :
    ∃ variant < 16, magic = magicSkippableStart + variant := by
  have masked : magic &&& magicSkippableMask = magicSkippableStart := by
    simpa [isSkippableMagic] using skippable
  -- The mask keeps the upper 28 bits.
  have high : magic / 2 ^ 4 % 2 ^ 28 = magicSkippableStart / 2 ^ 4 := by
    rw [← masked, Nat.and_div_two_pow, ← Nat.and_two_pow_sub_one_eq_mod]
    rfl
  refine ⟨magic % 16, by omega, ?_⟩
  simp only [magicSkippableStart] at high ⊢
  omega

theorem isSkippableMagic_magicNumber : isSkippableMagic magicNumber = false := by
  decide

end Libzstd

end ZstdRuby
