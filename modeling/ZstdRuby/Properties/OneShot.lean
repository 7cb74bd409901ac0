import ZstdRuby.Extension.Compress
import ZstdRuby.Properties.FrameScan
import ZstdRuby.Properties.RawBlocks
import ZstdRuby.Properties.StoredEncoder
import ZstdRuby.Properties.WholeFrames

/-! # One-shot round trips

`Zstd.decompress` undoes `Zstd.compress`, for every level and however the
dictionary is given.
-/

namespace ZstdRuby

open Libzstd Streaming

variable {CCtx DCtx : Type} {compressor : CompressLibrary CCtx}
  {decompressor : DecompressLibrary DCtx} {format : FrameFormat} {dictionary : Option Bytes}

/-! ## Dictionaries as arguments -/

inductive CompressDict : Option Bytes → Value → Prop
  | nil : CompressDict none .nil
  | string (dict : Bytes) : CompressDict (some dict) (.string dict)
  | cdict (dict : Bytes) (level : Int) : CompressDict (some dict) (.cdict ⟨dict, level⟩)

inductive DecompressDict : Option Bytes → Value → Prop
  | nil : DecompressDict none .nil
  | string (dict : Bytes) : DecompressDict (some dict) (.string dict)
  | ddict (dict : Bytes) : DecompressDict (some dict) (.ddict ⟨dict⟩)

theorem setCompressParams_ok {ctx : CCtx} {level : Int} {dict : Value}
    (accepts : compressor.Accepts dictionary) (prepared : compressor.Prepared none ctx)
    (low : -2 ^ 31 ≤ level) (high : level < 2 ^ 31) (given : CompressDict dictionary dict) :
    ∃ next, setCompressParams compressor ctx [("level", .integer level), ("dict", dict)] =
      .ok next := by
  have leveled := prepared.level level
  have number : compressionLevel (some (.integer level)) = .ok level :=
    Value.num2int_integer low high
  have second : [("level", Value.integer level), ("dict", dict)].lookup "dict" = some dict := rfl
  simp only [setCompressParams, rbGetKwargs_pair, bind, Except.bind, List.lookup_cons_self,
    number, second]
  cases given with
  | nil => exact ⟨_, rfl⟩
  | string dict =>
      rcases accepts.loads leveled rfl with ⟨next, loaded⟩
      exact ⟨next, by simp only [loaded]⟩
  | cdict dict dictLevel =>
      rcases accepts.references leveled rfl dictLevel with ⟨next, referenced⟩
      exact ⟨next, by simp only [referenced]⟩

theorem setDecompressParams_ok {dctx : DCtx} {dict : Value}
    (accepts : decompressor.Accepts dictionary) (prepared : decompressor.Prepared none dctx)
    (given : DecompressDict dictionary dict) :
    ∃ next, setDecompressParams decompressor dctx [("dict", dict)] = .ok next := by
  simp only [setDecompressParams, rbGetKwargs_single, bind, Except.bind, List.lookup_cons_self]
  cases given with
  | nil => exact ⟨dctx, rfl⟩
  | string dict =>
      rcases accepts.loads prepared rfl with ⟨next, loaded⟩
      exact ⟨next, by simp only [loaded]⟩
  | ddict dict =>
      rcases accepts.references prepared rfl with ⟨next, referenced⟩
      exact ⟨next, by simp only [referenced]⟩

theorem compressDictionary_eq {level : Int} {dict : Value} (given : CompressDict dictionary dict) :
    compressDictionary [("level", .integer level), ("dict", dict)] = dictionary := by
  cases given <;> rfl

theorem decompressDictionary_eq {dict : Value} (given : DecompressDict dictionary dict) :
    decompressDictionary [("dict", dict)] = dictionary := by
  cases given <;> rfl

/-! ## Compressing and decompressing -/

theorem rbCompress_dataFrame (contract : compressor.OneShotContract format dictionary)
    (accepts : compressor.Accepts dictionary) {source : Bytes} {level : Int} {dict : Value}
    (short : source.length < 2 ^ 63) (low : -2 ^ 31 ≤ level) (high : level < 2 ^ 31)
    (given : CompressDict dictionary dict) :
    ∃ frame, rbCompress compressor (.string source)
        [("level", .integer level), ("dict", dict)] = .ok frame ∧
      format.DataFrame dictionary frame source := by
  rcases accepts.creates with ⟨ctx, created⟩
  rcases setCompressParams_ok accepts (.create created) low high given with ⟨next, accepted⟩
  have prepared := setCompressParams_prepared (.create created) accepted
  rw [compressDictionary_eq given] at prepared
  rcases contract.compresses prepared source short with ⟨frame, compressed, isData⟩
  refine ⟨frame, ?_, isData⟩
  simp only [rbCompress, Value.stringValue_string, bind, Except.bind, created, accepted, compressed]

/-- With the encoder of libzstd, and raw blocks. -/
theorem rbCompress_storedWriter {source : Bytes} {level : Int} {dict : Value}
    (short : source.length < 2 ^ 63) (low : -2 ^ 31 ≤ level) (high : level < 2 ^ 31)
    (given : CompressDict dictionary dict)
    (dictShort : ∀ dict, dictionary = some dict → dict.length < 2 ^ 63) :
    ∃ frame, rbCompress (compressLibrary storedWriter) (.string source)
        [("level", .integer level), ("dict", dict)] = .ok frame ∧
      (streamFormat storedBlocks).DataFrame dictionary frame source :=
  rbCompress_dataFrame (storedWriter_oneShotContract dictShort)
    (compressLibrary_accepts storedWriter dictionary) short low high given

theorem rbDecompress_dataFrame (contract : decompressor.DecodesWhole format)
    (accepts : decompressor.Accepts dictionary) {frame content : Bytes} {dict : Value}
    (given : DecompressDict dictionary dict) (isData : format.DataFrame dictionary frame content)
    (trailing : Bytes) :
    Settles (fun fuel => rbDecompress decompressor fuel (.string (frame ++ trailing))
      [("dict", dict)]) (.ok content) := by
  rcases accepts.creates with ⟨dctx, created⟩
  rcases setDecompressParams_ok accepts (.reset (.create created)) given with ⟨next, accepted⟩
  rw [← decompressDictionary_eq given] at isData
  exact @rbDecompress_firstDataFrame _ decompressor format [("dict", dict)] dctx next contract
    created accepted [] frame content (by simp) isData trailing (by decide)

theorem decodeOneFrame_sound (contract : decompressor.WholeContract format) {dctx : DCtx}
    (created : decompressor.createDCtx = some dctx) {source content : Bytes} {kwargs : Kwargs}
    {fuel : Nat} (returned : decodeOneFrame decompressor fuel dctx source kwargs =
      some (.ok content)) :
    ∃ frame, frame <+: source ∧ format.Frame (decompressDictionary kwargs) frame content := by
  rw [decodeOneFrame] at returned
  split at returned
  · cases returned
  · rename_i next accepted
    have prepared := setDecompressParams_prepared (.reset (.create created)) accepted
    exact drain_sound (contract.decodes prepared) returned

/-- The one-shot functions. Decompressing undoes compressing, for every level
and however the dictionary is given to either. `decode_one_frame` returns the
content of a complete data frame, whatever follows it, and never returns
anything but the content of a complete frame. -/
theorem rbDecompress_rbCompress (compresses : compressor.OneShotContract format dictionary)
    (decodes : decompressor.WholeContract format)
    (compressorAccepts : compressor.Accepts dictionary)
    (decompressorAccepts : decompressor.Accepts dictionary) :
    (∀ (source : Bytes) (level : Int) (compressDict decompressDict : Value),
      source.length < 2 ^ 63 → -2 ^ 31 ≤ level → level < 2 ^ 31 →
      CompressDict dictionary compressDict → DecompressDict dictionary decompressDict →
      ∃ frame, rbCompress compressor (.string source)
          [("level", .integer level), ("dict", compressDict)] = .ok frame ∧
        Settles (fun fuel => rbDecompress decompressor fuel (.string frame)
          [("dict", decompressDict)]) (.ok source)) ∧
    (∀ (frame content trailing : Bytes) (dict : Value) (dctx : DCtx),
      format.DataFrame dictionary frame content → DecompressDict dictionary dict →
      decompressor.createDCtx = some dctx →
      Settles (fun fuel => decodeOneFrame decompressor fuel dctx (frame ++ trailing)
        [("dict", dict)]) (.ok content)) ∧
    ∀ (source content : Bytes) (kwargs : Kwargs) (dctx : DCtx) (fuel : Nat),
      decompressor.createDCtx = some dctx →
      decodeOneFrame decompressor fuel dctx source kwargs = some (.ok content) →
      ∃ frame, frame <+: source ∧ format.Frame (decompressDictionary kwargs) frame content := by
  refine ⟨?_, ?_, ?_⟩
  · intro source level compressDict decompressDict short low high compressGiven decompressGiven
    rcases rbCompress_dataFrame compresses compressorAccepts short low high compressGiven with
      ⟨frame, compressed, isData⟩
    have decompressed :=
      rbDecompress_dataFrame decodes.toDecodesWhole decompressorAccepts decompressGiven isData []
    rw [List.append_nil] at decompressed
    exact ⟨frame, compressed, decompressed⟩
  · intro frame content trailing dict dctx isData given created
    rcases setDecompressParams_ok decompressorAccepts (.reset (.create created)) given with
      ⟨next, accepted⟩
    rw [← decompressDictionary_eq given] at isData
    exact decodeOneFrame_complete decodes.toDecodesWhole created accepted (Or.inl isData) trailing
  · intro source content kwargs dctx fuel created returned
    exact decodeOneFrame_sound decodes created returned

theorem rbDecompress_rbCompress_abc :
    ∃ frame, rbCompress (storedLibrary blockSizeMax) (.string [0x61, 0x62, 0x63])
        [("level", .integer 19), ("dict", .cdict ⟨sampleData, 3⟩)] = .ok frame ∧
      Settles (fun fuel => rbDecompress (streamLibrary storedBlocks) fuel (.string frame)
        [("dict", .string sampleData)]) (.ok [0x61, 0x62, 0x63]) :=
  (rbDecompress_rbCompress
      ((storedLibrary_oneShotContract blockSizeMax _).mono undeclaredFormat_wholeFormat)
      (streamLibrary_wholeContract storedBlocks) (storedLibrary_accepts (some sampleData))
      (streamLibrary_accepts storedBlocks _)).1
    [0x61, 0x62, 0x63] 19 (.cdict ⟨sampleData, 3⟩) (.string sampleData) (by decide) (by decide)
    (by decide) (.cdict sampleData 3) (.string sampleData)

end ZstdRuby
