import ZstdRuby.Extension.SkippableFrame
import ZstdRuby.Properties.DecodeOneFrame
import ZstdRuby.Properties.FrameStart
import ZstdRuby.Properties.NativeResources
import ZstdRuby.Properties.StreamingDecompress

/-! # The scan of `rb_decompress`

`rb_decompress` looks for a data frame itself: it steps over skippable frames
and decodes the first data frame it finds. What follows this frame is never
looked at.
-/

namespace ZstdRuby

open Libzstd Streaming

variable {DCtx : Type} {library : DecompressLibrary DCtx}

/-! ## Skippable frames -/

theorem steppedOver_frames {skipped : List (Bytes × Bytes)}
    (skippable : ∀ frame ∈ skipped, FrameFormat.SkippableFrame frame.1 frame.2) (rest : Bytes) :
    SteppedOver (frameBytes skipped) rest := by
  induction skipped with
  | nil => exact .nil rest
  | cons head skipped induction =>
      rcases head with ⟨frame, content⟩
      rcases skippable (frame, content) List.mem_cons_self with
        ⟨variant, payload, small, fits, equal, -⟩
      simp only at equal
      subst equal
      exact .frame small fits
        (induction fun frame member => skippable frame (List.mem_cons_of_mem _ member))

/-! ## `Zstd.decompress` -/

section

variable {format : FrameFormat} {kwargs : Kwargs} {dctx next : DCtx}

/-- Where the scan ends without a data frame, the call raises. -/
theorem rbDecompress_notFound {input : Bytes}
    (scanned : Settles (fun fuel => Loop.run (scanPass 64 input) fuel 0) none) :
    Settles (fun fuel => rbDecompress library fuel (.string input) kwargs)
      (.error (.runtimeError "not a zstd frame (magic not found)")) := by
  simp only [rbDecompress, Value.stringValue_string]
  exact scanned.bind (.of_const _)

theorem decodeOneFrame_complete (contract : library.DecodesWhole format)
    (created : library.createDCtx = some dctx)
    (accepted : setDecompressParams library (library.resetSession dctx) kwargs = .ok next)
    {frame content : Bytes} (isFrame : format.Frame (decompressDictionary kwargs) frame content)
    (trailing : Bytes) :
    Settles (fun fuel => decodeOneFrame library fuel dctx (frame ++ trailing) kwargs)
      (.ok content) := by
  have prepared := setDecompressParams_prepared (.reset (.create created)) accepted
  simp only [decodeOneFrame, accepted]
  exact drain_complete (contract.decodes prepared) isFrame trailing

theorem rbDecompress_firstDataFrame (contract : library.DecodesWhole format)
    (created : library.createDCtx = some dctx)
    (accepted : setDecompressParams library (library.resetSession dctx) kwargs = .ok next)
    {skipped : List (Bytes × Bytes)} {frame content : Bytes}
    (skippable : ∀ frame ∈ skipped, FrameFormat.SkippableFrame frame.1 frame.2)
    (isData : format.DataFrame (decompressDictionary kwargs) frame content) (trailing : Bytes)
    (short : (frameBytes skipped).length < 2 ^ 63) :
    Settles (fun fuel => rbDecompress library fuel
      (.string (frameBytes skipped ++ (frame ++ trailing))) kwargs) (.ok content) := by
  have found : writeLE32 magicNumber <+:
      (frameBytes skipped ++ (frame ++ trailing)).drop (0 + (frameBytes skipped).length) := by
    rw [Nat.zero_add, List.drop_left]
    exact (format.magic isData).trans (List.prefix_append _ _)
  rw [← Nat.zero_add (frameBytes skipped).length] at short
  have scanned := (steppedOver_frames skippable _).scan List.drop_zero short
    (Loop.settles_leave (scanPass_dataFrame short found))
  simp only [rbDecompress, Value.stringValue_string]
  apply scanned.bind
  simp only [created, Nat.zero_add, List.drop_left]
  exact decodeOneFrame_complete contract created accepted (Or.inl isData) trailing

/-! ## Garbage before the frame -/

theorem leadsToFrame_behind {skipped : List (Bytes × Bytes)} {garbage frame : Bytes}
    (skippable : ∀ frame ∈ skipped, FrameFormat.SkippableFrame frame.1 frame.2)
    (clean : NoMagicWithin garbage) (magic : writeLE32 magicNumber <+: frame) :
    LeadsToFrame (.string (frameBytes skipped ++ garbage ++ frame)) frame :=
  ⟨frameBytes skipped ++ garbage, rfl,
    (steppedOver_frames skippable _).append (clean.steppedOver magic), magic⟩

theorem scan_behind {skipped : List (Bytes × Bytes)} {garbage : Bytes}
    (skippable : ∀ frame ∈ skipped, FrameFormat.SkippableFrame frame.1 frame.2)
    (clean : NoMagicWithin garbage) (short : (frameBytes skipped ++ garbage).length < 2 ^ 63) :
    Settles (fun fuel => Loop.run (scanPass 64 (frameBytes skipped ++ garbage)) fuel 0) none := by
  rcases clean.steppedOver_end with ⟨front, rest, rfl, stepped, few⟩
  have whole := (steppedOver_frames skippable (front ++ rest)).append stepped
  rw [← List.append_assoc] at short ⊢
  rw [List.length_append] at short
  apply whole.scan List.drop_zero (by omega)
  apply Loop.settles_leave (scanPass_end (by omega) _)
  rw [List.length_append]
  omega

/-- What `Zstd.decompress` decodes is the frame itself: `decode_one_frame` is called
once, for its bytes. Without a frame there is an exception before any context has
been created. -/
theorem rbDecompressNative_decodes (library : DecompressLibrary DCtx) (kwargs : Kwargs)
    {skipped : List (Bytes × Bytes)} {garbage : Bytes}
    (skippable : ∀ frame ∈ skipped, FrameFormat.SkippableFrame frame.1 frame.2)
    (clean : NoMagicWithin garbage) (short : (frameBytes skipped ++ garbage).length < 2 ^ 63) :
    (∀ frame dctx, writeLE32 magicNumber <+: frame →
      (frameBytes skipped ++ garbage ++ frame).length < 2 ^ 63 →
      library.createDCtx = some dctx →
      (∃ enough, ∀ fuel, enough ≤ fuel →
        rbDecompressNative library fuel (.string (frameBytes skipped ++ garbage ++ frame)) kwargs =
          (decodeOneFrameNative library fuel dctx frame kwargs).map withDCtx) ∧
      ∀ fuel native, rbDecompressNative library fuel
          (.string (frameBytes skipped ++ garbage ++ frame)) kwargs = some native →
        sourcesDecoded native.record = [frame]) ∧
    Settles (fun fuel => rbDecompressNative library fuel (.string (frameBytes skipped ++ garbage))
        kwargs)
      (.lift (.error (.runtimeError "not a zstd frame (magic not found)"))) := by
  constructor
  · intro frame dctx magic bound created
    have leads := leadsToFrame_behind skippable clean magic
    constructor
    · rcases leads.scan rfl bound with ⟨off, ⟨enough, scanned⟩, behind⟩
      refine ⟨enough, fun fuel large => ?_⟩
      simp only [rbDecompressNative, Value.stringValue_string, scanned fuel large,
        Option.bind_some, created, behind]
    · intro fuel native returned
      simp only [rbDecompressNative, Value.stringValue_string, Option.bind_eq_some_iff]
        at returned
      rcases returned with ⟨found, scanned, returned⟩
      rcases leads.unique rfl bound scanned with ⟨off, rfl, behind⟩
      simp only [created, behind, Option.map_eq_some_iff] at returned
      rcases returned with ⟨decoded, decodes, rfl⟩
      exact sourcesDecoded_withDCtx decodes
  · simp only [rbDecompressNative, Value.stringValue_string]
    exact (scan_behind skippable clean short).bind (.of_const _)

theorem rbDecompressNative_decodes_nested :
    ∃ native, rbDecompressNative (streamLibrary storedBlocks) 40
        (.string (skippableFrame 2 (storedFrame [[0x61]]) ++ [0x28, 0xB5, 0x2F] ++
          storedFrame [[0x62]])) [] = some native ∧
      sourcesDecoded native.record = [storedFrame [[0x62]]] := by
  have skippable : ∀ frame ∈ [(skippableFrame 2 (storedFrame [[0x61]]), ([] : Bytes))],
      FrameFormat.SkippableFrame frame.1 frame.2 := by
    intro frame member
    rw [List.mem_singleton.mp member]
    exact ⟨2, storedFrame [[0x61]], by decide, by decide, rfl, rfl⟩
  have clean : NoMagicWithin [0x28, 0xB5, 0x2F] := by
    intro window inside length
    have few := inside.length_le
    rw [length] at few
    exact absurd few (by decide)
  have decodes := (rbDecompressNative_decodes (streamLibrary storedBlocks) [] skippable clean
    (by decide)).1 (storedFrame [[0x62]]) _ ⟨_, rfl⟩ (by decide) rfl
  have returns : (rbDecompressNative (streamLibrary storedBlocks) 40
      (.string (skippableFrame 2 (storedFrame [[0x61]]) ++ [0x28, 0xB5, 0x2F] ++
        storedFrame [[0x62]])) []).isSome = true := by decide
  rcases Option.isSome_iff_exists.mp returns with ⟨native, returned⟩
  exact ⟨native, returned, decodes.2 40 native returned⟩

/-! ## Several frames -/

def afterFirstData (frames : List (Bytes × Bytes)) : List (Bytes × Bytes) :=
  (frames.dropWhile fun frame => isSkippableFrame frame.1).tail

theorem isSkippableFrame_of_skippable {frame content : Bytes}
    (skippable : FrameFormat.SkippableFrame frame content) : isSkippableFrame frame = true := by
  rcases skippable with ⟨variant, payload, small, -, rfl, -⟩
  exact isSkippableFrame_skippableFrame small payload

theorem isSkippableFrame_of_data {dictionary : Option Bytes} {frame content : Bytes}
    (isData : format.DataFrame dictionary frame content) : isSkippableFrame frame = false := by
  rcases format.magic isData with ⟨after, rfl⟩
  have magic := readLE32_writeLE32 magicNumber after
  rw [Nat.mod_eq_of_lt (by decide)] at magic
  simp only [isSkippableFrame, magic, isSkippableMagic_magicNumber]
  split <;> rfl

theorem frames_split {dictionary : Option Bytes} {frames : List (Bytes × Bytes)}
    (valid : ∀ frame ∈ frames, format.Frame dictionary frame.1 frame.2)
    (data : ∃ frame ∈ frames, format.DataFrame dictionary frame.1 frame.2) :
    ∃ skipped frame content, frames = skipped ++ (frame, content) :: afterFirstData frames ∧
      (∀ frame ∈ skipped, FrameFormat.SkippableFrame frame.1 frame.2) ∧
      format.DataFrame dictionary frame content := by
  induction frames with
  | nil => simp at data
  | cons head frames induction =>
      rcases head with ⟨frame, content⟩
      rcases valid (frame, content) List.mem_cons_self with isData | skippable
      · refine ⟨[], frame, content, ?_, by simp, isData⟩
        simp [afterFirstData, isSkippableFrame_of_data isData]
      · have skips := isSkippableFrame_of_skippable skippable
        have rest : ∃ frame ∈ frames, format.DataFrame dictionary frame.1 frame.2 := by
          rcases data with ⟨found, member, isData⟩
          rcases List.mem_cons.mp member with rfl | member
          · rw [isSkippableFrame_of_data isData] at skips
            cases skips
          · exact ⟨found, member, isData⟩
        rcases induction (fun frame member => valid frame (List.mem_cons_of_mem _ member)) rest with
          ⟨skipped, first, firstContent, split, skippables, isData⟩
        have same : afterFirstData ((frame, content) :: frames) = afterFirstData frames := by
          simp [afterFirstData, skips]
        refine ⟨(frame, content) :: skipped, first, firstContent, ?_, ?_, isData⟩
        · rw [same, List.cons_append, ← split]
        · intro frame' member
          rcases List.mem_cons.mp member with rfl | member
          · exact skippable
          · exact skippables frame' member

theorem frameContents_skippable {skipped : List (Bytes × Bytes)}
    (skippable : ∀ frame ∈ skipped, FrameFormat.SkippableFrame frame.1 frame.2) :
    frameContents skipped = [] := by
  induction skipped with
  | nil => rfl
  | cons head skipped induction =>
      rcases head with ⟨frame, content⟩
      rcases skippable (frame, content) List.mem_cons_self with ⟨-, -, -, -, -, empty⟩
      simp only at empty
      rw [frameContents_cons, empty, List.nil_append]
      exact induction fun frame member => skippable frame (List.mem_cons_of_mem _ member)

/-- Fed frame by frame, a stream returns all contents. `Zstd.decompress` of all
frames at once returns the same exactly if nothing but empty frames follow the
first data frame. -/
theorem rbDecompress_frames_iff {frames : List (Bytes × Bytes)} {stream : DCtx}
    (contract : library.WithholdingContract format)
    (created : library.createDCtx = some dctx)
    (accepted : setDecompressParams library (library.resetSession dctx) kwargs = .ok next)
    (initialized : rbStreamingDecompressInitialize library kwargs = .ok stream)
    (valid : ∀ frame ∈ frames, format.Frame (decompressDictionary kwargs) frame.1 frame.2)
    (data : ∃ frame ∈ frames, format.DataFrame (decompressDictionary kwargs) frame.1 frame.2)
    (short : (frameBytes frames).length < 2 ^ 63) :
    FeedsAll library stream (frames.map Prod.fst) (frameContents frames) ∧
      (Settles (fun fuel => rbDecompress library fuel (.string (frameBytes frames)) kwargs)
          (.ok (frameContents frames)) ↔
        frameContents (afterFirstData frames) = []) := by
  constructor
  · have decodes := contract.decodes (rbStreamingDecompressInitialize_prepared initialized)
    exact feedsAll_frames decodes (Position.start decodes.toDecoderContract valid (.initial _))
  · rcases frames_split valid data with ⟨skipped, frame, content, split, skippable, isData⟩
    have bytes : frameBytes frames =
        frameBytes skipped ++ (frame ++ frameBytes (afterFirstData frames)) := by
      rw [← frameBytes_cons frame content, ← frameBytes_append, ← split]
    have contents : frameContents frames = content ++ frameContents (afterFirstData frames) := by
      rw [← frameContents_cons frame, ← List.nil_append (frameContents (_ :: _)),
        ← frameContents_skippable skippable, ← frameContents_append, ← split]
    rw [bytes, List.length_append] at short
    have settles := rbDecompress_firstDataFrame contract.toContract.decodesWhole created accepted
      skippable isData (frameBytes (afterFirstData frames)) (by omega)
    rw [bytes, contents]
    constructor
    · intro returned
      have same := Except.ok.inj (settles.unique returned)
      simpa using same
    · intro empty
      rwa [empty, List.append_nil]

end

def twoFrames : List (Bytes × Bytes) :=
  [(storedFrame [[0x61]], [0x61]), (storedFrame [[0x62]], [0x62])]

theorem twoFrames_data : ∀ frame ∈ twoFrames,
    (undeclaredFormat storedBlocks).DataFrame none frame.1 frame.2 := by
  simp only [twoFrames, List.mem_cons, List.not_mem_nil, or_false, forall_eq_or_imp, forall_eq]
  exact ⟨@storedFrame_dataFrame none [[0x61]] (by decide),
    @storedFrame_dataFrame none [[0x62]] (by decide)⟩

theorem rbDecompress_twoFrames_iff :
    FeedsAll (streamLibrary storedBlocks) (.create Unit) (twoFrames.map Prod.fst)
        (frameContents twoFrames) ∧
      (Settles (fun fuel => rbDecompress (streamLibrary storedBlocks) fuel
          (.string (frameBytes twoFrames)) []) (.ok (frameContents twoFrames)) ↔
        frameContents (afterFirstData twoFrames) = []) :=
  @rbDecompress_frames_iff _ _ (undeclaredFormat storedBlocks) [] (.create Unit) (.create Unit)
    twoFrames _ (streamLibrary_eagerContract storedBlocks).toWithholdingContract rfl rfl rfl
    (fun frame member => Or.inl (twoFrames_data frame member))
    ⟨_, List.mem_cons_self, twoFrames_data _ List.mem_cons_self⟩ (by decide +kernel)

/-- The second frame is dropped without an error. -/
theorem rbDecompress_drops_secondFrame :
    ¬∀ frames : List (Bytes × Bytes),
      (∀ frame ∈ frames, (undeclaredFormat storedBlocks).Frame none frame.1 frame.2) →
      (∃ frame ∈ frames, (undeclaredFormat storedBlocks).DataFrame none frame.1 frame.2) →
      Settles (fun fuel => rbDecompress (streamLibrary storedBlocks) fuel
        (.string (frameBytes frames)) []) (.ok (frameContents frames)) := by
  intro promised
  have both := promised twoFrames (fun frame member => Or.inl (twoFrames_data frame member))
    ⟨_, List.mem_cons_self, twoFrames_data _ List.mem_cons_self⟩
  have first := @rbDecompress_firstDataFrame _ (streamLibrary storedBlocks)
    (undeclaredFormat storedBlocks) [] (.create Unit) (.create Unit)
    (streamLibrary_eagerContract storedBlocks).toWithholdingContract.toContract.decodesWhole
    rfl rfl [] _ _ (by simp) (twoFrames_data _ List.mem_cons_self) (frameBytes twoFrames.tail)
    (by decide +kernel)
  exact absurd (both.unique first) (by decide +kernel)

/-! ## Attaching a skippable frame -/

section

variable {format : FrameFormat} {kwargs : Kwargs} {dctx next : DCtx}

theorem rbDecompress_skippableFrame {variant : Nat} {payload : Bytes} (small : variant ≤ 15)
    (fits : payload.length < 2 ^ 32) :
    Settles
      (fun fuel => rbDecompress library fuel (.string (skippableFrame variant payload)) kwargs)
      (.error (.runtimeError "not a zstd frame (magic not found)")) := by
  have length := skippableFrame_length variant payload
  rw [skippableHeaderSize] at length
  have short : (skippableFrame variant payload).length < 2 ^ 63 := by omega
  refine rbDecompress_notFound (Loop.settles_again
    (scanPass_skippableFrame small fits (by omega) (List.append_nil _).symm) ?_)
  rw [Nat.zero_add]
  exact Loop.settles_leave (scanPass_end short (by omega))

/-- A data frame can be decompressed, but no string `write_skippable_frame`
makes from it can: the frame is not part of the string. -/
theorem rbWriteSkippableFrame_loses_dataFrame (contract : library.DecodesWhole format)
    (created : library.createDCtx = some dctx)
    (accepted : setDecompressParams library (library.resetSession dctx) kwargs = .ok next)
    {frame content : Bytes} (isData : format.DataFrame (decompressDictionary kwargs) frame content)
    (beyond : Nat → UInt8) (payload : Bytes) {variant : Nat}
    (small : variant ≤ 15) :
    Settles (fun fuel => rbDecompress library fuel (.string frame) kwargs) (.ok content) ∧
      ¬∃ output, rbWriteSkippableFrame beyond (.string frame) (.string payload)
          [("magic_variant", .integer variant)] = .ok output ∧
        Settles (fun fuel => rbDecompress library fuel (.string output) kwargs) (.ok content) := by
  constructor
  · have settles := @rbDecompress_firstDataFrame _ library format kwargs dctx next contract created
      accepted [] frame content (by simp) isData [] (by decide)
    simpa using settles
  · rintro ⟨output, written, recovered⟩
    rcases rbWriteSkippableFrame_eq small written with ⟨fits, rfl⟩
    have raises := @rbDecompress_skippableFrame _ library kwargs _ payload small (by omega)
    exact absurd (raises.unique recovered) (by simp)

end

theorem rbWriteSkippableFrame_loses_abc :
    Settles (fun fuel => rbDecompress (streamLibrary storedBlocks) fuel
        (.string (storedFrame [[0x61, 0x62, 0x63]])) []) (.ok [0x61, 0x62, 0x63]) ∧
      ¬∃ output, rbWriteSkippableFrame (fun _ => 0) (.string (storedFrame [[0x61, 0x62, 0x63]]))
          (.string sampleData) [("magic_variant", .integer (0 : Nat))] = .ok output ∧
        Settles (fun fuel => rbDecompress (streamLibrary storedBlocks) fuel (.string output) [])
          (.ok [0x61, 0x62, 0x63]) :=
  @rbWriteSkippableFrame_loses_dataFrame _ (streamLibrary storedBlocks)
    (undeclaredFormat storedBlocks) [] (.create Unit) (.create Unit)
    (streamLibrary_eagerContract storedBlocks).toWithholdingContract.toContract.decodesWhole
    rfl rfl _ _ (@storedFrame_dataFrame none [[0x61, 0x62, 0x63]] (by decide)) (fun _ => 0)
    sampleData 0 (by decide)

/-- What is left of them is the skippable frame, in which no frame is found. -/
theorem rbWriteSkippableFrame_abc :
    rbWriteSkippableFrame (fun _ => 0) (.string (storedFrame [[0x61, 0x62, 0x63]]))
        (.string sampleData) [("magic_variant", .integer 0)] = .ok (skippableFrame 0 sampleData) ∧
      Settles (fun fuel => rbDecompress (streamLibrary storedBlocks) fuel
        (.string (skippableFrame 0 sampleData)) [])
        (.error (.runtimeError "not a zstd frame (magic not found)")) ∧
      ¬Settles (fun fuel => rbDecompress (streamLibrary storedBlocks) fuel
        (.string (skippableFrame 0 sampleData)) []) (.ok [0x61, 0x62, 0x63]) := by
  have raises := @rbDecompress_skippableFrame _ (streamLibrary storedBlocks) [] 0 sampleData
    (by decide) (by decide)
  refine ⟨rbWriteSkippableFrame_ok _ (by decide) (by decide) (by decide), raises,
    fun recovered => ?_⟩
  exact absurd (raises.unique recovered) (by simp)

end ZstdRuby
