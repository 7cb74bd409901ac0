import ZstdRuby.Properties.StreamFormat

/-! # Frames in a source that is presented as a whole

A call on a fresh context sees all of a source from its first byte on. It decodes a
frame that declares the size of its content in a single pass, where the output buffer
has room for that; every other frame is decoded by units.
-/

namespace ZstdRuby.Libzstd

open Streaming

section

variable {blocks : BlockDecoder} {dictionary : Option Bytes} {source content : Bytes}
  {capacity cSize : Nat} {fParams : FrameParameters}

/-! ## The shortcut -/

/-- A fresh context takes the shortcut for the source. -/
def TakesShortcut (capacity : Nat) (source : Bytes) (cSize : Nat) : Prop :=
  ∃ fParams, getFrameHeader source = .ok (.filled (.frame fParams)) ∧
    singlePassSize source capacity (.frame fParams) = some cSize

theorem singlePassSize_iff :
    singlePassSize source capacity (.frame fParams) = some cSize ↔
      (∃ size, fParams.frameContentSize = some size ∧ size ≤ capacity) ∧
        findFrameCompressedSize source = some cSize ∧ cSize ≤ source.length := by
  rw [singlePassSize]
  cases fParams.frameContentSize with
  | none => simp
  | some size =>
      by_cases fits : size ≤ capacity
      · simp [fits, Option.filter_eq_some_iff]
      · simp [fits]

theorem decompressStream_singlePass {zds : DStream blocks.Entropy}
    (fresh : zds.streamStage = .init) (takes : TakesShortcut capacity source cSize) :
    (∃ code, decompressUsingDDict blocks zds.dictionary capacity (source.take cSize) =
        .error code ∧
      (decompressStream blocks zds capacity source).status = .error code) ∨
    ∃ content next, decompressUsingDDict blocks zds.dictionary capacity (source.take cSize) =
        .ok content ∧
      decompressStream blocks zds capacity source = ⟨next, cSize, content, .ok 0⟩ := by
  rcases takes with ⟨fParams, filled, shortcut⟩
  have positive := (findFrameCompressedSize_pos (singlePassSize_iff.mp shortcut).2.1).1
  rcases getFrameHeader_filled_frame filled with ⟨long, -, complete, -⟩
  have longer := lt_frameHeaderSize source 4
  have front := getFrameHeader_front filled
  have whole := getFrameHeader_take filled
  generalize frameHeaderSize (byteAt source 4) = size at complete longer front whole
  have none : getFrameHeader [] = .ok (.wanted startingInputLength) := rfl
  have taken : source.take startingInputLength ++
      (source.drop startingInputLength).take (size - startingInputLength) = source.take size := by
    rw [← List.take_add, Nat.add_sub_cancel' longer.le]
  have frontLength : (source.take startingInputLength).length = startingInputLength := by
    rw [List.length_take, min_eq_left long]
  simp only [decompressStream, streamFuel, Loop.run, streamPass, fresh, loadHeaderPass, none,
    List.length_nil, Nat.sub_zero, List.drop_zero, gt_iff_lt, not_lt.mpr long, if_false,
    List.nil_append, Nat.zero_add, front, frontLength, List.length_drop,
    not_lt.mpr (Nat.sub_le_sub_right complete startingInputLength), taken, whole, shortcut]
  cases decoded : decompressUsingDDict blocks zds.dictionary capacity (source.take cSize) with
  | error code => exact Or.inl ⟨code, rfl, rfl⟩
  | ok content =>
      right
      refine ⟨content, ?_⟩
      simp [streamResult, streamReturn, DecodeStage.expected, positive.ne']

/-! ## The format -/

/-- The size of its content that the header of a data frame declares. -/
def declaredSize (frame : Bytes) : Option Nat :=
  match getFrameHeader frame with
  | .ok (.filled (.frame fParams)) => fParams.frameContentSize
  | _ => none

def declaresFit (capacity : Nat) (frame : Bytes) : Bool :=
  (declaredSize frame).any fun size => size ≤ capacity

theorem declaresFit_iff (filled : getFrameHeader source = .ok (.filled (.frame fParams))) :
    declaresFit capacity source = true ↔
      ∃ size, fParams.frameContentSize = some size ∧ size ≤ capacity := by
  simp only [declaresFit, declaredSize, filled, Option.any_eq_true, decide_eq_true_eq]

variable (blocks) in
/-- What `decode_one_frame` can decode: in a single pass where the declared size allows
it, else by units. -/
def wholeFormat : FrameFormat where
  DataFrame dictionary frame content := writeLE32 magicNumber <+: frame ∧
    if declaresFit dStreamOutSize frame then
      decompressUsingDDict blocks (usedDictionary dictionary) dStreamOutSize frame = .ok content
    else
      (streamMachine blocks (usedDictionary dictionary)).Reads ⟨streamStart blocks, []⟩ frame
        content
  magic := fun dataFrame => dataFrame.1

theorem readLE32_of_magic (magic : writeLE32 magicNumber <+: source) :
    readLE32 source = magicNumber := by
  rcases magic with ⟨rest, rfl⟩
  exact readLE32_writeLE32 magicNumber rest

theorem magic_of_filled (filled : getFrameHeader source = .ok (.filled (.frame fParams))) :
    writeLE32 magicNumber <+: source := by
  rcases getFrameHeader_filled_frame filled with ⟨long, magic, -, -⟩
  simp only [startingInputLength] at long
  rw [← magic, writeLE32_readLE32 (by omega)]
  exact List.take_prefix 4 source

theorem takesShortcut_of_reads (magic : writeLE32 magicNumber <+: source)
    (reads : (formatMachine blocks dictionary).Reads ⟨streamStart blocks, []⟩ source content)
    (fits : declaresFit capacity source = true) (trailing : Bytes) :
    TakesShortcut capacity (source ++ trailing) source.length := by
  have magic := readLE32_of_magic magic
  rcases header_of_reads magic reads with ⟨header, rest, fParams, rfl, read, -, -⟩
  have found := findFrameCompressedSize_take magic (findFrameCompressedSize_of_reads magic reads)
    trailing
  rw [List.take_length] at found
  have filled := getFrameHeader_filled_append read rest
  exact ⟨fParams, getFrameHeader_filled_append filled trailing, singlePassSize_iff.mpr
    ⟨(declaresFit_iff filled).mp fits, found, by simp only [List.length_append]; omega⟩⟩

theorem declaredSize_of_reads
    (reads : (undeclaredMachine blocks dictionary).Reads ⟨streamStart blocks, []⟩ source content)
    (filled : getFrameHeader source = .ok (.filled (.frame fParams))) :
    fParams.frameContentSize = none := by
  have front := getFrameHeader_front filled
  have whole := getFrameHeader_take filled
  have longer := lt_frameHeaderSize source 4
  generalize frameHeaderSize (byteAt source 4) = size at front whole longer
  rcases reads.unit (Nat.succ_ne_zero 4) with
    ⟨head, rest, next, output, more, rfl, headSize, fed, rfl, readsRest⟩
  have headSize : head.length = startingInputLength := headSize
  rw [List.take_left' headSize] at front
  rw [feedStream_start front] at fed
  cases fed
  rcases readsRest.unit (by change size - head.length ≠ 0; omega) with
    ⟨tail, rest, next, output, more, rfl, tailSize, fed, -, -⟩
  have tailSize : tail.length = size - head.length := tailSize
  rw [← List.append_assoc, List.take_left' (by rw [List.length_append]; omega)] at whole
  cases declared : fParams.frameContentSize with
  | none => rfl
  | some contentSize =>
      simp only [undeclaredMachine, UnitMachine.refeed, feedUndeclared, whole,
        FrameHeader.declaresSize, declared, Option.isSome_some, if_true] at fed
      cases fed

theorem undeclaredFormat_wholeFormat
    (dataFrame : (undeclaredFormat blocks).DataFrame dictionary source content) :
    (wholeFormat blocks).DataFrame dictionary source content := by
  refine ⟨dataFrame.1, ?_⟩
  rw [if_neg]
  · exact undeclaredMachine_restricts.reads dataFrame.2
  · intro fits
    rcases header_of_reads (readLE32_of_magic dataFrame.1) (streamMachine_restricts.reads
      (undeclaredMachine_restricts.reads dataFrame.2)) with ⟨header, rest, fParams, rfl, read, -, -⟩
    have filled := getFrameHeader_filled_append read rest
    rcases (declaresFit_iff filled).mp fits with ⟨size, declared, -⟩
    cases (declaredSize_of_reads dataFrame.2 filled).symm.trans declared

theorem getFrameHeader_of_findFrameSizeInfo (found : findFrameSizeInfo source = .ok cSize) :
    ∃ fParams, getFrameHeader source = .ok (.filled (.frame fParams)) := by
  rcases bind_eq_ok.mp found with ⟨result, read, measured⟩
  rcases result with wanted | ⟨variant, payload⟩ | fParams
  · cases measured
  · cases measured
  · exact ⟨fParams, read⟩

theorem TakesShortcut.frame (takes : TakesShortcut capacity source cSize) :
    0 < cSize ∧ cSize ≤ source.length ∧ writeLE32 magicNumber <+: source.take cSize ∧
      declaresFit capacity (source.take cSize) = true := by
  rcases takes with ⟨fParams, filled, shortcut⟩
  rcases singlePassSize_iff.mp shortcut with ⟨fits, found, within⟩
  have magic := (getFrameHeader_filled_frame filled).2.1
  rw [findFrameCompressedSize, magic, isSkippableMagic_magicNumber, if_neg (by simp)] at found
  have header : getFrameHeader (source.take cSize) = .ok (.filled (.frame fParams)) := by
    cases measured : findFrameSizeInfo source with
    | error code => simp [measured, Except.toOption] at found
    | ok size =>
        simp only [measured, Except.toOption, Option.some.injEq] at found
        subst found
        have again := (findFrameSizeInfo_split measured).2.2 []
        rw [List.append_nil] at again
        rcases getFrameHeader_of_findFrameSizeInfo again with ⟨fParams', read⟩
        have whole := getFrameHeader_filled_append read (source.drop size)
        rw [List.take_append_drop, filled] at whole
        cases whole
        exact read
  exact ⟨(findFrameCompressedSize_pos (singlePassSize_iff.mp shortcut).2.1).1, within,
    magic_of_filled header,
    (declaresFit_iff header).mpr fits⟩

theorem SinglePass.takesShortcut
    (single : SinglePass dictionary capacity source (.start (streamStart blocks)) cSize) :
    TakesShortcut capacity source cSize := by
  rcases single with @⟨_, _, _, ip, toLoad, _, _, -, -, -, filled, ⟨buffer, size, loaded, begun,
    header⟩, declared, fits, found, within, -⟩
  cases begun
  rw [header, List.nil_append, List.nil_append] at filled
  have whole := getFrameHeader_filled_append filled (source.drop (ip + toLoad))
  rw [List.take_append_drop] at whole
  exact ⟨_, whole, singlePassSize_iff.mpr ⟨⟨_, declared, fits⟩, found, within⟩⟩

theorem TakesShortcut.unique {size : Nat} (left : TakesShortcut capacity source cSize)
    (right : TakesShortcut capacity source size) : size = cSize := by
  rcases left with ⟨fParams, filled, shortcut⟩
  rcases right with ⟨fParams', filled', shortcut'⟩
  exact Option.some.inj ((singlePassSize_iff.mp shortcut').2.1.symm.trans
    (singlePassSize_iff.mp shortcut).2.1)

/-! ## Sessions -/

variable {zds context : DStream blocks.Entropy} {stream taken given : Bytes}
  {standing after : StreamStanding blocks}

/-- Where a decoder stands that has not taken the shortcut. Once it has been called, it
cannot come to take it: it is in a frame, or there is no more input. -/
structure WholeStands (dictionary : Option Bytes) (stream taken given : Bytes)
    (context : DStream blocks.Entropy) (standing : StreamStanding blocks) : Prop where
  stands : StreamStands dictionary context standing
  follows : Follows (streamMachine blocks dictionary) (streamStart blocks) stream taken given
    standing
  settled : (standing = .start (streamStart blocks) ∧ taken = []) ∨
    stream.drop taken.length = [] ∨ ∃ stage, standing.cursor.state = .frame stage

theorem StreamStands.frame_of_held (stands : StreamStands dictionary context standing)
    (held : standing.held ≠ []) : ∃ stage, standing.cursor.state = .frame stage := by
  cases stands with
  | flush => exact ⟨_, rfl⟩
  | init => exact absurd rfl held
  | loadHeader => exact absurd rfl held
  | read => exact absurd rfl held
  | load => exact absurd rfl held

theorem WholeStands.answer (whole : WholeStands dictionary stream taken given context standing)
    (other : ∀ cSize, ¬TakesShortcut capacity stream cSize) :
    ∃ after, Answer (streamMachine blocks dictionary) (streamMachine blocks dictionary)
        (streamStart blocks) capacity (stream.drop taken.length) standing
        (decompressStream blocks context capacity (stream.drop taken.length)) after ∧
      ∀ status, (decompressStream blocks context capacity (stream.drop taken.length)).status =
        .ok status → StreamStands dictionary (decompressStream blocks context capacity
          (stream.drop taken.length)).context after := by
  have impossible : ∀ cSize, ¬SinglePass dictionary capacity (stream.drop taken.length) standing
      cSize := by
    intro cSize single
    rcases whole.settled with ⟨start, rfl⟩ | empty | ⟨stage, inFrame⟩
    · rw [List.length_nil, List.drop_zero, start] at single
      exact other cSize single.takesShortcut
    · rcases single with ⟨positive, -, available⟩
      rw [empty, List.drop_nil, List.length_nil] at available
      omega
    · rcases single with ⟨-, -, -, -, ⟨buffer, size, loaded, stands, -⟩⟩
      rw [stands] at inFrame
      cases inFrame
  cases @decompressStream_answers blocks dictionary capacity (stream.drop taken.length) standing
    context whole.follows.sound whole.stands with
  | answer answer stands => exact ⟨_, answer, stands⟩
  | decoded single => exact absurd single (impossible _)
  | refused single => exact absurd single (impossible _)

theorem WholeStands.step (whole : WholeStands dictionary stream taken given context standing)
    (other : ∀ cSize, ¬TakesShortcut capacity stream cSize) {hint : Nat}
    (unfinished : (decompressStream blocks context capacity (stream.drop taken.length)).status =
      .ok (hint + 1)) :
    ∃ after, WholeStands dictionary stream
      (taken ++ (stream.drop taken.length).take
        (decompressStream blocks context capacity (stream.drop taken.length)).consumed)
      (given ++ (decompressStream blocks context capacity (stream.drop taken.length)).output)
      (decompressStream blocks context capacity (stream.drop taken.length)).context after := by
  rcases whole.answer other with ⟨after, answer, kept⟩
  have stands := kept _ unfinished
  have follows := (whole.follows.step (List.prefix_refl _) answer unfinished).2.2
  refine ⟨after, stands, follows, Or.inr ?_⟩
  -- Only a call that hands nothing on leaves the decoder as it stood.
  have stays : (decompressStream blocks context capacity (stream.drop taken.length)).consumed = 0 →
      after.cursor = standing.cursor → standing ≠ .start (streamStart blocks) →
      stream.drop (taken ++ (stream.drop taken.length).take
        (decompressStream blocks context capacity (stream.drop taken.length)).consumed).length =
          [] ∨ ∃ stage, after.cursor.state = .frame stage := by
    intro nothing same started
    rw [nothing, List.take_zero, List.append_nil, same]
    exact whole.settled.resolve_left fun start => started start.1
  cases answer with
  | starved free gulps needed fits consumed delivered status same =>
      left
      rw [consumed, List.take_length, List.length_append, List.length_drop, List.drop_eq_nil_iff]
      omega
  | clogged full consumed delivered status same =>
      apply stays consumed (by rw [same])
      rintro rfl
      exact absurd full (Nat.not_lt_zero _)
  | overflowed free overflow needed consumed delivered status same =>
      rcases overflow with ⟨-, -, -, -, -, -, -, -, -, -, -, exceeds⟩
      refine Or.inr (stands.frame_of_held ?_)
      rw [same, Ne, List.drop_eq_nil_iff]
      omega
  | withheld free overflow ended consumed delivered status same =>
      rcases overflow with ⟨-, -, -, -, -, -, -, -, -, -, -, exceeds⟩
      refine Or.inr (stands.frame_of_held ?_)
      rw [same, Ne, List.drop_eq_nil_iff]
      omega
  | kept hostage absent fits consumed delivered status same =>
      apply stays consumed (by rw [same])
      rintro rfl
      cases hostage
  | finished _ _ _ _ _ _ status => rw [status] at unfinished; cases unfinished
  | released _ _ _ _ _ status => rw [status] at unfinished; cases unfinished
  | failed status => rw [status] at unfinished; cases unfinished

theorem wholeStands_of_session (uses : zds.dictionary = dictionary)
    (fresh : zds.streamStage = .init) (other : ∀ cSize, ¬TakesShortcut capacity stream cSize)
    (session : WholeSession (decompressStream blocks) zds capacity stream context taken given) :
    ∃ standing, WholeStands dictionary stream taken given context standing := by
  induction session with
  | initial =>
      have needed : (streamMachine blocks dictionary).need (streamStart blocks) ≠ 0 :=
        Nat.succ_ne_zero 4
      exact ⟨_, .init uses fresh, .beginning needed stream, Or.inl ⟨rfl, rfl⟩⟩
  | inside session unfinished induction =>
      rcases induction with ⟨standing, whole⟩
      exact whole.step other unfinished

theorem session_of_shortcut (fresh : zds.streamStage = .init)
    (takes : TakesShortcut capacity stream cSize)
    (session : WholeSession (decompressStream blocks) zds capacity stream context taken given) :
    taken = [] ∧ given = [] ∧
      ((∃ code, decompressUsingDDict blocks zds.dictionary capacity (stream.take cSize) =
          .error code ∧
        (decompressStream blocks context capacity (stream.drop taken.length)).status =
          .error code) ∨
      ∃ content next, decompressUsingDDict blocks zds.dictionary capacity (stream.take cSize) =
          .ok content ∧
        decompressStream blocks context capacity (stream.drop taken.length) =
          ⟨next, cSize, content, .ok 0⟩) := by
  induction session with
  | initial => exact ⟨rfl, rfl, decompressStream_singlePass fresh takes⟩
  | inside session unfinished induction =>
      rcases induction with ⟨-, -, ⟨code, -, status⟩ | ⟨content, next, -, replied⟩⟩
      · cases status.symm.trans unfinished
      · rw [replied] at unfinished
        cases unfinished

/-! ## The contract -/

theorem wholeFormat_reads {frame : Bytes}
    (isFrame : (wholeFormat blocks).Frame dictionary frame content)
    (other : ∀ cSize, ¬TakesShortcut dStreamOutSize stream cSize) (heads : frame <+: stream) :
    (streamMachine blocks (usedDictionary dictionary)).Reads ⟨streamStart blocks, []⟩ frame
      content := by
  rcases isFrame with ⟨magic, dataFrame⟩ | ⟨variant, payload, small, fits, rfl, rfl⟩
  · split at dataFrame
    · rename_i single
      rcases heads with ⟨trailing, rfl⟩
      have reads := reads_of_decompressUsingDDict (readLE32_of_magic magic) dataFrame
      exact absurd (takesShortcut_of_reads magic reads single trailing) (other _)
    · exact dataFrame
  · exact undeclaredMachine_restricts.reads (reads_skippableFrame small fits)

theorem wholeFormat_of_reads {frame : Bytes}
    (reads : (streamMachine blocks (usedDictionary dictionary)).Reads ⟨streamStart blocks, []⟩
      frame content)
    (other : ∀ cSize, ¬TakesShortcut dStreamOutSize stream cSize) (heads : frame <+: stream) :
    (wholeFormat blocks).Frame dictionary frame content := by
  by_cases magic : writeLE32 magicNumber <+: frame
  · refine Or.inl ⟨magic, ?_⟩
    split
    · rename_i single
      rcases heads with ⟨trailing, rfl⟩
      exact absurd (takesShortcut_of_reads magic (streamMachine_restricts.reads reads) single
        trailing) (other _)
    · exact reads
  · exact Or.inr (skippableFrame_of_reads reads magic)

theorem wholeFormat_shortcut {frame : Bytes}
    (isFrame : (wholeFormat blocks).Frame dictionary frame content)
    (takes : TakesShortcut dStreamOutSize stream cSize) (heads : frame <+: stream) :
    frame = stream.take cSize ∧
      decompressUsingDDict blocks (usedDictionary dictionary) dStreamOutSize frame =
        .ok content := by
  rcases heads with ⟨trailing, rfl⟩
  have taken := takes
  rcases takes with ⟨fParams, filled, shortcut⟩
  rcases isFrame with ⟨magic, dataFrame⟩ | ⟨variant, payload, small, fits, rfl, rfl⟩
  · have fit : declaresFit dStreamOutSize frame = true := by
      by_contra unfit
      rw [if_neg unfit] at dataFrame
      rcases header_of_reads (readLE32_of_magic magic) (streamMachine_restricts.reads dataFrame)
        with ⟨header, rest, fParams', rfl, read, -, -⟩
      have again := getFrameHeader_filled_append read (rest ++ trailing)
      rw [← List.append_assoc, filled] at again
      cases again
      exact unfit ((declaresFit_iff (getFrameHeader_filled_append read rest)).mpr
        (singlePassSize_iff.mp shortcut).1)
    rw [if_pos fit] at dataFrame
    have reads := reads_of_decompressUsingDDict (readLE32_of_magic magic) dataFrame
    rw [← taken.unique (takesShortcut_of_reads magic reads fit trailing), List.take_left]
    exact ⟨rfl, dataFrame⟩
  · have magic := (getFrameHeader_filled_frame filled).2.1
    have skippable := isSkippableMagic_variant (by omega : variant < 16)
    rw [← readLE32_skippableFrame small payload trailing, magic,
      isSkippableMagic_magicNumber] at skippable
    cases skippable

/-- The stream decoder of libzstd decodes the frames of this format where it is always
presented with all that is left of a source, and reports the end of a frame for nothing
else, whatever its block decoder. -/
theorem decompressStream_wholeContract (uses : zds.dictionary = usedDictionary dictionary)
    (fresh : zds.streamStage = .init) :
    WholeContract (decompressStream blocks) zds dStreamOutSize
      ((wholeFormat blocks).Frame dictionary) where
  bounded := by
    intro stream context taken given status session replied
    by_cases takes : ∃ cSize, TakesShortcut dStreamOutSize stream cSize
    · rcases takes with ⟨cSize, takes⟩
      rcases session_of_shortcut fresh takes session with
        ⟨rfl, -, ⟨code, -, failed⟩ | ⟨content, next, decoded, equal⟩⟩
      · cases failed.symm.trans replied
      · rw [equal]
        exact ⟨takes.frame.2.1, decompressUsingDDict_length_le decoded⟩
    · rcases wholeStands_of_session uses fresh (not_exists.mp takes) session with
        ⟨standing, whole⟩
      rcases whole.answer (not_exists.mp takes) with ⟨after, answer, -⟩
      cases status with
      | zero =>
          have finish := whole.follows.finish (List.prefix_refl _) answer replied
          exact ⟨finish.2.1, finish.2.2.1⟩
      | succ hint =>
          have step := whole.follows.step (List.prefix_refl _) answer replied
          exact ⟨step.1, step.2.1⟩
  complete := by
    intro stream context taken given frame content session isFrame heads within
    by_cases takes : ∃ cSize, TakesShortcut dStreamOutSize stream cSize
    · rcases takes with ⟨cSize, takes⟩
      rcases wholeFormat_shortcut isFrame takes heads with ⟨rfl, whole⟩
      rw [← uses] at whole
      rcases session_of_shortcut fresh takes session with
        ⟨rfl, rfl, ⟨code, failed, -⟩ | ⟨found, next, decoded, equal⟩⟩
      · cases failed.symm.trans whole
      · cases decoded.symm.trans whole
        rw [equal]
        have length : (stream.take cSize).length = cSize := by
          rw [List.length_take, min_eq_left takes.frame.2.1]
        have made : EagerProgress (stream.take cSize) content [] [] dStreamOutSize stream
            (⟨next, cSize, content, .ok 0⟩ : StreamReply blocks.Entropy) 0 :=
          eagerProgress_of_whole ((Nat.zero_add cSize).trans length.symm) rfl
        exact ⟨0, rfl, made.toFrameProgress⟩
    · have other := not_exists.mp takes
      rcases wholeStands_of_session uses fresh other session with ⟨standing, whole⟩
      rcases whole.answer other with ⟨after, answer, -⟩
      have input : stream.drop taken.length ≠ [] ∨ taken.length = frame.length := by
        have longer := heads.length_le
        rw [Ne, List.drop_eq_nil_iff]
        omega
      rcases whole.follows.progress (.refl _) (List.prefix_refl _)
        (wholeFormat_reads isFrame other heads) heads (by decide) input answer with
        ⟨status, replied, made⟩
      exact ⟨status, replied, made.toFrameProgress⟩
  sound := by
    intro stream context taken given session replied
    by_cases takes : ∃ cSize, TakesShortcut dStreamOutSize stream cSize
    · rcases takes with ⟨cSize, takes⟩
      rcases session_of_shortcut fresh takes session with
        ⟨rfl, rfl, ⟨code, -, failed⟩ | ⟨content, next, decoded, equal⟩⟩
      · cases failed.symm.trans replied
      · rcases takes.frame with ⟨-, -, magic, fits⟩
        rw [equal]
        simp only [List.nil_append, List.length_nil, List.drop_zero]
        refine Or.inl ⟨magic, ?_⟩
        rw [if_pos fits, ← uses]
        exact decoded
    · have other := not_exists.mp takes
      rcases wholeStands_of_session uses fresh other session with ⟨standing, whole⟩
      rcases whole.answer other with ⟨after, answer, -⟩
      have finish := whole.follows.finish (List.prefix_refl _) answer replied
      exact wholeFormat_of_reads finish.2.2.2 other
        (append_isPrefix whole.follows.takenPrefix (List.prefix_refl _) (List.take_prefix _ _))

theorem streamLibrary_wholeContract (blocks : BlockDecoder) :
    (streamLibrary blocks).WholeContract (wholeFormat blocks) where
  decodes := fun prepared =>
    decompressStream_wholeContract (prepared_init prepared).2 (prepared_init prepared).1

end

end ZstdRuby.Libzstd
