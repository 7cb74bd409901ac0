import ZstdRuby.Foundation.DrainedDecoder
import ZstdRuby.Properties.StreamDecoder

/-! # The frames `ZSTD_decompressStream` reads

The words of the stream decoder's unit machine are the skippable frames and the
data frames of a format, so that libzstd with this stream decoder is one of the
libraries the extension's results are about.
-/

namespace ZstdRuby.Libzstd

open Streaming

section

variable {blocks : BlockDecoder} {dictionary : Option Bytes}

/-! ## The format -/

variable (blocks) in
/-- The words of the machine that start with the magic number of data frames. -/
def streamFormat : FrameFormat where
  DataFrame dictionary frame content := writeLE32 magicNumber <+: frame ∧
    (streamMachine blocks (usedDictionary dictionary)).Reads ⟨streamStart blocks, []⟩ frame content
  magic := fun dataFrame => dataFrame.1

variable (blocks) in
/-- Those of them that do not declare the size of their content. -/
def undeclaredFormat : FrameFormat where
  DataFrame dictionary frame content := writeLE32 magicNumber <+: frame ∧
    (undeclaredMachine blocks (usedDictionary dictionary)).Reads ⟨streamStart blocks, []⟩ frame
      content
  magic := fun dataFrame => dataFrame.1

variable (blocks) in
/-- The beginnings of such frames, with the content they tell: nothing, or a whole
header and what follows it. -/
def streamPart (dictionary : Option Bytes) (bytes content : Bytes) : Prop :=
  ∃ cursor, (undeclaredMachine blocks (usedDictionary dictionary)).scanAll
      ⟨streamStart blocks, []⟩ bytes = some (cursor, content) ∧
    cursor.state.need ≠ 0 ∧ (bytes = [] ∨ ∃ stage, cursor.state = .frame stage)

theorem feedStream_wanted {buffer unit : Bytes} {size wantedSize : Nat}
    (wanted : getFrameHeader (buffer ++ unit) = .ok (.wanted wantedSize)) :
    (undeclaredMachine blocks dictionary).feed (.header buffer size) unit =
      .ok (.header (buffer ++ unit) wantedSize, []) := by
  simp only [undeclaredMachine, UnitMachine.refeed, feedUndeclared, feedStream, wanted, bind,
    Except.bind, pure, Except.pure]

theorem feedStream_start {unit : Bytes} {size : Nat}
    (wanted : getFrameHeader unit = .ok (.wanted size)) :
    (undeclaredMachine blocks dictionary).feed (streamStart blocks) unit =
      .ok (.header unit size, []) :=
  @feedStream_wanted blocks dictionary [] unit startingInputLength size wanted

theorem feedStream_filled {buffer unit : Bytes} {size : Nat} {header : FrameHeader}
    {stage : DecodeStage blocks.Entropy}
    (filled : getFrameHeader (buffer ++ unit) = .ok (.filled header))
    (consumed : consumeHeader blocks dictionary header = .ok stage) :
    (streamMachine blocks dictionary).feed (.header buffer size) unit =
      .ok (.frame stage, []) := by
  simp only [streamMachine, feedStream, filled, consumed, bind, Except.bind, pure, Except.pure]

theorem feedUndeclared_filled {buffer unit : Bytes} {size : Nat} {header : FrameHeader}
    {stage : DecodeStage blocks.Entropy}
    (filled : getFrameHeader (buffer ++ unit) = .ok (.filled header))
    (undeclared : header.declaresSize = false)
    (consumed : consumeHeader blocks dictionary header = .ok stage) :
    (undeclaredMachine blocks dictionary).feed (.header buffer size) unit =
      .ok (.frame stage, []) := by
  rw [← @feedStream_filled _ _ _ _ size _ _ filled consumed]
  simp only [undeclaredMachine, UnitMachine.refeed, feedUndeclared, filled, undeclared,
    Bool.false_eq_true, if_false]
  rfl

theorem reads_skippableFrame {variant : Nat} {payload : Bytes} (small : variant ≤ 15)
    (fits : payload.length < 2 ^ 32) :
    (undeclaredMachine blocks dictionary).Reads ⟨streamStart blocks, []⟩
      (skippableFrame variant payload) [] := by
  have length : (writeLE32 (magicSkippableStart + variant) ++
      writeLE32 payload.length).length = 8 := by
    rw [List.length_append, writeLE32_length, writeLE32_length]
  have magic : readLE32 (writeLE32 (magicSkippableStart + variant) ++
      writeLE32 payload.length) = magicSkippableStart + variant := by
    rw [readLE32_writeLE32, Nat.mod_eq_of_lt]
    simp only [magicSkippableStart]
    omega
  have size : readLE32 ((writeLE32 (magicSkippableStart + variant) ++
      writeLE32 payload.length).drop frameIdSize) = payload.length := by
    rw [List.drop_left' (by rw [writeLE32_length, frameIdSize])]
    have read := readLE32_writeLE32 payload.length []
    rwa [List.append_nil, Nat.mod_eq_of_lt fits] at read
  generalize headerEq : writeLE32 (magicSkippableStart + variant) ++
    writeLE32 payload.length = header at length magic size
  have skippable : isSkippableMagic (readLE32 header) = true :=
    magic ▸ isSkippableMagic_variant (by omega)
  have split : header.take 5 ++ header.drop 5 = header := List.take_append_drop 5 header
  have frontLength : (header.take 5).length = 5 := by
    rw [List.length_take]
    omega
  have frontSkippable : isSkippableMagic (readLE32 (header.take 5)) = true := by
    rwa [← readLE32_append (header.drop 5) (by omega), split]
  have wanted : getFrameHeader (header.take 5) = .ok (.wanted skippableHeaderSize) := by
    rw [getFrameHeader_skippable (by rw [frontLength]; decide) frontSkippable,
      if_pos (by rw [frontLength]; decide)]
  have filled : getFrameHeader (header.take 5 ++ header.drop 5) =
      .ok (.filled (.skippable (readLE32 header - magicSkippableStart) payload.length)) := by
    rw [split, getFrameHeader_skippable (by rw [length]; decide) skippable,
      if_neg (by rw [length]; decide), size]
  have body : (undeclaredMachine blocks dictionary).Reads
      ⟨.frame (.skipFrame payload.length), []⟩ payload [] := by
    by_cases empty : payload.length = 0
    · rw [List.length_eq_zero_iff.mp empty]
      exact .ended rfl
    · have reads : (undeclaredMachine blocks dictionary).Reads
          ⟨.frame (.skipFrame payload.length), []⟩ (payload ++ []) ([] ++ []) :=
        .of_unit empty rfl rfl (.ended rfl)
      rwa [List.append_nil] at reads
  have reads := reads_of_header rfl frontLength (by rw [split, length]; rfl)
    (by decide : startingInputLength < skippableHeaderSize) (feedStream_start wanted)
    (feedUndeclared_filled filled rfl rfl) body
  rwa [← List.append_assoc, split, ← headerEq] at reads

theorem skippableFrame_of_reads {frame content : Bytes}
    (reads : (streamMachine blocks dictionary).Reads ⟨streamStart blocks, []⟩ frame content)
    (other : ¬writeLE32 magicNumber <+: frame) : FrameFormat.SkippableFrame frame content := by
  rcases reads.unit (by change startingInputLength - 0 ≠ 0; decide) with
    ⟨front, rest, next, output, more, rfl, frontLength, fed, rfl, readsRest⟩
  have frontLength : front.length = 5 := frontLength
  have different : readLE32 front ≠ magicNumber := by
    intro magic
    apply other
    rw [← magic, writeLE32_readLE32 (by omega)]
    exact (List.take_prefix 4 front).trans (List.prefix_append _ _)
  have long : ¬front.length < startingInputLength := by
    rw [frontLength]
    decide
  by_cases skippable : isSkippableMagic (readLE32 front) = true
  · have wanted := getFrameHeader_skippable long skippable
    rw [if_pos (by rw [frontLength]; decide)] at wanted
    rw [undeclaredMachine_restricts.feed (feedStream_start wanted)] at fed
    cases fed
    rcases readsRest.unit
      (by change skippableHeaderSize - front.length ≠ 0; rw [frontLength]; decide)
      with ⟨back, payload, next, output, more, rfl, backLength, fed, rfl, readsPayload⟩
    have backLength : back.length = 3 := by
      rw [show back.length = skippableHeaderSize - front.length from backLength, frontLength]
      rfl
    have length : (front ++ back).length = 8 := by
      rw [List.length_append]
      omega
    have sameMagic := readLE32_append back (by omega : 4 ≤ front.length)
    have filled := @getFrameHeader_skippable (front ++ back)
      (by rw [length]; decide) (sameMagic ▸ skippable)
    rw [if_neg (by rw [length]; decide), sameMagic] at filled
    rw [feedStream_filled filled rfl] at fed
    cases fed
    have header := eq_writeLE32_writeLE32 length
    rw [sameMagic] at header
    have body : payload.length = readLE32 ((front ++ back).drop frameIdSize) ∧ more = [] := by
      by_cases empty : readLE32 ((front ++ back).drop frameIdSize) = 0
      · have nothing := readsPayload.eq_nil empty
        rw [nothing.1, empty]
        exact ⟨rfl, nothing.2⟩
      · rcases readsPayload.unit empty with
          ⟨unit, rest, next, output, more, rfl, unitLength, fed, rfl, readsEnd⟩
        cases fed
        have nothing := readsEnd.eq_nil rfl
        rw [nothing.1, List.append_nil, nothing.2]
        exact ⟨unitLength, rfl⟩
    rcases isSkippableMagic_inv (readLE32_lt front) skippable with ⟨variant, small, equal⟩
    refine ⟨variant, payload, by omega, body.1 ▸ readLE32_lt _, ?_, by simp [body.2]⟩
    rw [skippableFrame, ← equal, body.1, ← header, List.append_assoc]
  · have unknown := getFrameHeader_unknown long different skippable
    simp [streamMachine, feedStream, streamStart, unknown, bind, Except.bind] at fed

/-- The machine reads the complete frames of its format, and nothing else. -/
theorem undeclaredFormat_frame_iff (dictionary : Option Bytes) (frame content : Bytes) :
    (undeclaredFormat blocks).Frame dictionary frame content ↔
      (undeclaredMachine blocks (usedDictionary dictionary)).Reads ⟨streamStart blocks, []⟩ frame
        content := by
  constructor
  · rintro (dataFrame | ⟨variant, payload, small, fits, rfl, rfl⟩)
    · exact dataFrame.2
    · exact reads_skippableFrame small fits
  · intro reads
    by_cases magic : writeLE32 magicNumber <+: frame
    · exact Or.inl ⟨magic, reads⟩
    · exact Or.inr (skippableFrame_of_reads (undeclaredMachine_restricts.reads reads) magic)

theorem frame_of_scan {stage : DecodeStage blocks.Entropy} {loaded output : Bytes}
    {element : UInt8} {next : Cursor (StreamState blocks.Entropy) UInt8}
    (scanned : (streamMachine blocks dictionary).scan ⟨.frame stage, loaded⟩ element =
      some (next, output)) : ∃ stage, next.state = .frame stage := by
  simp only [UnitMachine.scan, UnitMachine.feedUnit] at scanned
  split at scanned
  · cases scanned
  · split at scanned
    · simp only [streamMachine, feedStream] at scanned
      cases continued : decompressContinue blocks stage (loaded ++ [element]) with
      | error code => simp [continued, bind, Except.bind] at scanned
      | ok reached =>
          simp only [continued, bind, Except.bind, pure, Except.pure, Option.some.injEq,
            Prod.mk.injEq] at scanned
          exact ⟨reached.1, scanned.1 ▸ rfl⟩
    · cases scanned
      exact ⟨stage, rfl⟩

theorem scanAll_frame_undeclared {stage : DecodeStage blocks.Entropy} {loaded : Bytes}
    (elements : Bytes) :
    (undeclaredMachine blocks dictionary).scanAll ⟨.frame stage, loaded⟩ elements =
      (streamMachine blocks dictionary).scanAll ⟨.frame stage, loaded⟩ elements := by
  induction elements generalizing stage loaded with
  | nil => rfl
  | cons element rest induction =>
      have same : (undeclaredMachine blocks dictionary).scan ⟨.frame stage, loaded⟩ element =
          (streamMachine blocks dictionary).scan ⟨.frame stage, loaded⟩ element := rfl
      rw [UnitMachine.scanAll, UnitMachine.scanAll, same]
      cases scanned : (streamMachine blocks dictionary).scan ⟨.frame stage, loaded⟩ element with
      | none => rfl
      | some reached =>
          rcases reached with ⟨⟨state, loaded⟩, output⟩
          rcases frame_of_scan scanned with ⟨next, equal⟩
          simp only at equal
          subst equal
          simp only [induction]

theorem undeclaredFormat_of_streamPart {bytes content word more : Bytes}
    (part : streamPart blocks dictionary bytes content) (nonempty : bytes ≠ [])
    (dataFrame : (streamFormat blocks).DataFrame dictionary word more) (begins : bytes <+: word) :
    (undeclaredFormat blocks).DataFrame dictionary word more := by
  refine ⟨dataFrame.1, ?_⟩
  rcases part with ⟨⟨state, loaded⟩, scanned, -, empty | ⟨stage, rfl⟩⟩
  · exact absurd empty nonempty
  · rcases begins with ⟨rest, rfl⟩
    rcases dataFrame.2 with ⟨last, whole, ended⟩
    rcases UnitMachine.scanAll_append_inv whole with ⟨middle, first, second, left, right, rfl⟩
    rw [undeclaredMachine_restricts.scanAll scanned] at left
    cases left
    exact ⟨last, UnitMachine.scanAll_append_some scanned
      ((scanAll_frame_undeclared rest).trans right), ended⟩

theorem prepared_init {dctx : DStream blocks.Entropy}
    (prepared : (streamLibrary blocks).Prepared dictionary dctx) :
    dctx.streamStage = .init ∧ dctx.dictionary = usedDictionary dictionary := by
  induction prepared with
  | create created =>
      cases created
      exact ⟨rfl, rfl⟩
  | reset prepared induction => exact ⟨rfl, induction.2⟩
  | reference prepared referenced induction =>
      simp only [streamLibrary, induction.1, ne_eq, not_true_eq_false, if_false,
        Except.ok.injEq] at referenced
      subst referenced
      exact ⟨rfl, rfl⟩
  | load prepared loaded induction =>
      simp only [streamLibrary, induction.1, ne_eq, not_true_eq_false, if_false,
        Except.ok.injEq] at loaded
      subst loaded
      exact ⟨rfl, rfl⟩

theorem streamLibrary_accepts (blocks : BlockDecoder) (dictionary : Option Bytes) :
    (streamLibrary blocks).Accepts dictionary where
  creates := ⟨_, rfl⟩
  references := fun prepared _ => ⟨_, by
    simp only [streamLibrary, (prepared_init prepared).1, ne_eq, not_true_eq_false, if_false]
    rfl⟩
  loads := fun prepared _ => ⟨_, by
    simp only [streamLibrary, (prepared_init prepared).1, ne_eq, not_true_eq_false, if_false]
    rfl⟩

theorem decompressStream_nil {dctx : DStream blocks.Entropy}
    (prepared : (streamLibrary blocks).Prepared dictionary dctx) (capacity : Nat) :
    ∃ hint next, decompressStream blocks dctx capacity [] = ⟨next, 0, [], .ok hint⟩ := by
  rcases dctx with ⟨dictionary, stage, headerBuffer, frame, inBuff, outBuff, hostage, stuck⟩
  have fresh := (prepared_init prepared).1
  simp only at fresh
  subst fresh
  exact ⟨_, _, rfl⟩

theorem decompressStream_drainsTo_iff {dctx : DStream blocks.Entropy}
    (prepared : (streamLibrary blocks).Prepared dictionary dctx) {bytes content : Bytes}
    (part : streamPart blocks dictionary bytes content) {word more : Bytes}
    (dataFrame : (streamFormat blocks).DataFrame dictionary word more) (begins : bytes <+: word)
    (given : Bytes) :
    DrainsTo (streamLibrary blocks).decompressStream dctx bytes given ↔ given = content := by
  have fresh := prepared_init prepared
  have unit := streamDecoder dctx fresh.2 fresh.1
  have reads : (streamMachine blocks (usedDictionary dictionary)).ReadsPart (streamStart blocks)
      bytes content := by
    rcases part with ⟨cursor, scanned, needed, -⟩
    exact ⟨cursor, undeclaredMachine_restricts.scanAll scanned, needed⟩
  by_cases empty : bytes = []
  · subst empty
    have someWord := @reads_skippableFrame blocks (usedDictionary dictionary) 0 []
      (Nat.zero_le 15) (by decide)
    constructor
    · exact fun drains => unit.content_of_drainsTo reads someWord List.nil_prefix drains
    · rintro rfl
      rcases reads with ⟨cursor, scanned, -⟩
      cases scanned
      rcases decompressStream_nil prepared 1 with ⟨hint, next, called⟩
      refine ⟨dctx, [], [], 1, [], hint, .initial _, List.prefix_refl _, ?_, ?_, ?_, ?_⟩
      all_goals simp [streamLibrary, called]
  · have word := (undeclaredFormat_of_streamPart part empty dataFrame begins).2
    constructor
    · exact fun drains => unit.content_of_drainsTo reads word begins drains
    · rintro rfl
      exact unit.drainsTo reads empty word begins

/-- The stream decoder of libzstd satisfies the eager contract for the frames that do not
declare the size of their content, whatever its block decoder. -/
theorem streamLibrary_eagerContract (blocks : BlockDecoder) :
    (streamLibrary blocks).EagerContract (undeclaredFormat blocks) where
  decodes := by
    intro dictionary dctx prepared
    have fresh := prepared_init prepared
    have same : (undeclaredFormat blocks).Frame dictionary =
        (undeclaredMachine blocks (usedDictionary dictionary)).Reads ⟨streamStart blocks, []⟩ := by
      funext frame content
      exact propext (undeclaredFormat_frame_iff dictionary frame content)
    rw [same]
    exact (streamDecoder dctx fresh.2 fresh.1).eagerContract

end

end ZstdRuby.Libzstd
