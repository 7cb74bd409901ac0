import ZstdRuby.Foundation.FrameSequence
import ZstdRuby.Foundation.Run
import ZstdRuby.Properties.StreamingDecompress
import ZstdRuby.Properties.WholeFrames

/-! # Flushed data

`decompress` leaves its loop when its input is used up, without asking whether
libzstd has filled the output buffer. And where an earlier call has begun a header,
libzstd may take the chunk for the whole frame. The results say for which chunks all
blocks that have been received have been returned.
-/

namespace ZstdRuby

open Libzstd Streaming

variable {blocks : BlockDecoder} {dictionary : Option Bytes}

/-! ## Block boundaries -/

/-- No block is partially received: a block header comes next, or the checksum. -/
def AtBlockBoundary (cursor : Cursor (StreamState blocks.Entropy) UInt8) : Prop :=
  cursor.loaded = [] ∧ ∃ frame, cursor.state = .frame (.decodeBlockHeader frame) ∨
    cursor.state = .frame (.checkChecksum frame)

theorem AtBlockBoundary.goesOn {cursor next : Cursor (StreamState blocks.Entropy) UInt8}
    {element : UInt8} {output : Bytes} (boundary : AtBlockBoundary cursor)
    (scanned : (formatMachine blocks dictionary).scan cursor element = some (next, output)) :
    (formatMachine blocks dictionary).need next.state ≠ 0 := by
  rcases cursor with ⟨state, loaded⟩
  rcases boundary with ⟨rfl, frame, rfl | rfl⟩
  · cases scanned
    exact Nat.succ_ne_zero 2
  · cases scanned
    exact Nat.succ_ne_zero 3

/-! ## Headers in two parts -/

/-- The chunk completes a header that an earlier call has begun, of a frame whose
content fits into the output buffer, and where the chunk begins the library finds a
whole frame. It then decodes that one. -/
def CutsHeader (dctx : DStream blocks.Entropy) (chunk : Bytes) : Prop :=
  dctx.streamStage = .loadHeader ∧ dctx.headerBuffer ≠ [] ∧ ∃ fParams size cSize,
    getFrameHeader (dctx.headerBuffer ++ chunk) = .ok (.filled (.frame fParams)) ∧
    fParams.frameContentSize = some size ∧ size ≤ dStreamOutSize ∧
    findFrameCompressedSize chunk = some cSize ∧ cSize ≤ chunk.length

section

variable {source : Bytes} {dctx : DStream blocks.Entropy} {before : StreamStanding blocks}

theorem not_cutsHeader_nil : ¬CutsHeader dctx [] := by
  rintro ⟨-, -, fParams, size, cSize, -, -, -, found, -⟩
  cases found

theorem not_cutsHeader_of_settled (stands : StreamStands dictionary dctx before)
    (settled : before = .start (streamStart blocks) ∨ before.held ≠ []) :
    ¬CutsHeader dctx source := by
  rintro ⟨stage, nonempty, -⟩
  cases stands with
  | init _ other => cases stage.symm.trans other
  | read _ other => cases stage.symm.trans other
  | load _ other => cases stage.symm.trans other
  | flush _ other => cases stage.symm.trans other
  | loadHeader _ _ header =>
      rcases settled with start | held
      · cases start
        exact nonempty header
      · exact held rfl

theorem singlePass_start (stands : StreamStands dictionary dctx before) {cSize : Nat}
    (single : SinglePass dictionary dStreamOutSize source before cSize)
    (apart : ¬CutsHeader dctx source) : before = .start (streamStart blocks) := by
  rcases single with @⟨_, _, _, ip, toLoad, contentSize, fParams, -, -, -, filled,
    ⟨buffer, size, loaded, begun, header⟩, declared, fits, found, within, -⟩
  rw [header] at filled
  have whole := getFrameHeader_filled_append filled (source.drop (ip + toLoad))
  rw [List.append_assoc, List.take_append_drop] at whole
  cases stands with
  | init => rfl
  | loadHeader _ stage headerBuffer wanted =>
      cases begun
      by_cases nothing : buffer ++ loaded = []
      · rw [headerBuffer, nothing] at wanted
        rcases List.append_eq_nil_iff.mp nothing with ⟨rfl, rfl⟩
        cases wanted
        rfl
      · rw [← headerBuffer] at nothing whole
        exact absurd ⟨stage, nothing, _, _, _, whole, declared, fits, found, within⟩ apart
  | read => cases begun
  | load => cases begun
  | flush => cases begun

theorem decompressStream_formatAnswer
    (sound : (formatMachine blocks dictionary).Sound before.cursor)
    (stands : StreamStands dictionary dctx before) (apart : ¬CutsHeader dctx source) {status : Nat}
    (replied : (decompressStream blocks dctx dStreamOutSize source).status = .ok status) :
    ∃ after, Answer (formatMachine blocks dictionary) (streamMachine blocks dictionary)
        (streamStart blocks) dStreamOutSize source before
        (decompressStream blocks dctx dStreamOutSize source) after ∧
      StreamStands dictionary (decompressStream blocks dctx dStreamOutSize source).context
        after := by
  have streamSound : (streamMachine blocks dictionary).Sound before.cursor :=
    ⟨sound.short, sound.ended, sound.streamed⟩
  cases @decompressStream_answers blocks dictionary dStreamOutSize source before dctx streamSound
    stands with
  | answer answer stands' =>
      exact ⟨_, answer.widen streamMachine_restricts, stands' status replied⟩
  | @decoded zds cSize content single decoded stands' equal =>
      cases singlePass_start stands single apart
      rcases single.takesShortcut.frame with ⟨-, within, magic, -⟩
      have reads := reads_of_decompressUsingDDict (readLE32_of_magic magic) decoded
      rcases UnitMachine.Gulps.refl.append_reads sound reads (List.take_prefix cSize source) with
        ⟨last, gulps, ended⟩
      rw [equal]
      refine ⟨_, .finished rfl gulps ended (decompressUsingDDict_length_le decoded) ?_ rfl rfl rfl,
        stands'⟩
      rw [List.nil_append, List.length_take, min_eq_left within]
  | refused _ _ status => cases status.symm.trans replied

theorem not_cutsHeader_rest {after : StreamStanding blocks}
    (stands : StreamStands dictionary (decompressStream blocks dctx dStreamOutSize source).context
      after)
    (answer : Answer (formatMachine blocks dictionary) (streamMachine blocks dictionary)
      (streamStart blocks) dStreamOutSize source before
      (decompressStream blocks dctx dStreamOutSize source) after) {status : Nat}
    (replied : (decompressStream blocks dctx dStreamOutSize source).status = .ok status) :
    ¬CutsHeader (decompressStream blocks dctx dStreamOutSize source).context
      (source.drop (decompressStream blocks dctx dStreamOutSize source).consumed) := by
  by_cases unused : (decompressStream blocks dctx dStreamOutSize source).consumed < source.length
  · exact not_cutsHeader_of_settled stands (answer.settled_of_unused replied unused)
  · rw [List.drop_eq_nil_iff.mpr (not_lt.mp unused)]
    exact not_cutsHeader_nil

end

/-! ## One call -/

/-- The condition on a chunk, from where the decoder stands: no frame ends
inside it before anything of the frame has been returned by the call that ends
it, and if it ends at a block boundary, then the output of its last read does not go
past the end of an output buffer. -/
abbrev KeepsUpFrom (dictionary : Option Bytes) (standing : StreamStanding blocks)
    (chunk : Bytes) : Prop :=
  standing.KeepsUp (formatMachine blocks dictionary) (streamStart blocks) AtBlockBoundary
    dStreamOutSize chunk

/-- Where the context of a stream stands that has received and returned
something. -/
def StandsAfter (dictionary : Option Bytes) (stream received returned : Bytes)
    (dctx : DStream blocks.Entropy) (standing : StreamStanding blocks) : Prop :=
  StreamStands dictionary dctx standing ∧
    FollowsFrames (formatMachine blocks dictionary) (streamStart blocks) stream received returned
      standing

section

variable {stream received returned source input : Bytes} {dctx : DStream blocks.Entropy}
  {standing : StreamStanding blocks} {fuel : Nat}

theorem streamStart_needed : (formatMachine blocks dictionary).need (streamStart blocks) ≠ 0 := by
  change startingInputLength - 0 ≠ 0
  decide

theorem StandsAfter.call (stands : StandsAfter dictionary stream received returned dctx standing)
    (presented : source <+: stream.drop received.length) (apart : ¬CutsHeader dctx source)
    {status : Nat} (replied : (decompressStream blocks dctx dStreamOutSize source).status =
      .ok status) :
    ∃ after, Answer (formatMachine blocks dictionary) (streamMachine blocks dictionary)
        (streamStart blocks) dStreamOutSize source standing
        (decompressStream blocks dctx dStreamOutSize source) after ∧
      (decompressStream blocks dctx dStreamOutSize source).consumed ≤ source.length ∧
      StandsAfter dictionary stream
        (received ++ source.take (decompressStream blocks dctx dStreamOutSize source).consumed)
        (returned ++ (decompressStream blocks dctx dStreamOutSize source).output)
        (decompressStream blocks dctx dStreamOutSize source).context after := by
  rcases stands with ⟨stands, follows⟩
  rcases decompressStream_formatAnswer follows.sound stands apart replied with
    ⟨after, answer, kept⟩
  have next := follows.call streamStart_needed presented answer replied
  exact ⟨after, answer, next.1, kept, next.2⟩

theorem decompressLoop_keepsUp
    (stands : StandsAfter dictionary stream received returned dctx standing)
    (presented : input <+: stream.drop received.length)
    (apart : ¬CutsHeader dctx input) (keepsUp : KeepsUpFrom dictionary standing input)
    {outcome : StreamingOutcome (DStream blocks.Entropy) Bytes}
    (ran : Loop.run (decompressPass (streamLibrary blocks) input) fuel ⟨dctx, 0, []⟩ =
      some outcome) :
    ∀ output, outcome.result = .ok output → ∃ after,
      StandsAfter dictionary stream (received ++ input) (returned ++ output) outcome.dctx after ∧
      KeepsUpFrom dictionary after [] := by
  refine Loop.run_ensures
    (fun state => state.pos ≤ input.length ∧ ∃ current,
      StandsAfter dictionary stream (received ++ input.take state.pos) (returned ++ state.out)
        state.dctx current ∧
      ¬CutsHeader state.dctx (input.drop state.pos) ∧
      KeepsUpFrom dictionary current (input.drop state.pos))
    (fun outcome => ∀ output, outcome.result = .ok output → ∃ after,
      StandsAfter dictionary stream (received ++ input) (returned ++ output) outcome.dctx after ∧
      KeepsUpFrom dictionary after []) ?_
    ⟨Nat.zero_le _, standing, by simpa using stands, by simpa using apart,
      by simpa using keepsUp⟩ ran
  rintro state ⟨within, current, stands, apart, keepsUp⟩
  by_cases available : state.pos < input.length
  · have nonempty : input.drop state.pos ≠ [] := by
      rw [Ne, List.drop_eq_nil_iff]
      omega
    have presentedRest : input.drop state.pos <+:
        stream.drop (received ++ input.take state.pos).length := by
      rw [List.length_append, List.length_take, min_eq_left within, ← List.drop_drop]
      exact presented.drop _
    cases replied : (decompressReply (streamLibrary blocks) input state).status with
    | error code =>
        rw [decompressPass_failed available replied]
        rintro output ⟨⟩
    | ok status =>
        rcases stands.call presentedRest apart replied with ⟨after, answer, bound, stands'⟩
        have apart' := not_cutsHeader_rest stands'.1 answer replied
        have kept := keepsUp.call (by decide) stands.2 nonempty answer replied
        rw [List.append_assoc, ← List.take_add, List.append_assoc] at stands'
        rw [List.drop_drop] at kept apart'
        rw [List.length_drop] at bound
        rw [decompressPass_replied available replied]
        split
        · rename_i silent
          rintro output ⟨⟩
          have reached := List.drop_eq_nil_iff.mp (kept.2 silent.1 silent.2)
          rw [List.take_of_length_le reached] at stands'
          exact ⟨after, stands', (kept.2 silent.1 silent.2) ▸ kept.1⟩
        · exact ⟨by simp only [decompressReply, streamLibrary]; omega, after, stands', apart',
            kept.1⟩
  · have whole : state.pos = input.length := by omega
    rw [decompressPass_exhausted available]
    rintro output ⟨⟩
    rw [whole, List.take_length] at stands
    rw [whole, List.drop_length] at keepsUp
    exact ⟨current, stands, keepsUp⟩

end

/-! ## Runs -/

def DecompressCall.src : DecompressCall → Value
  | decompress src => src
  | decompressWithPos src => src

/-- A stream, with everything its calls have received and returned, and whether the
library has failed in one of them. -/
structure FeedProgress (DCtx : Type) where
  dctx : DCtx
  received : Bytes
  returned : Bytes
  failed : Bool

/-- A call, with the next bytes of a sequence where it returns normally. What
`decompress_with_pos` does not consume it has not received. -/
inductive Receives {DCtx : Type} (library : DecompressLibrary DCtx) (stream : Bytes)
    (before : FeedProgress DCtx) : DecompressCall → FeedProgress DCtx → Prop
  | decompress {src : Value} {chunk output : Bytes} {next : DCtx} {pos : Nat}
      (converted : src.stringValue = .ok chunk)
      (presented : chunk <+: stream.drop before.received.length)
      (settles : Settles (fun fuel => rbStreamingDecompressDecompress library fuel before.dctx src)
        ⟨.ok output, next, pos⟩) :
      Receives library stream before (.decompress src)
        ⟨next, before.received ++ chunk, before.returned ++ output, before.failed⟩
  | decompressWithPos {src : Value} {chunk output : Bytes} {next : DCtx} {pos pos' : Nat}
      (converted : src.stringValue = .ok chunk)
      (presented : chunk <+: stream.drop before.received.length)
      (returns : rbStreamingDecompressDecompressWithPos library before.dctx src =
        ⟨.ok (output, pos), next, pos'⟩) :
      Receives library stream before (.decompressWithPos src)
        ⟨next, before.received ++ chunk.take pos, before.returned ++ output, before.failed⟩
  -- An argument that is no string is refused before the library is called.
  | raises {call : DecompressCall} {raised : RubyError} {next : DCtx}
      (settles : Settles (fun fuel => call.run library fuel before.dctx) (.error raised, next)) :
      Receives library stream before call
        ⟨next, before.received, before.returned, before.failed || call.src.stringValue.isOk⟩

/-- The condition on a call: the library has not failed before, the chunk does not cut a
header, and the chunk of a `decompress` keeps up. -/
structure KeepsUpWith (dictionary : Option Bytes) (before : FeedProgress (DStream blocks.Entropy))
    (call : DecompressCall) : Prop where
  works : before.failed = false
  apart : ∀ chunk, call.src.stringValue = .ok chunk → ¬CutsHeader before.dctx chunk
  keepsUp : ∀ src chunk standing, call = .decompress src → src.stringValue = .ok chunk →
    StreamStands dictionary before.dctx standing → KeepsUpFrom dictionary standing chunk

def ReceivesKeepingUp (dictionary : Option Bytes) (stream : Bytes)
    (before : FeedProgress (DStream blocks.Entropy)) (call : DecompressCall)
    (after : FeedProgress (DStream blocks.Entropy)) : Prop :=
  Receives (streamLibrary blocks) stream before call after ∧ KeepsUpWith dictionary before call

section

variable {stream : Bytes} {before after : FeedProgress (DStream blocks.Entropy)}
  {call : DecompressCall} {standing : StreamStanding blocks}

theorem run_unconverted {DCtx : Type} {library : DecompressLibrary DCtx} {dctx next : DCtx}
    {result : Except RubyError Unit} {raised : RubyError}
    (refused : call.src.stringValue = .error raised)
    (settles : Settles (fun fuel => call.run library fuel dctx) (result, next)) : next = dctx := by
  rcases settles with ⟨enough, settles⟩
  have returned := settles enough le_rfl
  cases call with
  | decompress src =>
      have refused : src.stringValue = .error raised := refused
      simp only [DecompressCall.run, rbStreamingDecompressDecompress, refused, Option.map_some,
        Option.some.injEq, Prod.mk.injEq] at returned
      exact returned.2.symm
  | decompressWithPos src =>
      have refused : src.stringValue = .error raised := refused
      simp only [DecompressCall.run, rbStreamingDecompressDecompressWithPos, refused,
        Option.some.injEq, Prod.mk.injEq] at returned
      exact returned.2.symm

theorem decompress_standsAfter {src : Value} {chunk output : Bytes}
    {next : DStream blocks.Entropy} {pos : Nat}
    (stands : StandsAfter dictionary stream before.received before.returned before.dctx standing)
    (keepsUp : KeepsUpWith dictionary before (.decompress src))
    (converted : src.stringValue = .ok chunk)
    (presented : chunk <+: stream.drop before.received.length)
    (settles : Settles (fun fuel => rbStreamingDecompressDecompress (streamLibrary blocks) fuel
      before.dctx src) ⟨.ok output, next, pos⟩) :
    ∃ after, StandsAfter dictionary stream (before.received ++ chunk) (before.returned ++ output)
        next after ∧ KeepsUpFrom dictionary after [] := by
  rcases settles with ⟨enough, settles⟩
  have returned := settles enough le_rfl
  simp only [rbStreamingDecompressDecompress, converted] at returned
  exact decompressLoop_keepsUp stands presented (keepsUp.apart _ converted)
    (keepsUp.keepsUp _ _ standing rfl converted stands.1) returned _ rfl

theorem Receives.standsAfter (receives : Receives (streamLibrary blocks) stream before call after)
    (stands : StandsAfter dictionary stream before.received before.returned before.dctx standing)
    (keepsUp : KeepsUpWith dictionary before call) (works : after.failed = false) :
    ∃ next, StandsAfter dictionary stream after.received after.returned after.dctx next := by
  cases receives with
  | decompress converted presented settles =>
      rcases decompress_standsAfter stands keepsUp converted presented settles with
        ⟨next, stands', -⟩
      exact ⟨next, stands'⟩
  | @decompressWithPos src chunk output next pos pos' converted presented returns =>
      simp only [rbStreamingDecompressDecompressWithPos, converted] at returns
      cases replied : ((streamLibrary blocks).decompressStream before.dctx dStreamOutSize
          chunk).status with
      | error code => simp [replied] at returns
      | ok status =>
          simp only [replied, StreamingOutcome.mk.injEq, Except.ok.injEq, Prod.mk.injEq] at returns
          rcases returns with ⟨⟨rfl, rfl⟩, rfl, -⟩
          rcases stands.call presented (keepsUp.apart _ converted) replied with
            ⟨next, -, -, stands'⟩
          exact ⟨next, stands'⟩
  | raises settles =>
      cases refused : call.src.stringValue with
      | ok chunk => simp [refused, Except.isOk, Except.toBool] at works
      | error raised =>
          rw [run_unconverted refused settles]
          exact ⟨standing, stands⟩

end

/-- After every run whose calls keep up, a `decompress` that keeps up and ends at a
block boundary completes what the received blocks hold. -/
theorem streamingDecompress_returnsReceived {kwargs : Kwargs}
    {dctx next : DStream blocks.Entropy} {stream chunk output content : Bytes}
    {calls : List DecompressCall} {before : FeedProgress (DStream blocks.Entropy)} {src : Value}
    {pos : Nat} {cursor : Cursor (StreamState blocks.Entropy) UInt8}
    (initialized : rbStreamingDecompressInitialize (streamLibrary blocks) kwargs = .ok dctx)
    (run : Run (ReceivesKeepingUp (usedDictionary (decompressDictionary kwargs)) stream)
      ⟨dctx, [], [], false⟩ calls before)
    (keepsUp : KeepsUpWith (usedDictionary (decompressDictionary kwargs)) before
      (.decompress src))
    (converted : src.stringValue = .ok chunk)
    (presented : chunk <+: stream.drop before.received.length)
    (settles : Settles (fun fuel => rbStreamingDecompressDecompress (streamLibrary blocks) fuel
      before.dctx src) ⟨.ok output, next, pos⟩)
    (received : (formatMachine blocks (usedDictionary (decompressDictionary kwargs))).scanFrames
      (streamStart blocks) ⟨streamStart blocks, []⟩ (before.received ++ chunk) =
        some (cursor, content))
    (boundary : AtBlockBoundary cursor) : before.returned ++ output = content := by
  have fresh := prepared_init (rbStreamingDecompressInitialize_prepared initialized)
  have kept : before.failed = false → ∃ standing, StandsAfter
      (usedDictionary (decompressDictionary kwargs)) stream before.received before.returned
      before.dctx standing := by
    clear keepsUp presented settles received
    induction run with
    | nil =>
        intro works
        exact ⟨.start (streamStart blocks), .init fresh.2 fresh.1,
          .beginning streamStart_needed stream⟩
    | snoc run taken induction =>
        intro works
        rcases induction taken.2.works with ⟨standing, stands⟩
        exact taken.1.standsAfter stands taken.2 works
  rcases kept keepsUp.works with ⟨standing, stands⟩
  rcases decompress_standsAfter stands keepsUp converted presented settles with
    ⟨after, stands', keepsUp'⟩
  exact keepsUp'.returned_eq streamStart_needed AtBlockBoundary.goesOn stands'.2 received boundary

/-! ## A chunk that keeps up -/

def headerRead : DStream storedBlocks.Entropy :=
  ⟨none, .read, storedHeader, .decodeBlockHeader (storedState []), [], [], false, 0⟩

theorem streamingDecompress_returnsReceived_abc : ∃ before next pos,
    Run (ReceivesKeepingUp none (storedHeader ++ storedBlock false [0x61, 0x62, 0x63]))
      ⟨.create storedBlocks.Entropy, [], [], false⟩
      [.decompress .nil, .decompress (.string storedHeader)] before ∧
    Settles (fun fuel => rbStreamingDecompressDecompress (streamLibrary storedBlocks) fuel
      before.dctx (.string (storedBlock false [0x61, 0x62, 0x63])))
        ⟨.ok [0x61, 0x62, 0x63], next, pos⟩ ∧
    before.returned ++ [0x61, 0x62, 0x63] = [0x61, 0x62, 0x63] := by
  have refused : Receives (streamLibrary storedBlocks)
      (storedHeader ++ storedBlock false [0x61, 0x62, 0x63]) ⟨.create Unit, [], [], false⟩
      (.decompress .nil) ⟨.create Unit, [], [], false⟩ := .raises (Settles.of_const _)
  have header : Receives (streamLibrary storedBlocks)
      (storedHeader ++ storedBlock false [0x61, 0x62, 0x63]) ⟨.create Unit, [], [], false⟩
      (.decompress (.string storedHeader)) ⟨headerRead, storedHeader, [], false⟩ :=
    .decompress rfl (List.prefix_append _ _) (settles_of_decompress
      (show rbStreamingDecompressDecompress (streamLibrary storedBlocks) 2 (.create Unit)
        (.string storedHeader) = some ⟨.ok [], headerRead, 6⟩ from rfl))
  have refusedKeepsUp : KeepsUpWith none (⟨.create Unit, [], [], false⟩ :
      FeedProgress (DStream storedBlocks.Entropy)) (.decompress .nil) := by
    refine ⟨rfl, fun _ converted => (nomatch converted), ?_⟩
    rintro src chunk standing ⟨⟩ converted
    cases converted
  have headerKeepsUp : KeepsUpWith none (⟨.create Unit, [], [], false⟩ :
      FeedProgress (DStream storedBlocks.Entropy)) (.decompress (.string storedHeader)) := by
    refine ⟨rfl, fun _ _ cuts => (nomatch cuts.1), ?_⟩
    rintro src chunk standing ⟨⟩ ⟨⟩ stands
    cases stands with
    | init =>
        -- The header is read in two parts.
        refine .inside (by decide) rfl (by decide) (.inside (by decide) rfl (by decide) ?_)
        exact .done fun _ => rfl
    | loadHeader _ stage => cases stage
    | read _ stage => cases stage
    | load _ stage => cases stage
    | flush _ stage => cases stage
  have blockKeepsUp : KeepsUpWith none (⟨headerRead, storedHeader, [], false⟩ :
      FeedProgress (DStream storedBlocks.Entropy))
      (.decompress (.string (storedBlock false [0x61, 0x62, 0x63]))) := by
    refine ⟨rfl, fun _ _ cuts => (nomatch cuts.1), ?_⟩
    rintro src chunk standing ⟨⟩ ⟨⟩ stands
    cases stands with
    | read =>
        -- The header of the block, and the block.
        refine .inside (by decide) rfl (by decide) (.inside (by decide) rfl (by decide) ?_)
        exact .done fun _ => rfl
    | init _ stage => cases stage
    | loadHeader _ stage => cases stage
    | load _ stage => cases stage
    | flush _ stage => cases stage
  have run : Run (ReceivesKeepingUp none (storedHeader ++ storedBlock false [0x61, 0x62, 0x63]))
      ⟨.create storedBlocks.Entropy, [], [], false⟩
      [.decompress .nil, .decompress (.string storedHeader)] _ :=
    .snoc (Run.singleton ⟨refused, refusedKeepsUp⟩) ⟨header, headerKeepsUp⟩
  have evaluated : ∃ next, rbStreamingDecompressDecompress (streamLibrary storedBlocks) 2
      headerRead (.string (storedBlock false [0x61, 0x62, 0x63])) =
        some ⟨.ok [0x61, 0x62, 0x63], next, 6⟩ := ⟨_, rfl⟩
  rcases evaluated with ⟨next, returned⟩
  have settles := settles_of_decompress returned
  have scanned : ∃ frame, (formatMachine storedBlocks none).scanFrames (streamStart storedBlocks)
      ⟨streamStart storedBlocks, []⟩ (storedHeader ++ storedBlock false [0x61, 0x62, 0x63]) =
        some (⟨.frame (.decodeBlockHeader frame), []⟩, [0x61, 0x62, 0x63]) := ⟨_, rfl⟩
  rcases scanned with ⟨frame, scanned⟩
  refine ⟨_, next, 6, run, settles, ?_⟩
  exact @streamingDecompress_returnsReceived storedBlocks [] _ _ _ _ _ _ _ _ _ _ _ rfl run
    blockKeepsUp rfl (List.prefix_refl _) settles scanned ⟨rfl, frame, .inl rfl⟩

/-! ## A chunk that does not keep up -/

def longBlockHeader : Bytes := [0x02, 0x35, 0x0C]

def longBlocks : Bytes := storedHeader ++ (longBlockHeader ++ [0x61]) ++ longBlockHeader ++ [0x62]

def longContent : Bytes := List.replicate 100000 0x61 ++ List.replicate 100000 0x62

theorem longContent_length : longContent.length = 200000 := by
  rw [longContent, List.length_append, List.length_replicate, List.length_replicate]

theorem scanAll_longBlockHeader (decoded : Bytes) :
    (streamMachine storedBlocks none).scanAll
        ⟨.frame (.decodeBlockHeader (storedState decoded)), []⟩ longBlockHeader =
      some (⟨.frame (.decompressBlock (storedState decoded) (.rle 100000) false 1 Nat.one_pos), []⟩,
        []) := by
  have header : getcBlockSize longBlockHeader = .ok (.rle 100000, 1, false) := by decide +kernel
  have continued : decompressContinue storedBlocks
      (.decodeBlockHeader (storedState decoded)) longBlockHeader =
      .ok (.decompressBlock (storedState decoded) (.rle 100000) false 1 Nat.one_pos, []) := by
    simp only [decompressContinue, header, bind, Except.bind]
    rfl
  exact scanAll_frame_unit continued (Nat.succ_ne_zero 2) rfl

theorem scanAll_rleBlock (decoded : Bytes) (byte : UInt8) {size : Nat}
    (fits : size ≤ blockSizeMax) :
    (streamMachine storedBlocks none).scanAll
        ⟨.frame (.decompressBlock (storedState decoded) (.rle size) false 1 Nat.one_pos), []⟩
        [byte] =
      some (⟨.frame (.decodeBlockHeader (storedState (decoded ++ List.replicate size byte))), []⟩,
        List.replicate size byte) := by
  have continued : decompressContinue storedBlocks
      (.decompressBlock (storedState decoded) (.rle size) false 1 Nat.one_pos) [byte] =
      .ok (.decodeBlockHeader (storedState (decoded ++ List.replicate size byte)),
        List.replicate size byte) := by
    simp only [decompressContinue, endOfWholeBlock, List.length_replicate, storedState,
      storedParameters, if_neg (not_lt.mpr fits), List.getD_cons_zero, endOfBlock,
      Bool.false_eq_true, if_false, bind, Except.bind, pure, Except.pure]
  exact scanAll_frame_unit continued Nat.one_ne_zero rfl

theorem scanAll_longBlocks_front : (streamMachine storedBlocks none).scanAll
    ⟨streamStart storedBlocks, []⟩
        (storedHeader ++ (longBlockHeader ++ [0x61]) ++ longBlockHeader) =
      some (⟨.frame
        (.decompressBlock (storedState (List.replicate 100000 0x61)) (.rle 100000) false 1
        Nat.one_pos), []⟩, List.replicate 100000 0x61) := by
  have header : (streamMachine storedBlocks none).scanAll ⟨streamStart storedBlocks, []⟩
      storedHeader = some (⟨.frame (.decodeBlockHeader (storedState [])), []⟩, []) := rfl
  have first := UnitMachine.scanAll_append_some (scanAll_longBlockHeader [])
    (scanAll_rleBlock [] 0x61 (by decide : 100000 ≤ blockSizeMax))
  have both := UnitMachine.scanAll_append_some (UnitMachine.scanAll_append_some header first)
    (scanAll_longBlockHeader (List.replicate 100000 0x61))
  simpa only [List.nil_append, List.append_nil] using both

theorem scanAll_longBlocks : (streamMachine storedBlocks none).scanAll
    ⟨streamStart storedBlocks, []⟩ longBlocks =
      some (⟨.frame (.decodeBlockHeader (storedState longContent)), []⟩, longContent) :=
  UnitMachine.scanAll_append_some scanAll_longBlocks_front
    (scanAll_rleBlock (List.replicate 100000 0x61) 0x62 (by decide : 100000 ≤ blockSizeMax))

theorem reads_longBlocks : (streamMachine storedBlocks none).Reads ⟨streamStart storedBlocks, []⟩
    (longBlocks ++ storedBlock true []) (longContent ++ []) := by
  have last : (streamMachine storedBlocks none).scanAll
      ⟨.frame (.decodeBlockHeader (storedState longContent)), []⟩ (storedBlock true []) =
        some (⟨.frame .getFrameHeaderSize, []⟩, []) := rfl
  exact ⟨_, UnitMachine.scanAll_append_some scanAll_longBlocks last, rfl⟩

theorem longBlocks_part {part output : Bytes}
    {next : Cursor (StreamState storedBlocks.Entropy) UInt8} (found : part <+: longBlocks)
    (scanned : (streamMachine storedBlocks none).scanAll ⟨streamStart storedBlocks, []⟩ part =
      some (next, output)) :
    (streamMachine storedBlocks none).need next.state ≠ 0 ∧
      (dStreamOutSize < output.length → part = longBlocks) := by
  rcases List.prefix_concat_iff.mp found with whole | short
  · have whole : part = longBlocks := whole
    rw [whole, scanAll_longBlocks] at scanned
    cases scanned
    exact ⟨Nat.succ_ne_zero 2, fun _ => whole⟩
  · rcases short with ⟨rest, split⟩
    have front := scanAll_longBlocks_front
    rw [← split] at front
    rcases UnitMachine.scanAll_append_inv front with ⟨middle, first, second, left, right, equal⟩
    rw [scanned] at left
    cases left
    have length := congrArg List.length equal
    rw [List.length_replicate, List.length_append] at length
    refine ⟨fun ended => ?_, fun exceeds => ?_⟩
    · cases (UnitMachine.scanAll_ended ended right).2
      exact Nat.one_ne_zero ended
    · have size : dStreamOutSize = 131072 := rfl
      omega

theorem not_takesShortcut_longBlocks (capacity cSize : Nat) :
    ¬TakesShortcut capacity longBlocks cSize := by
  rintro ⟨fParams, filled, shortcut⟩
  rcases (singlePassSize_iff.mp shortcut).1 with ⟨size, declared, -⟩
  have header : getFrameHeader longBlocks =
      .ok (.filled (.frame ⟨none, 2 ^ 21, blockSizeMax, 0, false⟩)) := by decide +kernel
  cases header.symm.trans filled
  cases declared

theorem decompressReply_longBlocks : ∃ reply hint, decompressReply (streamLibrary storedBlocks)
      longBlocks ⟨.create storedBlocks.Entropy, 0, []⟩ = reply ∧
    reply.consumed = longBlocks.length ∧ reply.output.length ≤ dStreamOutSize ∧
    reply.status = .ok (hint + 1) := by
  have sound := (streamMachine storedBlocks none).sound_start (streamStart storedBlocks)
  have stands : StreamStands none (DStream.create storedBlocks.Entropy)
      (.start (streamStart storedBlocks)) := .init rfl rfl
  have called : decompressReply (streamLibrary storedBlocks) longBlocks
      ⟨.create storedBlocks.Entropy, 0, []⟩ =
        decompressStream storedBlocks (.create storedBlocks.Entropy) dStreamOutSize longBlocks := by
    rw [decompressReply, List.drop_zero, streamLibrary]
  refine ⟨decompressStream storedBlocks (.create storedBlocks.Entropy) dStreamOutSize longBlocks,
    ?_⟩
  cases @decompressStream_answers storedBlocks none dStreamOutSize longBlocks _ _ sound stands with
  | decoded single => exact absurd single.takesShortcut (not_takesShortcut_longBlocks _ _)
  | refused single => exact absurd single.takesShortcut (not_takesShortcut_longBlocks _ _)
  | answer answer =>
      cases answer with
      | @starved next output _ free gulps needed fits =>
          have scanned := gulps.scanAll_eq sound
          rw [show (Standing.start (streamStart storedBlocks)).cursor =
            ⟨streamStart storedBlocks, []⟩ from rfl, scanAll_longBlocks] at scanned
          cases scanned
          rw [List.length_append, longContent_length] at fits
          exact absurd fits (by decide)
      | clogged full => exact absurd full (by decide)
      | @overflowed part next output hint free overflow needed consumed delivered status =>
          have gulps := overflow.gulps
          rcases overflow with ⟨_, _, _, _, _, _, _, _, _, _, _, exceeds⟩
          have whole := (longBlocks_part gulps.isPrefix (gulps.scanAll_eq sound)).2 exceeds
          refine ⟨hint, called, by rw [consumed, whole], ?_, status⟩
          rw [delivered]
          exact List.length_take_le _ _
      | withheld free overflow ended =>
          have gulps := overflow.gulps
          exact absurd ended (longBlocks_part gulps.isPrefix (gulps.scanAll_eq sound)).1
      | finished free gulps ended =>
          exact absurd ended (longBlocks_part gulps.isPrefix (gulps.scanAll_eq sound)).1
      | released kept => cases kept
      | kept kept => cases kept
      | failed status reason =>
          rcases reason with empty | full | ⟨-, reason⟩
          · exact absurd empty (by decide)
          · exact absurd full (by decide)
          · exact absurd (List.prefix_append _ _) (reason _ _ reads_longBlocks).2

/-- The second block is held back, though the chunk ends at a block boundary. -/
theorem streamingDecompress_holdsBack :
    ¬∀ (dctx next : DStream storedBlocks.Entropy) (stream chunk output content : Bytes)
        (calls : List DecompressCall) (before : FeedProgress (DStream storedBlocks.Entropy))
        (src : Value) (pos : Nat) (cursor : Cursor (StreamState storedBlocks.Entropy) UInt8),
      rbStreamingDecompressInitialize (streamLibrary storedBlocks) [] = .ok dctx →
      Run (Receives (streamLibrary storedBlocks) stream) ⟨dctx, [], [], false⟩ calls before →
      src.stringValue = .ok chunk → chunk <+: stream.drop before.received.length →
      Settles (fun fuel => rbStreamingDecompressDecompress (streamLibrary storedBlocks) fuel
        before.dctx src) ⟨.ok output, next, pos⟩ →
      (formatMachine storedBlocks none).scanFrames (streamStart storedBlocks)
        ⟨streamStart storedBlocks, []⟩ (before.received ++ chunk) = some (cursor, content) →
      AtBlockBoundary cursor → before.returned ++ output = content := by
  intro promised
  rcases decompressReply_longBlocks with ⟨reply, hint, called, consumed, fits, replied⟩
  have returned : rbStreamingDecompressDecompress (streamLibrary storedBlocks) 2 (.create Unit)
      (.string longBlocks) = some ⟨.ok reply.output, reply.context, longBlocks.length⟩ := by
    have available : 0 < longBlocks.length := by decide
    rw [← called] at replied
    have again := decompressPass_replied available replied
    rw [if_neg (by simp), called] at again
    have exhausted : ¬0 + reply.consumed < longBlocks.length := by omega
    have leave := @decompressPass_exhausted _ (streamLibrary storedBlocks) longBlocks
      ⟨reply.context, 0 + reply.consumed, [] ++ reply.output⟩ exhausted
    rw [consumed, Nat.zero_add, List.nil_append] at leave again
    exact (Loop.run_again 1 again).trans (Loop.run_leave 0 leave)
  have scanned := @UnitMachine.scanFrames_inside _ _ _ _ (formatMachine storedBlocks none)
    (streamStart storedBlocks) _ _ _ _ (streamMachine_restricts.scanAll scanAll_longBlocks)
    (Nat.succ_ne_zero 2)
  have equal := promised (.create Unit) _ longBlocks longBlocks _ _ [] ⟨.create Unit, [], [], false⟩
    (.string longBlocks) _ _ rfl .nil rfl (List.prefix_refl _) (settles_of_decompress returned)
    scanned ⟨rfl, storedState longContent, .inl rfl⟩
  have length := congrArg List.length equal
  rw [longContent_length] at length
  simp only [List.nil_append] at length
  rw [length] at fits
  exact absurd fits (by decide)

/-- A header that is cut behind its first five bytes: libzstd takes the rest for a
skippable frame, and the block in it is not returned. -/
example : ∃ first second,
    rbStreamingDecompressDecompress (streamLibrary storedBlocks) 2 (.create Unit)
      (.string [0x28, 0xB5, 0x2F, 0xFD, 0x40]) = some ⟨.ok [], first, 5⟩ ∧
    rbStreamingDecompressDecompress (streamLibrary storedBlocks) 2 first
      (.string [0x50, 0x2A, 0x4D, 0x18, 0, 0, 0, 0, 0x61]) = some ⟨.ok [], second, 8⟩ ∧
    ((formatMachine storedBlocks none).scanFrames (streamStart storedBlocks)
      ⟨streamStart storedBlocks, []⟩ [0x28, 0xB5, 0x2F, 0xFD, 0x40, 0x50, 0x2A, 0x4D, 0x18, 0, 0,
        0, 0, 0x61]).map Prod.snd = some [0, 0, 0x61] :=
  ⟨_, _, rfl, rfl, rfl⟩

end ZstdRuby
