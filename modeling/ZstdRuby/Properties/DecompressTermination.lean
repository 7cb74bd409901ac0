import ZstdRuby.Properties.DecodeOneFrame
import ZstdRuby.Properties.NativeResources
import ZstdRuby.Properties.StreamProgress

/-! # Where `Zstd.decompress` ends

The drain loop of `decode_one_frame` relies on `ZSTD_decompressStream` to give up.
It does so everywhere but in a frame header: a frame that is cut off there is
waited for without end.
-/

namespace ZstdRuby

open Libzstd Streaming

section

variable {blocks : BlockDecoder} {dictionary : Option Bytes}

/-! ## The drain loop -/

theorem drain_waits {header : Bytes} {size : Nat}
    (incomplete : getFrameHeader header = .ok (.wanted size)) {zds : DStream blocks.Entropy}
    (stage : zds.streamStage = .init) (fuel : Nat) :
    Loop.run (drainPass (streamLibrary blocks) header) fuel ⟨zds, 0, []⟩ = none := by
  rw [← Option.not_isSome_iff_eq_none, Option.isSome_iff_exists]
  rintro ⟨result, returned⟩
  refine Loop.run_ensures
    (fun state => ReadsHeader header state.dctx (header.drop state.pos)) (fun _ => False) ?_
    (.init stage) returned
  intro state reads
  have waits : WaitsForHeader header (header.drop state.pos)
      (drainReply (streamLibrary blocks) header state) := decompressStream_waits incomplete reads
  rcases waits with ⟨⟨hint, unfinished⟩, consumed, reads⟩
  have nothing : header.drop (state.pos + (header.drop state.pos).length) = [] := by
    rw [List.drop_eq_nil_iff, List.length_drop]
    omega
  rw [drainPass_unfinished unfinished, Pass.ensures_again]
  simp only [consumed, nothing]
  exact reads

theorem wellFounded_lex_lex :
    WellFounded (Prod.Lex Nat.lt (Prod.Lex Nat.lt Nat.lt)) :=
  (Prod.lex Nat.lt_wfRel (Prod.lex Nat.lt_wfRel Nat.lt_wfRel)).wf

/-- More is read, or less is held, or one more call without progress is counted. -/
def drainVariant (src : Bytes) (state : DrainState (DStream blocks.Entropy)) :
    Nat × Nat × Nat :=
  (src.length - state.pos - owedBytes state.dctx, (heldOutput state.dctx).length,
    noForwardProgressMax - state.dctx.noForwardProgress)

theorem drainVariant_again {zds : DStream blocks.Entropy} (uses : zds.dictionary = dictionary)
    (fresh : zds.streamStage = .init) {src : Bytes}
    (complete : ¬∃ size, getFrameHeader src = .ok (.wanted size))
    {state : DrainState (DStream blocks.Entropy)}
    (draining : Draining (streamLibrary blocks) zds src state) {hint : Nat}
    (unfinished : (drainReply (streamLibrary blocks) src state).status = .ok (hint + 1)) :
    Prod.Lex Nat.lt (Prod.Lex Nat.lt Nat.lt)
      (drainVariant src ⟨(drainReply (streamLibrary blocks) src state).context,
        state.pos + (drainReply (streamLibrary blocks) src state).consumed,
        state.out ++ (drainReply (streamLibrary blocks) src state).output⟩)
      (drainVariant src state) := by
  rcases (streamDecoder zds uses fresh).follows draining.session.decodingSession with
    ⟨before, stands, follows⟩
  have stands : StreamStands dictionary state.dctx before := stands
  have answers : Answers dictionary dStreamOutSize (src.drop state.pos) before
      (drainReply (streamLibrary blocks) src state) :=
    decompressStream_answers follows.sound stands
  -- The shortcut ends the loop, with a frame or with an error.
  have goesOn : ∃ after, Answer (streamMachine blocks dictionary) (streamMachine blocks dictionary)
        (streamStart blocks) dStreamOutSize (src.drop state.pos) before
        (drainReply (streamLibrary blocks) src state) after ∧
      StreamStands dictionary (drainReply (streamLibrary blocks) src state).context after := by
    cases answers with
    | answer answer kept => exact ⟨_, answer, kept _ unfinished⟩
    | decoded single decoded stands replied =>
        rw [replied] at unfinished
        cases unfinished
    | refused single refused status => cases status.symm.trans unfinished
  rcases goesOn with ⟨after, answer, standsAfter⟩
  have stood := stands.owed_held
  have stoodAfter := standsAfter.owed_held
  have room : 0 < dStreamOutSize := by decide
  simp only [drainVariant]
  rw [Prod.lex_def, Prod.lex_def, ← stood.1, ← stood.2, ← stoodAfter.1, ← stoodAfter.2,
    ← Nat.sub_sub]
  rcases answer.advances follows.sound room unfinished with
    reads | ⟨consumed, owed, handsOn⟩ | ⟨exhausted, empty, consumed, same⟩
  · left
    rwa [List.length_drop] at reads
  · rw [consumed, owed]
    exact Or.inr ⟨rfl, Or.inl handsOn⟩
  · -- Everything has been read and handed on; only the counter can move.
    have whole : src.take state.pos = src :=
      List.take_of_length_le (List.drop_eq_nil_iff.mp exhausted)
    have free : before.hostage = false := by
      rw [← Bool.not_eq_true]
      intro hostage
      rcases follows.hostage_scan hostage with ⟨last, next, -⟩
      have longer := next.length_le
      rw [whole, List.length_append, List.length_singleton] at longer
      omega
    have scanned := (follows.free_scan free).1
    rw [whole] at scanned
    rcases cursor_eq : before.cursor with ⟨current, loaded⟩
    cases current with
    | header buffer size =>
        refine absurd ?_ complete
        rw [← header_of_scanAll scanned cursor_eq]
        exact stands.wanted cursor_eq
    | frame stage =>
        have replied : decompressStream blocks state.dctx dStreamOutSize [] =
            drainReply (streamLibrary blocks) src state := by
          rw [drainReply, exhausted]
          rfl
        have counted := decompressStream_counts stands follows.sound empty free
          (congrArg Cursor.state cursor_eq) (replied ▸ unfinished)
        rw [replied] at counted
        rw [consumed, same]
        exact Or.inr ⟨rfl, Or.inr ⟨rfl, Nat.sub_lt_sub_left (by omega) (by omega)⟩⟩

theorem drain_leaves {zds : DStream blocks.Entropy} (fresh : zds.streamStage = .init)
    {src : Bytes} (complete : ¬∃ size, getFrameHeader src = .ok (.wanted size)) :
    ∃ result, Settles (fun fuel => Loop.run (drainPass (streamLibrary blocks) src) fuel
      ⟨zds, 0, []⟩) result := by
  have contract : DecodesWhole (streamLibrary blocks).decompressStream zds dStreamOutSize _ :=
    (streamDecoder zds rfl fresh).eagerContract.toDecoderContract.decodesWhole (by decide)
  have pass : ∀ state, Draining (streamLibrary blocks) zds src state →
      (drainPass (streamLibrary blocks) src state).Ensures
        (fun next => Draining (streamLibrary blocks) zds src next ∧
          Prod.Lex Nat.lt (Prod.Lex Nat.lt Nat.lt) (drainVariant src next)
            (drainVariant src state))
        (fun _ => True) := by
    intro state draining
    cases replied : (drainReply (streamLibrary blocks) src state).status with
    | error code =>
        rw [drainPass_failed replied]
        trivial
    | ok status =>
        cases status with
        | zero =>
            rw [drainPass_finished replied]
            trivial
        | succ hint =>
            rw [drainPass_unfinished replied]
            exact ⟨draining.again contract replied,
              drainVariant_again rfl fresh complete draining replied⟩
  rcases Loop.settles_of_wellFounded wellFounded_lex_lex _ _ _ pass ⟨zds, 0, []⟩
    (Draining.start _ _ _) with ⟨result, settles, -⟩
  exact ⟨result, settles⟩

end

/-! ## `Zstd.decompress` -/

section

variable {blocks : BlockDecoder} {library : DecompressLibrary (DStream blocks.Entropy)}
  {kwargs : Kwargs}

/-- The bytes end within the header of a data frame: before its descriptor byte, or
before the size this byte gives. -/
def EndsInHeader (src : Bytes) : Prop :=
  src.length < startingInputLength ∨ src.length < frameHeaderSize (byteAt src 4)

instance (src : Bytes) : Decidable (EndsInHeader src) := inferInstanceAs (Decidable (_ ∨ _))

theorem drainPass_streamLibrary (streams : library.decompressStream = decompressStream blocks)
    (src : Bytes) : drainPass library src = drainPass (streamLibrary blocks) src := by
  funext state
  simp only [drainPass, drainReply, streams]
  rfl

theorem decodeOneFrame_ends_iff (streams : library.decompressStream = decompressStream blocks)
    (fresh : ∀ {dictionary dctx}, library.Prepared dictionary dctx → dctx.streamStage = .init)
    {dctx : DStream blocks.Entropy} (created : library.createDCtx = some dctx) {src : Bytes}
    (magic : writeLE32 magicNumber <+: src) :
    (∃ result, Settles (fun fuel => decodeOneFrame library fuel dctx src kwargs) result) ↔
      ¬(EndsInHeader src ∧ ¬UnknownKeyword kwargs ["dict"] ∧
        DictionaryTaken library (library.resetSession dctx) kwargs) := by
  rw [← setDecompressParams_accepts_iff, EndsInHeader, ← getFrameHeader_wanted_iff magic]
  cases accepted : setDecompressParams library (library.resetSession dctx) kwargs with
  | error raised =>
      simp only [decodeOneFrame, accepted]
      exact iff_of_true ⟨_, .of_const _⟩ (by rintro ⟨-, next, ⟨⟩⟩)
  | ok next =>
      have start := fresh (setDecompressParams_prepared (.reset (.create created)) accepted)
      simp only [decodeOneFrame, accepted, drainPass_streamLibrary streams]
      constructor
      · rintro ⟨result, enough, leaves⟩ ⟨⟨size, incomplete⟩, -⟩
        have left := drain_waits incomplete start enough
        cases (leaves enough (Nat.le_refl enough)).symm.trans left
      · intro complete
        exact drain_leaves start fun incomplete => complete ⟨incomplete, next, rfl⟩

/-- Where `Zstd.decompress` ends: everywhere but where it has accepted its parameters
and its input ends within the header of the frame it decodes. -/
theorem rbDecompress_ends_iff (streams : library.decompressStream = decompressStream blocks)
    (fresh : ∀ {dictionary dctx}, library.Prepared dictionary dctx → dctx.streamStage = .init)
    {input : Value} (kwargs : Kwargs)
    (short : ∀ bytes, input.stringValue = .ok bytes → bytes.length < 2 ^ 63) :
    (∃ result, Settles (fun fuel => rbDecompress library fuel input kwargs) result) ↔
      ¬∃ rest dctx, LeadsToFrame input rest ∧ library.createDCtx = some dctx ∧
        EndsInHeader rest ∧ ¬UnknownKeyword kwargs ["dict"] ∧
        DictionaryTaken library (library.resetSession dctx) kwargs := by
  cases given : input.stringValue with
  | error raised =>
      simp only [rbDecompress, given]
      apply iff_of_true ⟨_, .of_const _⟩
      rintro ⟨rest, dctx, ⟨front, split, -⟩, -⟩
      cases given.symm.trans split
  | ok bytes =>
      simp only [rbDecompress, given]
      rcases scan_settles (short bytes given) with ⟨found, ⟨enough, scanned⟩, -⟩
      have settles : Settles (fun fuel => Loop.run (scanPass 64 bytes) fuel 0) found :=
        ⟨enough, scanned⟩
      have left := scanned enough (Nat.le_refl enough)
      simp only [settles.bind_iff]
      cases found with
      | none =>
          apply iff_of_true ⟨_, .of_const _⟩
          rintro ⟨rest, dctx, leads, -⟩
          rcases leads.unique given (short bytes given) left with ⟨off, impossible, -⟩
          cases impossible
      | some off =>
          have leads := leadsToFrame_of_scan given (short bytes given) left
          rcases leads with ⟨-, -, -, magic⟩
          cases created : library.createDCtx with
          | none =>
              apply iff_of_true ⟨_, .of_const _⟩
              rintro ⟨rest, dctx, -, impossible, -⟩
              cases impossible
          | some dctx =>
              rw [decodeOneFrame_ends_iff streams fresh created magic]
              apply not_congr
              constructor
              · rintro ⟨ends, known, taken⟩
                exact ⟨_, dctx, leadsToFrame_of_scan given (short bytes given) left, rfl, ends,
                  known, taken⟩
              · rintro ⟨rest, same, leads, equal, ends, known, taken⟩
                cases equal
                rcases leads.unique given (short bytes given) left with ⟨off, found, rfl⟩
                cases found
                exact ⟨ends, known, taken⟩

end

def headerOnly : Bytes := [0x28, 0xB5, 0x2F, 0xFD, 0x00, 0x58]

theorem rbDecompress_ends_iff_headerOnly :
    ∃ result, Settles (fun fuel => rbDecompress (streamLibrary storedBlocks) fuel
      (.string headerOnly) []) result := by
  have short : ∀ bytes, (Value.string headerOnly).stringValue = .ok bytes →
      bytes.length < 2 ^ 63 := by
    rintro bytes ⟨⟩
    decide
  apply (@rbDecompress_ends_iff storedBlocks (streamLibrary storedBlocks) rfl
    (fun prepared => (prepared_init prepared).1) (.string headerOnly) [] short).mpr
  rintro ⟨rest, dctx, leads, -, ends, -⟩
  have scanned : Loop.run (scanPass 64 headerOnly) 1 0 = some (some 0) := rfl
  rcases leads.unique rfl (by decide) scanned with ⟨off, found, rfl⟩
  cases found
  exact absurd ends (by decide)

/-- Of the magic number alone, `Zstd.decompress` waits for the rest. -/
theorem rbDecompress_waits_magic :
    ¬∃ result, Settles (fun fuel => rbDecompress (streamLibrary storedBlocks) fuel
      (.string (writeLE32 magicNumber)) []) result := by
  rintro ⟨result, enough, ends⟩
  have returned := ends (enough + 1) (Nat.le_succ enough)
  have scanned : scanPass 64 (writeLE32 magicNumber) 0 = .leave (some 0) := rfl
  have waits := @drain_waits storedBlocks (writeLE32 magicNumber) startingInputLength rfl
    ((streamLibrary storedBlocks).resetSession (.create storedBlocks.Entropy)) rfl (enough + 1)
  simp only [rbDecompress, Value.stringValue_string, Loop.run_leave enough scanned,
    Option.bind_some] at returned
  cases waits.symm.trans returned

end ZstdRuby
