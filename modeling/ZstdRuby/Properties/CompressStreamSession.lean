import ZstdRuby.Properties.CompressStream
import ZstdRuby.Properties.CompressionParameters

/-! # What `ZSTD_compressStream2` writes

However its calls are cut, whatever they ask for and however small the buffers are:
what the encoder gives is the beginning of a frame of what it has taken, and the
frame at the end.
-/

namespace ZstdRuby.Libzstd

open Streaming

section

variable {writer : BlockWriter} {blocks : BlockDecoder}
  {Agree : writer.State → blocks.Entropy → Bytes → Prop}
  {dictionary : Option Bytes} {directive : Directive} {outSize limit : Nat}
  {given total : Bytes} {session : CStreamSession writer.State}

/-! ## Beginning a frame -/

structure Loads (writer : BlockWriter) (dictionary : Option Bytes) : Prop where
  short : ∀ dict, dictionary = some dict → dict.length < 2 ^ 63
  begins : ∀ cdict : Option CDict,
    usedDictionary (cdict.map CDict.dict) = usedDictionary dictionary →
    ∀ cParams pledgedSrcSize, ∃ state,
      writer.compressBegin cdict cParams pledgedSrcSize = .ok state

def CStream.HasDictionary {State : Type} (cctx : CStream State) (dictionary : Option Bytes) :
    Prop :=
  usedDictionary (cctx.cdict.map CDict.dict) = usedDictionary dictionary

theorem usedDictionary_length {left right : Option Bytes}
    (same : usedDictionary left = usedDictionary right)
    (short : ∀ dict, right = some dict → dict.length < 2 ^ 63) :
    (left.map List.length).getD 0 < 2 ^ 63 := by
  rcases left with _ | _ | ⟨byte, rest⟩
  · decide
  · decide
  · rcases right with _ | _ | ⟨other, others⟩
    · cases same
    · cases same
    · have equal := Option.some.inj same
      rw [equal]
      exact short _ rfl

def Pledgeable (pledgedSrcSize : Nat) : Prop :=
  pledgedSrcSize = contentSizeUnknown ∨ pledgedSrcSize < 2 ^ 63

theorem resetCCtx_valid {params : AppliedParameters} {pledgedSrcSize dictID : Nat}
    {state : writer.State} (windowLog : windowLogAbsoluteMin ≤ params.windowLog)
    (windowSize : 2 ^ params.windowLog ≤ maxWindowSizeDefault)
    (pledge : Pledgeable pledgedSrcSize) (small : dictID < 2 ^ 32) :
    (resetCCtx params pledgedSrcSize dictID state).Valid := by
  have unknown : contentSizeUnknown = 2 ^ 64 - 1 := rfl
  have window : 2 ^ 10 ≤ 2 ^ params.windowLog := Nat.pow_le_pow_right (by decide) windowLog
  have max : Libzstd.blockSizeMax = 2 ^ 17 := rfl
  constructor
  · exact windowLog
  · exact windowSize
  · exact Nat.mod_lt _ (by decide)
  · intro known
    have known := of_decide_eq_true (Bool.and_eq_true _ _ ▸ known).2
    have pledge := pledge.resolve_left known
    change (pledgedSrcSize + 1) % 2 ^ 64 ≠ 0
    omega
  · exact small
  all_goals simp only [resetCCtx]
  · omega
  · omega
  · omega
  · rcases pledge with rfl | pledge
    · left
      omega
    · omega

theorem compressBeginInternal_written (contract : BlockContract writer blocks Agree)
    (loads : Loads writer dictionary) {cctx : CStream writer.State}
    (has : cctx.HasDictionary dictionary) {pledgedSrcSize : Nat}
    (pledge : Pledgeable pledgedSrcSize) :
    ∃ frame, compressBeginInternal writer cctx pledgedSrcSize = .ok frame ∧
      FrameWritten Agree (usedDictionary dictionary) frame [] [] ∧
      frame.pledgedSrcSizePlusOne = (pledgedSrcSize + 1) % 2 ^ 64 ∧
      frame.blockSizeMax =
        min blockSizeMax (max 1 (min (2 ^ frame.appliedParams.windowLog) pledgedSrcSize)) := by
  rcases loads.begins cctx.cdict has (cctx.cParams pledgedSrcSize) pledgedSrcSize with
    ⟨state, begun⟩
  have dictSize : ((cctx.cdict.map fun cdict => cdict.dict.length).getD 0) < 2 ^ 63 := by
    have length := usedDictionary_length has loads.short
    rwa [Option.map_map] at length
  have params := getCParamsFromCCtxParams_valid cctx.usedLevel pledgedSrcSize dictSize
    (getCParamMode cctx.cdict pledgedSrcSize)
  have agree := contract.begins begun
  have dictID := contract.dictID cctx.cdict
  rw [has] at agree dictID
  simp only [compressBeginInternal, begun, Except.map]
  have windowLog := ((checkCParams_ok_iff _).mp params.1).1
  have valid := @resetCCtx_valid writer ⟨defaultFrameFlags, _, cctx.strategy pledgedSrcSize, 0⟩
    pledgedSrcSize (writer.dictID cctx.cdict) state windowLog params.2.1 pledge dictID.2
  refine ⟨_, rfl, ⟨⟨valid, dictID.1, fun _ => rfl, rfl, ?_⟩, Or.inl ⟨rfl, rfl, rfl, agree⟩⟩, rfl,
    rfl⟩
  rintro ⟨known, exceeds⟩
  simp only [resetCCtx] at known exceeds
  omega

theorem initCompressStream2_written (contract : BlockContract writer blocks Agree)
    (loads : Loads writer dictionary) {cctx : CStream writer.State}
    (has : cctx.HasDictionary dictionary) {inSize : Nat}
    (fits : directive = .finish → inSize < 2 ^ 63) :
    ∃ session, initCompressStream2 writer cctx directive inSize false = .ok session ∧
      SessionWritten Agree dictionary session [] [] ∧
      session.frame.pledgedSrcSizePlusOne = (if directive = .finish then inSize + 1 else 0) ∧
      session.streamStage = .load ∧ session.held = frameBound := by
  have pledge : Pledgeable (if directive = .finish then inSize else contentSizeUnknown) := by
    split
    · rename_i finish
      exact Or.inr (fits finish)
    · exact Or.inl rfl
  rcases compressBeginInternal_written contract loads has pledge with
    ⟨frame, begun, written, pledged, blockSize⟩
  have value : ((if directive = .finish then inSize else contentSizeUnknown) + 1) % 2 ^ 64 =
      if directive = .finish then inSize + 1 else 0 := by
    split
    · rename_i finish
      have fits := fits finish
      omega
    · rfl
  simp only [initCompressStream2, begun, Except.map, Bool.false_eq_true, if_false]
  generalize (if directive = .finish then inSize else contentSizeUnknown) = pledgedSrcSize
    at pledge pledged blockSize value ⊢
  have unknown : contentSizeUnknown = 2 ^ 64 - 1 := rfl
  have positive := written.valid.positive
  have target : (if frame.blockSizeMax = pledgedSrcSize then 1 else 0) =
      if frame.pledgedSrcSizePlusOne = frame.blockSizeMax + 1 then 1 else 0 := by
    have small := written.valid.small
    have max : Libzstd.blockSizeMax = 2 ^ 17 := rfl
    rw [pledged]
    rcases pledge with rfl | pledge
    · rw [if_neg (by omega), if_neg (by omega)]
    · rw [Nat.mod_eq_of_lt (by omega)]
      split <;> split <;> omega
  rw [target]
  refine ⟨_, rfl, ⟨?_, ⟨[], written, rfl⟩, rfl, fun _ => rfl⟩, pledged.trans value, rfl, ?_⟩
  · have block : (if frame.pledgedSrcSizePlusOne = frame.blockSizeMax + 1 then 1 else 0) ≤ 1 := by
      split <;> decide
    constructor
    · exact Nat.le_refl 0
    · change 0 < frame.blockSizeMax + _
      omega
    · simp only [List.length_replicate]
      omega
    · exact Nat.add_le_add_right (Nat.zero_add frame.blockSizeMax).ge _
    · simp only [List.length_replicate]
      omega
    · rfl
    · rfl
  · simp [CStreamSession.held, CStreamSession.pending, CStreamSession.unflushed]

/-! ## Sessions of calls -/

/-- What a context still holds. A frame that has not been begun may still come to
something. -/
def CStream.held (cctx : CStream writer.State) : Nat :=
  cctx.session.elim frameBound CStreamSession.held

/-- Between two calls of a session: no frame has been begun, or the frame has not
ended, or its end is being handed on. -/
inductive ContextWritten (Agree : writer.State → blocks.Entropy → Bytes → Prop)
    (dictionary : Option Bytes) (level : Int) (loaded : Option ContextDict) :
    CStream writer.State → Option Directive → Bytes → Bytes → Prop
  | idle : ContextWritten Agree dictionary level loaded ⟨level, loaded, none⟩ none [] []
  | running {session : CStreamSession writer.State} {phase : Option Directive}
      {taken given : Bytes} (written : SessionWritten Agree dictionary session given taken)
      (pledge : session.frame.pledgedSrcSizePlusOne ≠ 0 →
        phase = some .finish ∧ session.frame.pledgedSrcSizePlusOne = taken.length + 1) :
      ContextWritten Agree dictionary level loaded ⟨level, loaded, some session⟩ phase taken given
  | ended {session : CStreamSession writer.State} {taken given : Bytes}
      (written : SessionEnded blocks dictionary session given taken) :
      ContextWritten Agree dictionary level loaded ⟨level, loaded, some session⟩ (some .finish)
        taken given

variable {level : Int} {contextDict : Option ContextDict} {cctx : CStream writer.State}
  {phase : Option Directive} {taken source : Bytes}

theorem ContextWritten.reply (contract : BlockContract writer blocks Agree)
    (bound : BlockBound writer blocks Agree) (splits : SplitContract writer)
    (loads : Loads writer dictionary)
    (has : (⟨level, contextDict, none⟩ : CStream writer.State).HasDictionary dictionary)
    (written : ContextWritten Agree dictionary level contextDict cctx phase taken given)
    (directive : Directive) (capacity : Nat) (source : Bytes)
    (allowed : phase = none ∨ phase = some directive)
    (input : directive = .finish → source = []) :
    ∃ stop, compressStream2 writer false cctx directive capacity source =
        ⟨⟨level, contextDict, stop.session⟩, source.length - stop.ip.length, stop.op,
          .ok (stop.session.elim 0 fun session => session.unflushed.length)⟩ ∧
      stop.ip <:+ source ∧
      Stopped Agree dictionary directive capacity given (taken ++ source)
        (cctx.held + frameBound * source.length) stop := by
  have running : ∀ session : CStreamSession writer.State,
      currentSession writer cctx directive source.length false = .ok session →
      cctx.compressionLevel = level → cctx.dictionary = contextDict →
      CallRuns Agree dictionary directive capacity given (taken ++ source)
        (cctx.held + frameBound * source.length) ⟨session, source, []⟩ →
      ∃ stop, compressStream2 writer false cctx directive capacity source =
          ⟨⟨level, contextDict, stop.session⟩, source.length - stop.ip.length, stop.op,
            .ok (stop.session.elim 0 fun session => session.unflushed.length)⟩ ∧
        stop.ip <:+ source ∧
        Stopped Agree dictionary directive capacity given (taken ++ source)
          (cctx.held + frameBound * source.length) stop := by
    intro session current sameLevel sameDict runs
    rcases compressStreamGeneric_ensures contract bound splits runs with ⟨stop, generic, stopped⟩
    refine ⟨stop, ?_, compressStreamGeneric_suffix generic, stopped⟩
    simp only [compressStream2, current, generic, sameLevel, sameDict]
  cases written with
  | idle =>
      rcases @initCompressStream2_written writer blocks Agree dictionary directive contract loads _
        has source.length (fun finish => by rw [input finish]; decide) with
        ⟨session, begun, written, pledged, -, held⟩
      refine running session begun rfl rfl (Or.inl ⟨⟨[], written, rfl⟩, ?_, Nat.zero_le _, ?_⟩)
      · intro known
        by_cases finish : directive = .finish
        · rw [if_pos finish] at pledged
          exact ⟨finish, pledged⟩
        · rw [if_neg finish] at pledged
          exact (known pledged).elim
      · simp only [List.length_nil, held, Nat.zero_add]
        exact Nat.le_refl _
  | running written pledge =>
      refine running _ rfl rfl rfl (Or.inl ⟨⟨taken, ?_, rfl⟩, ?_, Nat.zero_le _, ?_⟩)
      · rwa [List.append_nil]
      · intro known
        rcases pledge known with ⟨rfl, pledged⟩
        have finish : directive = .finish := by
          rcases allowed with absurd | same
          · cases absurd
          · exact (Option.some.inj same).symm
        rw [input finish, List.append_nil]
        exact ⟨finish, pledged⟩
      · rw [List.length_nil, Nat.zero_add]
        exact Nat.le_refl _
  | ended written =>
      have finish : directive = .finish := by
        rcases allowed with absurd | same
        · cases absurd
        · exact (Option.some.inj same).symm
      have none := input finish
      subst none
      refine running _ rfl rfl rfl (Or.inr ⟨?_, rfl, finish, Nat.zero_le _, (Nat.zero_add _).le⟩)
      rwa [List.append_nil, List.append_nil]

theorem Stopped.context {stop : CStreamStop writer}
    (stopped : Stopped Agree dictionary directive outSize given (taken ++ source) limit stop)
    (suffix : stop.ip <:+ source) (next : stop.session = some session)
    (finishing : directive = .finish → phase = some .finish)
    (input : directive = .finish → source = []) :
    ContextWritten Agree dictionary level contextDict ⟨level, contextDict, some session⟩ phase
      (taken ++ source.take (source.length - stop.ip.length)) (given ++ stop.op) := by
  rcases suffix with ⟨front, rfl⟩
  rw [List.length_append, Nat.add_sub_cancel, List.take_left]
  have running : CallWritten Agree dictionary directive outSize given
      (taken ++ (front ++ stop.ip)) limit ⟨session, stop.ip, stop.op⟩ →
      ContextWritten Agree dictionary level contextDict ⟨level, contextDict, some session⟩ phase
        (taken ++ front) (given ++ stop.op) := by
    rintro ⟨⟨reached, written, whole⟩, pledge, -, -⟩
    rw [← List.append_assoc] at whole
    have same := List.append_cancel_right whole
    subst same
    refine .running written fun known => ?_
    have pledged := pledge known
    have none := List.append_eq_nil_iff.mp (input pledged.1)
    rw [none.1, none.2, List.append_nil, List.append_nil] at pledged
    rw [none.1, List.append_nil]
    exact ⟨finishing pledged.1, pledged.2⟩
  cases stopped with
  | complete finish fits reads => cases next
  | ended written unflushed full =>
      cases next
      have none := List.append_eq_nil_iff.mp (input written.finish)
      rw [finishing written.finish, none.1, List.append_nil]
      have session := written.session
      rw [none.1, List.nil_append, List.append_nil] at session
      exact .ended session
  | full written unflushed full =>
      cases next
      exact running written
  | idle written flushed idle =>
      cases next
      exact running written

theorem Stopped.complete_of_none {stop : CStreamStop writer}
    (stopped : Stopped Agree dictionary directive outSize given total limit stop)
    (none : stop.session = none) :
    directive = .finish ∧
      (streamFormat blocks).DataFrame dictionary (given ++ stop.op) total := by
  cases stopped with
  | complete finish fits reads => exact ⟨finish, reads⟩
  | _ => cases none

theorem Stopped.complete_of_flushed {stop : CStreamStop writer}
    (stopped : Stopped Agree dictionary .finish outSize given total limit stop)
    (flushed : (stop.session.elim 0 fun session => session.unflushed.length) = 0) :
    stop.session = none := by
  cases stopped with
  | complete finish fits reads => rfl
  | ended written unflushed full => exact (unflushed (List.length_eq_zero_iff.mp flushed)).elim
  | full written unflushed full => exact (unflushed (List.length_eq_zero_iff.mp flushed)).elim
  | idle written flushed idle => rcases idle with absurd | ⟨absurd, -⟩ <;> cases absurd

theorem Stopped.fits {stop : CStreamStop writer}
    (stopped : Stopped Agree dictionary directive outSize given total limit stop) :
    stop.op.length ≤ outSize := by
  cases stopped with
  | complete finish fits reads => exact fits
  | ended written unflushed full => exact full.le
  | full written unflushed full => exact full.le
  | idle written flushed idle => exact written.fits

theorem Stopped.held {stop : CStreamStop writer}
    (stopped : Stopped Agree dictionary directive outSize given total limit stop)
    (next : stop.session = some session) (unflushed : session.unflushed ≠ []) :
    outSize + session.held + frameBound * stop.ip.length ≤ limit := by
  cases stopped with
  | complete finish fits reads => cases next
  | ended written some full =>
      cases next
      have held := written.held
      simp only at held
      rw [List.length_nil]
      omega
  | full written some full =>
      cases next
      have held := written.held
      simp only at held ⊢
      omega
  | idle written flushed idle =>
      cases next
      exact (unflushed flushed).elim

variable {initial : CStream writer.State}

theorem contextWritten_of_session (contract : BlockContract writer blocks Agree)
    (bound : BlockBound writer blocks Agree) (splits : SplitContract writer)
    (loads : Loads writer dictionary)
    (has : (⟨level, contextDict, none⟩ : CStream writer.State).HasDictionary dictionary)
    (session : EncodingSession (compressStream2 writer false) ⟨level, contextDict, none⟩ cctx phase
      taken given) :
    ContextWritten Agree dictionary level contextDict cctx phase taken given := by
  induction session with
  | initial => exact .idle
  | @proceed cctx taken given capacity source status session accepted induction =>
      rcases induction.reply contract bound splits loads has .proceed capacity source
        (Or.inl rfl) (fun absurd => by cases absurd) with ⟨stop, reply, suffix, stopped⟩
      rw [reply]
      cases next : stop.session with
      | none => cases (stopped.complete_of_none next).1
      | some reached =>
          exact stopped.context suffix next (fun absurd => by cases absurd)
            (fun absurd => by cases absurd)
  | @unfinished cctx phase directive taken given capacity status session drains allowed
      unfinished induction =>
      rcases induction.reply contract bound splits loads has directive capacity [] allowed
        (fun _ => rfl) with ⟨stop, reply, suffix, stopped⟩
      rw [reply] at unfinished ⊢
      cases next : stop.session with
      | none => simp [next] at unfinished
      | some reached =>
          have context := @Stopped.context writer blocks Agree dictionary directive capacity _
            given reached level contextDict (some directive) taken [] stop stopped suffix next
            (fun finish => by rw [finish]) (fun _ => rfl)
          rwa [List.take_nil, List.append_nil] at context
  | @flushed cctx phase taken given capacity session allowed finished induction =>
      rcases induction.reply contract bound splits loads has .flush capacity [] allowed
        (fun _ => rfl) with ⟨stop, reply, suffix, stopped⟩
      rw [reply]
      cases next : stop.session with
      | none => cases (stopped.complete_of_none next).1
      | some reached =>
          have context := @Stopped.context writer blocks Agree dictionary .flush capacity _
            given reached level contextDict none taken [] stop stopped suffix next
            (fun absurd => by cases absurd) (fun _ => rfl)
          rwa [List.take_nil, List.append_nil] at context
  | @finished cctx phase taken given capacity session allowed finished induction =>
      rcases induction.reply contract bound splits loads has .finish capacity [] allowed
        (fun _ => rfl) with ⟨stop, reply, suffix, stopped⟩
      rw [reply] at finished ⊢
      rw [stopped.complete_of_flushed (Except.ok.inj finished)]
      exact .idle

/-! ## The contracts -/

/-- Under every sequence of legal calls the buffered encoder makes progress, stays
within its buffers, does not fail, and writes frames of what it has taken. -/
theorem compressStream2_encoderContract (contract : BlockContract writer blocks Agree)
    (bound : BlockBound writer blocks Agree) (splits : SplitContract writer)
    (loads : Loads writer dictionary)
    (has : (⟨level, contextDict, none⟩ : CStream writer.State).HasDictionary dictionary) :
    EncoderContract (compressStream2 writer false) ⟨level, contextDict, none⟩
      ((streamFormat blocks).DataFrame dictionary) where
  proceeds := by
    intro cctx taken given capacity source session room nonempty
    have context := contextWritten_of_session contract bound splits loads has session
    rcases context.reply contract bound splits loads has .proceed capacity source (Or.inl rfl)
      (fun absurd => by cases absurd) with ⟨stop, reply, suffix, stopped⟩
    rw [reply]
    exact ⟨_, rfl, Nat.sub_le _ _, stopped.fits⟩
  drains := by
    intro cctx phase directive taken given capacity session drains allowed room
    have context := contextWritten_of_session contract bound splits loads has session
    rcases context.reply contract bound splits loads has directive capacity [] allowed
      (fun _ => rfl) with ⟨stop, reply, suffix, stopped⟩
    rw [reply]
    exact ⟨_, rfl, stopped.fits⟩
  frames := by
    intro cctx phase taken given capacity session allowed finished
    have context := contextWritten_of_session contract bound splits loads has session
    rcases context.reply contract bound splits loads has .finish capacity [] allowed
      (fun _ => rfl) with ⟨stop, reply, suffix, stopped⟩
    rw [reply] at finished ⊢
    have complete := (stopped.complete_of_none
      (stopped.complete_of_flushed (Except.ok.inj finished))).2
    rwa [List.append_nil] at complete
  progress := by
    refine ⟨CStream.held, ?_, ?_⟩
    · intro cctx taken given capacity source status session room nonempty accepted
      have context := contextWritten_of_session contract bound splits loads has session
      rcases context.reply contract bound splits loads has .proceed capacity source (Or.inl rfl)
        (fun absurd => by cases absurd) with ⟨stop, reply, suffix, stopped⟩
      rw [reply]
      have available := List.length_pos_iff.mpr nonempty
      cases next : stop.session with
      | none => cases (stopped.complete_of_none next).1
      | some reached =>
          by_cases unflushed : reached.unflushed = []
          · left
            cases stopped with
            | idle written flushed idle => simpa using available
            | full written some full =>
                cases next
                exact (some unflushed).elim
            | ended written some full =>
                cases next
                exact (some unflushed).elim
            | complete absurd fits reads => cases absurd
          · have held := stopped.held next unflushed
            change 0 < source.length - stop.ip.length ∨ reached.held < cctx.held
            by_cases consumed : 0 < source.length - stop.ip.length
            · exact Or.inl consumed
            · have same : stop.ip.length = source.length := by
                have short := suffix.length_le
                omega
              rw [same] at held
              omega
    · intro cctx phase directive taken given capacity status session drains allowed room
        unfinished
      have context := contextWritten_of_session contract bound splits loads has session
      rcases context.reply contract bound splits loads has directive capacity [] allowed
        (fun _ => rfl) with ⟨stop, reply, suffix, stopped⟩
      rw [reply] at unfinished ⊢
      cases next : stop.session with
      | none => simp [next] at unfinished
      | some reached =>
          have left : reached.unflushed ≠ [] := by
            rintro none
            simp [next, none] at unfinished
          have held := stopped.held next left
          change reached.held < cctx.held
          rw [List.length_nil] at held
          omega

/-- A flush that has been carried out has handed on everything that has been taken. -/
theorem compressStream2_flushContract (contract : BlockContract writer blocks Agree)
    (bound : BlockBound writer blocks Agree) (splits : SplitContract writer)
    (loads : Loads writer dictionary)
    (has : (⟨level, contextDict, none⟩ : CStream writer.State).HasDictionary dictionary) :
    FlushContract (compressStream2 writer false) ⟨level, contextDict, none⟩
      (streamPart blocks dictionary) where
  flushes := by
    intro cctx phase taken given capacity session allowed finished
    have context := contextWritten_of_session contract bound splits loads has session
    rcases context.reply contract bound splits loads has .flush capacity [] allowed
      (fun _ => rfl) with ⟨stop, reply, suffix, stopped⟩
    rw [reply] at finished ⊢
    have flushed : (stop.session.elim 0 fun session => session.unflushed.length) = 0 :=
      Except.ok.inj finished
    rw [List.append_nil] at stopped
    cases stopped with
    | complete absurd fits reads => cases absurd
    | ended written unflushed full => exact (unflushed (List.length_eq_zero_iff.mp flushed)).elim
    | full written unflushed full => exact (unflushed (List.length_eq_zero_iff.mp flushed)).elim
    | @idle reached op written drained idle =>
        rcases idle with absurd | ⟨-, none⟩
        · cases absurd
        rcases written.session with ⟨all, ⟨-, ⟨content, frame, rfl⟩, -, -⟩, whole⟩
        rw [none, List.append_nil, List.append_nil] at whole
        subst whole
        rw [drained, List.append_nil] at frame
        rcases frame.stage with ⟨-, empty, empty', -⟩ | ⟨-, entropy, -, reads⟩
        · rw [empty, empty']
          exact ⟨_, rfl, Nat.succ_ne_zero 4, Or.inl rfl⟩
        · have unknown : reached.frame.pledgedSrcSizePlusOne = 0 := by
            by_contra known
            cases (written.pledge known).1
          exact ⟨_, frame.reads_undeclared unknown reads, Nat.succ_ne_zero 2, Or.inr ⟨_, rfl⟩⟩

/-! ## One call -/

theorem compress2_eq (cctx : CStream writer.State) (capacity : Nat) (source : Bytes) :
    compress2 writer cctx capacity source =
      (compressBeginInternal writer cctx.resetSession source.length).bind fun frame =>
        (compressEnd writer frame capacity source).map Prod.snd := by
  rw [compress2]
  simp only [compressStream2, currentSession, CStream.resetSession, initCompressStream2, if_true]
  cases begun : compressBeginInternal writer ⟨cctx.compressionLevel, cctx.dictionary, none⟩
      source.length with
  | error code => rfl
  | ok frame =>
      simp only [Except.map, Except.bind, compressStreamGeneric, compressStreamFuel]
      cases ended : compressEnd writer frame capacity source with
      | error code => simp [Loop.run, compressStreamPass, Libzstd.loadStage, ended]
      | ok reached => simp [Loop.run, compressStreamPass, Libzstd.loadStage, ended]

theorem compressLibrary_prepared {cctx : CStream writer.State}
    (prepared : (compressLibrary writer).Prepared dictionary cctx) :
    cctx.session = none ∧ cctx.HasDictionary dictionary := by
  have dicts : ∀ cctx : CStream writer.State,
      cctx.cdict.map CDict.dict = cctx.dictionary.map ContextDict.dict := by
    rintro ⟨level, _ | ⟨cdict⟩ | ⟨dict⟩, session⟩ <;> rfl
  induction prepared with
  | create created =>
      cases created
      exact ⟨rfl, rfl⟩
  | @level cctx prepared level induction =>
      refine ⟨induction.1, ?_⟩
      have has := induction.2
      rw [CStream.HasDictionary, dicts] at has ⊢
      exact has
  | @reference cctx next cdict prepared referenced induction =>
      simp only [compressLibrary, CStream.refCDict, induction.1, ne_eq, not_true_eq_false,
        if_false, Except.ok.injEq] at referenced
      subst referenced
      exact ⟨rfl, rfl⟩
  | @load cctx next dict prepared loaded induction =>
      simp only [compressLibrary, CStream.loadDictionary, induction.1, ne_eq, not_true_eq_false,
        if_false] at loaded
      split at loaded
      · rename_i empty
        cases loaded
        rw [empty]
        exact ⟨rfl, rfl⟩
      · cases loaded
        exact ⟨rfl, rfl⟩

theorem compressLibrary_encoderContract (contract : BlockContract writer blocks Agree)
    (bound : BlockBound writer blocks Agree) (splits : SplitContract writer)
    (loads : Loads writer dictionary) {cctx : CStream writer.State}
    (prepared : (compressLibrary writer).Prepared dictionary cctx) :
    EncoderContract (compressLibrary writer).compressStream2 cctx
      ((streamFormat blocks).DataFrame dictionary) := by
  rcases cctx with ⟨level, contextDict, session⟩
  rcases compressLibrary_prepared prepared with ⟨rfl, has⟩
  exact compressStream2_encoderContract contract bound splits loads has

theorem compressLibrary_flushContract (contract : BlockContract writer blocks Agree)
    (bound : BlockBound writer blocks Agree) (splits : SplitContract writer)
    (loads : Loads writer dictionary) {cctx : CStream writer.State}
    (prepared : (compressLibrary writer).Prepared dictionary cctx) :
    FlushContract (compressLibrary writer).compressStream2 cctx (streamPart blocks dictionary) := by
  rcases cctx with ⟨level, contextDict, session⟩
  rcases compressLibrary_prepared prepared with ⟨rfl, has⟩
  exact compressStream2_flushContract contract bound splits loads has

/-- What `ZSTD_compress2` writes is a frame of the input, and a destination of the
size of the bound is enough for it. -/
theorem compress2_dataFrame (contract : BlockContract writer blocks Agree)
    (bound : BlockBound writer blocks Agree) (splits : SplitContract writer)
    (loads : Loads writer dictionary) {cctx : CStream writer.State}
    (prepared : (compressLibrary writer).Prepared dictionary cctx) {source : Bytes}
    (fits : source.length < 2 ^ 63) (capacity : Nat) :
    (∀ bytes, (compressLibrary writer).compress2 cctx capacity source = .ok bytes →
        (streamFormat blocks).DataFrame dictionary bytes source) ∧
      (compressBound source.length ≤ capacity →
        ∃ bytes, (compressLibrary writer).compress2 cctx capacity source = .ok bytes) := by
  have has : cctx.resetSession.HasDictionary dictionary := (compressLibrary_prepared prepared).2
  rcases compressBeginInternal_written contract loads has (Or.inr fits) with
    ⟨frame, begun, written, pledged, -⟩
  have equal := compress2_eq cctx capacity source
  rw [begun] at equal
  change compress2 writer cctx capacity source =
    (compressEnd writer frame capacity source).map Prod.snd at equal
  change (∀ bytes, compress2 writer cctx capacity source = .ok bytes → _) ∧
    (_ → ∃ bytes, compress2 writer cctx capacity source = .ok bytes)
  rw [equal]
  constructor
  · intro bytes compressed
    cases ended : compressEnd writer frame capacity source with
    | error code => simp [ended, Except.map] at compressed
    | ok reached =>
        rcases reached with ⟨next, written'⟩
        simp only [ended, Except.map, Except.ok.injEq] at compressed
        subst compressed
        exact written.compressEnd contract splits ended
  · intro roomy
    have whole : frame.pledgedSrcSizePlusOne ≠ 0 →
        frame.pledgedSrcSizePlusOne = ([] : Bytes).length + source.length + 1 := by
      intro known
      rw [pledged, List.length_nil]
      omega
    rcases written.compressEnd_succeeds contract bound splits whole
      ((frame_le_compressBound source.length).trans roomy) with ⟨next, bytes, ended, -⟩
    exact ⟨bytes, by rw [ended, Except.map]⟩

theorem compressLibrary_accepts (writer : BlockWriter) (dictionary : Option Bytes) :
    (compressLibrary writer).Accepts dictionary where
  creates := ⟨_, rfl⟩
  references := by
    intro cctx dict prepared _ level
    have unused := (compressLibrary_prepared prepared).1
    exact ⟨_, if_neg (not_not.mpr unused)⟩
  loads := by
    intro cctx dict prepared _
    have unused := (compressLibrary_prepared prepared).1
    by_cases empty : dict = []
    · exact ⟨_, (if_neg (not_not.mpr unused)).trans (if_pos empty)⟩
    · exact ⟨_, (if_neg (not_not.mpr unused)).trans (if_neg empty)⟩

theorem compressLibrary_oneShotContract (contract : BlockContract writer blocks Agree)
    (bound : BlockBound writer blocks Agree) (splits : SplitContract writer)
    (loads : Loads writer dictionary) :
    (compressLibrary writer).OneShotContract (streamFormat blocks) dictionary where
  compresses := by
    intro cctx prepared source fits
    rcases compress2_dataFrame contract bound splits loads prepared fits
      (compressBound source.length) with ⟨isFrame, succeeds⟩
    rcases succeeds (le_refl _) with ⟨frame, compressed⟩
    exact ⟨frame, compressed, isFrame frame compressed⟩

end

end ZstdRuby.Libzstd
