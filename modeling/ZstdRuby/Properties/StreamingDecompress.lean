import ZstdRuby.Extension.StreamingDecompress
import ZstdRuby.Properties.StoredFrames

/-! # Chunks through a decompressing stream

`decompress` leaves its loop when libzstd ends a frame without output. What is
left of the chunk is then dropped. The results say for which chunks this does
not happen.
-/

namespace ZstdRuby

open Libzstd Streaming

variable {DCtx : Type} {library : DecompressLibrary DCtx} {initial : DCtx}
  {Frame : Bytes → Bytes → Prop}

/-! ## Moving through frames -/

/-- Taking `bytes` and giving `output` leads from one place in a sequence of
frames to another. -/
def Moves (frames : List (Bytes × Bytes)) (taken given bytes output : Bytes)
    (frames' : List (Bytes × Bytes)) (taken' given' : Bytes) : Prop :=
  ∃ done, frames = done ++ frames' ∧ taken ++ bytes = frameBytes done ++ taken' ∧
    given ++ output = frameContents done ++ given'

namespace Moves

variable {frames frames' frames'' : List (Bytes × Bytes)}
  {taken taken' taken'' given given' given'' bytes bytes' output output' : Bytes}

theorem refl (frames : List (Bytes × Bytes)) (taken given : Bytes) :
    Moves frames taken given [] [] frames taken given :=
  ⟨[], rfl, by simp, by simp⟩

theorem trans (first : Moves frames taken given bytes output frames' taken' given')
    (second : Moves frames' taken' given' bytes' output' frames'' taken'' given'') :
    Moves frames taken given (bytes ++ bytes') (output ++ output') frames'' taken'' given'' := by
  rcases first with ⟨done, rfl, bytesMoved, outputMoved⟩
  rcases second with ⟨done', rfl, bytesMoved', outputMoved'⟩
  refine ⟨done ++ done', (List.append_assoc _ _ _).symm, ?_, ?_⟩
  · rw [← List.append_assoc, bytesMoved, List.append_assoc, bytesMoved', frameBytes_append,
      List.append_assoc]
  · rw [← List.append_assoc, outputMoved, List.append_assoc, outputMoved',
      frameContents_append, List.append_assoc]

theorem inside (frames : List (Bytes × Bytes)) (taken given bytes output : Bytes) :
    Moves frames taken given bytes output frames (taken ++ bytes) (given ++ output) :=
  ⟨[], rfl, by simp, by simp⟩

theorem complete {frame content : Bytes} (rest : List (Bytes × Bytes))
    (reaches : taken ++ bytes = frame) (delivers : given ++ output = content) :
    Moves ((frame, content) :: rest) taken given bytes output rest [] [] :=
  ⟨[(frame, content)], rfl, by simp [frameBytes, reaches], by simp [frameContents, delivers]⟩

theorem bytesLeft (moves : Moves frames taken given bytes output frames' taken' given')
    (within : taken' <+: frameBytes frames') :
    Position.bytesLeft frames taken = bytes ++ Position.bytesLeft frames' taken' := by
  rcases moves with ⟨done, rfl, taking, -⟩
  rcases within with ⟨after, split⟩
  have whole : frameBytes (done ++ frames') = taken ++ (bytes ++ after) := by
    rw [frameBytes_append, ← split, ← List.append_assoc, ← taking, List.append_assoc]
  rw [Position.bytesLeft, Position.bytesLeft, whole, List.drop_left, ← split, List.drop_left]

theorem contentLeft (moves : Moves frames taken given bytes output frames' taken' given')
    (within : given' <+: frameContents frames') :
    Position.contentLeft frames given = output ++ Position.contentLeft frames' given' := by
  rcases moves with ⟨done, rfl, -, giving⟩
  rcases within with ⟨after, split⟩
  have whole : frameContents (done ++ frames') = given ++ (output ++ after) := by
    rw [frameContents_append, ← split, ← List.append_assoc, ← giving, List.append_assoc]
  rw [Position.contentLeft, Position.contentLeft, whole, List.drop_left, ← split, List.drop_left]

end Moves

/-! ## The pace of a chunk -/

/-- Of a frame that ends inside the next `size` bytes, not at their end, some
content is still to be given. -/
def PaceKept (frames : List (Bytes × Bytes)) (taken given : Bytes) (size : Nat) : Prop :=
  ∀ before frame content after, frames = before ++ (frame, content) :: after →
    (frameBytes before).length + frame.length < taken.length + size →
    content ≠ [] ∧ (before = [] → given ≠ content)

namespace PaceKept

variable {frame content taken given taken' given' : Bytes} {rest : List (Bytes × Bytes)}
  {size size' : Nat}

theorem of_short (short : taken.length + size ≤ frame.length) :
    PaceKept ((frame, content) :: rest) taken given size := by
  intro before frame' content' after split strictlyInside
  cases before with
  | nil =>
      cases split
      simp at strictlyInside
      omega
  | cons head before =>
      cases split
      simp only [frameBytes_cons, List.length_append] at strictlyInside
      omega

theorem advance_iff (moved : taken'.length + size' = taken.length + size)
    (waiting : frame.length < taken.length + size → given ≠ content ∧ given' ≠ content) :
    PaceKept ((frame, content) :: rest) taken given size ↔
      PaceKept ((frame, content) :: rest) taken' given' size' := by
  have one : ∀ {taken given taken' given' : Bytes} {size size' : Nat},
      taken'.length + size' = taken.length + size →
      (frame.length < taken.length + size → given' ≠ content) →
      PaceKept ((frame, content) :: rest) taken given size →
      PaceKept ((frame, content) :: rest) taken' given' size' := by
    intro taken given taken' given' size size' moved waiting kept before frame' content' after
      split strictlyInside
    have holds := kept before frame' content' after split (moved ▸ strictlyInside)
    refine ⟨holds.1, fun first => ?_⟩
    subst first
    cases split
    apply waiting
    simpa [moved] using strictlyInside
  constructor
  · exact one moved fun strictlyInside => (waiting strictlyInside).2
  · exact one moved.symm fun strictlyInside => (waiting (moved ▸ strictlyInside)).1

theorem complete_iff (moved : frame.length + size' = taken.length + size)
    (waiting : given ≠ content) (nonempty : content ≠ []) :
    PaceKept ((frame, content) :: rest) taken given size ↔ PaceKept rest [] [] size' := by
  constructor
  · intro kept before frame' content' after split strictlyInside
    have holds := kept ((frame, content) :: before) frame' content' after
      (by rw [split]; rfl) (by
        simp only [frameBytes_cons, List.length_append, List.length_nil] at strictlyInside ⊢
        omega)
    exact ⟨holds.1, fun _ => holds.1.symm⟩
  · intro kept before frame' content' after split strictlyInside
    cases before with
    | nil =>
        cases split
        exact ⟨nonempty, fun _ => waiting⟩
    | cons head before =>
        cases split
        have holds := kept before frame' content' after rfl (by
          simp only [frameBytes_cons, List.length_append, List.length_nil] at strictlyInside ⊢
          omega)
        exact ⟨holds.1, fun absurd => by cases absurd⟩

theorem silent_iff (within : frame.length ≤ taken.length + size) (exhausted : given = content) :
    PaceKept ((frame, content) :: rest) taken given size ↔
      taken.length + size = frame.length := by
  constructor
  · intro kept
    by_contra left
    have holds := kept [] frame content rest rfl (by
      simp only [frameBytes_nil, List.length_nil]
      omega)
    exact holds.2 rfl exhausted
  · intro nothing
    exact of_short nothing.le

end PaceKept

/-! ## One call -/

/-- The decoder stands in the frames, and what is left of the input is the
beginning of what is left of them. -/
structure Feeding (library : DecompressLibrary DCtx) (initial : DCtx)
    (Frame : Bytes → Bytes → Prop) (input : Bytes) (frames : List (Bytes × Bytes))
    (taken given : Bytes) (state : DrainState DCtx) : Prop where
  position : Position library.decompressStream initial Frame state.dctx frames taken given
  presented : input.drop state.pos <+: Position.bytesLeft frames taken
  pos_le : state.pos ≤ input.length

/-- What the loop keeps, from its start in some frames: where it has moved to,
and that the pace of the whole input is that of the rest. -/
def FeedingFrom (library : DecompressLibrary DCtx) (initial : DCtx)
    (Frame : Bytes → Bytes → Prop) (input : Bytes) (frames : List (Bytes × Bytes))
    (taken given : Bytes) (state : DrainState DCtx) : Prop :=
  ∃ frames' taken' given', Feeding library initial Frame input frames' taken' given' state ∧
    Moves frames taken given (input.take state.pos) state.out frames' taken' given' ∧
    (PaceKept frames taken given input.length ↔
      PaceKept frames' taken' given' (input.length - state.pos))

/-- How a call ends that raises nothing: where it has moved to, and that it has
taken the whole chunk exactly if the chunk keeps pace. -/
def FeedingEnds (library : DecompressLibrary DCtx) (initial : DCtx)
    (Frame : Bytes → Bytes → Prop) (input : Bytes) (frames : List (Bytes × Bytes))
    (taken given : Bytes) (outcome : StreamingOutcome DCtx Bytes) : Prop :=
  ∃ output frames' taken' given', outcome.result = .ok output ∧ outcome.pos ≤ input.length ∧
    Position library.decompressStream initial Frame outcome.dctx frames' taken' given' ∧
    Moves frames taken given (input.take outcome.pos) output frames' taken' given' ∧
    (PaceKept frames taken given input.length ↔ outcome.pos = input.length)

section

variable {input : Bytes} {frames frames' : List (Bytes × Bytes)}
  {taken taken' given given' : Bytes} {state : DrainState DCtx}

theorem given_isPrefix {dctx : DCtx} (position : Position library.decompressStream initial Frame
    dctx frames taken given) : given <+: frameContents frames := by
  cases frames with
  | nil => exact (position.outside rfl) ▸ List.nil_prefix
  | cons head rest =>
      exact (position.inside head.1 head.2 rest rfl).2.trans (List.prefix_append _ _)

theorem FeedingFrom.advance {frame content : Bytes} {rest : List (Bytes × Bytes)}
    (contract : EagerContract library.decompressStream initial Frame)
    (feeding : Feeding library initial Frame input ((frame, content) :: rest) taken' given' state)
    (moves : Moves frames taken given (input.take state.pos) state.out
      ((frame, content) :: rest) taken' given')
    (pace : PaceKept frames taken given input.length ↔
      PaceKept ((frame, content) :: rest) taken' given' (input.length - state.pos))
    (available : input.drop state.pos ≠ [])
    (advances : Position.Advances library.decompressStream initial Frame
      ((frame, content) :: rest) taken' given' (input.drop state.pos)
      (decompressReply library input state)) :
    FeedingFrom library initial Frame input frames taken given
      ⟨(decompressReply library input state).context,
        state.pos + (decompressReply library input state).consumed,
        state.out ++ (decompressReply library input state).output⟩ := by
  rcases advances.status with ⟨status, unfinished⟩
  have within := feeding.pos_le
  have bound := advances.consumed_le
  have left : (input.drop state.pos).length = input.length - state.pos := List.length_drop
  have isFrame := feeding.position.valid (frame, content) (by simp)
  have before := feeding.position.inside frame content rest rfl
  have after := advances.position.inside frame content rest rfl
  have takenLength : (taken' ++ (input.drop state.pos).take
      (decompressReply library input state).consumed).length =
      taken'.length + (decompressReply library input state).consumed := by
    rw [List.length_append, List.length_take, min_eq_left bound]
  have eager := contract.eager feeding.position.session isFrame (List.prefix_append _ _)
    before.1 feeding.presented (by decide : 0 < dStreamOutSize) available unfinished
  have posWithin : state.pos + (decompressReply library input state).consumed ≤ input.length := by
    omega
  refine ⟨(frame, content) :: rest, _, _, ⟨advances.position, ?_, posWithin⟩,
    ?_, pace.trans (PaceKept.advance_iff ?_ ?_)⟩
  · rw [Position.bytesLeft, takenLength, ← List.drop_drop, ← List.drop_drop]
    exact feeding.presented.drop _
  · rw [List.take_add]
    exact moves.trans (.inside _ _ _ _ _)
  · rw [takenLength]
    simp only
    omega
  · intro strictlyInside
    rw [takenLength] at after
    rcases eager with usedUp | ⟨-, waiting⟩
    · simp only [decompressReply] at after
      omega
    · refine ⟨fun equal => waiting ?_, waiting⟩
      have longer := after.2
      rw [equal] at longer
      exact equal ▸ longer.eq_of_length_le (by rw [List.length_append]; omega)

theorem Feeding.reaches {frame content : Bytes} {rest : List (Bytes × Bytes)}
    (feeding : Feeding library initial Frame input ((frame, content) :: rest) taken given state)
    (completes : Position.Completes library.decompressStream initial Frame frame content rest
      taken given (input.drop state.pos) (decompressReply library input state)) :
    taken ++ (input.drop state.pos).take (decompressReply library input state).consumed =
      frame := by
  have bound := completes.consumed_le
  have length : (taken ++ (input.drop state.pos).take
      (decompressReply library input state).consumed).length = frame.length := by
    rw [List.length_append, List.length_take, min_eq_left bound]
    exact completes.reaches
  have heads : frame <+: frameBytes ((frame, content) :: rest) := List.prefix_append _ _
  have takes : taken ++ (input.drop state.pos).take
      (decompressReply library input state).consumed <+: frameBytes ((frame, content) :: rest) := by
    rcases feeding.position.takenPrefix with ⟨after, split⟩
    have presented := feeding.presented
    rw [Position.bytesLeft, ← split, List.drop_left] at presented
    rw [← split, List.prefix_append_right_inj]
    exact (List.take_prefix _ _).trans presented
  exact (List.prefix_of_prefix_length_le takes heads length.le).eq_of_length length

theorem Feeding.presents_rest {frame content : Bytes} {rest : List (Bytes × Bytes)}
    (feeding : Feeding library initial Frame input ((frame, content) :: rest) taken given state)
    (completes : Position.Completes library.decompressStream initial Frame frame content rest
      taken given (input.drop state.pos) (decompressReply library input state)) :
    input.drop (state.pos + (decompressReply library input state).consumed) <+:
      Position.bytesLeft rest [] := by
  have presented := feeding.presented.drop (decompressReply library input state).consumed
  rwa [Position.bytesLeft, List.drop_drop, List.drop_drop, completes.reaches,
    frameBytes_cons, List.drop_left] at presented

theorem FeedingFrom.complete {frame content : Bytes} {rest : List (Bytes × Bytes)}
    (feeding : Feeding library initial Frame input ((frame, content) :: rest) taken' given' state)
    (moves : Moves frames taken given (input.take state.pos) state.out
      ((frame, content) :: rest) taken' given')
    (pace : PaceKept frames taken given input.length ↔
      PaceKept ((frame, content) :: rest) taken' given' (input.length - state.pos))
    (completes : Position.Completes library.decompressStream initial Frame frame content rest
      taken' given' (input.drop state.pos) (decompressReply library input state))
    (audible : (decompressReply library input state).output ≠ []) :
    FeedingFrom library initial Frame input frames taken given
      ⟨(decompressReply library input state).context,
        state.pos + (decompressReply library input state).consumed,
        state.out ++ (decompressReply library input state).output⟩ := by
  have within := feeding.pos_le
  have bound := completes.consumed_le
  have reaches := completes.reaches
  have positive := List.length_pos_iff.mpr audible
  have length := congrArg List.length completes.delivers
  rw [List.length_append] at length
  rw [List.length_drop] at bound
  refine ⟨rest, [], [], ⟨completes.position, feeding.presents_rest completes,
    show state.pos + _ ≤ _ by omega⟩, ?_, pace.trans (PaceKept.complete_iff ?_ ?_ ?_)⟩
  · rw [List.take_add]
    exact moves.trans (.complete rest (feeding.reaches completes) completes.delivers)
  · simp only
    omega
  · rintro rfl
    omega
  · rintro rfl
    simp only [List.length_nil] at length
    omega

theorem FeedingEnds.silent {frame content : Bytes} {rest : List (Bytes × Bytes)}
    (feeding : Feeding library initial Frame input ((frame, content) :: rest) taken' given' state)
    (moves : Moves frames taken given (input.take state.pos) state.out
      ((frame, content) :: rest) taken' given')
    (pace : PaceKept frames taken given input.length ↔
      PaceKept ((frame, content) :: rest) taken' given' (input.length - state.pos))
    (completes : Position.Completes library.decompressStream initial Frame frame content rest
      taken' given' (input.drop state.pos) (decompressReply library input state))
    (silent : (decompressReply library input state).output = []) :
    FeedingEnds library initial Frame input frames taken given
      ⟨.ok (state.out ++ (decompressReply library input state).output),
        (decompressReply library input state).context,
        state.pos + (decompressReply library input state).consumed⟩ := by
  have within := feeding.pos_le
  have bound := completes.consumed_le
  have reaches := completes.reaches
  have delivers := completes.delivers
  rw [List.length_drop] at bound
  rw [silent, List.append_nil] at delivers
  refine ⟨_, rest, [], [], rfl, show state.pos + _ ≤ _ by omega, completes.position, ?_,
    pace.trans ((PaceKept.silent_iff (by omega) delivers).trans ?_)⟩
  · rw [List.take_add]
    exact moves.trans (.complete rest (feeding.reaches completes) completes.delivers)
  · simp only
    omega

theorem FeedingFrom.bounded (feeding : FeedingFrom library initial Frame input frames taken given
    state) : state.pos ≤ input.length ∧
      given.length + state.out.length ≤ (frameContents frames).length := by
  rcases feeding with ⟨frames', taken', given', feeding, ⟨done, rfl, -, gives⟩, -⟩
  have within := (given_isPrefix feeding.position).length_le
  have length := congrArg List.length gives
  rw [List.length_append, List.length_append] at length
  rw [frameContents_append, List.length_append]
  exact ⟨feeding.pos_le, by omega⟩

/-- `decompress` on a chunk of valid frames returns normally, and takes the whole
chunk exactly if the chunk keeps pace. -/
theorem decompress_call {dctx : DCtx}
    (contract : EagerContract library.decompressStream initial Frame)
    (position : Position library.decompressStream initial Frame dctx frames taken given)
    (presented : input <+: Position.bytesLeft frames taken) :
    ∃ outcome, Settles (fun fuel => rbStreamingDecompressDecompress library fuel dctx
        (.string input)) outcome ∧
      FeedingEnds library initial Frame input frames taken given outcome := by
  refine Loop.settles_of_variant (FeedingFrom library initial Frame input frames taken given)
    (FeedingEnds library initial Frame input frames taken given)
    (fun state => (input.length - state.pos) +
      ((frameContents frames).length - (given.length + state.out.length))) ?_ _
    ⟨frames, taken, given, ⟨position, presented, Nat.zero_le _⟩,
      by simpa using Moves.refl frames taken given, Iff.rfl⟩
  rintro state ⟨frames', taken', given', feeding, moves, pace⟩
  by_cases available : state.pos < input.length
  · have nonempty : input.drop state.pos ≠ [] := by
      rw [Ne, List.drop_eq_nil_iff]
      omega
    cases frames' with
    | nil => exact absurd (by simpa [Position.bytesLeft] using feeding.presented) nonempty
    | cons head rest =>
        rcases head with ⟨frame, content⟩
        rcases feeding.position.call contract.toWithholdingContract feeding.presented nonempty
          (by decide : 0 < dStreamOutSize) with advances | completes
        · rcases advances.status with ⟨status, replied⟩
          rw [decompressPass_replied available replied, if_neg (by simp)]
          have next := FeedingFrom.advance contract feeding moves pace nonempty advances
          have bounds := next.bounded
          have before := (show FeedingFrom library initial Frame input frames taken given state
            from ⟨_, _, _, feeding, moves, pace⟩).bounded
          have progress := advances.progress
          simp only [List.length_append, decompressReply] at bounds
          refine ⟨next, ?_⟩
          simp only [List.length_append, decompressReply]
          omega
        · rw [decompressPass_replied available completes.status]
          by_cases silent : (decompressReply library input state).output = []
          · rw [if_pos ⟨rfl, silent⟩]
            exact FeedingEnds.silent feeding moves pace completes silent
          · rw [if_neg fun both => silent both.2]
            have next := FeedingFrom.complete feeding moves pace completes silent
            have bounds := next.bounded
            have positive := List.length_pos_iff.mpr silent
            simp only [decompressReply] at positive
            simp only [List.length_append, decompressReply] at bounds
            refine ⟨next, ?_⟩
            simp only [List.length_append, decompressReply]
            omega
  · have allTaken : state.pos = input.length := by
      have within := feeding.pos_le
      omega
    rw [decompressPass_exhausted available]
    refine ⟨state.out, frames', taken', given', rfl, feeding.pos_le, feeding.position, moves, ?_⟩
    rw [pace, allTaken, Nat.sub_self]
    refine ⟨fun _ => rfl, fun _ => ?_⟩
    cases frames' with
    | nil =>
        intro before frame content after split
        simp at split
    | cons head rest =>
        exact PaceKept.of_short (feeding.position.inside head.1 head.2 rest rfl).1.le

end

/-! ## A chunk inside one frame -/

/-- How a call ends that is given bytes of one frame only: inside the frame, or
at its end with all of its content returned. -/
def StaysInFrame (library : DecompressLibrary DCtx) (initial : DCtx)
    (Frame : Bytes → Bytes → Prop) (frame content : Bytes) (rest : List (Bytes × Bytes))
    (taken given : Bytes) (dctx : DCtx) : Prop :=
  Position library.decompressStream initial Frame dctx ((frame, content) :: rest) taken given ∨
    taken.length = frame.length ∧ given = content ∧
      Position library.decompressStream initial Frame dctx rest [] []

theorem StaysInFrame.given_le {frame content : Bytes} {rest : List (Bytes × Bytes)}
    {taken given : Bytes} {dctx : DCtx}
    (stays : StaysInFrame library initial Frame frame content rest taken given dctx) :
    given.length ≤ content.length := by
  rcases stays with position | ⟨-, rfl, -⟩
  · exact (position.inside frame content rest rfl).2.length_le
  · exact le_refl _

section

variable {input frame content taken given : Bytes} {rest : List (Bytes × Bytes)}

theorem stays_pass {state : DrainState DCtx}
    (contract : WithholdingContract library.decompressStream initial Frame)
    (within : taken.length + input.length ≤ frame.length)
    (available : state.pos < input.length)
    (position : Position library.decompressStream initial Frame state.dctx
      ((frame, content) :: rest) (taken ++ input.take state.pos) (given ++ state.out))
    (presented : input.drop state.pos <+:
      Position.bytesLeft ((frame, content) :: rest) (taken ++ input.take state.pos)) :
    ∃ reply, decompressReply library input state = reply ∧
      (∃ status, reply.status = .ok status) ∧ state.pos + reply.consumed ≤ input.length ∧
      (0 < reply.consumed ∨ 0 < reply.output.length) ∧
      (reply.status = .ok 0 → state.pos + reply.consumed = input.length) ∧
      StaysInFrame library initial Frame frame content rest
        (taken ++ input.take (state.pos + reply.consumed)) (given ++ (state.out ++ reply.output))
        reply.context := by
  have nonempty : input.drop state.pos ≠ [] := by
    rw [Ne, List.drop_eq_nil_iff]
    omega
  have takenLength : (taken ++ input.take state.pos).length = taken.length + state.pos := by
    rw [List.length_append, List.length_take, min_eq_left available.le]
  refine ⟨_, rfl, ?_⟩
  rcases position.call contract presented nonempty (by decide : 0 < dStreamOutSize) with
    advances | completes
  · rcases advances.status with ⟨status, replied⟩
    have bound := advances.consumed_le
    have moved := advances.position
    rw [List.length_drop] at bound
    rw [List.append_assoc, List.append_assoc, ← List.take_add] at moved
    exact ⟨⟨_, replied⟩, by simp only [decompressReply]; omega, advances.progress,
      fun finished => (by rw [decompressReply, replied] at finished; cases finished), Or.inl moved⟩
  · have bound := completes.consumed_le
    have reaches := completes.reaches
    have delivers := completes.delivers
    rw [List.length_drop] at bound
    rw [takenLength] at reaches
    rw [List.append_assoc] at delivers
    have before := (position.inside frame content rest rfl).1
    have whole : state.pos + (decompressReply library input state).consumed = input.length := by
      simp only [decompressReply]
      omega
    refine ⟨⟨0, completes.status⟩, whole.le, Or.inl ?_, fun _ => whole, Or.inr ⟨?_, delivers,
      completes.position⟩⟩
    · simp only [decompressReply]
      omega
    · rw [whole, List.take_length, List.length_append]
      simp only [decompressReply] at whole
      omega

theorem decompress_withinFrame {dctx : DCtx}
    (contract : WithholdingContract library.decompressStream initial Frame)
    (position : Position library.decompressStream initial Frame dctx ((frame, content) :: rest)
      taken given)
    (presented : input <+: Position.bytesLeft ((frame, content) :: rest) taken)
    (within : taken.length + input.length ≤ frame.length) :
    ∃ output next, Settles (fun fuel => rbStreamingDecompressDecompress library fuel dctx
        (.string input)) ⟨.ok output, next, input.length⟩ ∧
      StaysInFrame library initial Frame frame content rest (taken ++ input) (given ++ output)
        next := by
  have settles : ∃ outcome, Settles (fun fuel => Loop.run (decompressPass library input) fuel
      ⟨dctx, 0, []⟩) outcome ∧ ∃ output, outcome = ⟨.ok output, outcome.dctx, input.length⟩ ∧
        StaysInFrame library initial Frame frame content rest (taken ++ input) (given ++ output)
          outcome.dctx := by
    refine Loop.settles_of_variant
      (fun state => state.pos ≤ input.length ∧ StaysInFrame library initial Frame frame content rest
        (taken ++ input.take state.pos) (given ++ state.out) state.dctx) _
      (fun state => (input.length - state.pos) +
        (content.length - (given.length + state.out.length))) ?_ _
      ⟨Nat.zero_le _, Or.inl (by simpa using position)⟩
    rintro state ⟨posWithin, stays⟩
    have takenLength : (taken ++ input.take state.pos).length = taken.length + state.pos := by
      rw [List.length_append, List.length_take, min_eq_left posWithin]
    by_cases available : state.pos < input.length
    · rcases stays with position | ⟨ended, -⟩
      · have left : input.drop state.pos <+:
            Position.bytesLeft ((frame, content) :: rest) (taken ++ input.take state.pos) := by
          rw [Position.bytesLeft, takenLength, ← List.drop_drop]
          exact presented.drop _
        rcases stays_pass contract within available position left with
          ⟨reply, replied, ⟨status, ok⟩, posWithin', progress, ends, stays'⟩
        have gives := stays'.given_le
        simp only [List.length_append] at gives
        rw [decompressPass_replied available (replied ▸ ok), replied]
        split
        · rename_i silent
          have whole := ends (silent.1 ▸ ok)
          rw [whole, List.take_length] at stays'
          exact ⟨_, by rw [whole], stays'⟩
        · refine ⟨⟨posWithin', stays'⟩, ?_⟩
          simp only [List.length_append]
          omega
      · omega
    · have whole : state.pos = input.length := by omega
      rw [decompressPass_exhausted available]
      rw [whole, List.take_length] at stays
      exact ⟨state.out, by rw [whole], stays⟩
  rcases settles with ⟨outcome, settles, output, returned, stays⟩
  exact ⟨output, outcome.dctx, returned ▸ settles, stays⟩

end

/-! ## Chunk after chunk -/

/-- `FeedsAll library dctx chunks output`: the calls of `decompress` on the chunks
return normally, each having handed its whole chunk to libzstd, and `output` is
the concatenation of what they return. -/
inductive FeedsAll (library : DecompressLibrary DCtx) : DCtx → List Bytes → Bytes → Prop
  | nil (dctx : DCtx) : FeedsAll library dctx [] []
  | cons {dctx next : DCtx} {chunk output more : Bytes} {chunks : List Bytes}
      (call : Settles (fun fuel => rbStreamingDecompressDecompress library fuel dctx
        (.string chunk)) ⟨.ok output, next, chunk.length⟩)
      (rest : FeedsAll library next chunks more) :
      FeedsAll library dctx (chunk :: chunks) (output ++ more)

theorem feedsAll_cons_iff {dctx next : DCtx} {chunk output more : Bytes} {chunks : List Bytes}
    {pos : Nat} (settles : Settles (fun fuel => rbStreamingDecompressDecompress library fuel dctx
      (.string chunk)) ⟨.ok output, next, pos⟩) :
    FeedsAll library dctx (chunk :: chunks) (output ++ more) ↔
      pos = chunk.length ∧ FeedsAll library next chunks more := by
  constructor
  · intro feeds
    generalize equal : output ++ more = all at feeds
    cases feeds with
    | cons call rest =>
        cases settles.unique call
        exact ⟨rfl, List.append_cancel_left equal ▸ rest⟩
  · rintro ⟨rfl, rest⟩
    exact .cons settles rest

theorem feedsAll_frames (contract : WithholdingContract library.decompressStream initial Frame) :
    ∀ {frames : List (Bytes × Bytes)} {dctx : DCtx},
      Position library.decompressStream initial Frame dctx frames [] [] →
      FeedsAll library dctx (frames.map Prod.fst) (frameContents frames)
  | [], dctx, _ => .nil dctx
  | (frame, content) :: rest, dctx, position => by
      rcases decompress_withinFrame contract position (List.prefix_append frame _)
        (Nat.zero_add _).le with ⟨output, next, settles, stays⟩
      rcases stays with inside | ⟨-, given, after⟩
      · have short := (inside.inside frame content rest rfl).1
        simp at short
      · rw [List.nil_append] at given
        subst given
        exact .cons settles (feedsAll_frames contract after)

/-- The condition on a chunk of `size` bytes before which `consumed` bytes have
been consumed and `delivered` bytes returned: of each frame that ends inside the
chunk, not at its end, some content is still to be returned. -/
def ChunkKeepsPace (frames : List (Bytes × Bytes)) (consumed delivered size : Nat) : Prop :=
  ∀ before frame content after, frames = before ++ (frame, content) :: after →
    consumed < (frameBytes before).length + frame.length →
    (frameBytes before).length + frame.length < consumed + size →
    content ≠ [] ∧ delivered < (frameContents before).length + content.length

def KeepsPace (library : DecompressLibrary DCtx) (frames : List (Bytes × Bytes)) :
    (dctx : DCtx) → (consumed delivered : Nat) → List Bytes → Prop
  | _, _, _, [] => True
  | dctx, consumed, delivered, chunk :: chunks =>
      ChunkKeepsPace frames consumed delivered chunk.length ∧
      ∀ output next, Settles (fun fuel => rbStreamingDecompressDecompress library fuel dctx
          (.string chunk)) ⟨.ok output, next, chunk.length⟩ →
        KeepsPace library frames next (consumed + chunk.length) (delivered + output.length) chunks

section

variable {frames frames' : List (Bytes × Bytes)} {taken given bytes output : Bytes} {dctx : DCtx}

theorem frame_of_append {α : Type} {left right before after : List α} {frame : α}
    (split : left ++ right = before ++ frame :: after) :
    (∃ middle, before = left ++ middle ∧ right = middle ++ frame :: after) ∨
      ∃ middle, left = before ++ frame :: middle := by
  rcases List.append_eq_append_iff.mp split with ⟨middle, first, second⟩ | ⟨middle, first, second⟩
  · exact .inl ⟨middle, first, second⟩
  · cases middle with
    | nil => exact .inl ⟨[], by simpa using first.symm, second.symm⟩
    | cons head middle =>
        cases second
        exact .inr ⟨middle, first⟩

theorem chunkKeepsPace_iff
    (position : Position library.decompressStream initial Frame dctx frames' taken given)
    (moves : Moves frames [] [] bytes output frames' taken given) (size : Nat) :
    ChunkKeepsPace frames bytes.length output.length size ↔ PaceKept frames' taken given size := by
  rcases moves with ⟨done, rfl, taking, giving⟩
  rw [List.nil_append] at taking giving
  have consumed := congrArg List.length taking
  have delivered := congrArg List.length giving
  rw [List.length_append] at consumed delivered
  constructor
  · intro keeps before frame content after split strictlyInside
    have holds := keeps (done ++ before) frame content after
      (by rw [split, List.append_assoc])
    rw [frameBytes_append, frameContents_append, List.length_append, List.length_append] at holds
    have ends : taken.length < (frameBytes before).length + frame.length := by
      cases before with
      | nil =>
          have inside := (position.inside frame content after split).1
          simp only [frameBytes_nil, List.length_nil]
          omega
      | cons head before =>
          rcases head with ⟨first, firstContent⟩
          have inside := (position.inside first firstContent _ split).1
          simp only [frameBytes_cons, List.length_append]
          omega
    have facts := holds (by omega) (by omega)
    refine ⟨facts.1, fun first exhausted => ?_⟩
    have left := facts.2
    rw [first, frameContents_nil, List.length_nil, ← exhausted] at left
    omega
  · intro kept before frame content after split ends strictlyInside
    rcases frame_of_append split with ⟨middle, rfl, remaining⟩ | ⟨middle, rfl⟩
    · rw [frameBytes_append, List.length_append] at ends strictlyInside
      have holds := kept middle frame content after remaining (by omega)
      refine ⟨holds.1, ?_⟩
      rw [frameContents_append, List.length_append]
      have positive := List.length_pos_iff.mpr holds.1
      cases middle with
      | nil =>
          have inside := (position.inside frame content after remaining).2
          have shorter : given.length < content.length :=
            lt_of_le_of_ne inside.length_le fun same => holds.2 rfl (inside.eq_of_length same)
          simp only [frameContents_nil, List.length_nil]
          omega
      | cons head middle =>
          rcases head with ⟨first, firstContent⟩
          have inside := (position.inside first firstContent _ remaining).2.length_le
          simp only [frameContents_cons, List.length_append]
          omega
    · -- The frame has been completed before the chunk.
      rw [frameBytes_append, frameBytes_cons, List.length_append, List.length_append] at consumed
      omega

/-! ## Frames in chunks -/

theorem feedsAll_iff_from (contract : EagerContract library.decompressStream initial Frame) :
    ∀ {chunks : List Bytes} {frames' : List (Bytes × Bytes)} {taken given bytes output : Bytes}
      {dctx : DCtx},
      Position library.decompressStream initial Frame dctx frames' taken given →
      Moves frames [] [] bytes output frames' taken given →
      chunks.flatten = Position.bytesLeft frames' taken →
      (FeedsAll library dctx chunks (Position.contentLeft frames' given) ↔
        KeepsPace library frames dctx bytes.length output.length chunks)
  | [], frames', taken, given, bytes, output, dctx, position, moves, cut => by
      have nothing := position.contentLeft_eq_nil cut.symm
      rw [nothing]
      exact ⟨fun _ => trivial, fun _ => .nil dctx⟩
  | chunk :: chunks, frames', taken, given, bytes, output, dctx, position, moves, cut => by
      have presented : chunk <+: Position.bytesLeft frames' taken :=
        ⟨chunks.flatten, by simpa using cut⟩
      rcases decompress_call contract position presented with ⟨outcome, settles, ends⟩
      rcases ends with ⟨result, frames'', taken', given', returned, within, arrived, moved, pace⟩
      rcases outcome with ⟨outcome, next, pos⟩
      simp only at returned within arrived moved pace
      subst returned
      have whole : FeedsAll library dctx (chunk :: chunks) (Position.contentLeft frames' given) ↔
          pos = chunk.length ∧
            FeedsAll library next chunks (Position.contentLeft frames'' given') := by
        rw [moved.contentLeft (given_isPrefix arrived)]
        exact feedsAll_cons_iff settles
      rw [whole, KeepsPace, chunkKeepsPace_iff position moves chunk.length, pace]
      apply and_congr_right
      intro allTaken
      subst allTaken
      rw [List.take_length] at moved
      have cut' : chunks.flatten = Position.bytesLeft frames'' taken' := by
        rw [moved.bytesLeft arrived.takenPrefix, List.flatten_cons] at cut
        exact List.append_cancel_left cut
      rw [feedsAll_iff_from contract arrived (moves.trans moved) cut']
      constructor
      · intro keeps output' next' settles'
        cases settles.unique settles'
        simpa using keeps
      · intro keeps
        simpa using keeps _ _ settles

end

/-- Fed to a new stream, every chunk of some frames is taken whole and all
contents are returned, exactly if every chunk keeps pace. -/
theorem streamingDecompress_feedsAll_iff {format : FrameFormat} {kwargs : Kwargs} {dctx : DCtx}
    {frames : List (Bytes × Bytes)} {chunks : List Bytes}
    (contract : library.EagerContract format)
    (initialized : rbStreamingDecompressInitialize library kwargs = .ok dctx)
    (valid : ∀ frame ∈ frames, format.Frame (decompressDictionary kwargs) frame.1 frame.2)
    (cut : chunks.flatten = frameBytes frames) :
    FeedsAll library dctx chunks (frameContents frames) ↔
      KeepsPace library frames dctx 0 0 chunks := by
  have decodes := contract.decodes (rbStreamingDecompressInitialize_prepared initialized)
  have position := Position.start decodes.toDecoderContract valid (.initial _)
  exact feedsAll_iff_from decodes position (Moves.refl frames [] []) cut

/-! ## A chunk that does not keep pace -/

def attachedFrames : List (Bytes × Bytes) :=
  [(skippableFrame 0 [], []), (storedFrame [[0x61, 0x62, 0x63]], [0x61, 0x62, 0x63])]

theorem attachedFrames_valid : ∀ frame ∈ attachedFrames,
    (undeclaredFormat storedBlocks).Frame none frame.1 frame.2 := by
  simp only [attachedFrames, List.mem_cons, List.not_mem_nil, or_false, forall_eq_or_imp,
    forall_eq]
  refine ⟨Or.inr ⟨0, [], by decide, by decide, rfl, rfl⟩, Or.inl ?_⟩
  exact storedFrame_dataFrame none (by decide)

theorem streamingDecompress_feedsAll_iff_attachedFrames :
    FeedsAll (streamLibrary storedBlocks) (.create Unit) [frameBytes attachedFrames]
        (frameContents attachedFrames) ↔
      KeepsPace (streamLibrary storedBlocks) attachedFrames (.create Unit) 0 0
        [frameBytes attachedFrames] :=
  @streamingDecompress_feedsAll_iff _ _ _ [] _ _ _ (streamLibrary_eagerContract storedBlocks) rfl
    attachedFrames_valid (by simp)

/-- In one chunk, the data frame is dropped without an error. -/
theorem streamingDecompress_drops_attachedFrames :
    ¬∀ (frames : List (Bytes × Bytes)) (chunks : List Bytes) (dctx : DStream Unit),
      rbStreamingDecompressInitialize (streamLibrary storedBlocks) [] = .ok dctx →
      (∀ frame ∈ frames, (undeclaredFormat storedBlocks).Frame none frame.1 frame.2) →
      (∀ chunk ∈ chunks, chunk ≠ []) → chunks.flatten = frameBytes frames →
      FeedsAll (streamLibrary storedBlocks) dctx chunks (frameContents frames) := by
  intro promised
  have feeds := promised attachedFrames [frameBytes attachedFrames] (.create Unit) rfl
    attachedFrames_valid (by decide) (by simp)
  have stops : (rbStreamingDecompressDecompress (streamLibrary storedBlocks) 2 (.create Unit)
      (.string (frameBytes attachedFrames))).map (fun outcome => outcome.pos) = some 8 := by
    decide +kernel
  rcases Option.map_eq_some_iff.mp stops with ⟨outcome, returned, stopped⟩
  generalize frameContents attachedFrames = contents at feeds
  cases feeds with
  | cons call rest =>
      have same := (settles_of_decompress returned).unique call
      rw [same] at stopped
      have length : (frameBytes attachedFrames).length = 8 := stopped
      exact absurd length (by decide +kernel)

end ZstdRuby
