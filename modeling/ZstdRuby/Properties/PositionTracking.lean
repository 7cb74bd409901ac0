import ZstdRuby.Foundation.Run
import ZstdRuby.Properties.StreamingDecompress

/-! # A caller that tracks the position

`decompress_with_pos` makes one library call and says how much of its argument
has been consumed. A caller that presents something of the rest each time gets
everything.
-/

namespace ZstdRuby

open Libzstd Streaming

variable {DCtx : Type} {library : DecompressLibrary DCtx}

/-! ## The caller -/

/-- A stream, with everything the caller has presented, the sum of the counts,
and everything that has been returned. -/
structure TrackedStream (DCtx : Type) where
  dctx : DCtx
  presented : List Bytes
  pos : Nat
  returned : Bytes

def Tracks (library : DecompressLibrary DCtx) (input : Bytes) (before : TrackedStream DCtx)
    (chunk : Bytes) (after : TrackedStream DCtx) : Prop :=
  chunk ≠ [] ∧ chunk <+: input.drop before.pos ∧
  ∃ output count next pos,
    rbStreamingDecompressDecompressWithPos library before.dctx (.string chunk) =
      ⟨.ok (output, count), next, pos⟩ ∧
    after = ⟨next, before.presented ++ [chunk], before.pos + count, before.returned ++ output⟩

/-- A caller's policy always presents something of what has not been consumed. -/
def Presents (input : Bytes) (policy : TrackedStream DCtx → Bytes)
    (state : TrackedStream DCtx) : Prop :=
  state.pos < input.length → policy state ≠ [] ∧ policy state <+: input.drop state.pos

/-! ## One call -/

/-- What the caller keeps: the decoder has taken what has been consumed of the
frames, and has given what has been returned of their contents. -/
structure Tracking (library : DecompressLibrary DCtx) (initial : DCtx)
    (Frame : Bytes → Bytes → Prop) (input content : Bytes) (state : TrackedStream DCtx) :
    Prop where
  pos_le : state.pos ≤ input.length
  isPrefix : state.returned <+: content
  remaining : Remaining library.decompressStream initial Frame state.dctx
    (input.drop state.pos) (content.drop state.returned.length)

section

variable {initial : DCtx} {Frame : Bytes → Bytes → Prop} {input content chunk : Bytes}
  {state next : TrackedStream DCtx}

def TrackedStream.left (input content : Bytes) (state : TrackedStream DCtx) : Nat :=
  (input.length - state.pos) + (content.length - state.returned.length)

theorem Tracking.call (contract : WithholdingContract library.decompressStream initial Frame)
    (tracking : Tracking library initial Frame input content state) (nonempty : chunk ≠ [])
    (presented : chunk <+: input.drop state.pos) :
    ∃ output count next,
      rbStreamingDecompressDecompressWithPos library state.dctx (.string chunk) =
        ⟨.ok (output, count), next, count⟩ ∧
      count ≤ chunk.length ∧ (0 < count ∨ output ≠ []) ∧
      Tracking library initial Frame input content
        ⟨next, state.presented ++ [chunk], state.pos + count, state.returned ++ output⟩ := by
  rcases tracking.remaining.call contract presented nonempty (by decide : 0 < dStreamOutSize) with
    ⟨status, bytesAfter, contentAfter, replied, bound, progress, bytesLeft, contentLeft, after⟩
  have chunkLength := presented.length_le
  rw [List.length_drop] at chunkLength
  have within := tracking.pos_le
  refine ⟨_, _, (library.decompressStream state.dctx dStreamOutSize chunk).context, ?_, bound,
    progress.imp_right List.length_pos_iff.mp, ?_, ?_, ?_⟩
  · simp only [rbStreamingDecompressDecompressWithPos, Value.stringValue_string, replied]
  · simp only
    omega
  · rcases tracking.isPrefix with ⟨rest, split⟩
    rw [← split, List.drop_left] at contentLeft
    rw [← split, contentLeft, ← List.append_assoc]
    exact List.prefix_append _ _
  · have bytes := congrArg (List.drop
      (library.decompressStream state.dctx dStreamOutSize chunk).consumed) bytesLeft
    have contents := congrArg (List.drop
      (library.decompressStream state.dctx dStreamOutSize chunk).output.length) contentLeft
    rw [List.drop_left' (by rw [List.length_take, min_eq_left bound]), List.drop_drop] at bytes
    rw [List.drop_left, List.drop_drop] at contents
    simp only [List.length_append, bytes, contents]
    exact after

theorem Tracking.step (contract : WithholdingContract library.decompressStream initial Frame)
    (tracking : Tracking library initial Frame input content state)
    (tracks : Tracks library input state chunk next) :
    Tracking library initial Frame input content next ∧
      next.left input content < state.left input content := by
  rcases tracks with ⟨nonempty, presented, output, count, dctx, pos, called, rfl⟩
  rcases tracking.call contract nonempty presented with
    ⟨output', count', dctx', called', -, progress, kept⟩
  rw [called] at called'
  cases called'
  have length := kept.isPrefix.length_le
  have within := kept.pos_le
  simp only [List.length_append] at length within
  refine ⟨kept, ?_⟩
  simp only [TrackedStream.left, List.length_append]
  rcases progress with consumed | given
  · omega
  · have positive := List.length_pos_iff.mpr given
    omega

theorem Tracking.returned_eq (tracking : Tracking library initial Frame input content state)
    (whole : state.pos = input.length) : state.returned = content := by
  have remaining := tracking.remaining
  rw [whole, List.drop_length] at remaining
  exact tracking.isPrefix.eq_of_length_le (List.drop_eq_nil_iff.mp remaining.content_eq_nil)

end

/-! ## Any policy -/

/-- Every call of a caller that presents something of the rest returns, with a
count that lies inside what it presented, and consumes or returns something.
Every caller's calls are bounded; those of a caller that goes on until
everything has been consumed reach the end, and there everything has been
returned. -/
theorem decompressWithPos_tracks {format : FrameFormat} {kwargs : Kwargs} {dctx : DCtx}
    {frames : List (Bytes × Bytes)}
    (contract : library.WithholdingContract format)
    (initialized : rbStreamingDecompressInitialize library kwargs = .ok dctx)
    (valid : ∀ frame ∈ frames, format.Frame (decompressDictionary kwargs) frame.1 frame.2) :
    (∀ chunks state, Run (Tracks library (frameBytes frames)) ⟨dctx, [], 0, []⟩ chunks state →
      (∀ chunk, chunk ≠ [] → chunk <+: (frameBytes frames).drop state.pos →
        ∃ output count next,
          rbStreamingDecompressDecompressWithPos library state.dctx (.string chunk) =
            ⟨.ok (output, count), next, count⟩ ∧
          count ≤ chunk.length ∧ (0 < count ∨ output ≠ [])) ∧
      chunks.length ≤ (frameBytes frames).length + (frameContents frames).length ∧
      state.pos ≤ (frameBytes frames).length ∧
      state.returned <+: frameContents frames ∧
      (state.pos = (frameBytes frames).length → state.returned = frameContents frames)) ∧
    ∀ policy : TrackedStream DCtx → Bytes,
      (∀ chunks state, Run (Tracks library (frameBytes frames)) ⟨dctx, [], 0, []⟩ chunks state →
        Presents (frameBytes frames) policy state) →
      ∃ chunks state, Run (fun before chunk after =>
          Tracks library (frameBytes frames) before chunk after ∧ chunk = policy before)
          ⟨dctx, [], 0, []⟩ chunks state ∧
        state.pos = (frameBytes frames).length ∧ state.returned = frameContents frames := by
  have decodes := contract.decodes (rbStreamingDecompressInitialize_prepared initialized)
  have start : Tracking library dctx (format.Frame (decompressDictionary kwargs))
      (frameBytes frames) (frameContents frames) ⟨dctx, [], 0, []⟩ :=
    ⟨Nat.zero_le _, List.nil_prefix, Remaining.start decodes.toDecoderContract valid⟩
  have kept : ∀ {chunks state},
      Run (Tracks library (frameBytes frames)) ⟨dctx, [], 0, []⟩ chunks state →
      Tracking library dctx (format.Frame (decompressDictionary kwargs))
        (frameBytes frames) (frameContents frames) state :=
    fun run => run.invariant _ (fun tracking tracks => (tracking.step decodes tracks).1) start
  constructor
  · intro chunks state run
    have tracking := kept run
    refine ⟨fun chunk nonempty presented => ?_, ?_, tracking.pos_le, tracking.isPrefix,
      tracking.returned_eq⟩
    · rcases tracking.call decodes nonempty presented with
        ⟨output, count, next, called, bound, progress, -⟩
      exact ⟨output, count, next, called, bound, progress⟩
    · have bounded := run.length_le _ (TrackedStream.left (frameBytes frames)
        (frameContents frames)) (fun tracking tracks => tracking.step decodes tracks) start
      simp only [TrackedStream.left, List.length_nil, Nat.sub_zero] at bounded
      omega
  · intro policy presents
    have progress : ∀ {state}, (∃ chunks,
          Run (Tracks library (frameBytes frames)) ⟨dctx, [], 0, []⟩ chunks state) →
        ¬state.pos = (frameBytes frames).length →
        ∃ chunk next, (Tracks library (frameBytes frames) state chunk next ∧
            chunk = policy state) ∧
          (∃ chunks, Run (Tracks library (frameBytes frames)) ⟨dctx, [], 0, []⟩ chunks next) ∧
          next.left (frameBytes frames) (frameContents frames) <
            state.left (frameBytes frames) (frameContents frames) := by
      rintro state ⟨chunks, run⟩ short
      have tracking := kept run
      have presented := presents chunks state run (lt_of_le_of_ne tracking.pos_le short)
      rcases tracking.call decodes presented.1 presented.2 with
        ⟨output, count, next, called, -, -, -⟩
      have tracks : Tracks library (frameBytes frames) state (policy state) _ :=
        ⟨presented.1, presented.2, output, count, next, count, called, rfl⟩
      exact ⟨_, _, ⟨tracks, rfl⟩, ⟨_, run.snoc tracks⟩, (tracking.step decodes tracks).2⟩
    have beginning : Run (fun before chunk after =>
        Tracks library (frameBytes frames) before chunk after ∧ chunk = policy before)
        ⟨dctx, [], 0, []⟩ [] ⟨dctx, [], 0, []⟩ := .nil
    rcases beginning.reaches _ _ _ progress ⟨[], .nil⟩ with ⟨chunks, state, run, -, whole⟩
    exact ⟨chunks, state, run, whole, (kept (run.mono And.left)).returned_eq whole⟩

theorem decompressWithPos_tracks_attachedFrames : ∃ chunks state,
    Run (Tracks (streamLibrary storedBlocks) (frameBytes attachedFrames))
      ⟨.create Unit, [], 0, []⟩ chunks state ∧
    state.returned = [0x61, 0x62, 0x63] := by
  have tracks := @decompressWithPos_tracks _ (streamLibrary storedBlocks) _ [] (.create Unit)
    attachedFrames (streamLibrary_eagerContract storedBlocks).toWithholdingContract rfl
    attachedFrames_valid
  have oneByOne : ∀ state : TrackedStream (DStream Unit), Presents (frameBytes attachedFrames)
      (fun state => ((frameBytes attachedFrames).drop state.pos).take 1) state := by
    intro state short
    refine ⟨?_, List.take_prefix _ _⟩
    rw [Ne, List.take_eq_nil_iff, List.drop_eq_nil_iff]
    omega
  rcases tracks.2 _ fun _ state _ => oneByOne state with ⟨chunks, state, run, -, returned⟩
  exact ⟨chunks, state, run.mono And.left, returned⟩

end ZstdRuby
