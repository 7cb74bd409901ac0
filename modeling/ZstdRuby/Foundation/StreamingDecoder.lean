import Mathlib.Data.List.Infix
import ZstdRuby.Foundation.Loop

/-! # Bounded-buffer streaming decoders

A streaming decoder is called again and again with a slice of its input and a
bounded output buffer. This file says what a caller may rely on, for any input
and output alphabet and any grammar of frames, and derives the facts callers
use: what one call does inside a sequence of frames, and that a decoder which
has consumed every frame has delivered every frame's content.
-/

namespace Streaming

universe u v w x

/-- What one call of a streaming function hands back: its new context, the
number of input elements it consumed, what it wrote to the output buffer, and
its status. -/
structure Reply (Context : Type u) (β : Type v) (Error : Type w) where
  context : Context
  consumed : Nat
  output : List β
  status : Except Error Nat

/-- A decoder call takes the context, the room in the output buffer and the
input presented to it. Status zero reports the end of a frame. -/
abbrev Decoder (Context : Type u) (α : Type x) (β : Type v) (Error : Type w) :=
  Context → (capacity : Nat) → (source : List α) → Reply Context β Error

section

variable {Context : Type u} {α : Type x} {β : Type v} {Error : Type w}

/-! ## Sessions -/

/-- `DecodingSession decoder initial stream context taken given`: some sequence
of calls on the initial context leads to `context`, each call presenting a
slice of `stream` from where the previous one stopped, and since the last end
of a frame the calls have taken `taken` and given `given`. At the end of a
frame the caller goes on with any new stream. -/
inductive DecodingSession (decoder : Decoder Context α β Error) (initial : Context) :
    List α → Context → List α → List β → Prop
  | initial (stream : List α) : DecodingSession decoder initial stream initial [] []
  | inside {stream : List α} {context : Context} {taken : List α} {given : List β}
      {capacity : Nat} {source : List α} {status : Nat}
      (session : DecodingSession decoder initial stream context taken given)
      (presented : source <+: stream.drop taken.length)
      (unfinished : (decoder context capacity source).status = .ok (status + 1)) :
      DecodingSession decoder initial stream (decoder context capacity source).context
        (taken ++ source.take (decoder context capacity source).consumed)
        (given ++ (decoder context capacity source).output)
  | boundary {stream : List α} {context : Context} {taken : List α} {given : List β}
      {capacity : Nat} {source : List α} (next : List α)
      (session : DecodingSession decoder initial stream context taken given)
      (presented : source <+: stream.drop taken.length)
      (finished : (decoder context capacity source).status = .ok 0) :
      DecodingSession decoder initial next (decoder context capacity source).context [] []

/-- What a call achieves in a frame of which `taken` has been consumed and from
which `given` has been delivered. -/
structure FrameProgress (frame : List α) (content : List β) (taken : List α)
    (given : List β) (reply : Reply Context β Error) (status : Nat) : Prop where
  within : taken.length + reply.consumed ≤ frame.length
  delivers : given ++ reply.output <+: content
  finished_iff : status = 0 ↔
    taken.length + reply.consumed = frame.length ∧ given ++ reply.output = content
  progress : status ≠ 0 → 0 < reply.consumed ∨ 0 < reply.output.length

/-- The contract of a streaming decoder for a grammar of frames: calls stay
within their buffers, status zero is reported exactly when the current frame is
decoded and delivered, and a call that has input to work on makes progress. How
much a call consumes or delivers is left open. -/
structure DecoderContract (decoder : Decoder Context α β Error) (initial : Context)
    (Frame : List α → List β → Prop) : Prop where
  frame_nonempty : ∀ {frame content}, Frame frame content → frame ≠ []
  bounded : ∀ {stream context taken given capacity source status},
    DecodingSession decoder initial stream context taken given →
    source <+: stream.drop taken.length →
    (decoder context capacity source).status = .ok status →
    (decoder context capacity source).consumed ≤ source.length ∧
      (decoder context capacity source).output.length ≤ capacity
  complete : ∀ {stream context taken given capacity source frame content},
    DecodingSession decoder initial stream context taken given →
    Frame frame content → frame <+: stream → taken.length ≤ frame.length →
    source <+: stream.drop taken.length → 0 < capacity →
    source ≠ [] ∨ taken.length = frame.length →
    ∃ status, (decoder context capacity source).status = .ok status ∧
      FrameProgress frame content taken given (decoder context capacity source) status

/-- A withholding decoder reports the last element of a frame as consumed only
once everything decoded from the frame has been delivered. -/
structure WithholdingContract (decoder : Decoder Context α β Error) (initial : Context)
    (Frame : List α → List β → Prop) : Prop
    extends DecoderContract decoder initial Frame where
  withholds : ∀ {stream context taken given capacity source frame content status},
    DecodingSession decoder initial stream context taken given →
    Frame frame content → frame <+: stream → taken.length < frame.length →
    source <+: stream.drop taken.length →
    (decoder context capacity source).status = .ok (status + 1) →
    taken.length + (decoder context capacity source).consumed < frame.length

/-- An eager decoder stops inside a frame only when the input presented to it
is used up, or when the output buffer is full and more is waiting. -/
structure EagerContract (decoder : Decoder Context α β Error) (initial : Context)
    (Frame : List α → List β → Prop) : Prop
    extends WithholdingContract decoder initial Frame where
  eager : ∀ {stream context taken given capacity source frame content status},
    DecodingSession decoder initial stream context taken given →
    Frame frame content → frame <+: stream → taken.length < frame.length →
    source <+: stream.drop taken.length → 0 < capacity → source ≠ [] →
    (decoder context capacity source).status = .ok (status + 1) →
    (decoder context capacity source).consumed = source.length ∨
      ((decoder context capacity source).output.length = capacity ∧
        given ++ (decoder context capacity source).output ≠ content)

/-! ## Sessions with the whole rest -/

/-- `WholeSession decoder initial capacity stream context taken given`: calls with
buffers of one size, each presented with all of the stream that the calls before
it have left, none of which has ended a frame. -/
inductive WholeSession (decoder : Decoder Context α β Error) (initial : Context)
    (capacity : Nat) (stream : List α) : Context → List α → List β → Prop
  | initial : WholeSession decoder initial capacity stream initial [] []
  | inside {context : Context} {taken : List α} {given : List β} {status : Nat}
      (session : WholeSession decoder initial capacity stream context taken given)
      (unfinished : (decoder context capacity (stream.drop taken.length)).status =
        .ok (status + 1)) :
      WholeSession decoder initial capacity stream
        (decoder context capacity (stream.drop taken.length)).context
        (taken ++ (stream.drop taken.length).take
          (decoder context capacity (stream.drop taken.length)).consumed)
        (given ++ (decoder context capacity (stream.drop taken.length)).output)

theorem WholeSession.decodingSession {decoder : Decoder Context α β Error}
    {initial context : Context} {capacity : Nat} {stream taken : List α} {given : List β}
    (session : WholeSession decoder initial capacity stream context taken given) :
    DecodingSession decoder initial stream context taken given := by
  induction session with
  | initial => exact .initial stream
  | inside session unfinished induction =>
      exact .inside induction (List.prefix_refl _) unfinished

/-- A frame at the start of a stream that is always presented as a whole is
decoded. -/
structure DecodesWhole (decoder : Decoder Context α β Error) (initial : Context)
    (capacity : Nat) (Frame : List α → List β → Prop) : Prop where
  bounded : ∀ {stream context taken given status},
    WholeSession decoder initial capacity stream context taken given →
    (decoder context capacity (stream.drop taken.length)).status = .ok status →
    (decoder context capacity (stream.drop taken.length)).consumed ≤
        (stream.drop taken.length).length ∧
      (decoder context capacity (stream.drop taken.length)).output.length ≤ capacity
  complete : ∀ {stream context taken given frame content},
    WholeSession decoder initial capacity stream context taken given →
    Frame frame content → frame <+: stream → taken.length ≤ frame.length →
    ∃ status, (decoder context capacity (stream.drop taken.length)).status = .ok status ∧
      FrameProgress frame content taken given
        (decoder context capacity (stream.drop taken.length)) status

structure WholeContract (decoder : Decoder Context α β Error) (initial : Context)
    (capacity : Nat) (Frame : List α → List β → Prop) : Prop
    extends DecodesWhole decoder initial capacity Frame where
  sound : ∀ {stream context taken given},
    WholeSession decoder initial capacity stream context taken given →
    (decoder context capacity (stream.drop taken.length)).status = .ok 0 →
    Frame (taken ++ (stream.drop taken.length).take
        (decoder context capacity (stream.drop taken.length)).consumed)
      (given ++ (decoder context capacity (stream.drop taken.length)).output)

theorem DecoderContract.decodesWhole {decoder : Decoder Context α β Error} {initial : Context}
    {capacity : Nat} {Frame : List α → List β → Prop}
    (contract : DecoderContract decoder initial Frame) (room : 0 < capacity) :
    DecodesWhole decoder initial capacity Frame where
  bounded := fun session replied =>
    contract.bounded session.decodingSession (List.prefix_refl _) replied
  complete := by
    intro stream context taken given frame content session isFrame heads within
    have input : stream.drop taken.length ≠ [] ∨ taken.length = frame.length := by
      have longer := heads.length_le
      rw [Ne, List.drop_eq_nil_iff]
      omega
    exact contract.complete session.decodingSession isFrame heads within (List.prefix_refl _)
      room input

/-! ## Sequences of frames -/

theorem drop_eq_append_drop {γ : Type u} {values part : List γ} {position : Nat}
    (found : part <+: values.drop position) :
    values.drop position = part ++ values.drop (position + part.length) := by
  rcases found with ⟨after, split⟩
  rw [← List.drop_drop, ← split, List.drop_left]

theorem prefix_drop_of_append {γ : Type u} {values before part : List γ}
    (found : before ++ part <+: values) : part <+: values.drop before.length := by
  rcases found with ⟨after, rfl⟩
  exact ⟨after, by simp⟩

def frameBytes (frames : List (List α × List β)) : List α :=
  (frames.map Prod.fst).flatten

def frameContents (frames : List (List α × List β)) : List β :=
  (frames.map Prod.snd).flatten

@[simp] theorem frameBytes_nil : frameBytes ([] : List (List α × List β)) = [] := rfl

@[simp] theorem frameBytes_cons (frame : List α) (content : List β)
    (frames : List (List α × List β)) :
    frameBytes ((frame, content) :: frames) = frame ++ frameBytes frames := rfl

@[simp] theorem frameContents_nil :
    frameContents ([] : List (List α × List β)) = [] := rfl

@[simp] theorem frameContents_cons (frame : List α) (content : List β)
    (frames : List (List α × List β)) :
    frameContents ((frame, content) :: frames) = content ++ frameContents frames := rfl

theorem frameBytes_append (left right : List (List α × List β)) :
    frameBytes (left ++ right) = frameBytes left ++ frameBytes right := by
  simp only [frameBytes, List.map_append, List.flatten_append]

theorem frameContents_append (left right : List (List α × List β)) :
    frameContents (left ++ right) = frameContents left ++ frameContents right := by
  simp only [frameContents, List.map_append, List.flatten_append]

/-- The decoder stands inside the first of the remaining frames, or between
frames when nothing of that frame has been taken. -/
structure Position (decoder : Decoder Context α β Error) (initial : Context)
    (Frame : List α → List β → Prop) (context : Context)
    (frames : List (List α × List β)) (taken : List α) (given : List β) : Prop where
  valid : ∀ frame ∈ frames, Frame frame.1 frame.2
  session : DecodingSession decoder initial (frameBytes frames) context taken given
  takenPrefix : taken <+: frameBytes frames
  inside : ∀ frame content rest, frames = (frame, content) :: rest →
    taken.length < frame.length ∧ given <+: content
  outside : frames = [] → given = []

namespace Position

variable {decoder : Decoder Context α β Error} {initial context : Context}
  {Frame : List α → List β → Prop} {frames : List (List α × List β)}
  {taken : List α} {given : List β}

def bytesLeft (frames : List (List α × List β)) (taken : List α) : List α :=
  (frameBytes frames).drop taken.length

def contentLeft (frames : List (List α × List β)) (given : List β) : List β :=
  (frameContents frames).drop given.length

theorem start (contract : DecoderContract decoder initial Frame)
    (valid : ∀ frame ∈ frames, Frame frame.1 frame.2)
    (session : DecodingSession decoder initial (frameBytes frames) context [] []) :
    Position decoder initial Frame context frames [] [] where
  valid := valid
  session := session
  takenPrefix := List.nil_prefix
  inside := by
    intro frame content rest equal
    have nonempty := contract.frame_nonempty (valid (frame, content) (by simp [equal]))
    exact ⟨List.length_pos_iff.mpr nonempty, List.nil_prefix⟩
  outside := fun _ => rfl

theorem contentLeft_eq_nil
    (position : Position decoder initial Frame context frames taken given)
    (used : bytesLeft frames taken = []) : contentLeft frames given = [] := by
  cases frames with
  | nil => simp [contentLeft]
  | cons head rest =>
      have inside := (position.inside head.1 head.2 rest rfl).1
      have reached := List.drop_eq_nil_iff.mp used
      simp [frameBytes_cons head.1 head.2] at reached
      omega

structure Advances (decoder : Decoder Context α β Error) (initial : Context)
    (Frame : List α → List β → Prop) (frames : List (List α × List β))
    (taken : List α) (given : List β) (source : List α)
    (reply : Reply Context β Error) : Prop where
  status : ∃ status, reply.status = .ok (status + 1)
  consumed_le : reply.consumed ≤ source.length
  progress : 0 < reply.consumed ∨ 0 < reply.output.length
  position : Position decoder initial Frame reply.context frames
    (taken ++ source.take reply.consumed) (given ++ reply.output)

structure Completes (decoder : Decoder Context α β Error) (initial : Context)
    (Frame : List α → List β → Prop) (frame : List α) (content : List β)
    (rest : List (List α × List β)) (taken : List α) (given : List β)
    (source : List α) (reply : Reply Context β Error) : Prop where
  status : reply.status = .ok 0
  consumed_le : reply.consumed ≤ source.length
  reaches : taken.length + reply.consumed = frame.length
  delivers : given ++ reply.output = content
  position : Position decoder initial Frame reply.context rest [] []

theorem call {frame : List α} {content : List β} {rest : List (List α × List β)}
    {capacity : Nat} {source : List α}
    (contract : WithholdingContract decoder initial Frame)
    (position : Position decoder initial Frame context ((frame, content) :: rest)
      taken given)
    (presented : source <+: bytesLeft ((frame, content) :: rest) taken)
    (nonempty : source ≠ []) (room : 0 < capacity) :
    Advances decoder initial Frame ((frame, content) :: rest) taken given source
        (decoder context capacity source) ∨
      Completes decoder initial Frame frame content rest taken given source
        (decoder context capacity source) := by
  have isFrame : Frame frame content := position.valid (frame, content) (by simp)
  have heads : frame <+: frameBytes ((frame, content) :: rest) :=
    List.prefix_append _ _
  have inside := position.inside frame content rest rfl
  rcases contract.complete position.session isFrame heads inside.1.le presented
    room (Or.inl nonempty) with ⟨status, replied, made⟩
  have bounded := contract.bounded position.session presented replied
  cases status with
  | zero =>
      right
      have finished := made.finished_iff.mp rfl
      refine ⟨replied, bounded.1, finished.1, finished.2, ?_⟩
      exact start contract.toDecoderContract
        (fun frame member => position.valid frame (List.mem_cons_of_mem _ member))
        (.boundary _ position.session presented replied)
  | succ status =>
      left
      refine ⟨⟨status, replied⟩, bounded.1, made.progress (Nat.succ_ne_zero _), ?_⟩
      have withheld := contract.withholds position.session isFrame heads inside.1
        presented replied
      refine ⟨position.valid, .inside position.session presented replied, ?_, ?_, ?_⟩
      · rcases position.takenPrefix with ⟨after, split⟩
        have atCursor : bytesLeft ((frame, content) :: rest) taken = after := by
          simp [bytesLeft, ← split]
        rw [atCursor] at presented
        rw [← split, List.prefix_append_right_inj]
        exact (List.take_prefix _ _).trans presented
      · intro frame' content' rest' equal
        cases equal
        have takes := List.length_take_le (decoder context capacity source).consumed source
        refine ⟨?_, made.delivers⟩
        rw [List.length_append, List.length_take]
        omega
      · intro empty
        cases empty

end Position

/-! ## What is left to decode -/

/-- The decoder stands in some sequence of frames of which `bytes` is still to
be taken and `content` is still to be given. -/
def Remaining (decoder : Decoder Context α β Error) (initial : Context)
    (Frame : List α → List β → Prop) (context : Context)
    (bytes : List α) (content : List β) : Prop :=
  ∃ frames taken given, Position decoder initial Frame context frames taken given ∧
    bytes = Position.bytesLeft frames taken ∧
    content = Position.contentLeft frames given

namespace Remaining

variable {decoder : Decoder Context α β Error} {initial context : Context}
  {Frame : List α → List β → Prop} {bytes : List α} {content : List β}

theorem start {frames : List (List α × List β)}
    (contract : DecoderContract decoder initial Frame)
    (valid : ∀ frame ∈ frames, Frame frame.1 frame.2) :
    Remaining decoder initial Frame initial (frameBytes frames)
      (frameContents frames) :=
  ⟨frames, [], [], Position.start contract valid (.initial _), rfl, rfl⟩

theorem content_eq_nil (remaining : Remaining decoder initial Frame context [] content) :
    content = [] := by
  rcases remaining with ⟨frames, taken, given, position, used, rfl⟩
  exact position.contentLeft_eq_nil used.symm

theorem call {capacity : Nat} {source : List α}
    (contract : WithholdingContract decoder initial Frame)
    (remaining : Remaining decoder initial Frame context bytes content)
    (presented : source <+: bytes) (nonempty : source ≠ []) (room : 0 < capacity) :
    ∃ status bytesAfter contentAfter,
      (decoder context capacity source).status = .ok status ∧
      (decoder context capacity source).consumed ≤ source.length ∧
      (0 < (decoder context capacity source).consumed ∨
        0 < (decoder context capacity source).output.length) ∧
      bytes = source.take (decoder context capacity source).consumed ++ bytesAfter ∧
      content = (decoder context capacity source).output ++ contentAfter ∧
      Remaining decoder initial Frame (decoder context capacity source).context
        bytesAfter contentAfter := by
  rcases remaining with ⟨frames, taken, given, position, rfl, rfl⟩
  cases frames with
  | nil => simp_all [Position.bytesLeft]
  | cons head rest =>
      rcases head with ⟨frame, frameContent⟩
      have inside := position.inside frame frameContent rest rfl
      rcases position.call contract presented nonempty room with advances | completes
      · rcases advances.status with ⟨status, replied⟩
        refine ⟨status + 1, _, _, replied, advances.consumed_le, advances.progress,
          ?_, ?_, _, _, _, advances.position, rfl, rfl⟩
        · rw [Position.bytesLeft, Position.bytesLeft, List.length_append]
          exact drop_eq_append_drop ((List.take_prefix _ _).trans presented)
        · have delivered := (advances.position.inside frame frameContent rest rfl).2
          rw [Position.contentLeft, Position.contentLeft, List.length_append]
          exact drop_eq_append_drop
            (prefix_drop_of_append (delivered.trans (List.prefix_append _ _)))
      · refine ⟨0, _, _, completes.status, completes.consumed_le, ?_, ?_, ?_,
          _, _, _, completes.position, rfl, rfl⟩
        · have reaches := completes.reaches
          omega
        · have split := drop_eq_append_drop ((List.take_prefix
            (decoder context capacity source).consumed source).trans presented)
          rw [List.length_take, min_eq_left completes.consumed_le,
            completes.reaches] at split
          simpa [Position.bytesLeft] using split
        · simp [Position.contentLeft, ← completes.delivers]

end Remaining

end

end Streaming
