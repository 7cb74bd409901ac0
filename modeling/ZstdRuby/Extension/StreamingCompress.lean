import ZstdRuby.Extension.Compress
import ZstdRuby.Foundation.Loop

/-! # `Zstd::StreamingCompress`

The functions of `streaming_compress.c`. `<<`, `print`, `puts` and `printf` are
Ruby's own and call `write`. The buffer of an object has the size
`ZSTD_CStreamOutSize` throughout, and each call reads from it what libzstd has
just written there.
-/

namespace ZstdRuby

open Libzstd Streaming

variable {CCtx : Type}

/-! ## The model -/

structure StreamingCompress (CCtx : Type) where
  ctx : CCtx
  /-- The compressed bytes `write` has produced. -/
  pending : Bytes

def rbStreamingCompressInitialize (library : CompressLibrary CCtx) (kwargs : Kwargs) :
    Except RubyError (StreamingCompress CCtx) :=
  match library.createCCtx with
  | none => .error (.runtimeError "ZSTD_createCCtx error")
  | some ctx =>
      match setCompressParams library ctx kwargs with
      | .ok ctx => .ok ⟨ctx, []⟩
      | .error raised => .error raised

/-- How a method call ends: what it returns or raises, and the object it
leaves. -/
structure CompressOutcome (CCtx : Type) (ρ : Type) where
  result : Except RubyError ρ
  stream : StreamingCompress CCtx

structure NoCompressState (CCtx : Type) where
  ctx : CCtx
  result : Bytes

def noCompressReply (library : CompressLibrary CCtx) (endOp : Directive)
    (state : NoCompressState CCtx) : Reply CCtx UInt8 ErrorCode :=
  library.compressStream2 state.ctx endOp cStreamOutSize []

/-- One pass of the loop of `no_compress`. It leaves with the result or an
error, and the context. -/
def noCompressPass (library : CompressLibrary CCtx) (endOp : Directive)
    (state : NoCompressState CCtx) :
    Pass (NoCompressState CCtx) (Except RubyError Bytes × CCtx) :=
  let reply := noCompressReply library endOp state
  match reply.status with
  | .error code => .leave (.error (.runtimeError
      ("flush error error code: " ++ code.getErrorName)), reply.context)
  | .ok 0 => .leave (.ok (state.result ++ reply.output), reply.context)
  | .ok (_ + 1) => .again ⟨reply.context, state.result ++ reply.output⟩

def noCompress (library : CompressLibrary CCtx) (endOp : Directive) (fuel : Nat) (ctx : CCtx) :
    Option (Except RubyError Bytes × CCtx) :=
  Loop.run (noCompressPass library endOp) fuel ⟨ctx, []⟩

/-- The state of the loop that feeds a string: the context, `input.pos`, and the
string that output is appended to. -/
structure FeedState (CCtx : Type) where
  ctx : CCtx
  pos : Nat
  out : Bytes

def feedReply (library : CompressLibrary CCtx) (input : Bytes) (state : FeedState CCtx) :
    Reply CCtx UInt8 ErrorCode :=
  library.compressStream2 state.ctx .proceed cStreamOutSize (input.drop state.pos)

/-- One pass of the loop in `rb_streaming_compress_compress`, and of the inner
loop in `rb_streaming_compress_write`, the condition included. -/
def feedPass (library : CompressLibrary CCtx) (input : Bytes) (state : FeedState CCtx) :
    Pass (FeedState CCtx) (Except RubyError Unit × FeedState CCtx) :=
  if ¬state.pos < input.length then .leave (.ok (), state)
  else
    let reply := feedReply library input state
    match reply.status with
    | .error code => .leave (.error (.runtimeError
        ("compress error error code: " ++ code.getErrorName)),
        ⟨reply.context, state.pos + reply.consumed, state.out⟩)
    | .ok _ =>
        .again ⟨reply.context, state.pos + reply.consumed, state.out ++ reply.output⟩

def feed (library : CompressLibrary CCtx) (input : Bytes) (fuel : Nat) (ctx : CCtx)
    (out : Bytes) : Option (Except RubyError Unit × FeedState CCtx) :=
  Loop.run (feedPass library input) fuel ⟨ctx, 0, out⟩

def rbStreamingCompressCompress (library : CompressLibrary CCtx) (fuel : Nat)
    (stream : StreamingCompress CCtx) (src : Value) : Option (CompressOutcome CCtx Bytes) :=
  match src.stringValue with
  | .error raised => some ⟨.error raised, stream⟩
  | .ok input => (feed library input fuel stream.ctx []).map fun fed =>
      ⟨fed.1.map fun _ => fed.2.out, { stream with ctx := fed.2.ctx }⟩

/-- The outer loop of `rb_streaming_compress_write`. Its output is appended to
`pending`. -/
def writeLoop (library : CompressLibrary CCtx) (fuel : Nat) :
    StreamingCompress CCtx → (total : Nat) → List Value → Option (CompressOutcome CCtx Nat)
  | stream, total, [] => some ⟨.ok total, stream⟩
  | stream, total, str :: argv =>
      match str.stringValue with
      | .error raised => some ⟨.error raised, stream⟩
      | .ok input => (feed library input fuel stream.ctx stream.pending).bind fun fed =>
          match fed.1 with
          | .error raised => some ⟨.error raised, ⟨fed.2.ctx, fed.2.out⟩⟩
          | .ok _ => writeLoop library fuel ⟨fed.2.ctx, fed.2.out⟩ (total + input.length) argv

def rbStreamingCompressWrite (library : CompressLibrary CCtx) (fuel : Nat)
    (stream : StreamingCompress CCtx) (argv : List Value) : Option (CompressOutcome CCtx Nat) :=
  writeLoop library fuel stream 0 argv

/-- What `flush` and `finish` do: drain the encoder and return `pending` before
what has been drained. -/
def drainPending (library : CompressLibrary CCtx) (endOp : Directive) (fuel : Nat)
    (stream : StreamingCompress CCtx) : Option (CompressOutcome CCtx Bytes) :=
  (noCompress library endOp fuel stream.ctx).map fun drained =>
    match drained.1 with
    | .error raised => ⟨.error raised, { stream with ctx := drained.2 }⟩
    | .ok bytes => ⟨.ok (stream.pending ++ bytes), ⟨drained.2, []⟩⟩

def rbStreamingCompressFlush (library : CompressLibrary CCtx) (fuel : Nat)
    (stream : StreamingCompress CCtx) : Option (CompressOutcome CCtx Bytes) :=
  drainPending library .flush fuel stream

def rbStreamingCompressFinish (library : CompressLibrary CCtx) (fuel : Nat)
    (stream : StreamingCompress CCtx) : Option (CompressOutcome CCtx Bytes) :=
  drainPending library .finish fuel stream

inductive CompressCall
  | compress (src : Value)
  | write (argv : List Value)
  | flush
  | finish

namespace CompressCall

/-- The call: the string it returns, or what it raises. `write` returns no
string. -/
def run (library : CompressLibrary CCtx) (fuel : Nat) (stream : StreamingCompress CCtx) :
    CompressCall → Option (CompressOutcome CCtx Bytes)
  | compress src => rbStreamingCompressCompress library fuel stream src
  | write argv => (rbStreamingCompressWrite library fuel stream argv).map fun outcome =>
      ⟨outcome.result.map fun _ => [], outcome.stream⟩
  | flush => rbStreamingCompressFlush library fuel stream
  | finish => rbStreamingCompressFinish library fuel stream

end CompressCall

/-! ## Contexts -/

theorem rbStreamingCompressInitialize_prepared
    {library : CompressLibrary CCtx} {kwargs : Kwargs} {stream : StreamingCompress CCtx}
    (initialized : rbStreamingCompressInitialize library kwargs = .ok stream) :
    library.Prepared (compressDictionary kwargs) stream.ctx ∧ stream.pending = [] := by
  rw [rbStreamingCompressInitialize] at initialized
  split at initialized
  · cases initialized
  · rename_i ctx created
    split at initialized
    · rename_i next accepted
      cases initialized
      exact ⟨setCompressParams_prepared (.create created) accepted, rfl⟩
    · cases initialized

end ZstdRuby
