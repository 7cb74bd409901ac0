import ZstdRuby.Extension.Decompress

/-! # `Zstd::StreamingDecompress`

The functions of `streaming_decompress.c`. Of an initialized object only the
context is modelled: its buffer has the size `ZSTD_DStreamOutSize` throughout,
and each call reads from it what libzstd has just written there.
-/

namespace ZstdRuby

open Libzstd

variable {DCtx : Type}

/-! ## The model -/

def rbStreamingDecompressInitialize (library : DecompressLibrary DCtx) (kwargs : Kwargs) :
    Except RubyError DCtx :=
  match library.createDCtx with
  | none => .error (.runtimeError "ZSTD_createDCtx error")
  | some dctx => setDecompressParams library dctx kwargs

/-- How a method call ends: what it returns or raises, the context it leaves in
the object, and `input.pos`. -/
structure StreamingOutcome (DCtx : Type) (ρ : Type) where
  result : Except RubyError ρ
  dctx : DCtx
  pos : Nat

def decompressReply (library : DecompressLibrary DCtx) (input : Bytes)
    (state : DrainState DCtx) : Streaming.Reply DCtx UInt8 ErrorCode :=
  library.decompressStream state.dctx dStreamOutSize (input.drop state.pos)

/-- One pass of the loop of `rb_streaming_decompress_decompress`, its condition
included. -/
def decompressPass (library : DecompressLibrary DCtx) (input : Bytes)
    (state : DrainState DCtx) : Pass (DrainState DCtx) (StreamingOutcome DCtx Bytes) :=
  if ¬state.pos < input.length then .leave ⟨.ok state.out, state.dctx, state.pos⟩
  else
    let reply := decompressReply library input state
    let pos := state.pos + reply.consumed
    let result := state.out ++ reply.output
    match reply.status with
    | .error code => .leave ⟨.error (.runtimeError
        ("decompress error error code: " ++ code.getErrorName)), reply.context, pos⟩
    | .ok status =>
        if status = 0 ∧ reply.output = [] then .leave ⟨.ok result, reply.context, pos⟩
        else .again ⟨reply.context, pos, result⟩

def rbStreamingDecompressDecompress (library : DecompressLibrary DCtx) (fuel : Nat)
    (dctx : DCtx) (src : Value) : Option (StreamingOutcome DCtx Bytes) :=
  match src.stringValue with
  | .error raised => some ⟨.error raised, dctx, 0⟩
  | .ok input => Loop.run (decompressPass library input) fuel ⟨dctx, 0, []⟩

def rbStreamingDecompressDecompressWithPos (library : DecompressLibrary DCtx) (dctx : DCtx)
    (src : Value) : StreamingOutcome DCtx (Bytes × Nat) :=
  match src.stringValue with
  | .error raised => ⟨.error raised, dctx, 0⟩
  | .ok input =>
      let reply := library.decompressStream dctx dStreamOutSize input
      match reply.status with
      | .error code => ⟨.error (.runtimeError
          ("decompress error error code: " ++ code.getErrorName)), reply.context, reply.consumed⟩
      | .ok _ => ⟨.ok (reply.output, reply.consumed), reply.context, reply.consumed⟩

inductive DecompressCall
  | decompress (src : Value)
  | decompressWithPos (src : Value)

def DecompressCall.run (library : DecompressLibrary DCtx) (fuel : Nat) (dctx : DCtx) :
    DecompressCall → Option (Except RubyError Unit × DCtx)
  | decompress src => (rbStreamingDecompressDecompress library fuel dctx src).map fun outcome =>
      (outcome.result.map fun _ => (), outcome.dctx)
  | decompressWithPos src =>
      let outcome := rbStreamingDecompressDecompressWithPos library dctx src
      some (outcome.result.map fun _ => (), outcome.dctx)

/-! ## Contexts -/

section

variable {library : DecompressLibrary DCtx} {dctx : DCtx} {kwargs : Kwargs}

theorem rbStreamingDecompressInitialize_prepared
    (initialized : rbStreamingDecompressInitialize library kwargs = .ok dctx) :
    library.Prepared (decompressDictionary kwargs) dctx := by
  rw [rbStreamingDecompressInitialize] at initialized
  split at initialized
  · cases initialized
  · rename_i created
    exact setDecompressParams_prepared (.create created) initialized

theorem settles_of_decompress {src : Value} {fuel : Nat} {outcome : StreamingOutcome DCtx Bytes}
    (returned : rbStreamingDecompressDecompress library fuel dctx src = some outcome) :
    Settles (fun fuel => rbStreamingDecompressDecompress library fuel dctx src) outcome := by
  simp only [rbStreamingDecompressDecompress] at returned ⊢
  cases converted : src.stringValue with
  | error raised =>
      simp only [converted, Option.some.injEq] at returned
      exact returned ▸ Settles.of_const _
  | ok input =>
      simp only [converted] at returned
      exact Loop.settles_of_run returned

/-! ## Passes -/

variable {input : Bytes} {state : DrainState DCtx}

theorem decompressPass_exhausted (exhausted : ¬state.pos < input.length) :
    decompressPass library input state = .leave ⟨.ok state.out, state.dctx, state.pos⟩ := by
  rw [decompressPass, if_pos exhausted]

theorem decompressPass_replied {status : Nat} (left : state.pos < input.length)
    (replied : (decompressReply library input state).status = .ok status) :
    decompressPass library input state =
      if status = 0 ∧ (decompressReply library input state).output = [] then
        .leave ⟨.ok (state.out ++ (decompressReply library input state).output),
          (decompressReply library input state).context,
          state.pos + (decompressReply library input state).consumed⟩
      else .again ⟨(decompressReply library input state).context,
        state.pos + (decompressReply library input state).consumed,
        state.out ++ (decompressReply library input state).output⟩ := by
  rw [decompressPass, if_neg (not_not.mpr left)]
  simp only [replied]

theorem decompressPass_failed {code : ErrorCode} (left : state.pos < input.length)
    (failed : (decompressReply library input state).status = .error code) :
    decompressPass library input state = .leave ⟨.error (.runtimeError
      ("decompress error error code: " ++ code.getErrorName)),
      (decompressReply library input state).context,
      state.pos + (decompressReply library input state).consumed⟩ := by
  rw [decompressPass, if_neg (not_not.mpr left)]
  simp only [failed]

end

end ZstdRuby
