import ZstdRuby.Foundation.Loop
import ZstdRuby.Libzstd.Decompression

/-! # `Zstd.decompress`

`set_decompress_params` of `common.h` and `decode_one_frame` and
`rb_decompress` of `zstdruby.c`.
-/

namespace ZstdRuby

open Libzstd

variable {DCtx : Type}

/-! ## The model -/

def setDecompressParams (library : DecompressLibrary DCtx) (dctx : DCtx) (kwargs : Kwargs) :
    Except RubyError DCtx := do
  let values ← rbGetKwargs kwargs ["dict"]
  match values "dict" with
  | none | some .nil => .ok dctx
  | some (.ddict ddict) =>
      match library.refDDict dctx ddict with
      | .ok dctx => .ok dctx
      | .error _ => .error (.runtimeError "ZSTD_DCtx_refDDict failed")
  | some (.string dict) =>
      match library.loadDictionary dctx dict with
      | .ok dctx => .ok dctx
      | .error _ => .error (.runtimeError "ZSTD_CCtx_loadDictionary failed")
  | some _ => .error (.argumentError "`dict:` must be a Zstd::DDict or a String")

structure DrainState (DCtx : Type) where
  dctx : DCtx
  pos : Nat
  out : Bytes

/-- The library call of one pass: what is left of the source, and the whole
scratch buffer. -/
def drainReply (library : DecompressLibrary DCtx) (src : Bytes) (state : DrainState DCtx) :
    Streaming.Reply DCtx UInt8 ErrorCode :=
  library.decompressStream state.dctx dStreamOutSize (src.drop state.pos)

/-- One pass of the drain loop of `decode_one_frame`. -/
def drainPass (library : DecompressLibrary DCtx) (src : Bytes) (state : DrainState DCtx) :
    Pass (DrainState DCtx) (Except RubyError Bytes) :=
  let reply := drainReply library src state
  let out := state.out ++ reply.output
  match reply.status with
  | .error code =>
      .leave (.error (.runtimeError ("ZSTD_decompressStream failed: " ++ code.getErrorName)))
  | .ok 0 => .leave (.ok out)
  | .ok (_ + 1) => .again ⟨reply.context, state.pos + reply.consumed, out⟩

section

variable {library : DecompressLibrary DCtx} {src : Bytes} {state : DrainState DCtx}

theorem drainPass_failed {code : ErrorCode}
    (failed : (drainReply library src state).status = .error code) :
    drainPass library src state = .leave (.error (.runtimeError
      ("ZSTD_decompressStream failed: " ++ code.getErrorName))) := by
  simp only [drainPass, failed]

theorem drainPass_finished (finished : (drainReply library src state).status = .ok 0) :
    drainPass library src state =
      .leave (.ok (state.out ++ (drainReply library src state).output)) := by
  simp only [drainPass, finished]

theorem drainPass_unfinished {status : Nat}
    (unfinished : (drainReply library src state).status = .ok (status + 1)) :
    drainPass library src state = .again ⟨(drainReply library src state).context,
      state.pos + (drainReply library src state).consumed,
      state.out ++ (drainReply library src state).output⟩ := by
  simp only [drainPass, unfinished]

end

def decodeOneFrame (library : DecompressLibrary DCtx) (fuel : Nat) (dctx : DCtx)
    (src : Bytes) (kwargs : Kwargs) : Option (Except RubyError Bytes) :=
  match setDecompressParams library (library.resetSession dctx) kwargs with
  | .error raised => some (.error raised)
  | .ok dctx => Loop.run (drainPass library src) fuel ⟨dctx, 0, []⟩

/-- One pass of the scan loop of `rb_decompress`, at offset `off`. `size_t` has
`width` bits. The loop leaves with the offset of the frame to decode. -/
def scanPass (width : Nat) (input : Bytes) (off : Nat) : Pass Nat (Option Nat) :=
  if ¬(off + 4) % 2 ^ width ≤ input.length then .leave none
  else
    let magic := readLE32 (input.drop off)
    if isSkippableMagic magic then
      if (off + 8) % 2 ^ width > input.length then .leave none
      else
        let skipLen := readLE32 (input.drop (off + 4))
        let adv := (8 + skipLen) % 2 ^ width
        if (off + adv) % 2 ^ width > input.length then .leave none
        else .again ((off + adv) % 2 ^ width)
    else if magic = magicNumber then .leave (some off)
    else .again ((off + 1) % 2 ^ width)

def rbDecompress (library : DecompressLibrary DCtx) (fuel : Nat) (input : Value)
    (kwargs : Kwargs) : Option (Except RubyError Bytes) :=
  match input.stringValue with
  | .error raised => some (.error raised)
  | .ok input =>
      (Loop.run (scanPass 64 input) fuel 0).bind fun found =>
        match found with
        | none => some (.error (.runtimeError "not a zstd frame (magic not found)"))
        | some off =>
            match library.createDCtx with
            | none => some (.error (.runtimeError "ZSTD_createDCtx failed"))
            | some dctx => decodeOneFrame library fuel dctx (input.drop off) kwargs

/-! ## Contexts -/

section

variable {library : DecompressLibrary DCtx} {dctx next : DCtx} {kwargs : Kwargs}

def decompressDictionary (kwargs : Kwargs) : Option Bytes :=
  match kwargs.lookup "dict" with
  | some (.ddict ddict) => some ddict.dict
  | some (.string dict) => some dict
  | _ => none

theorem setDecompressParams_prepared (prepared : library.Prepared none dctx)
    (accepted : setDecompressParams library dctx kwargs = .ok next) :
    library.Prepared (decompressDictionary kwargs) next := by
  simp only [setDecompressParams, bind, Except.bind] at accepted
  split at accepted
  · cases accepted
  · rename_i values listed
    have lookup : values "dict" = kwargs.lookup "dict" := by
      simp only [rbGetKwargs] at listed
      split at listed <;> cases listed
      rfl
    rw [lookup] at accepted
    simp only [decompressDictionary]
    split at accepted
    · rename_i absent
      cases accepted
      simpa only [absent] using prepared
    · rename_i absent
      cases accepted
      simpa only [absent] using prepared
    · rename_i ddict given
      split at accepted
      · rename_i referenced
        cases accepted
        simpa only [given] using .reference prepared referenced
      · cases accepted
    · rename_i dict given
      split at accepted
      · rename_i loaded
        cases accepted
        simpa only [given] using .load prepared loaded
      · cases accepted
    · cases accepted

end

end ZstdRuby
