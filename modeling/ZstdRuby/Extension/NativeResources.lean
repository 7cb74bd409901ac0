import ZstdRuby.Extension.StreamingCompress
import ZstdRuby.Extension.StreamingDecompress
import ZstdRuby.Foundation.Recorded

/-! # Native contexts and buffers

The functions of the extension once more, with a ledger of the libzstd contexts
and of the scratch buffer they acquire and release. A Ruby exception leaves every
C function it passes through at once, so nothing is released after it has been
raised.
-/

namespace ZstdRuby

open Libzstd

variable {CCtx DCtx : Type}

/-! ## The ledger -/

inductive Resource
  /-- From `ZSTD_createCCtx`. -/
  | cctx
  /-- From `ZSTD_createDCtx`. -/
  | dctx
  /-- From `ALLOC_N`. -/
  | scratch
  deriving DecidableEq

/-- What happens to a resource, and what is decoded with it. An adopted resource is
stored in a stream object, whose free function releases it. -/
inductive LedgerEntry
  | acquire (resource : Resource)
  | release (resource : Resource)
  | adopt (resource : Resource)
  | decode (src : Bytes)
  deriving DecidableEq

/-- The resources that are held after the entries, where `held` were held
before. `none` is the release or the adoption of a resource that is not held. -/
def heldAfter (held : List Resource) : List LedgerEntry → Option (List Resource)
  | [] => some held
  | .acquire resource :: entries => heldAfter (resource :: held) entries
  | .release resource :: entries | .adopt resource :: entries =>
      if resource ∈ held then heldAfter (held.erase resource) entries else none
  | .decode _ :: entries => heldAfter held entries

/-- Everything acquired has been released once or is owned by a stream object. -/
def Balanced (entries : List LedgerEntry) : Prop := heldAfter [] entries = some []

instance (entries : List LedgerEntry) : Decidable (Balanced entries) :=
  inferInstanceAs (Decidable (_ = _))

def sourcesDecoded (entries : List LedgerEntry) : List Bytes :=
  entries.filterMap fun entry =>
    match entry with
    | .decode src => some src
    | _ => none

abbrev Native (ρ : Type) := Recorded LedgerEntry RubyError ρ

/-! ## Compression -/

def convertCompressionLevelNative (value : Value) : Native Int :=
  match value with
  | .nil => .lift (.ok clevelDefault)
  | .integer number => .lift (Value.integer number).num2int
  | _ => do
      .note (.release .cctx)
      .lift (.error (.typeError "compression level must be an Integer"))

def compressionLevelNative (level : Option Value) : Native Int :=
  match level with
  | none | some .nil => .lift (.ok clevelDefault)
  | some level => convertCompressionLevelNative level

def setCompressParamsNative (library : CompressLibrary CCtx) (ctx : CCtx) (kwargs : Kwargs) :
    Native CCtx := do
  let values ← .lift (rbGetKwargs kwargs ["level", "dict"])
  let compressionLevel ← compressionLevelNative (values "level")
  let ctx := library.setCompressionLevel ctx compressionLevel
  match values "dict" with
  | none | some .nil => return ctx
  | some (.cdict cdict) =>
      match library.refCDict ctx cdict with
      | .ok ctx => return ctx
      | .error _ => do
          .note (.release .cctx)
          .lift (.error (.runtimeError "ZSTD_CCtx_refCDict failed"))
  | some (.string dict) =>
      match library.loadDictionary ctx dict with
      | .ok ctx => return ctx
      | .error _ => do
          .note (.release .cctx)
          .lift (.error (.runtimeError "ZSTD_CCtx_loadDictionary failed"))
  | some _ => do
      .note (.release .cctx)
      .lift (.error (.argumentError "`dict:` must be a Zstd::CDict or a String"))

/-- `rb_thread_call_without_gvl`. An exception from another thread that is pending when
the call has been made is raised there. -/
def withoutGvl {ρ : Type} (pending : Option RubyError) (called : ρ) : Native ρ :=
  match pending with
  | none => .lift (.ok called)
  | some raised => .lift (.error raised)

def rbCompressNative (library : CompressLibrary CCtx) (pending : Option RubyError)
    (input : Value) (kwargs : Kwargs) : Native Bytes := do
  let input ← .lift input.stringValue
  match library.createCCtx with
  | none => .lift (.error (.runtimeError "ZSTD_createCCtx error"))
  | some ctx => do
      .note (.acquire .cctx)
      let ctx ← setCompressParamsNative library ctx kwargs
      let compressed ← withoutGvl pending
        (library.compress2 ctx (compressBound input.length) input)
      .note (.release .cctx)
      match compressed with
      | .ok output => return output
      | .error code =>
          .lift (.error (.runtimeError ("compress error error code: " ++ code.getErrorName)))

def rbStreamingCompressInitializeNative (library : CompressLibrary CCtx) (kwargs : Kwargs) :
    Native (StreamingCompress CCtx) :=
  match library.createCCtx with
  | none => .lift (.error (.runtimeError "ZSTD_createCCtx error"))
  | some ctx => do
      .note (.acquire .cctx)
      let ctx ← setCompressParamsNative library ctx kwargs
      .note (.adopt .cctx)
      return ⟨ctx, []⟩

/-! ## Decompression -/

def setDecompressParamsNative (library : DecompressLibrary DCtx) (dctx : DCtx)
    (kwargs : Kwargs) : Native DCtx := do
  let values ← .lift (rbGetKwargs kwargs ["dict"])
  match values "dict" with
  | none | some .nil => return dctx
  | some (.ddict ddict) =>
      match library.refDDict dctx ddict with
      | .ok dctx => return dctx
      | .error _ => do
          .note (.release .dctx)
          .lift (.error (.runtimeError "ZSTD_DCtx_refDDict failed"))
  | some (.string dict) =>
      match library.loadDictionary dctx dict with
      | .ok dctx => return dctx
      | .error _ => do
          .note (.release .dctx)
          .lift (.error (.runtimeError "ZSTD_CCtx_loadDictionary failed"))
  | some _ => do
      .note (.release .dctx)
      .lift (.error (.argumentError "`dict:` must be a Zstd::DDict or a String"))

/-- `decode_one_frame`. The buffer is allocated before the parameters are set, and
released when the loop ends, in whichever way. -/
def decodeOneFrameNative (library : DecompressLibrary DCtx) (fuel : Nat) (dctx : DCtx)
    (src : Bytes) (kwargs : Kwargs) : Option (Native Bytes) :=
  let params : Native DCtx := do
    .note (.decode src)
    .note (.acquire .scratch)
    setDecompressParamsNative library (library.resetSession dctx) kwargs
  match params.result with
  | .error raised => some ⟨params.record, .error raised⟩
  | .ok dctx => (Loop.run (drainPass library src) fuel ⟨dctx, 0, []⟩).map fun drained =>
      ⟨params.record ++ [.release .scratch], drained⟩

/-- What `rb_decompress` does around the decoding of a frame. -/
def withDCtx (decoded : Native Bytes) : Native Bytes := do
  .note (.acquire .dctx)
  let out ← decoded
  .note (.release .dctx)
  return out

def rbDecompressNative (library : DecompressLibrary DCtx) (fuel : Nat) (input : Value)
    (kwargs : Kwargs) : Option (Native Bytes) :=
  match input.stringValue with
  | .error raised => some (.lift (.error raised))
  | .ok input =>
      (Loop.run (scanPass 64 input) fuel 0).bind fun found =>
        match found with
        | none => some (.lift (.error (.runtimeError "not a zstd frame (magic not found)")))
        | some off =>
            match library.createDCtx with
            | none => some (.lift (.error (.runtimeError "ZSTD_createDCtx failed")))
            | some dctx =>
                (decodeOneFrameNative library fuel dctx (input.drop off) kwargs).map withDCtx

def rbStreamingDecompressInitializeNative (library : DecompressLibrary DCtx) (kwargs : Kwargs) :
    Native DCtx :=
  match library.createDCtx with
  | none => .lift (.error (.runtimeError "ZSTD_createDCtx error"))
  | some dctx => do
      .note (.acquire .dctx)
      let dctx ← setDecompressParamsNative library dctx kwargs
      .note (.adopt .dctx)
      return dctx

end ZstdRuby
