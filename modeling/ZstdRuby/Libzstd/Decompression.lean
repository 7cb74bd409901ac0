import ZstdRuby.Foundation.CallRecord
import ZstdRuby.Libzstd.SkippableFrame

/-! # The decompression half of `zstd.h`

The functions of libzstd the extension calls while decompressing, as
parameters, and what their documentation promises.
-/

namespace ZstdRuby.Libzstd

open Streaming

/-- The decompression functions. A context is a value: a call takes the context
it works on and returns the context it leaves. -/
structure DecompressLibrary (DCtx : Type) where
  /-- `ZSTD_createDCtx`; `none` is `NULL`. -/
  createDCtx : Option DCtx
  /-- `ZSTD_DCtx_reset(dctx, ZSTD_reset_session_only)`. -/
  resetSession : DCtx → DCtx
  /-- `ZSTD_DCtx_refDDict`. -/
  refDDict : DCtx → DDict → Except ErrorCode DCtx
  /-- `ZSTD_DCtx_loadDictionary`. -/
  loadDictionary : DCtx → Bytes → Except ErrorCode DCtx
  /-- `ZSTD_decompressStream`. -/
  decompressStream : Decoder DCtx UInt8 UInt8 ErrorCode

/-- The frames of the format: which bytes are a complete data frame, for a
dictionary, and with which content. Data frames start with the magic number. -/
structure FrameFormat where
  DataFrame : (dictionary : Option Bytes) → (frame content : Bytes) → Prop
  magic : ∀ {dictionary frame content}, DataFrame dictionary frame content →
    writeLE32 magicNumber <+: frame

namespace FrameFormat

def SkippableFrame (frame content : Bytes) : Prop :=
  ∃ variant payload, variant ≤ 15 ∧ payload.length < 2 ^ 32 ∧
    frame = skippableFrame variant payload ∧ content = []

def Frame (format : FrameFormat) (dictionary : Option Bytes) (frame content : Bytes) : Prop :=
  format.DataFrame dictionary frame content ∨ SkippableFrame frame content

end FrameFormat

namespace DecompressLibrary

variable {DCtx : Type}

inductive Prepared (library : DecompressLibrary DCtx) : Option Bytes → DCtx → Prop
  | create {dctx : DCtx} (created : library.createDCtx = some dctx) :
      Prepared library none dctx
  | reset {dictionary : Option Bytes} {dctx : DCtx}
      (prepared : Prepared library dictionary dctx) :
      Prepared library dictionary (library.resetSession dctx)
  | reference {dctx next : DCtx} {ddict : DDict} (prepared : Prepared library none dctx)
      (referenced : library.refDDict dctx ddict = .ok next) :
      Prepared library (some ddict.dict) next
  | load {dctx next : DCtx} {dict : Bytes} (prepared : Prepared library none dctx)
      (loaded : library.loadDictionary dctx dict = .ok next) :
      Prepared library (some dict) next

/-- The documented behaviour for a format: prepared contexts decode its frames
under their dictionary, however they split the work over calls. -/
structure Contract (library : DecompressLibrary DCtx) (format : FrameFormat) : Prop where
  decodes : ∀ {dictionary dctx}, Prepared library dictionary dctx →
    DecoderContract library.decompressStream dctx (format.Frame dictionary)

/-- As `zstd_decompress.c` does it, the last byte of a frame is withheld until
the output is flushed. -/
structure WithholdingContract (library : DecompressLibrary DCtx) (format : FrameFormat) :
    Prop where
  decodes : ∀ {dictionary dctx}, Prepared library dictionary dctx →
    Streaming.WithholdingContract library.decompressStream dctx (format.Frame dictionary)

/-- As `zstd_decompress.c` does it, a call also works until its input is used up
or its output buffer is full. -/
structure EagerContract (library : DecompressLibrary DCtx) (format : FrameFormat) :
    Prop where
  decodes : ∀ {dictionary dctx}, Prepared library dictionary dctx →
    Streaming.EagerContract library.decompressStream dctx (format.Frame dictionary)

/-- What `decode_one_frame` needs of a library, which presents all that is left of
its input in every call: prepared contexts decode the frames of the format. -/
structure DecodesWhole (library : DecompressLibrary DCtx) (format : FrameFormat) : Prop where
  decodes : ∀ {dictionary dctx}, Prepared library dictionary dctx →
    Streaming.DecodesWhole library.decompressStream dctx dStreamOutSize (format.Frame dictionary)

structure WholeContract (library : DecompressLibrary DCtx) (format : FrameFormat) : Prop where
  decodes : ∀ {dictionary dctx}, Prepared library dictionary dctx →
    Streaming.WholeContract library.decompressStream dctx dStreamOutSize
      (format.Frame dictionary)

structure Accepts (library : DecompressLibrary DCtx) (dictionary : Option Bytes) : Prop where
  creates : ∃ dctx, library.createDCtx = some dctx
  references : ∀ {dctx dict}, Prepared library none dctx → dictionary = some dict →
    ∃ next, library.refDDict dctx ⟨dict⟩ = .ok next
  loads : ∀ {dctx dict}, Prepared library none dctx → dictionary = some dict →
    ∃ next, library.loadDictionary dctx dict = .ok next

/-- The library, with a record of its stream calls in the context. A reset starts
a new record. -/
def recording (library : DecompressLibrary DCtx) :
    DecompressLibrary (DCtx × List (Response UInt8 ErrorCode)) where
  createDCtx := library.createDCtx.map fun dctx => (dctx, [])
  resetSession dctx := (library.resetSession dctx.1, [])
  refDDict dctx ddict := (library.refDDict dctx.1 ddict).map fun next => (next, dctx.2)
  loadDictionary dctx dict := (library.loadDictionary dctx.1 dict).map fun next => (next, dctx.2)
  decompressStream := library.decompressStream.recording

theorem Prepared.recording_nil {library : DecompressLibrary DCtx} {dictionary : Option Bytes}
    {dctx : DCtx × List (Response UInt8 ErrorCode)}
    (prepared : library.recording.Prepared dictionary dctx) : dctx.2 = [] := by
  induction prepared with
  | create created =>
      rcases Option.map_eq_some_iff.mp created with ⟨inner, innerCreated, rfl⟩
      rfl
  | reset => rfl
  | @reference dctx next ddict prepared referenced induction =>
      cases result : library.refDDict dctx.1 ddict with
      | error code => simp [recording, result, Except.map] at referenced
      | ok reached =>
          simp only [recording, result, Except.map, Except.ok.injEq] at referenced
          subst referenced
          exact induction
  | @load dctx next dict prepared loaded induction =>
      cases result : library.loadDictionary dctx.1 dict with
      | error code => simp [recording, result, Except.map] at loaded
      | ok reached =>
          simp only [recording, result, Except.map, Except.ok.injEq] at loaded
          subst loaded
          exact induction

theorem Contract.decodesWhole {library : DecompressLibrary DCtx} {format : FrameFormat}
    (contract : library.Contract format) : library.DecodesWhole format :=
  ⟨fun prepared => (contract.decodes prepared).decodesWhole (by decide)⟩

theorem WholeContract.toDecodesWhole {library : DecompressLibrary DCtx} {format : FrameFormat}
    (contract : library.WholeContract format) : library.DecodesWhole format :=
  ⟨fun prepared => (contract.decodes prepared).toDecodesWhole⟩

theorem WithholdingContract.toContract {library : DecompressLibrary DCtx}
    {format : FrameFormat} (contract : library.WithholdingContract format) :
    library.Contract format :=
  ⟨fun prepared => (contract.decodes prepared).toDecoderContract⟩

theorem EagerContract.toWithholdingContract {library : DecompressLibrary DCtx}
    {format : FrameFormat} (contract : library.EagerContract format) :
    library.WithholdingContract format :=
  ⟨fun prepared => (contract.decodes prepared).toWithholdingContract⟩

end DecompressLibrary

end ZstdRuby.Libzstd
