import ZstdRuby.Foundation.StreamingEncoder
import ZstdRuby.Libzstd.Decompression

/-! # The compression half of `zstd.h`

The functions of libzstd the extension calls while compressing, as parameters,
and what their documentation promises.
-/

namespace ZstdRuby.Libzstd

open Streaming

def clevelDefault : Int := 3

/-- The compression functions. `setCompressionLevel` is `ZSTD_CCtx_setParameter`
for `ZSTD_c_compressionLevel`, whose result the extension does not look at. -/
structure CompressLibrary (CCtx : Type) where
  /-- `ZSTD_createCCtx`; `none` is `NULL`. -/
  createCCtx : Option CCtx
  setCompressionLevel : CCtx → Int → CCtx
  /-- `ZSTD_CCtx_refCDict`. -/
  refCDict : CCtx → CDict → Except ErrorCode CCtx
  /-- `ZSTD_CCtx_loadDictionary`. -/
  loadDictionary : CCtx → Bytes → Except ErrorCode CCtx
  /-- `ZSTD_compress2`: what it writes to a destination of a certain capacity. -/
  compress2 : CCtx → (capacity : Nat) → (source : Bytes) → Except ErrorCode Bytes
  /-- `ZSTD_compressStream2`. -/
  compressStream2 : Encoder CCtx UInt8 UInt8 ErrorCode

namespace CompressLibrary

variable {CCtx : Type}

inductive Prepared (library : CompressLibrary CCtx) : Option Bytes → CCtx → Prop
  | create {cctx : CCtx} (created : library.createCCtx = some cctx) :
      Prepared library none cctx
  | level {cctx : CCtx} (prepared : Prepared library none cctx) (level : Int) :
      Prepared library none (library.setCompressionLevel cctx level)
  | reference {cctx next : CCtx} {cdict : CDict} (prepared : Prepared library none cctx)
      (referenced : library.refCDict cctx cdict = .ok next) :
      Prepared library (some cdict.dict) next
  | load {cctx next : CCtx} {dict : Bytes} (prepared : Prepared library none cctx)
      (loaded : library.loadDictionary cctx dict = .ok next) :
      Prepared library (some dict) next

/-- With this dictionary, and with a destination of the size of the bound,
`ZSTD_compress2` writes one complete data frame. -/
structure OneShotContract (library : CompressLibrary CCtx) (format : FrameFormat)
    (dictionary : Option Bytes) : Prop where
  compresses : ∀ {cctx}, Prepared library dictionary cctx →
    ∀ source : Bytes, source.length < 2 ^ 63 →
      ∃ frame, library.compress2 cctx (compressBound source.length) source = .ok frame ∧
        format.DataFrame dictionary frame source

theorem OneShotContract.mono {library : CompressLibrary CCtx} {format wider : FrameFormat}
    {dictionary : Option Bytes} (contract : library.OneShotContract format dictionary)
    (includes : ∀ {frame content}, format.DataFrame dictionary frame content →
      wider.DataFrame dictionary frame content) :
    library.OneShotContract wider dictionary where
  compresses := by
    intro cctx prepared source fits
    rcases contract.compresses prepared source fits with ⟨frame, compressed, isData⟩
    exact ⟨frame, compressed, includes isData⟩

structure Accepts (library : CompressLibrary CCtx) (dictionary : Option Bytes) : Prop where
  creates : ∃ cctx, library.createCCtx = some cctx
  references : ∀ {cctx dict}, Prepared library none cctx → dictionary = some dict →
    ∀ level, ∃ next, library.refCDict cctx ⟨dict, level⟩ = .ok next
  loads : ∀ {cctx dict}, Prepared library none cctx → dictionary = some dict →
    ∃ next, library.loadDictionary cctx dict = .ok next

def recording (library : CompressLibrary CCtx) :
    CompressLibrary (CCtx × List (Response UInt8 ErrorCode)) where
  createCCtx := library.createCCtx.map fun cctx => (cctx, [])
  setCompressionLevel cctx level := (library.setCompressionLevel cctx.1 level, cctx.2)
  refCDict cctx cdict := (library.refCDict cctx.1 cdict).map fun next => (next, cctx.2)
  loadDictionary cctx dict := (library.loadDictionary cctx.1 dict).map fun next => (next, cctx.2)
  compress2 cctx := library.compress2 cctx.1
  compressStream2 := library.compressStream2.recording

theorem Prepared.of_recording {library : CompressLibrary CCtx} {dictionary : Option Bytes}
    {cctx : CCtx × List (Response UInt8 ErrorCode)}
    (prepared : library.recording.Prepared dictionary cctx) :
    library.Prepared dictionary cctx.1 ∧ cctx.2 = [] := by
  induction prepared with
  | create created =>
      rcases Option.map_eq_some_iff.mp created with ⟨inner, innerCreated, rfl⟩
      exact ⟨.create innerCreated, rfl⟩
  | level prepared level induction => exact ⟨.level induction.1 level, induction.2⟩
  | @reference cctx next cdict prepared referenced induction =>
      cases result : library.refCDict cctx.1 cdict with
      | error code => simp [recording, result, Except.map] at referenced
      | ok reached =>
          simp only [recording, result, Except.map, Except.ok.injEq] at referenced
          subst referenced
          exact ⟨.reference induction.1 result, induction.2⟩
  | @load cctx next dict prepared loaded induction =>
      cases result : library.loadDictionary cctx.1 dict with
      | error code => simp [recording, result, Except.map] at loaded
      | ok reached =>
          simp only [recording, result, Except.map, Except.ok.injEq] at loaded
          subst loaded
          exact ⟨.load induction.1 result, induction.2⟩

end CompressLibrary

end ZstdRuby.Libzstd
