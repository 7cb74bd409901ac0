import ZstdRuby.Libzstd.Compression

/-! # `Zstd.compress`

`set_compress_params` of `common.h` and `rb_compress` of `zstdruby.c`.
-/

namespace ZstdRuby

open Libzstd

variable {CCtx : Type}

/-! ## The model -/

def convertCompressionLevel (value : Value) : Except RubyError Int :=
  match value with
  | .nil => .ok clevelDefault
  | .integer number => (Value.integer number).num2int
  | _ => .error (.typeError "compression level must be an Integer")

/-- The level `set_compress_params` sets. -/
def compressionLevel (level : Option Value) : Except RubyError Int :=
  match level with
  | none | some .nil => .ok clevelDefault
  | some level => convertCompressionLevel level

def setCompressParams (library : CompressLibrary CCtx) (ctx : CCtx) (kwargs : Kwargs) :
    Except RubyError CCtx := do
  let values ← rbGetKwargs kwargs ["level", "dict"]
  let compressionLevel ← compressionLevel (values "level")
  let ctx := library.setCompressionLevel ctx compressionLevel
  match values "dict" with
  | none | some .nil => .ok ctx
  | some (.cdict cdict) =>
      match library.refCDict ctx cdict with
      | .ok ctx => .ok ctx
      | .error _ => .error (.runtimeError "ZSTD_CCtx_refCDict failed")
  | some (.string dict) =>
      match library.loadDictionary ctx dict with
      | .ok ctx => .ok ctx
      | .error _ => .error (.runtimeError "ZSTD_CCtx_loadDictionary failed")
  | some _ => .error (.argumentError "`dict:` must be a Zstd::CDict or a String")

def rbCompress (library : CompressLibrary CCtx) (input : Value) (kwargs : Kwargs) :
    Except RubyError Bytes := do
  let input ← input.stringValue
  match library.createCCtx with
  | none => .error (.runtimeError "ZSTD_createCCtx error")
  | some ctx => do
      let ctx ← setCompressParams library ctx kwargs
      match library.compress2 ctx (compressBound input.length) input with
      | .ok output => .ok output
      | .error code =>
          .error (.runtimeError ("compress error error code: " ++ code.getErrorName))

/-! ## Contexts -/

section

variable {library : CompressLibrary CCtx} {ctx next : CCtx} {kwargs : Kwargs}

def compressDictionary (kwargs : Kwargs) : Option Bytes :=
  match kwargs.lookup "dict" with
  | some (.cdict cdict) => some cdict.dict
  | some (.string dict) => some dict
  | _ => none

theorem setCompressParams_prepared (prepared : library.Prepared none ctx)
    (accepted : setCompressParams library ctx kwargs = .ok next) :
    library.Prepared (compressDictionary kwargs) next := by
  simp only [setCompressParams, bind, Except.bind] at accepted
  split at accepted
  · cases accepted
  · rename_i values listed
    have lookup : values "dict" = kwargs.lookup "dict" := by
      simp only [rbGetKwargs] at listed
      split at listed <;> cases listed
      rfl
    split at accepted
    · cases accepted
    · rename_i level converted
      rw [lookup] at accepted
      simp only [compressDictionary]
      split at accepted
      · rename_i absent
        cases accepted
        simpa only [absent] using prepared.level level
      · rename_i absent
        cases accepted
        simpa only [absent] using prepared.level level
      · rename_i cdict given
        split at accepted
        · rename_i referenced
          cases accepted
          simpa only [given] using .reference (prepared.level level) referenced
        · cases accepted
      · rename_i dict given
        split at accepted
        · rename_i loaded
          cases accepted
          simpa only [given] using .load (prepared.level level) loaded
        · cases accepted
      · cases accepted

end

end ZstdRuby
