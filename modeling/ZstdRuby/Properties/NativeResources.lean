import ZstdRuby.Extension.NativeResources
import ZstdRuby.Properties.DecodeOneFrame
import ZstdRuby.Properties.FrameStart
import ZstdRuby.Properties.StoredEncoder
import ZstdRuby.Properties.WholeFrames

/-! # Which calls leak

A call that raises where nothing is released leaves behind what it has acquired.
-/

namespace ZstdRuby

open Libzstd

variable {CCtx DCtx : Type}

/-! ## The ledger changes no result -/

section

variable {library : CompressLibrary CCtx} {ctx : CCtx} {kwargs : Kwargs}

theorem compressionLevelNative_result (level : Option Value) :
    (compressionLevelNative level).result = compressionLevel level := by
  cases level with
  | none => rfl
  | some level => cases level <;> rfl

theorem setCompressParamsNative_result :
    (setCompressParamsNative library ctx kwargs).result =
      setCompressParams library ctx kwargs := by
  simp only [setCompressParamsNative, setCompressParams, Recorded.bind_result,
    compressionLevelNative_result]
  apply congrArg
  funext values
  apply congrArg
  funext level
  cases values "dict" with
  | none => rfl
  | some dict =>
      cases dict with
      | cdict cdict =>
          simp only
          cases library.refCDict (library.setCompressionLevel ctx level) cdict <;> rfl
      | string dict =>
          simp only
          cases library.loadDictionary (library.setCompressionLevel ctx level) dict <;> rfl
      | _ => rfl

theorem rbCompressNative_result (input : Value) :
    (rbCompressNative library none input kwargs).result = rbCompress library input kwargs := by
  simp only [rbCompressNative, rbCompress, Recorded.bind_result, withoutGvl,
    Recorded.lift_ok_bind]
  apply congrArg
  funext input
  cases library.createCCtx with
  | none => rfl
  | some ctx =>
      simp only [Recorded.note_bind, Recorded.bind_result, setCompressParamsNative_result]
      apply congrArg
      funext ctx
      cases library.compress2 ctx (compressBound input.length) input <;> rfl

theorem rbStreamingCompressInitializeNative_result :
    (rbStreamingCompressInitializeNative library kwargs).result =
      rbStreamingCompressInitialize library kwargs := by
  simp only [rbStreamingCompressInitializeNative, rbStreamingCompressInitialize]
  cases library.createCCtx with
  | none => rfl
  | some ctx =>
      simp only [Recorded.note_bind, Recorded.bind_result, setCompressParamsNative_result]
      cases setCompressParams library ctx kwargs <;> rfl

end

section

variable {library : DecompressLibrary DCtx} {dctx : DCtx} {kwargs : Kwargs}

theorem setDecompressParamsNative_result :
    (setDecompressParamsNative library dctx kwargs).result =
      setDecompressParams library dctx kwargs := by
  simp only [setDecompressParamsNative, setDecompressParams, Recorded.bind_result]
  apply congrArg
  funext values
  cases values "dict" with
  | none => rfl
  | some dict =>
      cases dict with
      | ddict ddict =>
          simp only
          cases library.refDDict dctx ddict <;> rfl
      | string dict =>
          simp only
          cases library.loadDictionary dctx dict <;> rfl
      | _ => rfl

theorem decodeOneFrameNative_result (fuel : Nat) (src : Bytes) :
    (decodeOneFrameNative library fuel dctx src kwargs).map Recorded.result =
      decodeOneFrame library fuel dctx src kwargs := by
  simp only [decodeOneFrameNative, decodeOneFrame, Recorded.note_bind,
    setDecompressParamsNative_result]
  cases setDecompressParams library (library.resetSession dctx) kwargs with
  | error raised => rfl
  | ok dctx =>
      simp only [Option.map_map]
      exact Option.map_id'

theorem withDCtx_result (decoded : Native Bytes) : (withDCtx decoded).result = decoded.result := by
  simp only [withDCtx, Recorded.note_bind, Recorded.bind_result]
  cases decoded.result <;> rfl

theorem rbDecompressNative_result (fuel : Nat) (input : Value) :
    (rbDecompressNative library fuel input kwargs).map Recorded.result =
      rbDecompress library fuel input kwargs := by
  simp only [rbDecompressNative, rbDecompress]
  cases input.stringValue with
  | error raised => rfl
  | ok input =>
      simp only [Option.map_bind]
      apply congrArg
      funext found
      cases found with
      | none => rfl
      | some off =>
          cases library.createDCtx with
          | none => rfl
          | some dctx =>
              simp only [Function.comp_apply, Option.map_map,
                ← decodeOneFrameNative_result fuel (input.drop off)]
              apply congrArg (Option.map · _)
              funext native
              exact withDCtx_result native

theorem rbStreamingDecompressInitializeNative_result :
    (rbStreamingDecompressInitializeNative library kwargs).result =
      rbStreamingDecompressInitialize library kwargs := by
  simp only [rbStreamingDecompressInitializeNative, rbStreamingDecompressInitialize]
  cases library.createDCtx with
  | none => rfl
  | some dctx =>
      simp only [Recorded.note_bind, Recorded.bind_result, setDecompressParamsNative_result]
      cases setDecompressParams library dctx kwargs <;> rfl

end

/-! ## How the parameters end -/

/-- The parameters are set, or an exception is raised after the context has been
released, or it is raised with the context still held: this is a leak. -/
inductive ParamsEnd {ρ : Type} (context : Resource) (leak : Prop) : Native ρ → Prop
  | accepted (next : ρ) (clean : ¬leak) : ParamsEnd context leak (.lift (.ok next))
  | released (raised : RubyError) (clean : ¬leak) :
      ParamsEnd context leak ⟨[.release context], .error raised⟩
  | leaked (raised : RubyError) (leaks : leak) : ParamsEnd context leak (.lift (.error raised))

def LevelOutOfRange (kwargs : Kwargs) : Prop :=
  ∃ number, kwargs.lookup "level" = some (.integer number) ∧
    (number < -2 ^ 31 ∨ 2 ^ 31 ≤ number)

theorem compressionLevelNative_ends (kwargs : Kwargs) :
    ParamsEnd .cctx (LevelOutOfRange kwargs) (compressionLevelNative (kwargs.lookup "level")) := by
  cases given : kwargs.lookup "level" with
  | none =>
      apply ParamsEnd.accepted
      simp [LevelOutOfRange, given]
  | some level =>
      cases level with
      | nil =>
          apply ParamsEnd.accepted
          simp [LevelOutOfRange, given]
      | integer number =>
          have range : LevelOutOfRange kwargs ↔ number < -2 ^ 31 ∨ 2 ^ 31 ≤ number := by
            simp [LevelOutOfRange, given]
          simp only [compressionLevelNative, convertCompressionLevelNative]
          by_cases outside : number < -2 ^ 31 ∨ 2 ^ 31 ≤ number
          · rcases Value.num2int_integer_refused outside with ⟨raised, refused⟩
            rw [refused]
            exact .leaked _ (range.mpr outside)
          · rw [Value.num2int_integer (by omega) (by omega)]
            exact .accepted _ (mt range.mp outside)
      | _ =>
          apply ParamsEnd.released
          simp [LevelOutOfRange, given]

def CompressParamsLeak (kwargs : Kwargs) : Prop :=
  UnknownKeyword kwargs ["level", "dict"] ∨ LevelOutOfRange kwargs

theorem setCompressParamsNative_ends (library : CompressLibrary CCtx) (ctx : CCtx)
    (kwargs : Kwargs) :
    ParamsEnd .cctx (CompressParamsLeak kwargs) (setCompressParamsNative library ctx kwargs) := by
  by_cases unknown : UnknownKeyword kwargs ["level", "dict"]
  · rcases rbGetKwargs_of_unknown unknown with ⟨raised, refused⟩
    simp only [setCompressParamsNative, refused, Recorded.lift_error_bind]
    exact .leaked raised (Or.inl unknown)
  · simp only [setCompressParamsNative, rbGetKwargs_of_known unknown, Recorded.lift_ok_bind]
    have level := compressionLevelNative_ends kwargs
    generalize compressionLevelNative (kwargs.lookup "level") = converted at level ⊢
    cases level with
    | leaked raised outOfRange => exact .leaked raised (Or.inr outOfRange)
    | released raised inRange => exact .released raised (not_or.mpr ⟨unknown, inRange⟩)
    | accepted level inRange =>
        have clean : ¬CompressParamsLeak kwargs := not_or.mpr ⟨unknown, inRange⟩
        rw [Recorded.lift_ok_bind]
        split
        · exact .accepted _ clean
        · exact .accepted _ clean
        · split
          · exact .accepted _ clean
          · exact .released _ clean
        · split
          · exact .accepted _ clean
          · exact .released _ clean
        · exact .released _ clean

theorem setDecompressParamsNative_ends (library : DecompressLibrary DCtx) (dctx : DCtx)
    (kwargs : Kwargs) :
    ParamsEnd .dctx (UnknownKeyword kwargs ["dict"])
      (setDecompressParamsNative library dctx kwargs) := by
  by_cases unknown : UnknownKeyword kwargs ["dict"]
  · rcases rbGetKwargs_of_unknown unknown with ⟨raised, refused⟩
    simp only [setDecompressParamsNative, refused, Recorded.lift_error_bind]
    exact .leaked raised unknown
  · simp only [setDecompressParamsNative, rbGetKwargs_of_known unknown, Recorded.lift_ok_bind]
    split
    · exact .accepted _ unknown
    · exact .accepted _ unknown
    · split
      · exact .accepted _ unknown
      · exact .released _ unknown
    · split
      · exact .accepted _ unknown
      · exact .released _ unknown
    · exact .released _ unknown

/-- The parameters are set right after the context has been created. What follows
gives the context away if it is `closed`. -/
theorem ParamsEnd.balanced_iff {ρ τ : Type} {context : Resource} {leak closed : Prop}
    {params : Native ρ} {rest : ρ → Native τ} (ends : ParamsEnd context leak params)
    (closes : ∀ next, heldAfter [context] (rest next).record = some [] ↔ closed) :
    Balanced (do
      .note (.acquire context)
      let next ← params
      rest next : Native τ).record ↔
        ¬leak ∧ ((∃ next, params.result = .ok next) → closed) := by
  rw [Recorded.note_bind]
  cases ends with
  | accepted next clean =>
      simp only [Recorded.lift_ok_bind, Balanced, heldAfter, closes, Recorded.lift_result]
      exact ⟨fun kept => ⟨clean, fun _ => kept⟩, fun kept => kept.2 ⟨next, rfl⟩⟩
  | released raised clean => simpa [Recorded.bind_of_error, Balanced, heldAfter] using clean
  | leaked raised leaks =>
      simp only [Recorded.lift_error_bind]
      simp [Recorded.lift, Balanced, heldAfter, leaks]

theorem balanced_lift {ρ : Type} (result : Except RubyError ρ) :
    Balanced (Recorded.lift result).record := rfl

/-! ## Compression -/

inductive LevelGiven (kwargs : Kwargs) : Int → Prop
  | default (given : kwargs.lookup "level" = none ∨ kwargs.lookup "level" = some .nil) :
      LevelGiven kwargs clevelDefault
  | integer {number : Int} (given : kwargs.lookup "level" = some (.integer number))
      (low : -2 ^ 31 ≤ number) (high : number < 2 ^ 31) : LevelGiven kwargs number

def CompressDictionaryTaken (library : CompressLibrary CCtx) (ctx : CCtx) (kwargs : Kwargs) :
    Prop :=
  match kwargs.lookup "dict" with
  | none | some .nil => True
  | some (.cdict cdict) => ∃ next, library.refCDict ctx cdict = .ok next
  | some (.string dict) => ∃ next, library.loadDictionary ctx dict = .ok next
  | some _ => False

def CompressParamsTaken (library : CompressLibrary CCtx) (ctx : CCtx) (kwargs : Kwargs) : Prop :=
  ¬UnknownKeyword kwargs ["level", "dict"] ∧ ∃ level, LevelGiven kwargs level ∧
    CompressDictionaryTaken library (library.setCompressionLevel ctx level) kwargs

theorem compressionLevel_iff {kwargs : Kwargs} {level : Int} :
    compressionLevel (kwargs.lookup "level") = .ok level ↔ LevelGiven kwargs level := by
  constructor
  · intro accepted
    cases given : kwargs.lookup "level" with
    | none =>
        rw [given] at accepted
        cases accepted
        exact .default (Or.inl given)
    | some value =>
        rw [given] at accepted
        cases value with
        | nil =>
            cases accepted
            exact .default (Or.inr given)
        | integer number =>
            have converted : (Value.integer number).num2int = .ok level := accepted
            by_cases outside : number < -2 ^ 31 ∨ 2 ^ 31 ≤ number
            · rcases Value.num2int_integer_refused outside with ⟨raised, refused⟩
              cases refused.symm.trans converted
            · rw [Value.num2int_integer (by omega) (by omega)] at converted
              cases converted
              exact .integer given (by omega) (by omega)
        | _ => cases accepted
  · rintro (⟨given | given⟩ | ⟨given, low, high⟩)
    · rw [given]
      rfl
    · rw [given]
      rfl
    · rw [given]
      exact Value.num2int_integer low high

theorem setCompressParams_accepts_iff {library : CompressLibrary CCtx} {ctx : CCtx}
    {kwargs : Kwargs} :
    (∃ next, setCompressParams library ctx kwargs = .ok next) ↔
      CompressParamsTaken library ctx kwargs := by
  by_cases unknown : UnknownKeyword kwargs ["level", "dict"]
  · rcases rbGetKwargs_of_unknown unknown with ⟨raised, refused⟩
    simp [setCompressParams, refused, unknown, bind, Except.bind, CompressParamsTaken]
  · simp only [setCompressParams, rbGetKwargs_of_known unknown, bind, Except.bind,
      CompressParamsTaken, unknown, not_false_eq_true, true_and, ← compressionLevel_iff]
    cases compressionLevel (kwargs.lookup "level") with
    | error raised => simp
    | ok level =>
        simp only [CompressDictionaryTaken, Except.ok.injEq, exists_eq_left']
        cases kwargs.lookup "dict" with
        | none => simp
        | some dict =>
            cases dict with
            | cdict cdict =>
                simp only
                cases library.refCDict (library.setCompressionLevel ctx level) cdict <;> simp
            | string dict =>
                simp only
                cases library.loadDictionary (library.setCompressionLevel ctx level) dict <;> simp
            | _ => simp

/-- What `rb_compress` needs for releasing its context, once it has one: nothing raises
before the dictionary is looked at, and nothing is pending when the library has been
called. -/
def CompressReleases (library : CompressLibrary CCtx) (pending : Option RubyError)
    (input : Value) (kwargs : Kwargs) : Prop :=
  ∀ bytes ctx, input.stringValue = .ok bytes → library.createCCtx = some ctx →
    ¬CompressParamsLeak kwargs ∧ (CompressParamsTaken library ctx kwargs → pending = none)

theorem rbCompressNative_balanced_iff (library : CompressLibrary CCtx)
    (pending : Option RubyError) (input : Value) (kwargs : Kwargs) :
    Balanced (rbCompressNative library pending input kwargs).record ↔
      CompressReleases library pending input kwargs := by
  cases given : input.stringValue with
  | error raised =>
      simp only [rbCompressNative, given, Recorded.lift_error_bind]
      apply iff_of_true (balanced_lift _)
      intro bytes ctx converted
      cases given.symm.trans converted
  | ok bytes =>
      simp only [rbCompressNative, given, Recorded.lift_ok_bind]
      cases created : library.createCCtx with
      | none =>
          apply iff_of_true (balanced_lift _)
          intro bytes ctx _ some
          cases created.symm.trans some
      | some ctx =>
          have ends := setCompressParamsNative_ends library ctx kwargs
          apply Iff.trans (ends.balanced_iff fun next => (?closes : _ ↔ pending = none))
          case closes =>
            cases pending with
            | none =>
                cases library.compress2 next (compressBound bytes.length) bytes <;>
                  exact iff_of_true rfl rfl
            | some raised =>
                apply iff_of_false _ (by simp)
                change ¬some [Resource.cctx] = some []
                decide
          rw [setCompressParamsNative_result, setCompressParams_accepts_iff, CompressReleases]
          constructor
          · intro releases bytes' ctx' _ some
            cases created.symm.trans some
            exact releases
          · intro releases
            exact releases bytes ctx given created

theorem rbStreamingCompressInitializeNative_balanced_iff (library : CompressLibrary CCtx)
    (kwargs : Kwargs) :
    Balanced (rbStreamingCompressInitializeNative library kwargs).record ↔
      ((∃ ctx, library.createCCtx = some ctx) → ¬CompressParamsLeak kwargs) := by
  simp only [rbStreamingCompressInitializeNative]
  cases created : library.createCCtx with
  | none => simpa using balanced_lift _
  | some ctx =>
      have ends := setCompressParamsNative_ends library ctx kwargs
      simp only [Option.some.injEq, exists_eq', true_implies]
      exact (ends.balanced_iff fun next => iff_of_true rfl trivial).trans (by simp)

/-! ## Decompression -/

theorem rbStreamingDecompressInitializeNative_balanced_iff (library : DecompressLibrary DCtx)
    (kwargs : Kwargs) :
    Balanced (rbStreamingDecompressInitializeNative library kwargs).record ↔
      ((∃ dctx, library.createDCtx = some dctx) → ¬UnknownKeyword kwargs ["dict"]) := by
  simp only [rbStreamingDecompressInitializeNative]
  cases created : library.createDCtx with
  | none => simpa using balanced_lift _
  | some dctx =>
      have ends := setDecompressParamsNative_ends library dctx kwargs
      simp only [Option.some.injEq, exists_eq', true_implies]
      exact (ends.balanced_iff fun next => iff_of_true rfl trivial).trans (by simp)

def DictionaryTaken (library : DecompressLibrary DCtx) (dctx : DCtx) (kwargs : Kwargs) : Prop :=
  match kwargs.lookup "dict" with
  | none | some .nil => True
  | some (.ddict ddict) => ∃ next, library.refDDict dctx ddict = .ok next
  | some (.string dict) => ∃ next, library.loadDictionary dctx dict = .ok next
  | some _ => False

theorem setDecompressParams_accepts_iff {library : DecompressLibrary DCtx} {dctx : DCtx}
    {kwargs : Kwargs} :
    (∃ next, setDecompressParams library dctx kwargs = .ok next) ↔
      ¬UnknownKeyword kwargs ["dict"] ∧ DictionaryTaken library dctx kwargs := by
  by_cases unknown : UnknownKeyword kwargs ["dict"]
  · rcases rbGetKwargs_of_unknown unknown with ⟨raised, refused⟩
    simp [setDecompressParams, refused, unknown, bind, Except.bind]
  · simp only [setDecompressParams, rbGetKwargs_of_known unknown, bind, Except.bind,
      DictionaryTaken, unknown, not_false_eq_true, true_and]
    cases kwargs.lookup "dict" with
    | none => simp
    | some dict =>
        cases dict with
        | ddict ddict =>
            simp only
            cases library.refDDict dctx ddict <;> simp
        | string dict =>
            simp only
            cases library.loadDictionary dctx dict <;> simp
        | _ => simp

section

variable {library : DecompressLibrary DCtx} {format : FrameFormat} {dctx : DCtx}
  {kwargs : Kwargs}

theorem drained_iff {initial : DCtx} {Frame : Bytes → Bytes → Prop}
    (contract : Streaming.WholeContract library.decompressStream initial dStreamOutSize Frame)
    {src : Bytes} {fuel : Nat} {drained : Except RubyError Bytes}
    (left : Loop.run (drainPass library src) fuel ⟨initial, 0, []⟩ = some drained) :
    (∃ out, drained = .ok out) ↔ ∃ frame content, Frame frame content ∧ frame <+: src := by
  constructor
  · rintro ⟨out, rfl⟩
    rcases drain_sound contract left with ⟨frame, heads, isFrame⟩
    exact ⟨frame, out, isFrame, heads⟩
  · rintro ⟨frame, content, isFrame, trailing, rfl⟩
    have drained := drain_complete contract.toDecodesWhole isFrame trailing
    exact ⟨content, (Loop.settles_of_run left).unique drained⟩

theorem decodeOneFrameNative_balanced_iff (contract : library.WholeContract format)
    (created : library.createDCtx = some dctx) {src : Bytes} {fuel : Nat}
    {decoded : Native Bytes}
    (returned : decodeOneFrameNative library fuel dctx src kwargs = some decoded) :
    Balanced (withDCtx decoded).record ↔
      ¬UnknownKeyword kwargs ["dict"] ∧
        DictionaryTaken library (library.resetSession dctx) kwargs ∧
        ∃ frame content, format.Frame (decompressDictionary kwargs) frame content ∧
          frame <+: src := by
  have ends := setDecompressParamsNative_ends library (library.resetSession dctx) kwargs
  have same := @setDecompressParamsNative_result _ library (library.resetSession dctx) kwargs
  generalize ended : setDecompressParamsNative library (library.resetSession dctx) kwargs = params
    at ends same
  rw [← and_assoc, ← setDecompressParams_accepts_iff, ← same]
  simp only [decodeOneFrameNative, Recorded.note_bind, ended] at returned
  cases ends with
  | leaked raised leaks =>
      simp only [Recorded.lift, Option.some.injEq] at returned
      subst returned
      simp [withDCtx, Recorded.bind_of_error, Recorded.lift, Balanced, heldAfter]
  | released raised clean =>
      simp only [Option.some.injEq] at returned
      subst returned
      simp [withDCtx, Recorded.bind_of_error, Balanced, heldAfter]
  | accepted next clean =>
      have prepared := setDecompressParams_prepared (.reset (.create created)) same.symm
      simp only [Recorded.lift, Option.map_eq_some_iff] at returned
      rcases returned with ⟨drained, left, equal⟩
      have complete := drained_iff (contract.decodes prepared) left
      rw [← complete, ← equal]
      cases drained with
      | error raised =>
          simp [withDCtx, Recorded.bind_of_error, Recorded.lift, Balanced, heldAfter]
      | ok out => simp [withDCtx, Recorded.bind_of_ok, Recorded.lift, Balanced, heldAfter]

theorem sourcesDecoded_withDCtx {src : Bytes} {fuel : Nat} {decoded : Native Bytes}
    (returned : decodeOneFrameNative library fuel dctx src kwargs = some decoded) :
    sourcesDecoded (withDCtx decoded).record = [src] := by
  have ends := setDecompressParamsNative_ends library (library.resetSession dctx) kwargs
  generalize ended : setDecompressParamsNative library (library.resetSession dctx) kwargs = params
    at ends
  simp only [decodeOneFrameNative, Recorded.note_bind, ended] at returned
  cases ends with
  | leaked raised leaks =>
      simp only [Recorded.lift, Option.some.injEq] at returned
      subst returned
      simp [withDCtx, Recorded.bind_of_error, sourcesDecoded]
  | released raised clean =>
      simp only [Option.some.injEq] at returned
      subst returned
      simp [withDCtx, Recorded.bind_of_error, sourcesDecoded]
  | accepted next clean =>
      simp only [Recorded.lift, Option.map_eq_some_iff] at returned
      rcases returned with ⟨drained, left, equal⟩
      rw [← equal]
      cases drained with
      | error raised => simp [withDCtx, Recorded.bind_of_error, sourcesDecoded]
      | ok out => simp [withDCtx, Recorded.bind_of_ok, Recorded.lift, sourcesDecoded]

/-- What `rb_decompress` needs for releasing everything: wherever it starts to
decode, the parameters are accepted and a complete frame follows. -/
def DecompressReleases (library : DecompressLibrary DCtx) (format : FrameFormat)
    (input : Value) (kwargs : Kwargs) : Prop :=
  ∀ rest dctx, LeadsToFrame input rest → library.createDCtx = some dctx →
    ¬UnknownKeyword kwargs ["dict"] ∧
      DictionaryTaken library (library.resetSession dctx) kwargs ∧
      ∃ frame content, format.Frame (decompressDictionary kwargs) frame content ∧
        frame <+: rest

theorem rbDecompressNative_balanced_iff (contract : library.WholeContract format) {input : Value}
    (short : ∀ bytes, input.stringValue = .ok bytes → bytes.length < 2 ^ 63) {fuel : Nat}
    {native : Native Bytes}
    (returned : rbDecompressNative library fuel input kwargs = some native) :
    Balanced native.record ↔ DecompressReleases library format input kwargs := by
  simp only [rbDecompressNative] at returned
  cases given : input.stringValue with
  | error raised =>
      simp only [given, Option.some.injEq] at returned
      subst returned
      apply iff_of_true (balanced_lift _)
      rintro rest dctx ⟨front, split, -⟩
      cases given.symm.trans split
  | ok bytes =>
      simp only [given, Option.bind_eq_some_iff] at returned
      rcases returned with ⟨found, scanned, returned⟩
      cases found with
      | none =>
          simp only [Option.some.injEq] at returned
          subst returned
          apply iff_of_true (balanced_lift _)
          intro rest dctx leads
          rcases leads.unique given (short bytes given) scanned with ⟨off, impossible, -⟩
          cases impossible
      | some off =>
          cases created : library.createDCtx with
          | none =>
              simp only [created, Option.some.injEq] at returned
              subst returned
              apply iff_of_true (balanced_lift _)
              intro rest dctx leads some
              cases created.symm.trans some
          | some dctx =>
              simp only [created, Option.map_eq_some_iff] at returned
              rcases returned with ⟨decoded, decodes, rfl⟩
              rw [decodeOneFrameNative_balanced_iff contract created decodes]
              constructor
              · intro releases rest same leads some
                cases created.symm.trans some
                rcases leads.unique given (short bytes given) scanned with ⟨off, ⟨⟩, rfl⟩
                exact releases
              · intro releases
                exact releases _ dctx
                  (leadsToFrame_of_scan given (short bytes given) scanned) created

end

/-! ## All four functions -/

/-- When each function has, on its exit, released or given away what it has
acquired. -/
theorem native_balanced_iff (compressor : CompressLibrary CCtx)
    {decompressor : DecompressLibrary DCtx} {format : FrameFormat}
    (contract : decompressor.WholeContract format) {input : Value}
    (short : ∀ bytes, input.stringValue = .ok bytes → bytes.length < 2 ^ 63)
    (pending : Option RubyError) (kwargs : Kwargs) :
    (Balanced (rbCompressNative compressor pending input kwargs).record ↔
      CompressReleases compressor pending input kwargs) ∧
    (Balanced (rbStreamingCompressInitializeNative compressor kwargs).record ↔
      ((∃ ctx, compressor.createCCtx = some ctx) → ¬CompressParamsLeak kwargs)) ∧
    (Balanced (rbStreamingDecompressInitializeNative decompressor kwargs).record ↔
      ((∃ dctx, decompressor.createDCtx = some dctx) → ¬UnknownKeyword kwargs ["dict"])) ∧
    ∀ fuel native, rbDecompressNative decompressor fuel input kwargs = some native →
      (Balanced native.record ↔ DecompressReleases decompressor format input kwargs) :=
  ⟨rbCompressNative_balanced_iff compressor pending input kwargs,
    rbStreamingCompressInitializeNative_balanced_iff compressor kwargs,
    rbStreamingDecompressInitializeNative_balanced_iff decompressor kwargs,
    fun _ _ returned => rbDecompressNative_balanced_iff contract short returned⟩

def reservedFrame : Bytes := [0x28, 0xB5, 0x2F, 0xFD, 0x08, 0x58, 0x01, 0x00, 0x00, 0x00]

def reservedFrameDecoded : Native Bytes :=
  ⟨[.acquire .dctx, .decode reservedFrame, .acquire .scratch, .release .scratch],
    .error (.runtimeError "ZSTD_decompressStream failed: Unsupported frame parameter")⟩

theorem native_balanced_iff_reservedFrame :
    Balanced (rbCompressNative (storedLibrary 1) none (.string reservedFrame) []).record ∧
    Balanced (rbStreamingCompressInitializeNative (storedLibrary 1) []).record ∧
    Balanced (rbStreamingDecompressInitializeNative (streamLibrary storedBlocks) []).record ∧
    ¬DecompressReleases (streamLibrary storedBlocks) (wholeFormat storedBlocks)
      (.string reservedFrame) [] := by
  have contract := streamLibrary_wholeContract storedBlocks
  have short : ∀ bytes, (Value.string reservedFrame).stringValue = .ok bytes →
      bytes.length < 2 ^ 63 := by
    rintro bytes ⟨⟩
    decide
  have settled := native_balanced_iff (storedLibrary 1) contract short none []
  have kept : ¬CompressParamsLeak [] := by
    simp [CompressParamsLeak, UnknownKeyword, LevelOutOfRange]
  refine ⟨settled.1.mpr fun _ _ _ _ => ⟨kept, fun _ => rfl⟩, settled.2.1.mpr fun _ => kept,
    settled.2.2.1.mpr fun _ => by simp [UnknownKeyword],
    mt (settled.2.2.2 10 reservedFrameDecoded rfl).mpr (by decide)⟩

/-- A level that is no `int`, an exception while the GVL is released, and a corrupt
frame: the context stays behind. -/
theorem native_leaks :
    ¬Balanced (rbCompressNative (storedLibrary 1) none (.string [])
      [("level", .integer (2 ^ 31))]).record ∧
    ¬Balanced (rbCompressNative (storedLibrary 1) (some (.runtimeError "execution expired"))
      (.string []) []).record ∧
    ∃ native, rbDecompressNative (streamLibrary storedBlocks) 10 (.string reservedFrame) [] =
      some native ∧ ¬Balanced native.record :=
  ⟨by decide, by decide, reservedFrameDecoded, rfl, by decide⟩

end ZstdRuby
