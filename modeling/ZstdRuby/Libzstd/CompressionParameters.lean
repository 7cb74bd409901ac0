import ZstdRuby.Libzstd.Compression
import ZstdRuby.Libzstd.FrameHeader

/-! # Compression parameters

How libzstd resolves a compression level into parameters:
`ZSTD_getCParams_internal` and `ZSTD_adjustCParams_internal` of
`zstd_compress.c`, with the table of `clevels.h`.
-/

namespace ZstdRuby.Libzstd

/-! ## Parameters and their bounds -/

inductive Strategy
  | fast
  | dfast
  | greedy
  | lazy
  | lazy2
  | btlazy2
  | btopt
  | btultra
  | btultra2
  deriving DecidableEq, Repr

namespace Strategy

def number : Strategy → Nat
  | fast => 1
  | dfast => 2
  | greedy => 3
  | lazy => 4
  | lazy2 => 5
  | btlazy2 => 6
  | btopt => 7
  | btultra => 8
  | btultra2 => 9

end Strategy

structure CompressionParameters where
  windowLog : Nat
  chainLog : Nat
  hashLog : Nat
  searchLog : Nat
  minMatch : Nat
  targetLength : Nat
  strategy : Strategy
  deriving DecidableEq, Repr

inductive CParameter
  | windowLog
  | chainLog
  | hashLog
  | searchLog
  | minMatch
  | targetLength
  | strategy
  deriving DecidableEq

def CParameter.all : List CParameter :=
  [.windowLog, .chainLog, .hashLog, .searchLog, .minMatch, .targetLength, .strategy]

def cParamGetBounds : CParameter → Nat × Nat
  | .windowLog => (windowLogAbsoluteMin, windowLogMax)
  | .chainLog => (6, 30)
  | .hashLog => (6, 30)
  | .searchLog => (1, windowLogMax - 1)
  | .minMatch => (3, 7)
  | .targetLength => (0, blockSizeMax)
  | .strategy => (Strategy.fast.number, Strategy.btultra2.number)

namespace CompressionParameters

def value (cParams : CompressionParameters) : CParameter → Nat
  | .windowLog => cParams.windowLog
  | .chainLog => cParams.chainLog
  | .hashLog => cParams.hashLog
  | .searchLog => cParams.searchLog
  | .minMatch => cParams.minMatch
  | .targetLength => cParams.targetLength
  | .strategy => cParams.strategy.number

end CompressionParameters

def cParamWithinBounds (cParam : CParameter) (value : Nat) : Bool :=
  decide ((cParamGetBounds cParam).1 ≤ value ∧ value ≤ (cParamGetBounds cParam).2)

def checkCParams (cParams : CompressionParameters) : Except ErrorCode Unit :=
  if CParameter.all.all fun cParam => cParamWithinBounds cParam (cParams.value cParam) then .ok ()
  else .error .parameterOutOfBound

/-! ## Fitting the parameters to the input -/

def contentSizeUnknown : Nat := 2 ^ 64 - 1

inductive CParamMode
  | noAttachDict
  | attachDict
  | createCDict
  | unknown
  deriving DecidableEq

inductive ParamSwitch
  | auto
  | enable
  | disable
  deriving DecidableEq

def highbit32 (value : Nat) : Nat := Nat.log2 value

def cycleLog (chainLog : Nat) (strategy : Strategy) : Nat :=
  chainLog - if Strategy.btlazy2.number ≤ strategy.number then 1 else 0

def dictAndWindowLog (windowLog srcSize dictSize : Nat) : Nat :=
  if dictSize = 0 then windowLog
  else
    let windowSize := 2 ^ windowLog
    let dictAndWindowSize := (dictSize + windowSize) % 2 ^ 64
    if windowSize ≥ (dictSize + srcSize) % 2 ^ 64 then windowLog
    else if dictAndWindowSize ≥ 2 ^ windowLogMax then windowLogMax
    else highbit32 (dictAndWindowSize - 1) + 1

def cDictIndicesAreTagged (cParams : CompressionParameters) : Bool :=
  cParams.strategy = .fast ∨ cParams.strategy = .dfast

def rowMatchFinderUsed (strategy : Strategy) (mode : ParamSwitch) : Bool :=
  Strategy.greedy.number ≤ strategy.number ∧ strategy.number ≤ Strategy.lazy2.number ∧
    mode = .enable

/-- The sizes `ZSTD_adjustCParams_internal` goes by, for a mode. -/
def adjustedSizes (srcSize dictSize : Nat) : CParamMode → Nat × Nat
  | .unknown | .noAttachDict => (srcSize, dictSize)
  | .createCDict => (if dictSize ≠ 0 ∧ srcSize = contentSizeUnknown then 513 else srcSize, dictSize)
  | .attachDict => (srcSize, 0)

/-- The window log an input needs, in `ZSTD_adjustCParams_internal`. -/
def srcLog (tSize : Nat) : Nat :=
  if tSize < 2 ^ 6 then 6 else highbit32 (tSize - 1) + 1

/-- `ZSTD_adjustCParams_internal` makes the window no larger than the input. -/
def resizeWindow (cPar : CompressionParameters) (srcSize dictSize : Nat) :
    CompressionParameters :=
  let maxWindowResize := 2 ^ (windowLogMax - 1)
  if srcSize ≤ maxWindowResize ∧ dictSize ≤ maxWindowResize then
    let srcLog := srcLog ((srcSize + dictSize) % 2 ^ 32)
    if cPar.windowLog > srcLog then { cPar with windowLog := srcLog } else cPar
  else cPar

def resizeTables (cPar : CompressionParameters) (srcSize dictSize : Nat) :
    CompressionParameters :=
  if srcSize ≠ contentSizeUnknown then
    let dictAndWindowLog := dictAndWindowLog cPar.windowLog srcSize dictSize
    let cycleLog := cycleLog cPar.chainLog cPar.strategy
    let cPar := if cPar.hashLog > dictAndWindowLog + 1 then
      { cPar with hashLog := dictAndWindowLog + 1 } else cPar
    if cycleLog > dictAndWindowLog then
      { cPar with chainLog := cPar.chainLog - (cycleLog - dictAndWindowLog) } else cPar
  else cPar

def raiseWindow (cPar : CompressionParameters) : CompressionParameters :=
  if cPar.windowLog < windowLogAbsoluteMin then
    { cPar with windowLog := windowLogAbsoluteMin } else cPar

def limitTaggedTables (cPar : CompressionParameters) (mode : CParamMode) :
    CompressionParameters :=
  if mode = .createCDict ∧ cDictIndicesAreTagged cPar then
    let maxShortCacheHashLog := 32 - 8
    { cPar with
      hashLog := min cPar.hashLog maxShortCacheHashLog
      chainLog := min cPar.chainLog maxShortCacheHashLog }
  else cPar

def limitRowTable (cPar : CompressionParameters) (useRowMatchFinder : ParamSwitch) :
    CompressionParameters :=
  let useRowMatchFinder := if useRowMatchFinder = .auto then .enable else useRowMatchFinder
  if rowMatchFinderUsed cPar.strategy useRowMatchFinder then
    let rowLog := max 4 (min cPar.searchLog 6)
    let maxHashLog := 32 - 8 + rowLog
    { cPar with hashLog := min cPar.hashLog maxHashLog }
  else cPar

def adjustCParamsInternal (cPar : CompressionParameters) (srcSize dictSize : Nat)
    (mode : CParamMode) (useRowMatchFinder : ParamSwitch) : CompressionParameters :=
  let sizes := adjustedSizes srcSize dictSize mode
  let cPar := resizeWindow cPar sizes.1 sizes.2
  let cPar := resizeTables cPar sizes.1 sizes.2
  let cPar := raiseWindow cPar
  let cPar := limitTaggedTables cPar mode
  limitRowTable cPar useRowMatchFinder

/-! ## Levels -/

/-- `ZSTD_defaultCParameters`, a row for each level from 0 on. Row 0 is the base of
the negative levels. -/
def defaultCParameters : List (List CompressionParameters) :=
  [ -- For any source.
    [⟨19, 12, 13, 1, 6, 1, .fast⟩, ⟨19, 13, 14, 1, 7, 0, .fast⟩, ⟨20, 15, 16, 1, 6, 0, .fast⟩,
      ⟨21, 16, 17, 1, 5, 0, .dfast⟩, ⟨21, 18, 18, 1, 5, 0, .dfast⟩,
      ⟨21, 18, 19, 3, 5, 2, .greedy⟩, ⟨21, 18, 19, 3, 5, 4, .lazy⟩, ⟨21, 19, 20, 4, 5, 8, .lazy⟩,
      ⟨21, 19, 20, 4, 5, 16, .lazy2⟩, ⟨22, 20, 21, 4, 5, 16, .lazy2⟩,
      ⟨22, 21, 22, 5, 5, 16, .lazy2⟩, ⟨22, 21, 22, 6, 5, 16, .lazy2⟩,
      ⟨22, 22, 23, 6, 5, 32, .lazy2⟩, ⟨22, 22, 22, 4, 5, 32, .btlazy2⟩,
      ⟨22, 22, 23, 5, 5, 32, .btlazy2⟩, ⟨22, 23, 23, 6, 5, 32, .btlazy2⟩,
      ⟨22, 22, 22, 5, 5, 48, .btopt⟩, ⟨23, 23, 22, 5, 4, 64, .btopt⟩,
      ⟨23, 23, 22, 6, 3, 64, .btultra⟩, ⟨23, 24, 22, 7, 3, 256, .btultra2⟩,
      ⟨25, 25, 23, 7, 3, 256, .btultra2⟩, ⟨26, 26, 24, 7, 3, 512, .btultra2⟩,
      ⟨27, 27, 25, 9, 3, 999, .btultra2⟩],
    -- For sources of at most 256 KB.
    [⟨18, 12, 13, 1, 5, 1, .fast⟩, ⟨18, 13, 14, 1, 6, 0, .fast⟩, ⟨18, 14, 14, 1, 5, 0, .dfast⟩,
      ⟨18, 16, 16, 1, 4, 0, .dfast⟩, ⟨18, 16, 17, 3, 5, 2, .greedy⟩,
      ⟨18, 17, 18, 5, 5, 2, .greedy⟩, ⟨18, 18, 19, 3, 5, 4, .lazy⟩, ⟨18, 18, 19, 4, 4, 4, .lazy⟩,
      ⟨18, 18, 19, 4, 4, 8, .lazy2⟩, ⟨18, 18, 19, 5, 4, 8, .lazy2⟩,
      ⟨18, 18, 19, 6, 4, 8, .lazy2⟩, ⟨18, 18, 19, 5, 4, 12, .btlazy2⟩,
      ⟨18, 19, 19, 7, 4, 12, .btlazy2⟩, ⟨18, 18, 19, 4, 4, 16, .btopt⟩,
      ⟨18, 18, 19, 4, 3, 32, .btopt⟩, ⟨18, 18, 19, 6, 3, 128, .btopt⟩,
      ⟨18, 19, 19, 6, 3, 128, .btultra⟩, ⟨18, 19, 19, 8, 3, 256, .btultra⟩,
      ⟨18, 19, 19, 6, 3, 128, .btultra2⟩, ⟨18, 19, 19, 8, 3, 256, .btultra2⟩,
      ⟨18, 19, 19, 10, 3, 512, .btultra2⟩, ⟨18, 19, 19, 12, 3, 512, .btultra2⟩,
      ⟨18, 19, 19, 13, 3, 999, .btultra2⟩],
    -- For sources of at most 128 KB.
    [⟨17, 12, 12, 1, 5, 1, .fast⟩, ⟨17, 12, 13, 1, 6, 0, .fast⟩, ⟨17, 13, 15, 1, 5, 0, .fast⟩,
      ⟨17, 15, 16, 2, 5, 0, .dfast⟩, ⟨17, 17, 17, 2, 4, 0, .dfast⟩,
      ⟨17, 16, 17, 3, 4, 2, .greedy⟩, ⟨17, 16, 17, 3, 4, 4, .lazy⟩,
      ⟨17, 16, 17, 3, 4, 8, .lazy2⟩, ⟨17, 16, 17, 4, 4, 8, .lazy2⟩,
      ⟨17, 16, 17, 5, 4, 8, .lazy2⟩, ⟨17, 16, 17, 6, 4, 8, .lazy2⟩,
      ⟨17, 17, 17, 5, 4, 8, .btlazy2⟩, ⟨17, 18, 17, 7, 4, 12, .btlazy2⟩,
      ⟨17, 18, 17, 3, 4, 12, .btopt⟩, ⟨17, 18, 17, 4, 3, 32, .btopt⟩,
      ⟨17, 18, 17, 6, 3, 256, .btopt⟩, ⟨17, 18, 17, 6, 3, 128, .btultra⟩,
      ⟨17, 18, 17, 8, 3, 256, .btultra⟩, ⟨17, 18, 17, 10, 3, 512, .btultra⟩,
      ⟨17, 18, 17, 5, 3, 256, .btultra2⟩, ⟨17, 18, 17, 7, 3, 512, .btultra2⟩,
      ⟨17, 18, 17, 9, 3, 512, .btultra2⟩, ⟨17, 18, 17, 11, 3, 999, .btultra2⟩],
    -- For sources of at most 16 KB.
    [⟨14, 12, 13, 1, 5, 1, .fast⟩, ⟨14, 14, 15, 1, 5, 0, .fast⟩, ⟨14, 14, 15, 1, 4, 0, .fast⟩,
      ⟨14, 14, 15, 2, 4, 0, .dfast⟩, ⟨14, 14, 14, 4, 4, 2, .greedy⟩,
      ⟨14, 14, 14, 3, 4, 4, .lazy⟩, ⟨14, 14, 14, 4, 4, 8, .lazy2⟩, ⟨14, 14, 14, 6, 4, 8, .lazy2⟩,
      ⟨14, 14, 14, 8, 4, 8, .lazy2⟩, ⟨14, 15, 14, 5, 4, 8, .btlazy2⟩,
      ⟨14, 15, 14, 9, 4, 8, .btlazy2⟩, ⟨14, 15, 14, 3, 4, 12, .btopt⟩,
      ⟨14, 15, 14, 4, 3, 24, .btopt⟩, ⟨14, 15, 14, 5, 3, 32, .btultra⟩,
      ⟨14, 15, 15, 6, 3, 64, .btultra⟩, ⟨14, 15, 15, 7, 3, 256, .btultra⟩,
      ⟨14, 15, 15, 5, 3, 48, .btultra2⟩, ⟨14, 15, 15, 6, 3, 128, .btultra2⟩,
      ⟨14, 15, 15, 7, 3, 256, .btultra2⟩, ⟨14, 15, 15, 8, 3, 256, .btultra2⟩,
      ⟨14, 15, 15, 8, 3, 512, .btultra2⟩, ⟨14, 15, 15, 9, 3, 512, .btultra2⟩,
      ⟨14, 15, 15, 10, 3, 999, .btultra2⟩]]

def maxCLevel : Nat := 22

def minCLevel : Int := -(blockSizeMax : Int)

def getCParamRowSize (srcSizeHint dictSize : Nat) (mode : CParamMode) : Nat :=
  let dictSize := if mode = .attachDict then 0 else dictSize
  let unknown := srcSizeHint = contentSizeUnknown
  let addedSize := if unknown ∧ dictSize > 0 then 500 else 0
  if unknown ∧ dictSize = 0 then contentSizeUnknown
  else (srcSizeHint + dictSize + addedSize) % 2 ^ 64

def tableID (rSize : Nat) : Nat :=
  (if rSize ≤ 256 * 2 ^ 10 then 1 else 0) + (if rSize ≤ 128 * 2 ^ 10 then 1 else 0) +
    (if rSize ≤ 16 * 2 ^ 10 then 1 else 0)

def levelRow (compressionLevel : Int) : Nat :=
  if compressionLevel = 0 then clevelDefault.toNat
  else if compressionLevel < 0 then 0
  else if compressionLevel > maxCLevel then maxCLevel
  else compressionLevel.toNat

/-- The parameters `ZSTD_getCParams_internal` finds for a level. Negative levels set
an acceleration factor; the default row is never used. -/
def levelParameters (compressionLevel : Int) (rSize : Nat) : CompressionParameters :=
  let rows := defaultCParameters.getD (tableID rSize) []
  let cp := rows.getD (levelRow compressionLevel) ⟨0, 0, 0, 0, 0, 0, .fast⟩
  if compressionLevel < 0 then
    { cp with targetLength := (-(max minCLevel compressionLevel)).toNat } else cp

def getCParamsInternal (compressionLevel : Int) (srcSizeHint dictSize : Nat)
    (mode : CParamMode) : CompressionParameters :=
  adjustCParamsInternal
    (levelParameters compressionLevel (getCParamRowSize srcSizeHint dictSize mode))
    srcSizeHint dictSize mode .auto

/-- `ZSTD_getCParamsFromCCtxParams`, for parameters of which only the level has
been set. -/
def getCParamsFromCCtxParams (compressionLevel : Int) (srcSizeHint dictSize : Nat)
    (mode : CParamMode) : CompressionParameters :=
  let cParams := getCParamsInternal compressionLevel srcSizeHint dictSize mode
  adjustCParamsInternal cParams srcSizeHint dictSize mode .auto

end ZstdRuby.Libzstd
