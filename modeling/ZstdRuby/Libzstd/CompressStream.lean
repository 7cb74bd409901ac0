import ZstdRuby.Libzstd.CompressContinue
import ZstdRuby.Libzstd.Compression

/-! # `ZSTD_compressStream2` and `ZSTD_compress2`

The buffered encoder: input is collected until a block is full, and what is
compressed goes into the caller's buffer where that is large enough, and by way of
the encoder's own buffer where it is not.
-/

namespace ZstdRuby.Libzstd

open Streaming

/-! ## Beginning a frame -/

/-- The dictionary of a context: one that `ZSTD_CCtx_refCDict` refers to, or one that
`ZSTD_CCtx_loadDictionary` has copied. -/
inductive ContextDict
  | referenced (cdict : CDict)
  | loaded (dict : Bytes)
  deriving DecidableEq

def ContextDict.dict : ContextDict → Bytes
  | .referenced cdict => cdict.dict
  | .loaded dict => dict

/-- The dictionary that is used: `ZSTD_initLocalDict` makes one of what has been
loaded, with the requested level. -/
def ContextDict.cdict (requestedLevel : Int) : ContextDict → CDict
  | .referenced cdict => cdict
  | .loaded dict => ⟨dict, requestedLevel⟩

/-- `cdict->compressionLevel`; the level 0 also stands for the advanced interface. -/
def ContextDict.compressionLevel : ContextDict → Int
  | .referenced cdict => if cdict.level = 0 then clevelDefault else cdict.level
  | .loaded _ => 0

def cdictStrategy (cdict : CDict) : Strategy :=
  (getCParamsInternal cdict.level contentSizeUnknown cdict.dict.length .createCDict).strategy

def attachDictSizeCutoff (strategy : Strategy) : Nat :=
  match strategy with
  | .fast => 8 * 2 ^ 10
  | .dfast => 16 * 2 ^ 10
  | .greedy | .lazy | .lazy2 | .btlazy2 | .btopt => 32 * 2 ^ 10
  | .btultra | .btultra2 => 8 * 2 ^ 10

def shouldAttachDict (cdict : CDict) (pledgedSrcSize : Nat) : Bool :=
  pledgedSrcSize ≤ attachDictSizeCutoff (cdictStrategy cdict) ∨ pledgedSrcSize = contentSizeUnknown

def getCParamMode (cdict : Option CDict) (pledgedSrcSize : Nat) : CParamMode :=
  match cdict with
  | some cdict => if shouldAttachDict cdict pledgedSrcSize then .attachDict else .noAttachDict
  | none => .noAttachDict

/-- Whether `ZSTD_compressBegin_internal` takes the tables of the dictionary, and
with them its strategy. -/
def usesCDict (dictionary : ContextDict) (pledgedSrcSize : Nat) : Bool :=
  dictionary.dict.length > 0 ∧
    (pledgedSrcSize < 128 * 2 ^ 10 ∨ pledgedSrcSize < dictionary.dict.length * 6 % 2 ^ 64 ∨
      pledgedSrcSize = contentSizeUnknown ∨ dictionary.compressionLevel = 0)

def resetCCtx {State : Type} (params : AppliedParameters) (pledgedSrcSize dictID : Nat)
    (blockState : State) : FrameContext State where
  stage := .init
  appliedParams := { params with
    fParams := { params.fParams with
      contentSizeFlag := params.fParams.contentSizeFlag &&
        decide (pledgedSrcSize ≠ contentSizeUnknown) } }
  blockSizeMax := min blockSizeMax (max 1 (min (2 ^ params.windowLog) pledgedSrcSize))
  dictID := dictID
  pledgedSrcSizePlusOne := (pledgedSrcSize + 1) % 2 ^ 64
  consumedSrcSize := 0
  producedCSize := 0
  isFirstBlock := true
  xxhState := []
  blockState := blockState

/-- `fParams` as `ZSTD_CCtxParams_init` leaves them. -/
def defaultFrameFlags : FrameFlags where
  contentSizeFlag := true
  checksumFlag := false
  noDictIDFlag := false

/-! ## Stream contexts -/

inductive CStreamStage
  | load
  | flush
  deriving DecidableEq

/-- The fields of a `ZSTD_CCtx` between `ZSTD_CCtx_init_compressStream2` and the end
of the frame. `outBuff` is what the output buffer contains. -/
structure CStreamSession (State : Type) where
  frame : FrameContext State
  streamStage : CStreamStage
  inBuff : Bytes
  inToCompress : Nat
  inBuffPos : Nat
  inBuffTarget : Nat
  outBuffSize : Nat
  outBuff : Bytes
  outBuffFlushedSize : Nat
  frameEnded : Bool
  /-- Both buffers are the caller's, as `ZSTD_compress2` asks for. -/
  stable : Bool
  deriving DecidableEq

/-- What the caller has set, and the frame that has been begun. Without one,
`streamStage` is `zcss_init`. -/
structure CStream (State : Type) where
  compressionLevel : Int
  dictionary : Option ContextDict
  session : Option (CStreamSession State)
  deriving DecidableEq

namespace CStream

variable {State : Type}

def create (State : Type) : CStream State := ⟨clevelDefault, none, none⟩

/-- `ZSTD_CCtx_setParameter` for the compression level. -/
def setCompressionLevel (cctx : CStream State) (value : Int) : CStream State :=
  let value := max minCLevel (min maxCLevel value)
  { cctx with compressionLevel := if value = 0 then clevelDefault else value }

def refCDict (cctx : CStream State) (cdict : CDict) : Except ErrorCode (CStream State) :=
  if cctx.session ≠ none then .error .stageWrong
  else .ok { cctx with dictionary := some (.referenced cdict) }

def loadDictionary (cctx : CStream State) (dict : Bytes) : Except ErrorCode (CStream State) :=
  if cctx.session ≠ none then .error .stageWrong
  else if dict = [] then .ok { cctx with dictionary := none }
  else .ok { cctx with dictionary := some (.loaded dict) }

/-- `ZSTD_CCtx_reset` of the session. -/
def resetSession (cctx : CStream State) : CStream State := { cctx with session := none }

def usedLevel (cctx : CStream State) : Int :=
  match cctx.dictionary with
  | some (.referenced cdict) => (ContextDict.referenced cdict).compressionLevel
  | _ => cctx.compressionLevel

def cdict (cctx : CStream State) : Option CDict :=
  cctx.dictionary.map (ContextDict.cdict cctx.compressionLevel)

def cParams (cctx : CStream State) (pledgedSrcSize : Nat) : CompressionParameters :=
  getCParamsFromCCtxParams cctx.usedLevel pledgedSrcSize
    ((cctx.cdict.map fun cdict => cdict.dict.length).getD 0)
    (getCParamMode cctx.cdict pledgedSrcSize)

def strategy (cctx : CStream State) (pledgedSrcSize : Nat) : Strategy :=
  match cctx.dictionary with
  | some dictionary =>
      if usesCDict dictionary pledgedSrcSize then
        cdictStrategy (dictionary.cdict cctx.compressionLevel)
      else (cctx.cParams pledgedSrcSize).strategy
  | none => (cctx.cParams pledgedSrcSize).strategy

end CStream

def overwrite (buffer : Bytes) (position : Nat) (content : Bytes) : Bytes :=
  buffer.take position ++ content ++ buffer.drop (position + content.length)

namespace CStreamSession

variable {State : Type}

def pending (session : CStreamSession State) : Bytes :=
  (session.inBuff.drop session.inToCompress).take (session.inBuffPos - session.inToCompress)

def unflushed (session : CStreamSession State) : Bytes :=
  session.outBuff.drop session.outBuffFlushedSize

/-- The next block starts behind the current one, or at the start of the buffer if
there is no room for it. -/
def nextBlock (session : CStreamSession State) : CStreamSession State :=
  let target := session.inBuffPos + session.frame.blockSizeMax
  if target > session.inBuff.length then
    { session with inBuffPos := 0, inBuffTarget := session.frame.blockSizeMax, inToCompress := 0 }
  else { session with inBuffTarget := target, inToCompress := session.inBuffPos }

def load (session : CStreamSession State) (loaded : Bytes) : CStreamSession State :=
  { session with
    inBuff := overwrite session.inBuff session.inBuffPos loaded
    inBuffPos := session.inBuffPos + loaded.length }

end CStreamSession

section

variable (writer : BlockWriter)

def compressBeginInternal (cctx : CStream writer.State) (pledgedSrcSize : Nat) :
    Except ErrorCode (FrameContext writer.State) :=
  let cParams := cctx.cParams pledgedSrcSize
  (writer.compressBegin cctx.cdict cParams pledgedSrcSize).map fun blockState =>
    resetCCtx
      { fParams := defaultFrameFlags
        windowLog := cParams.windowLog
        strategy := cctx.strategy pledgedSrcSize
        preBlockSplitterLevel := 0 }
      pledgedSrcSize (writer.dictID cctx.cdict) blockState

/-- `ZSTD_CCtx_init_compressStream2`, with the buffers of `ZSTD_resetCCtx_internal`. -/
def initCompressStream2 (cctx : CStream writer.State) (directive : Directive) (inSize : Nat)
    (stable : Bool) : Except ErrorCode (CStreamSession writer.State) :=
  let pledgedSrcSize := if directive = .finish then inSize else contentSizeUnknown
  (compressBeginInternal writer cctx pledgedSrcSize).map fun frame =>
    let windowSize := max 1 (min (2 ^ frame.appliedParams.windowLog) pledgedSrcSize)
    { frame := frame
      streamStage := .load
      inBuff := if stable then [] else List.replicate (windowSize + frame.blockSizeMax) 0
      inToCompress := 0
      inBuffPos := 0
      inBuffTarget := if stable then 0
        else frame.blockSizeMax + if frame.blockSizeMax = pledgedSrcSize then 1 else 0
      outBuffSize := if stable then 0 else compressBound frame.blockSizeMax + 1
      outBuff := []
      outBuffFlushedSize := 0
      frameEnded := false
      stable := stable }

/-! ## The loop -/

/-- The local state of `ZSTD_compressStream_generic`: the session, what remains of
the input, and what has been written. -/
structure CStreamCall where
  session : CStreamSession writer.State
  ip : Bytes
  op : Bytes

structure CStreamStop where
  session : Option (CStreamSession writer.State)
  ip : Bytes
  op : Bytes

def flushStage (outSize : Nat) (call : CStreamCall writer) :
    Pass (CStreamCall writer) (Except ErrorCode (CStreamStop writer)) :=
  let session := call.session
  let toFlush := session.unflushed
  let flushed := toFlush.take (outSize - call.op.length)
  let op := call.op ++ flushed
  if toFlush.length ≠ flushed.length then
    let session :=
      { session with outBuffFlushedSize := session.outBuffFlushedSize + flushed.length }
    .leave (.ok ⟨some session, call.ip, op⟩)
  else if session.frameEnded then .leave (.ok ⟨none, call.ip, op⟩)
  else
    .again ⟨{ session with outBuff := [], outBuffFlushedSize := 0, streamStage := .load },
      call.ip, op⟩

/-- The compression of the current block, in the stage `zcss_load`. -/
def compressStage (directive : Directive) (outSize : Nat) (call : CStreamCall writer) :
    Pass (CStreamCall writer) (Except ErrorCode (CStreamStop writer)) :=
  let session := call.session
  let src := session.pending
  let room := outSize - call.op.length
  let direct := decide (room ≥ compressBound src.length)
  let oSize := if direct then room else session.outBuffSize
  let lastBlock := decide (directive = .finish ∧ call.ip = [])
  match if lastBlock then compressEnd writer session.frame oSize src
    else compressContinue writer session.frame oSize src with
  | .error code => .leave (.error code)
  | .ok (frame, bytes) =>
      let session := { session with frame := frame, frameEnded := lastBlock }.nextBlock
      if direct then
        if lastBlock then .leave (.ok ⟨none, call.ip, call.op ++ bytes⟩)
        else .again ⟨session, call.ip, call.op ++ bytes⟩
      else
        flushStage writer outSize
          ⟨{ session with outBuff := bytes, outBuffFlushedSize := 0, streamStage := .flush },
            call.ip, call.op⟩

/-- The stage `zcss_load`, with a buffered input. Where the output cannot fail to be
large enough, the input is compressed from where it is. -/
def loadStage (directive : Directive) (outSize : Nat) (call : CStreamCall writer) :
    Pass (CStreamCall writer) (Except ErrorCode (CStreamStop writer)) :=
  let session := call.session
  let room := outSize - call.op.length
  if directive = .finish ∧ (room ≥ compressBound call.ip.length ∨ session.stable) ∧
      session.inBuffPos = 0 then
    match compressEnd writer session.frame room call.ip with
    | .error code => .leave (.error code)
    | .ok (_, bytes) => .leave (.ok ⟨none, [], call.op ++ bytes⟩)
  else
    let toLoad := session.inBuffTarget - session.inBuffPos
    let session := session.load (call.ip.take toLoad)
    let call := ⟨session, call.ip.drop toLoad, call.op⟩
    if directive = .proceed ∧ session.inBuffPos < session.inBuffTarget ∨
        directive = .flush ∧ session.inBuffPos = session.inToCompress then
      .leave (.ok ⟨some session, call.ip, call.op⟩)
    else compressStage writer directive outSize call

def compressStreamPass (directive : Directive) (outSize : Nat) (call : CStreamCall writer) :
    Pass (CStreamCall writer) (Except ErrorCode (CStreamStop writer)) :=
  match call.session.streamStage with
  | .load => loadStage writer directive outSize call
  | .flush => flushStage writer outSize call

def compressStreamFuel (call : CStreamCall writer) : Nat :=
  2 * (call.session.pending.length + call.ip.length) + 2

def compressStreamGeneric (session : CStreamSession writer.State) (directive : Directive)
    (outSize : Nat) (source : Bytes) : Except ErrorCode (CStreamStop writer) :=
  (Loop.run (compressStreamPass writer directive outSize)
    (compressStreamFuel writer ⟨session, source, []⟩) ⟨session, source, []⟩).getD (.error .generic)

/-- The session a call works on: that of the frame that has been begun, or a new one. -/
def currentSession (cctx : CStream writer.State) (directive : Directive) (inSize : Nat)
    (stable : Bool) : Except ErrorCode (CStreamSession writer.State) :=
  match cctx.session with
  | some session => .ok session
  | none => initCompressStream2 writer cctx directive inSize stable

def compressStream2 (stable : Bool) : Encoder (CStream writer.State) UInt8 UInt8 ErrorCode :=
  fun cctx directive capacity source =>
    match currentSession writer cctx directive source.length stable with
    | .error code => ⟨cctx, 0, [], .error code⟩
    | .ok session =>
        match compressStreamGeneric writer session directive capacity source with
        | .error code => ⟨{ cctx with session := some session }, 0, [], .error code⟩
        | .ok stop =>
            ⟨{ cctx with session := stop.session }, source.length - stop.ip.length, stop.op,
              .ok (stop.session.elim 0 fun session => session.unflushed.length)⟩

def compress2 (cctx : CStream writer.State) (capacity : Nat) (source : Bytes) :
    Except ErrorCode Bytes :=
  let reply := compressStream2 writer true cctx.resetSession .finish capacity source
  match reply.status with
  | .error code => .error code
  | .ok 0 => .ok reply.output
  | .ok _ => .error .dstSizeTooSmall

def compressLibrary : CompressLibrary (CStream writer.State) where
  createCCtx := some (.create writer.State)
  setCompressionLevel := CStream.setCompressionLevel
  refCDict := CStream.refCDict
  loadDictionary := CStream.loadDictionary
  compress2 := compress2 writer
  compressStream2 := compressStream2 writer false

end

end ZstdRuby.Libzstd
