import ZstdRuby.Foundation.Loop
import ZstdRuby.Libzstd.DecompressFrame

/-! # `ZSTD_decompressStream`

The stream decoder of `zstd_decompress.c`, with its own buffers for input that is
not enough and for output that does not fit, and with its shortcut for a frame
that is there as a whole. It is one of the libraries the extension can be linked
with.
-/

namespace ZstdRuby.Libzstd

open Streaming

inductive StreamStage
  | init
  | loadHeader
  | read
  | load
  | flush
  deriving DecidableEq

def noForwardProgressMax : Nat := 16

/-- The fields of a `ZSTD_DCtx` that streaming uses. The filled part of a buffer
stands for the buffer and its two ends: `headerBuffer` for `lhSize` bytes,
`inBuff` for `inPos` bytes, `outBuff` for the bytes from `outStart` to
`outEnd`. -/
structure DStream (Entropy : Type) where
  dictionary : Option Bytes
  streamStage : StreamStage
  headerBuffer : Bytes
  stage : DecodeStage Entropy
  inBuff : Bytes
  outBuff : Bytes
  hostageByte : Bool
  noForwardProgress : Nat
  deriving DecidableEq

def DStream.create (Entropy : Type) : DStream Entropy :=
  ⟨none, .init, [], .getFrameHeaderSize, [], [], false, 0⟩

/-- The local state of a call: the context, how many input bytes `ip` has
passed, and what has been written before `op`. -/
structure StreamCall (Entropy : Type) where
  zds : DStream Entropy
  ip : Nat
  op : Bytes

abbrev StreamReply (Entropy : Type) := Reply (DStream Entropy) UInt8 ErrorCode

section

variable (blocks : BlockDecoder) (capacity : Nat) (source : Bytes)

/-- A return before the positions are updated. -/
def streamFailed (zds : DStream blocks.Entropy) (code : ErrorCode) :
    StreamReply blocks.Entropy :=
  ⟨zds, 0, [], .error code⟩

/-- The return value, and the hostage byte. -/
def streamReturn (call : StreamCall blocks.Entropy) : StreamReply blocks.Entropy :=
  let zds := call.zds
  if zds.stage.expected = 0 then
    if zds.outBuff = [] then
      if zds.hostageByte then
        if call.ip ≥ source.length then
          ⟨{ zds with streamStage := .read }, call.ip, call.op, .ok 1⟩
        else ⟨zds, call.ip + 1, call.op, .ok 0⟩
      else ⟨zds, call.ip, call.op, .ok 0⟩
    else if !zds.hostageByte then
      ⟨{ zds with hostageByte := true }, call.ip - 1, call.op, .ok 1⟩
    else ⟨zds, call.ip, call.op, .ok 1⟩
  else
    let nextSrcSizeHint := zds.stage.expected +
      if zds.stage.nextIsBlock then blockHeaderSize else 0
    ⟨zds, call.ip, call.op, .ok (nextSrcSizeHint - zds.inBuff.length)⟩

/-- What follows the loop of `ZSTD_decompressStream`: the check for progress,
and the return. -/
def streamResult (call : StreamCall blocks.Entropy) : StreamReply blocks.Entropy :=
  let stuck := call.ip = 0 ∧ call.op = []
  let zds := { call.zds with
    noForwardProgress := if stuck then call.zds.noForwardProgress + 1 else 0 }
  let exhausted := stuck ∧ zds.noForwardProgress ≥ noForwardProgressMax
  if exhausted ∧ call.op.length = capacity then
    ⟨zds, call.ip, call.op, .error .noForwardProgressDestFull⟩
  else if exhausted ∧ call.ip = source.length then
    ⟨zds, call.ip, call.op, .error .noForwardProgressInputEmpty⟩
  else streamReturn blocks source { call with zds := zds }

def decompressContinueStream (zds : DStream blocks.Entropy) (src : Bytes) :
    Except ErrorCode (DStream blocks.Entropy) := do
  let (stage, output) ← decompressContinue blocks zds.stage src
  if output = [] ∧ !zds.stage.isSkipFrame then
    return { zds with stage := stage, streamStage := .read }
  else
    return { zds with stage := stage, outBuff := output, streamStage := .flush }

/-- The check for single-pass mode: the size of the frame that the source starts
with, if it is decoded in a single pass. The header may be that of another frame,
which an earlier call has begun to load. -/
def singlePassSize (room : Nat) : FrameHeader → Option Nat
  | .skippable _ _ => none
  | .frame fParams =>
      match fParams.frameContentSize with
      | none => none
      | some contentSize =>
          if room ≥ contentSize then
            (findFrameCompressedSize source).filter fun cSize => cSize ≤ source.length
          else none

/-- `zdss_loadHeader`. -/
def loadHeaderPass (call : StreamCall blocks.Entropy) :
    Pass (StreamCall blocks.Entropy) (StreamReply blocks.Entropy) :=
  let zds := call.zds
  let remaining := source.drop call.ip
  match getFrameHeader zds.headerBuffer with
  | .error code => .leave (streamFailed blocks zds code)
  | .ok (.wanted hSize) =>
      let toLoad := hSize - zds.headerBuffer.length
      if toLoad > remaining.length then
        let zds := { zds with headerBuffer := zds.headerBuffer ++ remaining }
        match getFrameHeader zds.headerBuffer with
        | .error code => .leave ⟨zds, source.length, [], .error code⟩
        | .ok _ => .leave ⟨zds, source.length, [], .ok
            (max frameHeaderSizeMin hSize - zds.headerBuffer.length + blockHeaderSize)⟩
      else
        .again ⟨{ zds with headerBuffer := zds.headerBuffer ++ remaining.take toLoad },
          call.ip + toLoad, call.op⟩
  | .ok (.filled header) =>
      let room := capacity - call.op.length
      match singlePassSize source room header with
      | some cSize =>
          match decompressUsingDDict blocks zds.dictionary room (source.take cSize) with
          | .error code => .leave (streamFailed blocks zds code)
          | .ok content => .leave (streamResult blocks capacity source
              ⟨{ zds with stage := .getFrameHeaderSize, streamStage := .init }, cSize,
                call.op ++ content⟩)
      | none =>
          match consumeHeader blocks zds.dictionary header with
          | .error code => .leave (streamFailed blocks zds code)
          | .ok stage =>
              .again ⟨{ zds with stage := stage, streamStage := .read }, call.ip, call.op⟩

/-- `zdss_read`. -/
def readPass (call : StreamCall blocks.Entropy) :
    Pass (StreamCall blocks.Entropy) (StreamReply blocks.Entropy) :=
  let zds := call.zds
  let remaining := source.drop call.ip
  let neededInSize := zds.stage.expectedWithInputSize remaining.length
  if neededInSize = 0 then
    .leave (streamResult blocks capacity source
      ⟨{ zds with streamStage := .init }, call.ip, call.op⟩)
  else if remaining.length ≥ neededInSize then
    match decompressContinueStream blocks zds (remaining.take neededInSize) with
    | .error code => .leave (streamFailed blocks { zds with
        stage := failedStage blocks zds.stage (remaining.take neededInSize) } code)
    | .ok zds => .again ⟨zds, call.ip + neededInSize, call.op⟩
  else if remaining = [] then .leave (streamResult blocks capacity source call)
  else .again ⟨{ zds with streamStage := .load }, call.ip, call.op⟩

/-- `zdss_load`. -/
def loadPass (call : StreamCall blocks.Entropy) :
    Pass (StreamCall blocks.Entropy) (StreamReply blocks.Entropy) :=
  let zds := call.zds
  let remaining := source.drop call.ip
  let toLoad := zds.stage.expected - zds.inBuff.length
  let loaded := remaining.take toLoad
  let inBuff := zds.inBuff ++ loaded
  if loaded.length < toLoad then
    .leave (streamResult blocks capacity source
      ⟨{ zds with inBuff := inBuff }, call.ip + loaded.length, call.op⟩)
  else
    let zds := { zds with inBuff := [] }
    match decompressContinueStream blocks zds inBuff with
    | .error code =>
        .leave (streamFailed blocks { zds with stage := failedStage blocks zds.stage inBuff } code)
    | .ok zds => .again ⟨zds, call.ip + loaded.length, call.op⟩

/-- `zdss_flush`. -/
def flushPass (call : StreamCall blocks.Entropy) :
    Pass (StreamCall blocks.Entropy) (StreamReply blocks.Entropy) :=
  let zds := call.zds
  let room := capacity - call.op.length
  let flushed := zds.outBuff.take room
  let flushedCall := ⟨{ zds with outBuff := zds.outBuff.drop room }, call.ip, call.op ++ flushed⟩
  if flushed.length = zds.outBuff.length then
    .again { flushedCall with zds := { flushedCall.zds with streamStage := .read } }
  else .leave (streamResult blocks capacity source flushedCall)

/-- One pass of the loop of `ZSTD_decompressStream`. -/
def streamPass (call : StreamCall blocks.Entropy) :
    Pass (StreamCall blocks.Entropy) (StreamReply blocks.Entropy) :=
  match call.zds.streamStage with
  | .init =>
      -- The case falls through to the next one.
      loadHeaderPass blocks capacity source { call with zds := { call.zds with
        streamStage := .loadHeader, headerBuffer := [], inBuff := [], outBuff := [],
        hostageByte := false } }
  | .loadHeader => loadHeaderPass blocks capacity source call
  | .read => readPass blocks capacity source call
  | .load => loadPass blocks capacity source call
  | .flush => flushPass blocks capacity source call

end

def streamFuel (source : Bytes) : Nat := 3 * source.length + 3

def decompressStream (blocks : BlockDecoder) :
    Decoder (DStream blocks.Entropy) UInt8 UInt8 ErrorCode :=
  fun zds capacity source =>
    (Loop.run (streamPass blocks capacity source) (streamFuel source) ⟨zds, 0, []⟩).getD
      (streamFailed blocks zds .generic)

def usedDictionary : Option Bytes → Option Bytes
  | some [] => none
  | dictionary => dictionary

def streamLibrary (blocks : BlockDecoder) : DecompressLibrary (DStream blocks.Entropy) where
  createDCtx := some (.create blocks.Entropy)
  resetSession zds := { zds with streamStage := .init, noForwardProgress := 0 }
  refDDict zds ddict :=
    if zds.streamStage ≠ .init then .error .stageWrong
    else .ok { zds with dictionary := usedDictionary (some ddict.dict) }
  loadDictionary zds dict :=
    if zds.streamStage ≠ .init then .error .stageWrong
    else .ok { zds with dictionary := usedDictionary (some dict) }
  decompressStream := decompressStream blocks

end ZstdRuby.Libzstd
