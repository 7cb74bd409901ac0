import ZstdRuby.Foundation.UnitDecoder
import ZstdRuby.Libzstd.DecompressStream
import ZstdRuby.Properties.DecompressFrame

/-! # `ZSTD_decompressStream` decodes by units

Every call of the stream decoder is an answer of a decoder over its unit
machine, unless it takes the shortcut for a frame that is there as a whole.
-/

namespace ZstdRuby.Libzstd

open Streaming

def DecodeStage.failed {Entropy : Type} : DecodeStage Entropy → Bool
  | failedBlock _ _ _ _ => true
  | _ => false

def FrameHeader.declaresSize : FrameHeader → Bool
  | skippable _ _ => false
  | frame fParams => fParams.frameContentSize.isSome

section

variable (blocks : BlockDecoder) (dictionary : Option Bytes)

/-! ## Frames that do not declare the size of their content -/

def feedUndeclared (state : StreamState blocks.Entropy) (src : Bytes) :
    Except ErrorCode (StreamState blocks.Entropy × Bytes) :=
  match state with
  | .header headerBuffer _ =>
      match getFrameHeader (headerBuffer ++ src) with
      | .ok (.filled header) =>
          if header.declaresSize then .error .frameParameterUnsupported
          else feedStream blocks dictionary state src
      | _ => feedStream blocks dictionary state src
  | .frame _ => feedStream blocks dictionary state src

/-- The machine of the stream, but for the frames that declare the size of their
content: those are not always decoded by units. -/
def undeclaredMachine : UnitMachine (StreamState blocks.Entropy) UInt8 UInt8 ErrorCode :=
  (streamMachine blocks dictionary).refeed (feedUndeclared blocks dictionary) <| by
    rintro (⟨headerBuffer, size⟩ | stage) unit streams
    · cases streams
    · rfl

end

section

variable {blocks : BlockDecoder} {dictionary : Option Bytes} {capacity : Nat} {source : Bytes}

theorem undeclaredMachine_restricts :
    (undeclaredMachine blocks dictionary).Restricts (streamMachine blocks dictionary) where
  need := rfl
  streams := rfl
  feed := by
    rintro (⟨headerBuffer, size⟩ | stage) unit reached fed
    · simp only [undeclaredMachine, UnitMachine.refeed, feedUndeclared] at fed
      split at fed
      · split at fed
        · cases fed
        · exact fed
      · exact fed
    · exact fed

theorem undeclaredMachine_refuses {headerBuffer unit : Bytes} {size : Nat} {header : FrameHeader}
    (filled : getFrameHeader (headerBuffer ++ unit) = .ok (.filled header))
    (declares : header.declaresSize = true) :
    (undeclaredMachine blocks dictionary).feedUnit (.header headerBuffer size) unit = none := by
  simp only [UnitMachine.feedUnit, undeclaredMachine, UnitMachine.refeed, feedUndeclared, filled,
    declares, if_true]

abbrev StreamStanding (blocks : BlockDecoder) :=
  Standing (StreamState blocks.Entropy) UInt8 UInt8

/-! ## Contexts between two calls -/

/-- What the buffers of a context say about where the decoder stands. -/
inductive StreamStands (dictionary : Option Bytes) :
    DStream blocks.Entropy → StreamStanding blocks → Prop
  | init {zds : DStream blocks.Entropy} (uses : zds.dictionary = dictionary)
      (stage : zds.streamStage = .init) : StreamStands dictionary zds (.start (streamStart blocks))
  | loadHeader {zds : DStream blocks.Entropy} {buffer loaded : Bytes} {size : Nat}
      (uses : zds.dictionary = dictionary) (stage : zds.streamStage = .loadHeader)
      (header : zds.headerBuffer = buffer ++ loaded)
      (wanted : getFrameHeader zds.headerBuffer = .ok (.wanted size))
      (input : zds.inBuff = []) (output : zds.outBuff = []) (free : zds.hostageByte = false) :
      StreamStands dictionary zds ⟨⟨.header buffer size, loaded⟩, [], false⟩
  | read {zds : DStream blocks.Entropy} (uses : zds.dictionary = dictionary)
      (stage : zds.streamStage = .read) (works : zds.stage.failed = false)
      (input : zds.inBuff = []) (output : zds.outBuff = [])
      (hostage : zds.hostageByte = true ↔ zds.stage.expected = 0) :
      StreamStands dictionary zds ⟨⟨.frame zds.stage, []⟩, [], zds.hostageByte⟩
  | load {zds : DStream blocks.Entropy} (uses : zds.dictionary = dictionary)
      (stage : zds.streamStage = .load) (output : zds.outBuff = [])
      (free : zds.hostageByte = false) (whole : zds.stage.streams = false)
      (needed : zds.stage.expected ≠ 0) :
      StreamStands dictionary zds ⟨⟨.frame zds.stage, zds.inBuff⟩, [], false⟩
  | flush {zds : DStream blocks.Entropy} (uses : zds.dictionary = dictionary)
      (stage : zds.streamStage = .flush) (works : zds.stage.failed = false)
      (input : zds.inBuff = []) (hostage : zds.hostageByte = true ↔ zds.stage.expected = 0) :
      StreamStands dictionary zds ⟨⟨.frame zds.stage, []⟩, zds.outBuff, zds.hostageByte⟩

theorem StreamStands.counted {zds : DStream blocks.Entropy} {standing : StreamStanding blocks}
    (stands : StreamStands dictionary zds standing) (count : Nat) :
    StreamStands dictionary { zds with noForwardProgress := count } standing := by
  cases stands with
  | init uses stage => exact .init uses stage
  | loadHeader uses stage header wanted input output free =>
      exact .loadHeader uses stage header wanted input output free
  | read uses stage works input output hostage => exact .read uses stage works input output hostage
  | load uses stage output free whole needed => exact .load uses stage output free whole needed
  | flush uses stage works input hostage => exact .flush uses stage works input hostage

/-! ## Inside a call -/

/-- Gulp after gulp, the call has read what is before `ip` and has written all
output of it. -/
structure Handled (dictionary : Option Bytes) (capacity : Nat) (source : Bytes)
    (before : StreamStanding blocks) (ip : Nat) (op : Bytes)
    (cursor : Cursor (StreamState blocks.Entropy) UInt8) : Prop where
  free : before.hostage = false
  within : ip ≤ source.length
  fits : op.length ≤ capacity
  gulps : ∃ output, op = before.held ++ output ∧
    (streamMachine blocks dictionary).Gulps before.cursor source (source.take ip) cursor output

namespace Handled

variable {before : StreamStanding blocks} {ip : Nat} {op : Bytes}
  {cursor next : Cursor (StreamState blocks.Entropy) UInt8}

theorem start (free : before.hostage = false) (fits : before.held.length ≤ capacity) :
    Handled dictionary capacity source before 0 before.held before.cursor :=
  ⟨free, Nat.zero_le _, fits, [], (List.append_nil _).symm, .refl⟩

theorem sound (handled : Handled dictionary capacity source before ip op cursor)
    (start : (streamMachine blocks dictionary).Sound before.cursor) :
    (streamMachine blocks dictionary).Sound cursor := by
  rcases handled.gulps with ⟨output, -, gulps⟩
  exact gulps.sound start

theorem take_length (handled : Handled dictionary capacity source before ip op cursor) :
    (source.take ip).length = ip := by
  rw [List.length_take, min_eq_left handled.within]

theorem snoc (handled : Handled dictionary capacity source before ip op cursor)
    (needed : cursor.state.need ≠ 0) (available : source.drop ip ≠ []) {more : Bytes}
    (gulped : (streamMachine blocks dictionary).gulp cursor (source.drop ip) =
      some (next, more)) :
    ∃ output, op = before.held ++ output ∧
      (streamMachine blocks dictionary).Gulps before.cursor source
        (source.take (ip + (streamMachine blocks dictionary).gulpSize cursor
          (source.drop ip).length)) next (output ++ more) ∧
      (capacity < (before.held ++ (output ++ more)).length →
        Overflow (streamMachine blocks dictionary) capacity source before
          (source.take (ip + (streamMachine blocks dictionary).gulpSize cursor
            (source.drop ip).length)) next (output ++ more)) := by
  have length := handled.take_length
  rcases handled.gulps with ⟨output, written, gulps⟩
  rw [← length] at available gulped
  have longer := gulps.snoc needed available gulped
  rw [length, ← List.take_add] at longer
  refine ⟨output, written, longer, fun exceeds => ?_⟩
  refine ⟨source.take ip, cursor, output, more, gulps, needed, available, gulped, ?_, rfl,
    written ▸ handled.fits, exceeds⟩
  rw [length, List.take_add]

theorem gulp (handled : Handled dictionary capacity source before ip op cursor)
    (needed : cursor.state.need ≠ 0) (available : source.drop ip ≠ []) {more : Bytes}
    (gulped : (streamMachine blocks dictionary).gulp cursor (source.drop ip) =
      some (next, more)) (fits : (op ++ more).length ≤ capacity) :
    Handled dictionary capacity source before
      (ip + (streamMachine blocks dictionary).gulpSize cursor (source.drop ip).length)
      (op ++ more) next := by
  rcases handled.snoc needed available gulped with ⟨output, rfl, gulps, -⟩
  refine ⟨handled.free, ?_, fits, output ++ more, List.append_assoc _ _ _, gulps⟩
  have within := handled.within
  have size : (streamMachine blocks dictionary).gulpSize cursor (source.drop ip).length ≤
      (source.drop ip).length := Nat.min_le_right _ _
  rw [List.length_drop] at size
  rw [List.length_drop]
  omega

theorem disagrees {words : UnitMachine (StreamState blocks.Entropy) UInt8 UInt8 ErrorCode}
    (restricts : words.Restricts (streamMachine blocks dictionary))
    (handled : Handled dictionary capacity source before ip op cursor)
    (sound : (streamMachine blocks dictionary).Sound before.cursor)
    (needed : cursor.state.need ≠ 0)
    (refused : Disagrees words (source.drop ip) cursor) :
    before.hostage = false ∧ Disagrees words source before.cursor := by
  refine ⟨handled.free, fun elements content reads => ?_⟩
  rcases handled.gulps with ⟨output, -, gulps⟩
  have scanned := gulps.scanAll_eq sound
  have part : source.take ip <+: source := List.take_prefix _ _
  have split : source.take ip ++ source.drop ip = source := List.take_append_drop _ _
  constructor
  · intro shorter
    rcases restricts.longer reads scanned needed shorter part with
      ⟨rest, more, -, rfl, -, readsRest⟩
    apply (refused rest more readsRest).1
    rwa [← split, List.take_append_drop, ← List.prefix_append_right_inj (source.take ip), split]
  · intro longer
    rcases restricts.longer reads scanned needed (List.prefix_refl _)
      (part.trans longer) with ⟨rest, more, -, rfl, -, readsRest⟩
    apply (refused rest more readsRest).2
    rwa [← List.prefix_append_right_inj (source.take ip), split]

end Handled

namespace Handled

variable {before : StreamStanding blocks} {ip : Nat} {op : Bytes}

theorem exhaust {state : StreamState blocks.Entropy} {loaded : Bytes}
    (handled : Handled dictionary capacity source before ip op ⟨state, loaded⟩)
    (whole : state.streams = false)
    (short : loaded.length + (source.drop ip).length < state.need) :
    ∃ output, op = before.held ++ output ∧
      (streamMachine blocks dictionary).Gulps before.cursor source source
        ⟨state, loaded ++ source.drop ip⟩ output := by
  by_cases empty : source.drop ip = []
  · rcases handled.gulps with ⟨output, written, gulps⟩
    rw [List.take_of_length_le (List.drop_eq_nil_iff.mp empty)] at gulps
    exact ⟨output, written, by rwa [empty, List.append_nil]⟩
  · have size : (streamMachine blocks dictionary).gulpSize ⟨state, loaded⟩
        (source.drop ip).length = (source.drop ip).length :=
      min_eq_right (by simp only [streamMachine]; omega)
    have gulped : (streamMachine blocks dictionary).gulp ⟨state, loaded⟩ (source.drop ip) =
        some (⟨state, loaded ++ source.drop ip⟩, []) := by
      simp only [UnitMachine.gulp, size, List.take_length]
      rw [if_neg]
      simp only [streamMachine, whole, Bool.false_eq_true, false_or]
      omega
    rcases handled.snoc (by simp only; omega) empty gulped with ⟨output, written, gulps, -⟩
    rw [size, List.length_drop, Nat.add_sub_cancel' handled.within, List.take_length,
      List.append_nil] at gulps
    exact ⟨output, written, gulps⟩

end Handled

/-- Before the call, the decoder stood in a header, of which `header` has been read
since, with `read` from the source of the call. -/
def Begun (before : StreamStanding blocks) (read header : Bytes) : Prop :=
  ∃ buffer size loaded, before = ⟨⟨.header buffer size, loaded⟩, [], false⟩ ∧
    header = buffer ++ loaded ++ read

inductive Calling (dictionary : Option Bytes) (capacity : Nat) (source : Bytes)
    (before : StreamStanding blocks) : StreamCall blocks.Entropy → Prop
  | fresh {zds : DStream blocks.Entropy} (uses : zds.dictionary = dictionary)
      (stage : zds.streamStage = .init) (stands : before = .start (streamStart blocks)) :
      Calling dictionary capacity source before ⟨zds, 0, []⟩
  /-- The header is incomplete. -/
  | waiting {zds : DStream blocks.Entropy} {ip size : Nat} {buffer loaded : Bytes}
      (uses : zds.dictionary = dictionary) (stage : zds.streamStage = .loadHeader)
      (header : zds.headerBuffer = buffer ++ loaded)
      (wanted : getFrameHeader zds.headerBuffer = .ok (.wanted size))
      (input : zds.inBuff = []) (output : zds.outBuff = []) (free : zds.hostageByte = false)
      (begun : Begun before (source.take ip) zds.headerBuffer)
      (handled : Handled dictionary capacity source before ip [] ⟨.header buffer size, loaded⟩) :
      Calling dictionary capacity source before ⟨zds, ip, []⟩
  /-- The wanted part of the header has been loaded, and not looked at. -/
  | loaded {zds : DStream blocks.Entropy} {ip size toLoad : Nat} {buffer loaded : Bytes}
      (uses : zds.dictionary = dictionary) (stage : zds.streamStage = .loadHeader)
      (header : zds.headerBuffer = buffer ++ (loaded ++ (source.drop ip).take toLoad))
      (size_eq : (buffer ++ loaded).length + toLoad = size) (positive : 0 < toLoad)
      (available : toLoad ≤ (source.drop ip).length)
      (input : zds.inBuff = []) (output : zds.outBuff = []) (free : zds.hostageByte = false)
      (begun : Begun before (source.take (ip + toLoad)) zds.headerBuffer)
      (handled : Handled dictionary capacity source before ip [] ⟨.header buffer size, loaded⟩) :
      Calling dictionary capacity source before ⟨zds, ip + toLoad, []⟩
  | reading {zds : DStream blocks.Entropy} {ip : Nat} {op : Bytes}
      (uses : zds.dictionary = dictionary) (stage : zds.streamStage = .read)
      (works : zds.stage.failed = false) (input : zds.inBuff = [])
      (output : zds.outBuff = []) (free : zds.hostageByte = false)
      (handled : Handled dictionary capacity source before ip op ⟨.frame zds.stage, []⟩) :
      Calling dictionary capacity source before ⟨zds, ip, op⟩
  | loading {zds : DStream blocks.Entropy} {ip : Nat} {op : Bytes}
      (uses : zds.dictionary = dictionary) (stage : zds.streamStage = .load)
      (output : zds.outBuff = []) (free : zds.hostageByte = false)
      (whole : zds.stage.streams = false) (needed : zds.stage.expected ≠ 0)
      (handled : Handled dictionary capacity source before ip op
        ⟨.frame zds.stage, zds.inBuff⟩) :
      Calling dictionary capacity source before ⟨zds, ip, op⟩
  /-- The output of the last gulp is still to be flushed. -/
  | flushing {zds : DStream blocks.Entropy} {ip : Nat} {op : Bytes}
      {cursor : Cursor (StreamState blocks.Entropy) UInt8}
      (uses : zds.dictionary = dictionary) (stage : zds.streamStage = .flush)
      (works : zds.stage.failed = false) (input : zds.inBuff = []) (free : zds.hostageByte = false)
      (needed : cursor.state.need ≠ 0) (available : source.drop ip ≠ [])
      (gulped : (streamMachine blocks dictionary).gulp cursor (source.drop ip) =
        some (⟨.frame zds.stage, []⟩, zds.outBuff))
      (handled : Handled dictionary capacity source before ip op cursor) :
      Calling dictionary capacity source before
        ⟨zds, ip + (streamMachine blocks dictionary).gulpSize cursor (source.drop ip).length, op⟩
  /-- The output an earlier call has left is still to be flushed. -/
  | resuming {zds : DStream blocks.Entropy} (uses : zds.dictionary = dictionary)
      (stage : zds.streamStage = .flush) (works : zds.stage.failed = false)
      (input : zds.inBuff = []) (hostage : zds.hostageByte = true ↔ zds.stage.expected = 0)
      (stands : before = ⟨⟨.frame zds.stage, []⟩, zds.outBuff, zds.hostageByte⟩) :
      Calling dictionary capacity source before ⟨zds, 0, []⟩
  /-- Everything is flushed and the hostage is to be released. -/
  | releasing {zds : DStream blocks.Entropy} (uses : zds.dictionary = dictionary)
      (stage : zds.streamStage = .read) (works : zds.stage.failed = false)
      (input : zds.inBuff = []) (output : zds.outBuff = []) (kept : zds.hostageByte = true)
      (ended : zds.stage.expected = 0)
      (hostage : before.hostage = true) (fits : before.held.length ≤ capacity)
      (cursor : before.cursor = ⟨.frame zds.stage, []⟩) :
      Calling dictionary capacity source before ⟨zds, 0, before.held⟩

def streamVariant (source : Bytes) (call : StreamCall blocks.Entropy) : Nat :=
  3 * (source.length - call.ip) +
    match call.zds.streamStage with
    | .init | .loadHeader | .flush => 2
    | .read => 1
    | .load => 0

/-- The call decodes the frame of `cSize` bytes at the start of its source in a single
pass, behind a header that declares the size of the content. The first part of that
header may be of an earlier call. -/
inductive SinglePass (dictionary : Option Bytes) (capacity : Nat) (source : Bytes)
    (before : StreamStanding blocks) (cSize : Nat) : Prop
  | mk {buffer loaded : Bytes} {size ip toLoad contentSize : Nat} {fParams : FrameParameters}
      (positive : 0 < toLoad) (size_eq : (buffer ++ loaded).length + toLoad = size)
      (available : toLoad ≤ (source.drop ip).length)
      (filled : getFrameHeader (buffer ++ (loaded ++ (source.drop ip).take toLoad)) =
        .ok (.filled (.frame fParams)))
      (begun : Begun before (source.take (ip + toLoad))
        (buffer ++ (loaded ++ (source.drop ip).take toLoad)))
      (declared : fParams.frameContentSize = some contentSize) (fits : contentSize ≤ capacity)
      (found : findFrameCompressedSize source = some cSize) (within : cSize ≤ source.length)
      (handled : Handled dictionary capacity source before ip [] ⟨.header buffer size, loaded⟩) :
      SinglePass dictionary capacity source before cSize

/-- The reply is an answer, and its context stands where the answer says, or the call
has taken the shortcut. -/
inductive Answers (dictionary : Option Bytes) (capacity : Nat) (source : Bytes)
    (before : StreamStanding blocks) (reply : StreamReply blocks.Entropy) : Prop
  | answer {after : StreamStanding blocks}
      (answer : Answer (streamMachine blocks dictionary) (streamMachine blocks dictionary)
        (streamStart blocks) capacity source before reply after)
      (stands : ∀ status, reply.status = .ok status → StreamStands dictionary reply.context after)
  | decoded {zds : DStream blocks.Entropy} {cSize : Nat} {content : Bytes}
      (single : SinglePass dictionary capacity source before cSize)
      (decoded : decompressUsingDDict blocks dictionary capacity (source.take cSize) = .ok content)
      (stands : StreamStands dictionary zds (.start (streamStart blocks)))
      (replied : reply = ⟨zds, cSize, content, .ok 0⟩)
  | refused {cSize : Nat} {code : ErrorCode}
      (single : SinglePass dictionary capacity source before cSize)
      (refused : decompressUsingDDict blocks dictionary capacity (source.take cSize) = .error code)
      (status : reply.status = .error code)

theorem answers_failed {before : StreamStanding blocks} {reply : StreamReply blocks.Entropy}
    {code : ErrorCode} (status : reply.status = .error code)
    (reason : source = [] ∨ capacity = 0 ∨ before.hostage = false ∧
      Disagrees (streamMachine blocks dictionary) source before.cursor) :
    Answers dictionary capacity source before reply := by
  refine @Answers.answer _ _ _ _ _ _ before (.failed status reason) fun hint replied => ?_
  rw [status] at replied
  cases replied

def PassHolds (dictionary : Option Bytes) (capacity : Nat) (source : Bytes)
    (before : StreamStanding blocks) (call : StreamCall blocks.Entropy)
    (pass : Pass (StreamCall blocks.Entropy) (StreamReply blocks.Entropy)) : Prop :=
  pass.Ensures (fun next => Calling dictionary capacity source before next ∧
      streamVariant source next < streamVariant source call)
    (Answers dictionary capacity source before)

theorem answers_refused {before : StreamStanding blocks} {reply : StreamReply blocks.Entropy}
    {ip : Nat} {op : Bytes} {cursor : Cursor (StreamState blocks.Entropy) UInt8}
    {code : ErrorCode} (status : reply.status = .error code)
    (handled : Handled dictionary capacity source before ip op cursor)
    (sound : (streamMachine blocks dictionary).Sound before.cursor)
    (needed : cursor.state.need ≠ 0) (available : source.drop ip ≠ [])
    (refused : (streamMachine blocks dictionary).gulp cursor (source.drop ip) = none) :
    Answers dictionary capacity source before reply :=
  answers_failed status <| Or.inr <| Or.inr <| handled.disagrees (.refl _) sound needed
    fun _ _ reads => reads.disagrees (handled.sound sound) needed available refused

/-! ### What follows the loop -/

theorem streamResult_cases (capacity : Nat) (source : Bytes) (call : StreamCall blocks.Entropy) :
    (∃ code, (streamResult blocks capacity source call).status = .error code ∧
      (source = [] ∨ capacity = 0)) ∨
    ∃ count, streamResult blocks capacity source call = streamReturn blocks source
      { call with zds := { call.zds with noForwardProgress := count } } := by
  simp only [streamResult]
  generalize (if call.ip = 0 ∧ call.op = [] then call.zds.noForwardProgress + 1 else 0) = count
  split
  · rename_i full
    left
    refine ⟨_, rfl, Or.inr ?_⟩
    rw [← full.2, full.1.1.2, List.length_nil]
  · split
    · rename_i empty
      left
      refine ⟨_, rfl, Or.inl ?_⟩
      exact List.length_eq_zero_iff.mp (empty.2.symm.trans empty.1.1.1)
    · exact Or.inr ⟨count, rfl⟩

theorem streamReturn_unfinished (source : Bytes) (call : StreamCall blocks.Entropy)
    (short : call.zds.inBuff.length < call.zds.stage.expected) :
    ∃ hint, streamReturn blocks source call = ⟨call.zds, call.ip, call.op, .ok (hint + 1)⟩ := by
  have needed : call.zds.stage.expected ≠ 0 := by omega
  simp only [streamReturn, needed, if_false]
  refine ⟨call.zds.stage.expected + (if call.zds.stage.nextIsBlock then blockHeaderSize else 0) -
    call.zds.inBuff.length - 1, ?_⟩
  congr 2
  omega

/-! ### The passes -/

variable {before : StreamStanding blocks}

theorem answers_starved {zds : DStream blocks.Entropy} {op : Bytes}
    {cursor : Cursor (StreamState blocks.Entropy) UInt8} (free : before.hostage = false)
    (gulps : ∃ output, op = before.held ++ output ∧
      (streamMachine blocks dictionary).Gulps before.cursor source source cursor output)
    (needed : cursor.state.need ≠ 0) (fits : op.length ≤ capacity)
    (short : zds.inBuff.length < zds.stage.expected)
    (stands : StreamStands dictionary zds ⟨cursor, [], false⟩) :
    Answers dictionary capacity source before
      (streamResult blocks capacity source ⟨zds, source.length, op⟩) := by
  rcases gulps with ⟨output, rfl, gulps⟩
  rcases streamResult_cases capacity source ⟨zds, source.length, before.held ++ output⟩ with
    ⟨code, status, reason⟩ | ⟨count, result⟩
  · exact answers_failed status (reason.imp_right Or.inl)
  · rw [result]
    rcases streamReturn_unfinished source ⟨{ zds with noForwardProgress := count },
      source.length, before.held ++ output⟩ short with ⟨hint, result⟩
    rw [result]
    exact .answer (.starved free gulps needed fits rfl rfl rfl rfl)
      fun _ _ => stands.counted count

theorem getFrameHeader_of_feedUnit {buffer unit : Bytes} {size : Nat}
    {reached : Cursor (StreamState blocks.Entropy) UInt8 × Bytes}
    (fed : (streamMachine blocks dictionary).feedUnit (.header buffer size) unit = some reached) :
    ∃ result, getFrameHeader (buffer ++ unit) = .ok result := by
  cases read : getFrameHeader (buffer ++ unit) with
  | ok result => exact ⟨result, rfl⟩
  | error code =>
      simp [UnitMachine.feedUnit, streamMachine, feedStream, read, bind, Except.bind] at fed

theorem waiting_pass {zds : DStream blocks.Entropy} {ip size : Nat} {buffer loaded : Bytes}
    (sound : (streamMachine blocks dictionary).Sound before.cursor)
    (uses : zds.dictionary = dictionary) (stage : zds.streamStage = .loadHeader)
    (header : zds.headerBuffer = buffer ++ loaded)
    (wanted : getFrameHeader zds.headerBuffer = .ok (.wanted size))
    (input : zds.inBuff = []) (output : zds.outBuff = []) (free : zds.hostageByte = false)
    (begun : Begun before (source.take ip) zds.headerBuffer)
    (handled : Handled dictionary capacity source before ip [] ⟨.header buffer size, loaded⟩) :
    PassHolds dictionary capacity source before ⟨zds, ip, []⟩
      (loadHeaderPass blocks capacity source ⟨zds, ip, []⟩) := by
  have incomplete := lt_of_getFrameHeader_wanted wanted
  have length : zds.headerBuffer.length = buffer.length + loaded.length := by
    rw [header, List.length_append]
  have needed : (StreamState.header buffer size : StreamState blocks.Entropy).need ≠ 0 := by
    simp only [StreamState.need]
    omega
  simp only [loadHeaderPass, wanted]
  split
  · rename_i short
    split
    · -- The first bytes are those of no frame.
      rename_i code refused
      refine answers_failed rfl (Or.inr <| Or.inr <| handled.disagrees (.refl _) sound needed ?_)
      intro rest more reads
      have enough : size - buffer.length - loaded.length ≤ rest.length :=
        reads.unit_le (handled.sound sound) needed
      rcases reads.feeds (handled.sound sound) needed rfl with ⟨reached, fed⟩
      refine ⟨fun shorter => by have := shorter.length_le; omega, fun longer => ?_⟩
      have inUnit : source.drop ip <+: rest.take (size - buffer.length - loaded.length) :=
        List.prefix_take_iff.mpr ⟨longer, by omega⟩
      rcases inUnit with ⟨after, split⟩
      rcases getFrameHeader_of_feedUnit fed with ⟨result, accepted⟩
      have whole : zds.headerBuffer ++ source.drop ip ++ after =
          buffer ++ (loaded ++ rest.take (size - buffer.length - loaded.length)) := by
        simp only [header, ← split, List.append_assoc]
      rw [show (streamMachine blocks dictionary).need (.header buffer size) =
        size - buffer.length from rfl, ← whole] at accepted
      rcases getFrameHeader_of_append accepted with ⟨result, accepted⟩
      rw [refused] at accepted
      cases accepted
    · rename_i result accepted
      have same := getFrameHeader_wanted_append wanted
        (by rw [List.length_append]; omega) accepted
      subst same
      rcases handled.exhaust rfl (by simp only [StreamState.need]; omega) with
        ⟨produced, written, gulps⟩
      refine .answer (.starved handled.free gulps needed (written ▸ handled.fits) rfl written
        rfl rfl) fun _ _ => ?_
      · refine .loadHeader uses stage ?_ accepted input output free
        simp only [header, List.append_assoc]
  · rename_i enough
    have toLoad : 0 < size - zds.headerBuffer.length := by omega
    refine ⟨.loaded uses stage ?_ ?_ toLoad (not_lt.mp enough) input output free ?_ handled, ?_⟩
    · simp only [header, List.append_assoc]
    · rw [← header]
      omega
    · rcases begun with ⟨buffer, size, loaded, stands, began⟩
      refine ⟨buffer, size, loaded, stands, ?_⟩
      simp only [began, List.take_add, List.append_assoc]
    · rw [List.length_drop] at enough
      simp only [streamVariant, stage]
      omega

theorem consumeHeader_works {header : FrameHeader} {stage : DecodeStage blocks.Entropy}
    (consumed : consumeHeader blocks dictionary header = .ok stage) : stage.failed = false := by
  cases header with
  | skippable variant size =>
      cases consumed
      rfl
  | frame fParams =>
      rcases bind_eq_ok.mp consumed with ⟨accepted, -, consumed⟩
      split at consumed <;> cases consumed
      rfl

theorem sound_undeclared {cursor : Cursor (StreamState blocks.Entropy) UInt8}
    (sound : (streamMachine blocks dictionary).Sound cursor) :
    (undeclaredMachine blocks dictionary).Sound cursor :=
  ⟨sound.short, sound.ended, sound.streamed⟩

section

variable {zds : DStream blocks.Entropy} {ip size toLoad : Nat} {buffer loaded : Bytes}
  (sound : (streamMachine blocks dictionary).Sound before.cursor)
  (uses : zds.dictionary = dictionary) (stage : zds.streamStage = .loadHeader)
  (header : zds.headerBuffer = buffer ++ (loaded ++ (source.drop ip).take toLoad))
  (size_eq : (buffer ++ loaded).length + toLoad = size) (positive : 0 < toLoad)
  (available : toLoad ≤ (source.drop ip).length)
  (handled : Handled dictionary capacity source before ip [] ⟨.header buffer size, loaded⟩)

include size_eq positive available in
theorem gulp_header {machine : UnitMachine (StreamState blocks.Entropy) UInt8 UInt8 ErrorCode}
    (needs : machine.need = StreamState.need) :
    StreamState.need (.header buffer size : StreamState blocks.Entropy) ≠ 0 ∧
      source.drop ip ≠ [] ∧
      machine.gulpSize ⟨.header buffer size, loaded⟩ (source.drop ip).length = toLoad ∧
      machine.gulp ⟨.header buffer size, loaded⟩ (source.drop ip) =
        machine.feedUnit (.header buffer size) (loaded ++ (source.drop ip).take toLoad) := by
  rw [List.length_append] at size_eq
  have gulpSize : machine.gulpSize ⟨.header buffer size, loaded⟩ (source.drop ip).length =
      toLoad := by
    simp only [UnitMachine.gulpSize, needs, StreamState.need]
    omega
  refine ⟨?_, ?_, gulpSize, ?_⟩
  · simp only [StreamState.need]
    omega
  · rw [← List.length_pos_iff]
    omega
  · simp only [UnitMachine.gulp, gulpSize]
    rw [if_pos]
    right
    simp only [needs, StreamState.need, List.length_take]
    omega

include sound size_eq positive available handled in
theorem disagrees_of_declared {frameHeader : FrameHeader}
    (filled : getFrameHeader (buffer ++ (loaded ++ (source.drop ip).take toLoad)) =
      .ok (.filled frameHeader)) (declares : frameHeader.declaresSize = true) :
    before.hostage = false ∧
      Disagrees (undeclaredMachine blocks dictionary) source before.cursor := by
  rcases @gulp_header blocks source ip size toLoad buffer loaded size_eq positive available
    (undeclaredMachine blocks dictionary) rfl with ⟨needed, someLeft, -, gulped⟩
  apply handled.disagrees undeclaredMachine_restricts sound needed
  intro elements content reads
  exact reads.disagrees (sound_undeclared (handled.sound sound)) needed someLeft
    (gulped.trans (undeclaredMachine_refuses filled declares))

include uses header size_eq positive available handled in
theorem loaded_pass_shortcut {frameHeader : FrameHeader} {cSize : Nat}
    (read : getFrameHeader zds.headerBuffer = .ok (.filled frameHeader))
    (output : zds.outBuff = []) (free : zds.hostageByte = false)
    (begun : Begun before (source.take (ip + toLoad)) zds.headerBuffer)
    (shortcut : singlePassSize source capacity frameHeader = some cSize) :
    PassHolds dictionary capacity source before ⟨zds, ip + toLoad, []⟩
      (loadHeaderPass blocks capacity source ⟨zds, ip + toLoad, []⟩) := by
  cases frameHeader with
  | skippable variant payload => cases shortcut
  | frame fParams =>
      have shortcut' := shortcut
      rw [singlePassSize] at shortcut
      split at shortcut
      · cases shortcut
      · rename_i contentSize declared
        split at shortcut
        · rename_i fits
          rw [Option.filter_eq_some_iff, decide_eq_true_eq] at shortcut
          rcases shortcut with ⟨found, within⟩
          have positive := (findFrameCompressedSize_pos found).1
          simp only [loadHeaderPass, read, uses, List.length_nil, Nat.sub_zero, shortcut']
          rw [header] at read begun
          have single : SinglePass dictionary capacity source before cSize :=
            .mk ‹_› size_eq available read begun declared fits found within handled
          cases decoded : decompressUsingDDict blocks dictionary capacity (source.take cSize) with
          | error code => exact .refused single decoded rfl
          | ok content =>
              rcases streamResult_cases capacity source ⟨{ zds with
                  dictionary := dictionary, stage := .getFrameHeaderSize, streamStage := .init },
                cSize, [] ++ content⟩ with ⟨code, status, reason⟩ | ⟨count, result⟩
              · exact answers_failed status (reason.imp_right Or.inl)
              · simp only [result]
                simp only [streamReturn, DecodeStage.expected, output, free, if_true,
                  Bool.false_eq_true, if_false, List.nil_append]
                exact .decoded single decoded (.init rfl rfl) rfl
        · cases shortcut

end

theorem loaded_pass {zds : DStream blocks.Entropy} {ip size toLoad : Nat}
    {buffer loaded : Bytes} (sound : (streamMachine blocks dictionary).Sound before.cursor)
    (uses : zds.dictionary = dictionary) (stage : zds.streamStage = .loadHeader)
    (header : zds.headerBuffer = buffer ++ (loaded ++ (source.drop ip).take toLoad))
    (size_eq : (buffer ++ loaded).length + toLoad = size) (positive : 0 < toLoad)
    (available : toLoad ≤ (source.drop ip).length)
    (input : zds.inBuff = []) (output : zds.outBuff = []) (free : zds.hostageByte = false)
    (begun : Begun before (source.take (ip + toLoad)) zds.headerBuffer)
    (handled : Handled dictionary capacity source before ip [] ⟨.header buffer size, loaded⟩) :
    PassHolds dictionary capacity source before ⟨zds, ip + toLoad, []⟩
      (loadHeaderPass blocks capacity source ⟨zds, ip + toLoad, []⟩) := by
  rcases @gulp_header blocks source ip size toLoad buffer loaded size_eq positive available
    (streamMachine blocks dictionary) rfl with ⟨needed, someLeft, gulpSize, gulped⟩
  have advance : ∀ next, (streamMachine blocks dictionary).gulp ⟨.header buffer size, loaded⟩
      (source.drop ip) = some (next, []) →
      Handled dictionary capacity source before (ip + toLoad) [] next := by
    intro next gulped
    have handled := handled.gulp needed someLeft gulped (Nat.zero_le _)
    rwa [gulpSize] at handled
  cases read : getFrameHeader zds.headerBuffer with
  | error code =>
      rw [loadHeaderPass, read]
      apply answers_refused rfl handled sound needed someLeft
      rw [gulped]
      simp only [UnitMachine.feedUnit, streamMachine, feedStream, ← header, read, bind, Except.bind]
  | ok result =>
      cases result with
      | wanted wantedSize =>
          refine waiting_pass sound uses stage (List.append_nil _).symm read input output free
            begun (advance _ ?_)
          rw [gulped]
          simp only [UnitMachine.feedUnit, streamMachine, feedStream, ← header, read, bind,
            Except.bind, pure, Except.pure]
      | filled frameHeader =>
          cases shortcut : singlePassSize source capacity frameHeader with
          | some cSize =>
              exact loaded_pass_shortcut uses header size_eq positive available handled read
                output free begun shortcut
          | none =>
              cases consumed : consumeHeader blocks dictionary frameHeader with
              | error code =>
                  simp only [loadHeaderPass, read, uses, consumed, List.length_nil, Nat.sub_zero,
                    shortcut]
                  apply answers_refused rfl handled sound needed someLeft
                  rw [gulped]
                  simp only [UnitMachine.feedUnit, streamMachine, feedStream, ← header, read,
                    consumed, bind, Except.bind]
              | ok decodeStage =>
                  simp only [loadHeaderPass, read, uses, consumed, List.length_nil, Nat.sub_zero,
                    shortcut]
                  refine ⟨.reading rfl rfl (consumeHeader_works consumed) input output free
                    (advance _ ?_), ?_⟩
                  · rw [gulped]
                    simp only [UnitMachine.feedUnit, streamMachine, feedStream, ← header, read,
                      consumed, bind, Except.bind, pure, Except.pure]
                  · simp only [streamVariant, stage]
                    omega

theorem endOfBlock_works {frame : FrameState blocks.Entropy} {lastBlock : Bool}
    {stage : DecodeStage blocks.Entropy} (ends : endOfBlock blocks frame lastBlock = .ok stage) :
    stage.failed = false := by
  rw [endOfBlock_stage ends, endOfBlocks]
  split
  · split <;> rfl
  · rfl

theorem endOfWholeBlock_works {frame : FrameState blocks.Entropy} {lastBlock : Bool}
    {entropy : blocks.Entropy} {stage : DecodeStage blocks.Entropy} {output more : Bytes}
    (ends : endOfWholeBlock blocks frame lastBlock entropy output = .ok (stage, more)) :
    stage.failed = false := by
  rcases bind_eq_ok.mp (endOfWholeBlock_formatBlock ends) with ⟨reached, ended, rest⟩
  cases rest
  exact endOfBlock_works ended

theorem decompressContinue_works {stage next : DecodeStage blocks.Entropy} {unit output : Bytes}
    (continued : decompressContinue blocks stage unit = .ok (next, output)) :
    next.failed = false := by
  cases stage with
  | getFrameHeaderSize => cases continued
  | decodeBlockHeader frame =>
      rcases bind_eq_ok.mp continued with ⟨⟨blockType, size, lastBlock⟩, -, continued⟩
      simp only at continued
      split at continued
      · cases continued
      · split at continued
        · cases continued
          rfl
        · split at continued <;> cases continued
          · rw [endOfBlocks]
            split <;> rfl
          · rfl
  | decompressBlock frame blockType lastBlock expected positive =>
      cases blockType with
      | raw =>
          simp only [decompressContinue] at continued
          split at continued
          · cases continued
            rfl
          · rcases bind_eq_ok.mp continued with ⟨reached, ends, continued⟩
            cases continued
            exact endOfBlock_works ends
      | rle size => exact endOfWholeBlock_works continued
      | compressed =>
          rcases bind_eq_ok.mp continued with ⟨decoded, -, continued⟩
          exact endOfWholeBlock_works continued
  | failedBlock frame blockType lastBlock block =>
      cases blockType with
      | raw =>
          cases continued
          rfl
      | rle size => exact endOfWholeBlock_works continued
      | compressed =>
          rcases bind_eq_ok.mp continued with ⟨decoded, -, continued⟩
          exact endOfWholeBlock_works continued
  | checkChecksum frame =>
      simp only [decompressContinue] at continued
      split at continued <;> cases continued
      rfl
  | skipFrame size =>
      cases continued
      rfl

theorem decompressContinueStream_cases (dictionary : Option Bytes)
    (zds : DStream blocks.Entropy) (unit : Bytes) :
    (∃ code, decompressContinueStream blocks zds unit = .error code ∧
      (streamMachine blocks dictionary).feedUnit (.frame zds.stage) unit = none) ∨
    (∃ stage, stage.failed = false ∧ decompressContinueStream blocks zds unit =
        .ok { zds with stage := stage, streamStage := .read } ∧
      (streamMachine blocks dictionary).feedUnit (.frame zds.stage) unit =
        some (⟨.frame stage, []⟩, [])) ∨
    ∃ stage output, stage.failed = false ∧ decompressContinueStream blocks zds unit =
        .ok { zds with stage := stage, outBuff := output, streamStage := .flush } ∧
      (streamMachine blocks dictionary).feedUnit (.frame zds.stage) unit =
        some (⟨.frame stage, []⟩, output) := by
  simp only [decompressContinueStream, UnitMachine.feedUnit, streamMachine, feedStream, bind,
    Except.bind, pure, Except.pure]
  cases decoded : decompressContinue blocks zds.stage unit with
  | error code => exact Or.inl ⟨code, rfl, rfl⟩
  | ok reached =>
      rcases reached with ⟨stage, output⟩
      have works := decompressContinue_works decoded
      right
      by_cases silent : output = [] ∧ (!zds.stage.isSkipFrame) = true
      · left
        refine ⟨stage, works, ?_, ?_⟩
        · simp only [silent, and_self, if_true]
        · simp only [silent.1]
      · right
        exact ⟨stage, output, works, if_neg silent, rfl⟩

theorem decode_pass {zds failed : DStream blocks.Entropy} {ip size : Nat} {op loaded : Bytes}
    {call : StreamCall blocks.Entropy}
    (sound : (streamMachine blocks dictionary).Sound before.cursor)
    (uses : zds.dictionary = dictionary) (input : zds.inBuff = []) (output : zds.outBuff = [])
    (free : zds.hostageByte = false) (needed : zds.stage.expected ≠ 0)
    (available : source.drop ip ≠ [])
    (gulpSize : (streamMachine blocks dictionary).gulpSize ⟨.frame zds.stage, loaded⟩
      (source.drop ip).length = size) (positive : 0 < size)
    (complete : zds.stage.streams = true ∨
      loaded.length + ((source.drop ip).take size).length = zds.stage.expected)
    (handled : Handled dictionary capacity source before ip op ⟨.frame zds.stage, loaded⟩)
    (variant : 3 * (source.length - ip) ≤ streamVariant source call) :
    PassHolds dictionary capacity source before call
      (match decompressContinueStream blocks zds (loaded ++ (source.drop ip).take size) with
      | .error code => .leave (streamFailed blocks failed code)
      | .ok zds => .again ⟨zds, ip + size, op⟩) := by
  have gulped : (streamMachine blocks dictionary).gulp ⟨.frame zds.stage, loaded⟩
      (source.drop ip) = (streamMachine blocks dictionary).feedUnit (.frame zds.stage)
        (loaded ++ (source.drop ip).take size) := by
    simp only [UnitMachine.gulp, gulpSize]
    rw [if_pos]
    exact complete
  have within : ip + size ≤ source.length := by
    have bound : size ≤ (source.drop ip).length := gulpSize ▸ Nat.min_le_right _ _
    have left := handled.within
    rw [List.length_drop] at bound
    omega
  rcases decompressContinueStream_cases dictionary zds (loaded ++ (source.drop ip).take size) with
    ⟨code, decoded, fed⟩ | ⟨stage, works, decoded, fed⟩ | ⟨stage, produced, works, decoded, fed⟩
  · rw [decoded]
    exact answers_refused rfl handled sound needed available (gulped.trans fed)
  · rw [decoded]
    have handled := handled.gulp needed available (gulped.trans fed)
      (by rw [List.append_nil]; exact handled.fits)
    rw [gulpSize, List.append_nil] at handled
    refine ⟨.reading uses rfl works input output free handled, ?_⟩
    simp only [streamVariant] at variant ⊢
    omega
  · rw [decoded]
    have calling : Calling dictionary capacity source before
        ⟨{ zds with stage := stage, outBuff := produced, streamStage := .flush },
          ip + (streamMachine blocks dictionary).gulpSize ⟨.frame zds.stage, loaded⟩
            (source.drop ip).length, op⟩ :=
      .flushing uses rfl works input free needed available (gulped.trans fed) handled
    rw [gulpSize] at calling
    refine ⟨calling, ?_⟩
    simp only [streamVariant] at variant ⊢
    omega

theorem expectedWithInputSize_of_ended {stage : DecodeStage blocks.Entropy}
    (works : stage.failed = false) (ended : stage.expected = 0) (size : Nat) :
    stage.expectedWithInputSize size = 0 := by
  have whole : stage.streams = false := by
    cases stage with
    | decompressBlock frame blockType lastBlock expected positive =>
        exact absurd ended (Nat.pos_iff_ne_zero.mp positive)
    | failedBlock => cases works
    | _ => rfl
  rw [DecodeStage.expectedWithInputSize, whole, ended]
  rfl

theorem expectedWithInputSize_pos {stage : DecodeStage blocks.Entropy}
    (needed : stage.expected ≠ 0) (size : Nat) : 0 < stage.expectedWithInputSize size := by
  rw [DecodeStage.expectedWithInputSize]
  split <;> omega

section

variable {zds : DStream blocks.Entropy} {ip : Nat} {op : Bytes}
  (sound : (streamMachine blocks dictionary).Sound before.cursor)
  (uses : zds.dictionary = dictionary) (stage : zds.streamStage = .read)
  (works : zds.stage.failed = false) (input : zds.inBuff = []) (output : zds.outBuff = [])
  (free : zds.hostageByte = false)
  (handled : Handled dictionary capacity source before ip op ⟨.frame zds.stage, []⟩)

include uses works output free handled in
theorem reading_pass_ended (ended : zds.stage.expected = 0) :
    PassHolds dictionary capacity source before ⟨zds, ip, op⟩
      (readPass blocks capacity source ⟨zds, ip, op⟩) := by
  simp only [readPass]
  rw [if_pos (expectedWithInputSize_of_ended works ended _)]
  rcases streamResult_cases capacity source ⟨{ zds with streamStage := .init }, ip, op⟩ with
    ⟨code, status, reason⟩ | ⟨count, result⟩
  · exact answers_failed status (reason.imp_right Or.inl)
  · rw [result]
    simp only [streamReturn, ended, output, free, if_true, Bool.false_eq_true, if_false]
    rcases handled.gulps with ⟨produced, written, gulps⟩
    exact .answer (.finished handled.free gulps ended (written ▸ handled.fits)
      handled.take_length.symm written rfl rfl) fun _ _ => .init uses rfl

include sound uses input output free handled in
theorem reading_pass_decodes (needed : zds.stage.expected ≠ 0)
    (enough : zds.stage.expectedWithInputSize (source.drop ip).length ≤
      (source.drop ip).length) :
    PassHolds dictionary capacity source before ⟨zds, ip, op⟩
      (readPass blocks capacity source ⟨zds, ip, op⟩) := by
  have within := handled.within
  have length : (source.drop ip).length = source.length - ip := List.length_drop
  have positive := expectedWithInputSize_pos needed (source.drop ip).length
  have available : source.drop ip ≠ [] := by
    rw [← List.length_pos_iff]
    omega
  simp only [readPass]
  rw [if_neg (by omega), if_pos enough]
  have passes := @decode_pass blocks dictionary capacity source before zds { zds with
      stage := failedStage blocks zds.stage ((source.drop ip).take
        (zds.stage.expectedWithInputSize (source.drop ip).length)) } ip
    (zds.stage.expectedWithInputSize (source.drop ip).length) op [] ⟨zds, ip, op⟩ sound uses
    input output free needed available ?_ positive ?_ handled ?_
  · exact passes
  · simp only [UnitMachine.gulpSize, streamMachine, StreamState.need, List.length_nil,
      Nat.sub_zero]
    rcases Bool.eq_false_or_eq_true zds.stage.streams with streams | streams <;>
      simp only [DecodeStage.expectedWithInputSize, streams, if_true, Bool.false_eq_true,
        if_false] at enough ⊢ <;> omega
  · cases streams : zds.stage.streams with
    | true => exact Or.inl rfl
    | false =>
        right
        rw [DecodeStage.expectedWithInputSize, streams] at enough ⊢
        simp only [Bool.false_eq_true, if_false] at enough
        simp only [List.length_nil, List.length_take, Bool.false_eq_true, if_false]
        omega
  · simp only [streamVariant]
    omega

include uses stage works input output free handled in
theorem reading_pass_short (needed : zds.stage.expected ≠ 0)
    (short : (source.drop ip).length <
      zds.stage.expectedWithInputSize (source.drop ip).length) :
    PassHolds dictionary capacity source before ⟨zds, ip, op⟩
      (readPass blocks capacity source ⟨zds, ip, op⟩) := by
  have within := handled.within
  simp only [readPass]
  rw [if_neg (by omega), if_neg (by omega)]
  by_cases empty : source.drop ip = []
  · -- Between two units, with no input left.
    rw [if_pos empty]
    have allRead : ip = source.length := by
      have used := List.drop_eq_nil_iff.mp empty
      omega
    subst allRead
    have gulps := handled.gulps
    rw [List.take_length] at gulps
    refine answers_starved handled.free gulps needed handled.fits ?_ ?_
    · rw [input]
      exact Nat.pos_of_ne_zero needed
    · rw [← free]
      refine .read uses stage works input output ?_
      simp only [free, needed, Bool.false_eq_true]
  · rw [if_neg empty]
    have whole : zds.stage.streams = false := by
      cases streams : zds.stage.streams with
      | false => rfl
      | true =>
          have positive := List.length_pos_iff.mpr empty
          rw [DecodeStage.expectedWithInputSize, streams, if_pos rfl] at short
          omega
    refine ⟨.loading uses rfl output free whole needed ?_, ?_⟩
    · rw [input]
      exact handled
    · simp only [streamVariant, stage]
      omega

include sound uses stage works input output free handled in
theorem reading_pass : PassHolds dictionary capacity source before ⟨zds, ip, op⟩
    (readPass blocks capacity source ⟨zds, ip, op⟩) := by
  by_cases ended : zds.stage.expected = 0
  · exact reading_pass_ended uses works output free handled ended
  · rcases Nat.lt_or_ge (source.drop ip).length
      (zds.stage.expectedWithInputSize (source.drop ip).length) with short | enough
    · exact reading_pass_short uses stage works input output free handled ended short
    · exact reading_pass_decodes sound uses input output free handled ended enough

end

theorem loading_pass {zds : DStream blocks.Entropy} {ip : Nat} {op : Bytes}
    (sound : (streamMachine blocks dictionary).Sound before.cursor)
    (uses : zds.dictionary = dictionary) (stage : zds.streamStage = .load)
    (output : zds.outBuff = []) (free : zds.hostageByte = false)
    (whole : zds.stage.streams = false) (needed : zds.stage.expected ≠ 0)
    (handled : Handled dictionary capacity source before ip op ⟨.frame zds.stage, zds.inBuff⟩) :
    PassHolds dictionary capacity source before ⟨zds, ip, op⟩
      (loadPass blocks capacity source ⟨zds, ip, op⟩) := by
  have within := handled.within
  have short : zds.inBuff.length < zds.stage.expected := (handled.sound sound).short needed
  simp only [loadPass]
  split
  · rename_i incomplete
    rw [List.length_take] at incomplete
    have everything : (source.drop ip).take (zds.stage.expected - zds.inBuff.length) =
        source.drop ip := List.take_of_length_le (by omega)
    have allRead : ip + (source.drop ip).length = source.length := by
      rw [List.length_drop]
      omega
    rw [everything, allRead]
    refine answers_starved handled.free
      (handled.exhaust whole (by simp only [StreamState.need]; omega)) needed handled.fits ?_ ?_
    · simp only [List.length_append]
      omega
    · exact .load uses stage output free whole needed
  · rename_i complete
    rw [not_lt, List.length_take] at complete
    have size : ((source.drop ip).take (zds.stage.expected - zds.inBuff.length)).length =
        zds.stage.expected - zds.inBuff.length := by
      rw [List.length_take]
      omega
    have available : source.drop ip ≠ [] := by
      rw [← List.length_pos_iff]
      omega
    rw [size]
    refine @decode_pass blocks dictionary capacity source before { zds with inBuff := [] } _ ip
      (zds.stage.expected - zds.inBuff.length) op zds.inBuff ⟨zds, ip, op⟩ sound uses rfl output
      free needed available ?_ (by omega) ?_ handled ?_
    · simp only [UnitMachine.gulpSize, streamMachine, StreamState.need]
      omega
    · right
      rw [size]
      simp only
      omega
    · simp only [streamVariant]
      omega

theorem streamReturn_full {zds : DStream blocks.Entropy} (ip : Nat) (op : Bytes)
    (input : zds.inBuff = []) (output : zds.outBuff ≠ []) :
    ∃ hint, streamReturn blocks source ⟨zds, ip, op⟩ =
      if zds.stage.expected = 0 ∧ zds.hostageByte = false then
        ⟨{ zds with hostageByte := true }, ip - 1, op, .ok (hint + 1)⟩
      else ⟨zds, ip, op, .ok (hint + 1)⟩ := by
  by_cases ended : zds.stage.expected = 0
  · refine ⟨0, ?_⟩
    cases hostage : zds.hostageByte <;> simp [streamReturn, ended, output, hostage]
  · rcases streamReturn_unfinished source ⟨zds, ip, op⟩
      (by rw [input]; exact Nat.pos_of_ne_zero ended) with ⟨hint, returned⟩
    exact ⟨hint, by simp only [returned, ended, false_and, if_false]⟩

section

variable {zds : DStream blocks.Entropy} {ip : Nat} {op : Bytes}
  {cursor : Cursor (StreamState blocks.Entropy) UInt8}
  (sound : (streamMachine blocks dictionary).Sound before.cursor)
  (uses : zds.dictionary = dictionary) (stage : zds.streamStage = .flush)
  (works : zds.stage.failed = false) (input : zds.inBuff = []) (free : zds.hostageByte = false)
  (needed : cursor.state.need ≠ 0) (available : source.drop ip ≠ [])
  (gulped : (streamMachine blocks dictionary).gulp cursor (source.drop ip) =
    some (⟨.frame zds.stage, []⟩, zds.outBuff))
  (handled : Handled dictionary capacity source before ip op cursor)

include uses stage works input free needed available gulped handled in
theorem flushing_pass_flushes (fits : op.length + zds.outBuff.length ≤ capacity) :
    PassHolds dictionary capacity source before
      ⟨zds, ip + (streamMachine blocks dictionary).gulpSize cursor (source.drop ip).length, op⟩
      (flushPass blocks capacity source
        ⟨zds, ip + (streamMachine blocks dictionary).gulpSize cursor (source.drop ip).length,
          op⟩) := by
  simp only [flushPass]
  rw [if_pos (by rw [List.length_take]; omega)]
  have everything : zds.outBuff.take (capacity - op.length) = zds.outBuff :=
    List.take_of_length_le (by omega)
  have nothing : zds.outBuff.drop (capacity - op.length) = [] :=
    List.drop_eq_nil_iff.mpr (by omega)
  rw [everything, nothing]
  refine ⟨.reading uses rfl works input rfl free (handled.gulp needed available gulped ?_), ?_⟩
  · rw [List.length_append]
    omega
  · simp only [streamVariant, stage]
    omega

include sound uses stage works input free needed available gulped handled in
theorem flushing_pass_fills (exceeds : capacity < op.length + zds.outBuff.length) :
    PassHolds dictionary capacity source before
      ⟨zds, ip + (streamMachine blocks dictionary).gulpSize cursor (source.drop ip).length, op⟩
      (flushPass blocks capacity source
        ⟨zds, ip + (streamMachine blocks dictionary).gulpSize cursor (source.drop ip).length,
          op⟩) := by
  have fits := handled.fits
  simp only [flushPass]
  rw [if_neg (by rw [List.length_take]; omega)]
  have left : zds.outBuff.drop (capacity - op.length) ≠ [] := by
    rw [Ne, List.drop_eq_nil_iff]
    omega
  rcases handled.snoc needed available gulped with ⟨output, written, gulps, overflows⟩
  have produced : before.held ++ (output ++ zds.outBuff) = op ++ zds.outBuff := by
    rw [written, List.append_assoc]
  have overflow := overflows (by rw [produced, List.length_append]; omega)
  have delivered : op ++ zds.outBuff.take (capacity - op.length) =
      (before.held ++ (output ++ zds.outBuff)).take capacity := by
    rw [produced, List.take_append, List.take_of_length_le fits]
  have remains : zds.outBuff.drop (capacity - op.length) =
      (before.held ++ (output ++ zds.outBuff)).drop capacity := by
    rw [produced, List.drop_append, List.drop_eq_nil_iff.mpr fits, List.nil_append]
  have part : (source.take (ip + (streamMachine blocks dictionary).gulpSize cursor
      (source.drop ip).length)).length =
      ip + (streamMachine blocks dictionary).gulpSize cursor (source.drop ip).length := by
    have within := handled.within
    have bound : (streamMachine blocks dictionary).gulpSize cursor (source.drop ip).length ≤
      (source.drop ip).length := Nat.min_le_right _ _
    rw [List.length_drop] at bound
    rw [List.length_take, List.length_drop]
    omega
  rcases streamResult_cases capacity source ⟨{ zds with
      outBuff := zds.outBuff.drop (capacity - op.length) },
      ip + (streamMachine blocks dictionary).gulpSize cursor (source.drop ip).length,
      op ++ zds.outBuff.take (capacity - op.length)⟩ with
    ⟨code, status, reason⟩ | ⟨count, result⟩
  · exact answers_failed status (reason.imp_right Or.inl)
  · rw [result]
    rcases @streamReturn_full blocks source { zds with
      outBuff := zds.outBuff.drop (capacity - op.length), noForwardProgress := count }
      (ip + (streamMachine blocks dictionary).gulpSize cursor (source.drop ip).length)
      (op ++ zds.outBuff.take (capacity - op.length)) input left with ⟨hint, returned⟩
    rw [returned]
    by_cases ended : zds.stage.expected = 0
    · rw [if_pos ⟨ended, free⟩]
      refine .answer (.withheld handled.free overflow ended ?_ delivered rfl rfl) fun _ _ => ?_
      · have someGulp := UnitMachine.gulpSize_pos (handled.sound sound) needed available
        rw [part]
        exact Nat.sub_add_cancel (by omega)
      · rw [← remains]
        exact .flush uses stage works input (by simp only [ended])
    · rw [if_neg (by simp only [ended, false_and, not_false_eq_true])]
      refine .answer (.overflowed handled.free overflow ended part.symm delivered rfl rfl)
        fun _ _ => ?_
      rw [← remains, ← free]
      exact .flush uses stage works input (by simp only [free, ended, Bool.false_eq_true])

include sound uses stage works input free needed available gulped handled in
theorem flushing_pass :
    PassHolds dictionary capacity source before
      ⟨zds, ip + (streamMachine blocks dictionary).gulpSize cursor (source.drop ip).length, op⟩
      (flushPass blocks capacity source
        ⟨zds, ip + (streamMachine blocks dictionary).gulpSize cursor (source.drop ip).length,
          op⟩) := by
  rcases Nat.lt_or_ge capacity (op.length + zds.outBuff.length) with exceeds | fits
  · exact flushing_pass_fills sound uses stage works input free needed available gulped handled
      exceeds
  · exact flushing_pass_flushes uses stage works input free needed available gulped handled fits

end

theorem resuming_pass {zds : DStream blocks.Entropy} (uses : zds.dictionary = dictionary)
    (stage : zds.streamStage = .flush) (works : zds.stage.failed = false)
    (input : zds.inBuff = []) (hostage : zds.hostageByte = true ↔ zds.stage.expected = 0)
    (stands : before = ⟨⟨.frame zds.stage, []⟩, zds.outBuff, zds.hostageByte⟩) :
    PassHolds dictionary capacity source before ⟨zds, 0, []⟩
      (flushPass blocks capacity source ⟨zds, 0, []⟩) := by
  subst stands
  simp only [flushPass, List.length_nil, Nat.sub_zero, List.nil_append]
  split
  · rename_i flushed
    rw [List.length_take] at flushed
    have everything : zds.outBuff.take capacity = zds.outBuff :=
      List.take_of_length_le (by omega)
    have nothing : zds.outBuff.drop capacity = [] := List.drop_eq_nil_iff.mpr (by omega)
    rw [everything, nothing]
    refine ⟨?_, by simp only [streamVariant, stage]; omega⟩
    cases kept : zds.hostageByte with
    | true =>
        exact .releasing uses rfl works input rfl rfl (hostage.mp kept) rfl
          (by simp only; omega) rfl
    | false => exact .reading uses rfl works input rfl rfl (.start rfl (by simp only; omega))
  · rename_i unflushed
    rw [List.length_take] at unflushed
    have left : zds.outBuff.drop capacity ≠ [] := by
      rw [Ne, List.drop_eq_nil_iff]
      omega
    rcases streamResult_cases capacity source ⟨{ zds with outBuff := zds.outBuff.drop capacity },
      0, zds.outBuff.take capacity⟩ with ⟨code, status, reason⟩ | ⟨count, result⟩
    · exact answers_failed status (reason.imp_right Or.inl)
    · rw [result]
      rcases @streamReturn_full blocks source { zds with
        outBuff := zds.outBuff.drop capacity, noForwardProgress := count } 0
        (zds.outBuff.take capacity) input left with ⟨hint, returned⟩
      have same : ¬(zds.stage.expected = 0 ∧ zds.hostageByte = false) := by
        rintro ⟨ended, free⟩
        rw [hostage.mpr ended] at free
        cases free
      rw [returned, if_neg same]
      exact .answer (.clogged (by simp only; omega) rfl rfl rfl rfl)
        fun _ _ => .flush uses stage works input hostage

theorem releasing_pass {zds : DStream blocks.Entropy} (uses : zds.dictionary = dictionary)
    (works : zds.stage.failed = false) (input : zds.inBuff = []) (output : zds.outBuff = [])
    (kept : zds.hostageByte = true) (ended : zds.stage.expected = 0)
    (hostage : before.hostage = true) (fits : before.held.length ≤ capacity)
    (cursor : before.cursor = ⟨.frame zds.stage, []⟩) :
    PassHolds dictionary capacity source before ⟨zds, 0, before.held⟩
      (readPass blocks capacity source ⟨zds, 0, before.held⟩) := by
  simp only [readPass]
  rw [if_pos (expectedWithInputSize_of_ended works ended _)]
  rcases streamResult_cases capacity source ⟨{ zds with streamStage := .init }, 0,
    before.held⟩ with ⟨code, status, reason⟩ | ⟨count, result⟩
  · exact answers_failed status (reason.imp_right Or.inl)
  · rw [result]
    by_cases absent : source.length = 0
    · have empty : source = [] := List.length_eq_zero_iff.mp absent
      have standing : ({ before with held := [] } : StreamStanding blocks) =
          ⟨⟨.frame zds.stage, []⟩, [], zds.hostageByte⟩ := by
        rw [cursor, hostage, kept]
      have returned : streamReturn blocks source ⟨{ zds with
          streamStage := .init, noForwardProgress := count }, 0, before.held⟩ =
          ⟨{ zds with streamStage := .read, noForwardProgress := count }, 0, before.held,
            .ok 1⟩ := by
        simp only [streamReturn, ended, output, kept, absent, ge_iff_le, le_refl, if_true]
      rw [returned]
      refine .answer (.kept hostage empty fits rfl rfl rfl standing.symm) fun _ _ => ?_
      exact .read uses rfl works input output (by simp only [kept, ended])
    · simp only [streamReturn, ended, output, kept, absent, ge_iff_le, Nat.le_zero, if_true,
        if_false]
      exact .answer (.released hostage (by rintro rfl; simp at absent) fits rfl rfl rfl rfl)
        fun _ _ => .init uses rfl

theorem streamPass_holds (sound : (streamMachine blocks dictionary).Sound before.cursor)
    {call : StreamCall blocks.Entropy} (calling : Calling dictionary capacity source before call) :
    PassHolds dictionary capacity source before call
      (streamPass blocks capacity source call) := by
  cases calling with
  | @fresh zds uses stage stands =>
      subst stands
      simp only [streamPass, stage]
      have passes := @waiting_pass blocks dictionary capacity source
        (.start (streamStart blocks)) { zds with
          streamStage := .loadHeader, headerBuffer := [], inBuff := [], outBuff := [],
          hostageByte := false } 0 startingInputLength [] [] sound uses rfl rfl rfl rfl rfl rfl
        ⟨[], startingInputLength, [], rfl, rfl⟩ (.start rfl (Nat.zero_le _))
      simpa only [PassHolds, streamVariant, stage] using passes
  | waiting uses stage header wanted input output free begun handled =>
      simp only [streamPass, stage]
      exact waiting_pass sound uses stage header wanted input output free begun handled
  | loaded uses stage header size positive available input output free begun handled =>
      simp only [streamPass, stage]
      exact loaded_pass sound uses stage header size positive available input output free begun
        handled
  | reading uses stage works input output free handled =>
      simp only [streamPass, stage]
      exact reading_pass sound uses stage works input output free handled
  | loading uses stage output free whole needed handled =>
      simp only [streamPass, stage]
      exact loading_pass sound uses stage output free whole needed handled
  | flushing uses stage works input free needed available gulped handled =>
      simp only [streamPass, stage]
      exact flushing_pass sound uses stage works input free needed available gulped handled
  | resuming uses stage works input hostage stands =>
      simp only [streamPass, stage]
      exact resuming_pass uses stage works input hostage stands
  | releasing uses stage works input output kept ended hostage fits cursor =>
      simp only [streamPass, stage]
      exact releasing_pass uses works input output kept ended hostage fits cursor

theorem StreamStands.calling {zds : DStream blocks.Entropy}
    (stands : StreamStands dictionary zds before) :
    Calling dictionary capacity source before ⟨zds, 0, []⟩ := by
  cases stands with
  | init uses stage => exact .fresh uses stage rfl
  | loadHeader uses stage header wanted input output free =>
      exact .waiting uses stage header wanted input output free
        ⟨_, _, _, rfl, by rw [header, List.take_zero, List.append_nil]⟩
        (.start rfl (Nat.zero_le _))
  | read uses stage works input output hostage =>
      cases kept : zds.hostageByte with
      | true =>
          exact .releasing uses stage works input output kept (hostage.mp kept) rfl
            (Nat.zero_le _) rfl
      | false => exact .reading uses stage works input output kept (.start rfl (Nat.zero_le _))
  | load uses stage output free whole needed =>
      exact .loading uses stage output free whole needed (.start rfl (Nat.zero_le _))
  | flush uses stage works input hostage => exact .resuming uses stage works input hostage rfl

theorem decompressStream_answers {zds : DStream blocks.Entropy}
    (sound : (streamMachine blocks dictionary).Sound before.cursor)
    (stands : StreamStands dictionary zds before) :
    Answers dictionary capacity source before (decompressStream blocks zds capacity source) := by
  have within : streamVariant source ⟨zds, 0, []⟩ < streamFuel source := by
    simp only [streamVariant, streamFuel]
    split <;> omega
  rcases Loop.run_of_variant (Calling dictionary capacity source before)
    (Answers dictionary capacity source before) (streamVariant source)
    (fun call calling => streamPass_holds sound calling) stands.calling within with
    ⟨reply, returned, answers⟩
  rw [decompressStream, returned]
  exact answers

theorem SinglePass.disagrees {cSize : Nat}
    (single : SinglePass dictionary capacity source before cSize)
    (sound : (streamMachine blocks dictionary).Sound before.cursor) :
    before.hostage = false ∧
      Disagrees (undeclaredMachine blocks dictionary) source before.cursor := by
  rcases single with ⟨positive, size_eq, available, filled, begun, declared, fits, found, within,
    handled⟩
  apply disagrees_of_declared sound size_eq positive available handled filled
  rw [FrameHeader.declaresSize, declared]
  rfl

def streamDecoder (zds : DStream blocks.Entropy) (uses : zds.dictionary = dictionary)
    (fresh : zds.streamStage = .init) :
    UnitDecoder (decompressStream blocks) zds (streamMachine blocks dictionary)
      (undeclaredMachine blocks dictionary) (streamStart blocks) where
  restricts := undeclaredMachine_restricts
  Stands := StreamStands dictionary
  needed := by
    change startingInputLength - 0 ≠ 0
    decide
  initial := .init uses fresh
  call := by
    intro context before capacity source stands sound
    cases @decompressStream_answers blocks dictionary capacity source before context sound
      stands with
    | answer answer stands =>
        exact Or.inl ⟨_, answer.weaken undeclaredMachine_restricts, stands⟩
    | @decoded zds cSize content single decoded stands replied =>
        have disagrees := single.disagrees sound
        rcases single with ⟨-, -, -, -, -, -, -, found, within, -⟩
        rw [replied]
        exact Or.inr ⟨⟨disagrees.1, rfl, (findFrameCompressedSize_pos found).1, within,
          decompressUsingDDict_length_le decoded, disagrees.2⟩, stands⟩
    | @refused cSize code single refused status =>
        refine Or.inl ⟨before, .failed status (Or.inr (Or.inr (single.disagrees sound))), ?_⟩
        intro hint replied
        cases status.symm.trans replied

end

end ZstdRuby.Libzstd
