import ZstdRuby.Properties.StreamDecoder

/-! # When `ZSTD_decompressStream` gives up

A call that makes no progress is counted, and the sixteenth in a row is refused.
While the decoder waits for a frame header, nothing is counted.
-/

namespace ZstdRuby.Libzstd

open Streaming

section

variable {blocks : BlockDecoder} {dictionary : Option Bytes} {capacity : Nat} {source : Bytes}

/-! ## Waiting for a header -/

inductive ReadsHeader (header : Bytes) : DStream blocks.Entropy → (source : Bytes) → Prop
  | init {zds : DStream blocks.Entropy} (stage : zds.streamStage = .init) :
      ReadsHeader header zds header
  | loadHeader {zds : DStream blocks.Entropy} {source : Bytes}
      (stage : zds.streamStage = .loadHeader) (read : zds.headerBuffer ++ source = header) :
      ReadsHeader header zds source

def WaitsForHeader (header source : Bytes) (reply : StreamReply blocks.Entropy) : Prop :=
  (∃ hint, reply.status = .ok (hint + 1)) ∧ reply.consumed = source.length ∧
    ReadsHeader header reply.context []

/-- What holds before every pass of such a call. -/
def Waiting (header source : Bytes) (call : StreamCall blocks.Entropy) : Prop :=
  call.op = [] ∧ ReadsHeader header call.zds (source.drop call.ip)

theorem loadHeaderPass_waits {header : Bytes} {size : Nat}
    (incomplete : getFrameHeader header = .ok (.wanted size)) {zds : DStream blocks.Entropy}
    {ip : Nat} (stage : zds.streamStage = .loadHeader)
    (read : zds.headerBuffer ++ source.drop ip = header) :
    (loadHeaderPass blocks capacity source ⟨zds, ip, []⟩).Ensures
      (fun next => Waiting header source next ∧
        source.length - next.ip < source.length - ip)
      (WaitsForHeader header source) := by
  rw [← read] at incomplete
  rcases getFrameHeader_wanted_of_append incomplete with ⟨wanted, partly⟩
  have short := lt_of_getFrameHeader_wanted partly
  simp only [loadHeaderPass, partly]
  split
  · simp only [incomplete]
    refine ⟨⟨_, rfl⟩, rfl, .loadHeader stage ?_⟩
    rw [List.append_nil, read]
  · rename_i enough
    rw [List.length_drop] at enough
    refine ⟨⟨rfl, .loadHeader stage ?_⟩, by simp only; omega⟩
    rw [← read, List.append_assoc, ← List.drop_drop, List.take_append_drop]

theorem streamPass_waits {header : Bytes} {size : Nat}
    (incomplete : getFrameHeader header = .ok (.wanted size)) {call : StreamCall blocks.Entropy}
    (waiting : Waiting header source call) :
    (streamPass blocks capacity source call).Ensures
      (fun next => Waiting header source next ∧
        source.length - next.ip < source.length - call.ip)
      (WaitsForHeader header source) := by
  rcases call with ⟨zds, ip, op⟩
  rcases waiting with ⟨nothing, reads⟩
  simp only at nothing reads
  subst nothing
  generalize left : source.drop ip = rest at reads
  cases reads with
  | init stage =>
      simp only [streamPass, stage]
      exact loadHeaderPass_waits incomplete rfl left
  | loadHeader stage read =>
      subst left
      simp only [streamPass, stage]
      exact loadHeaderPass_waits incomplete stage read

theorem decompressStream_waits {header : Bytes} {size : Nat}
    (incomplete : getFrameHeader header = .ok (.wanted size)) {zds : DStream blocks.Entropy}
    (reads : ReadsHeader header zds source) :
    WaitsForHeader header source (decompressStream blocks zds capacity source) := by
  have within : source.length - 0 < streamFuel source := by
    rw [streamFuel]
    omega
  have start : Waiting header source ⟨zds, 0, []⟩ := ⟨rfl, reads⟩
  rcases Loop.run_of_variant (Waiting header source) (WaitsForHeader header source)
    (fun call => source.length - call.ip) (fun _ => streamPass_waits incomplete) start within with
    ⟨reply, returned, waits⟩
  rw [decompressStream, returned]
  exact waits

/-! ## Giving up -/

theorem streamReturn_counted (call : StreamCall blocks.Entropy) :
    (streamReturn blocks source call).context.noForwardProgress =
      call.zds.noForwardProgress := by
  simp only [streamReturn]
  split
  · split
    · split
      · split <;> rfl
      · rfl
    · split <;> rfl
  · rfl

theorem streamResult_counts {zds : DStream blocks.Entropy} {status : Nat}
    (accepted : (streamResult blocks capacity [] ⟨zds, 0, []⟩).status = .ok status) :
    (streamResult blocks capacity [] ⟨zds, 0, []⟩).context.noForwardProgress =
        zds.noForwardProgress + 1 ∧
      zds.noForwardProgress + 1 < noForwardProgressMax := by
  revert accepted
  simp only [streamResult, and_self, if_true, true_and, List.length_nil, ge_iff_le]
  split
  · intro accepted
    cases accepted
  · split
    · intro accepted
      cases accepted
    · rename_i notFull notEmpty
      intro accepted
      rw [streamReturn_counted]
      exact ⟨rfl, by simpa using notEmpty⟩

theorem readPass_starved {zds : DStream blocks.Entropy} (needed : zds.stage.expected ≠ 0) :
    readPass blocks capacity [] ⟨zds, 0, []⟩ =
      .leave (streamResult blocks capacity [] ⟨zds, 0, []⟩) := by
  have positive : 0 < zds.stage.expectedWithInputSize ([] : Bytes).length := by
    rw [DecodeStage.expectedWithInputSize]
    split <;> omega
  simp only [readPass, List.drop_nil]
  rw [if_neg (by omega), if_neg (by rw [List.length_nil] at positive ⊢; omega), if_pos trivial]

theorem decompressStream_counts {zds : DStream blocks.Entropy} {before : StreamStanding blocks}
    (stands : StreamStands dictionary zds before)
    (sound : (streamMachine blocks dictionary).Sound before.cursor)
    (empty : before.held = []) (free : before.hostage = false)
    {stage : DecodeStage blocks.Entropy} (reading : before.cursor.state = .frame stage)
    {status : Nat} (accepted : (decompressStream blocks zds capacity []).status = .ok status) :
    (decompressStream blocks zds capacity []).context.noForwardProgress =
        zds.noForwardProgress + 1 ∧
      zds.noForwardProgress + 1 < noForwardProgressMax := by
  cases stands with
  | init => cases reading
  | loadHeader => cases reading
  | read uses stage works input output hostage =>
      have needed : zds.stage.expected ≠ 0 := by
        intro ended
        rw [hostage.mpr ended] at free
        cases free
      have left : streamPass blocks capacity [] ⟨zds, 0, []⟩ =
          .leave (streamResult blocks capacity [] ⟨zds, 0, []⟩) := by
        simp only [streamPass, stage]
        exact readPass_starved needed
      have replied : decompressStream blocks zds capacity [] =
          streamResult blocks capacity [] ⟨zds, 0, []⟩ := by
        rw [decompressStream, streamFuel, Loop.run_leave _ left, Option.getD_some]
      rw [replied] at accepted ⊢
      exact streamResult_counts accepted
  | load uses stage output free whole needed =>
      have short : zds.inBuff.length < zds.stage.expected := sound.short needed
      have left : streamPass blocks capacity [] ⟨zds, 0, []⟩ =
          .leave (streamResult blocks capacity [] ⟨zds, 0, []⟩) := by
        simp only [streamPass, stage, loadPass, List.drop_nil, List.take_nil, List.append_nil,
          List.length_nil]
        rw [if_pos (by omega), ← stage]
      have replied : decompressStream blocks zds capacity [] =
          streamResult blocks capacity [] ⟨zds, 0, []⟩ := by
        rw [decompressStream, streamFuel, Loop.run_leave _ left, Option.getD_some]
      rw [replied] at accepted ⊢
      exact streamResult_counts accepted
  | flush uses stage works input hostage =>
      simp only at empty
      have needed : zds.stage.expected ≠ 0 := by
        intro ended
        rw [hostage.mpr ended] at free
        cases free
      have flushed : streamPass blocks capacity [] ⟨zds, 0, []⟩ =
          .again ⟨{ zds with streamStage := .read }, 0, []⟩ := by
        simp only [streamPass, stage, flushPass, empty, List.take_nil, List.drop_nil,
          List.append_nil, List.length_nil, if_true]
      have left : streamPass blocks capacity [] ⟨{ zds with streamStage := .read }, 0, []⟩ =
          .leave (streamResult blocks capacity [] ⟨{ zds with streamStage := .read }, 0, []⟩) := by
        simp only [streamPass]
        exact readPass_starved needed
      have replied : decompressStream blocks zds capacity [] =
          streamResult blocks capacity [] ⟨{ zds with streamStage := .read }, 0, []⟩ := by
        rw [decompressStream, streamFuel, Loop.run_again _ flushed, Loop.run_leave _ left,
          Option.getD_some]
      rw [replied] at accepted ⊢
      exact streamResult_counts accepted

/-! ## What a context owes -/

def owedBytes (zds : DStream blocks.Entropy) : Nat :=
  if zds.streamStage = .init then 0 else if zds.hostageByte then 1 else 0

def heldOutput (zds : DStream blocks.Entropy) : Bytes :=
  if zds.streamStage = .init then [] else zds.outBuff

theorem StreamStands.owed_held {zds : DStream blocks.Entropy}
    {standing : StreamStanding blocks} (stands : StreamStands dictionary zds standing) :
    standing.owed = owedBytes zds ∧ standing.held = heldOutput zds := by
  cases stands with
  | init uses stage => simp [Standing.start, Standing.owed, owedBytes, heldOutput, stage]
  | loadHeader uses stage header wanted input output free =>
      simp [Standing.owed, owedBytes, heldOutput, stage, output, free]
  | read uses stage works input output hostage =>
      simp [Standing.owed, owedBytes, heldOutput, stage, output]
  | load uses stage output free whole needed =>
      simp [Standing.owed, owedBytes, heldOutput, stage, output, free]
  | flush uses stage works input hostage => simp [Standing.owed, owedBytes, heldOutput, stage]

theorem StreamStands.wanted {zds : DStream blocks.Entropy} {before : StreamStanding blocks}
    (stands : StreamStands dictionary zds before) {buffer loaded : Bytes} {size : Nat}
    (waiting : before.cursor = ⟨.header buffer size, loaded⟩) :
    ∃ size, getFrameHeader (buffer ++ loaded) = .ok (.wanted size) := by
  cases stands with
  | init =>
      cases waiting
      exact ⟨startingInputLength, rfl⟩
  | loadHeader uses stage header wanted =>
      cases waiting
      exact ⟨_, header ▸ wanted⟩
  | read => cases waiting
  | load => cases waiting
  | flush => cases waiting

/-! ## What a header has been read from -/

theorem scan_header {cursor : Cursor (StreamState blocks.Entropy) UInt8} {last : UInt8}
    {buffer loaded output : Bytes} {size : Nat}
    (scanned : (streamMachine blocks dictionary).scan cursor last =
      some (⟨.header buffer size, loaded⟩, output)) :
    ∃ start wanted kept, cursor = ⟨.header start wanted, kept⟩ ∧
      buffer ++ loaded = start ++ kept ++ [last] := by
  rcases cursor with ⟨state, kept⟩
  rw [UnitMachine.scan] at scanned
  split at scanned
  · cases scanned
  · split at scanned
    · cases state with
      | header start wanted =>
          refine ⟨start, wanted, kept, rfl, ?_⟩
          simp only [UnitMachine.feedUnit, streamMachine, feedStream] at scanned
          cases read : getFrameHeader (start ++ (kept ++ [last])) with
          | error code => simp [read, bind, Except.bind] at scanned
          | ok result =>
              cases result with
              | wanted size =>
                  simp only [read, bind, Except.bind, pure, Except.pure, Option.some.injEq,
                    Prod.mk.injEq, Cursor.mk.injEq, StreamState.header.injEq] at scanned
                  rw [← scanned.1.1.1, ← scanned.1.2, List.append_nil, List.append_assoc]
              | filled header =>
                  simp only [read, bind, Except.bind] at scanned
                  cases consumed : consumeHeader blocks dictionary header <;>
                    simp [consumed, pure, Except.pure] at scanned
      | frame stage =>
          simp only [UnitMachine.feedUnit, streamMachine, feedStream] at scanned
          cases decoded : decompressContinue blocks stage (kept ++ [last]) <;>
            simp [decoded, bind, Except.bind, pure, Except.pure] at scanned
    · cases scanned
      exact ⟨buffer, size, kept, rfl, (List.append_assoc _ _ _).symm⟩

theorem header_of_scanAll {taken : Bytes} {cursor : Cursor (StreamState blocks.Entropy) UInt8}
    {output : Bytes} (scanned : (streamMachine blocks dictionary).scanAll
      ⟨streamStart blocks, []⟩ taken = some (cursor, output)) {buffer loaded : Bytes} {size : Nat}
    (waiting : cursor = ⟨.header buffer size, loaded⟩) : buffer ++ loaded = taken := by
  induction taken using List.reverseRecOn generalizing cursor output buffer loaded size with
  | nil =>
      cases scanned
      cases waiting
      rfl
  | append_singleton front last induction =>
      rcases UnitMachine.scanAll_append_inv scanned with
        ⟨middle, first, second, scannedFront, scannedLast, -⟩
      rw [UnitMachine.scanAll_singleton, waiting] at scannedLast
      rcases scan_header scannedLast with ⟨start, wanted, kept, middle_eq, read⟩
      rw [read, induction scannedFront middle_eq]

end

end ZstdRuby.Libzstd
