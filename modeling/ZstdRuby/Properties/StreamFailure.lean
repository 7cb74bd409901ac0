import ZstdRuby.Foundation.CallLoops
import ZstdRuby.Properties.StreamProgress

/-! # What a failed call of `ZSTD_decompressStream` leaves

A context that has returned an error does not stand where a context between two
calls can stand. It can be called again all the same, and the first call that works
puts it right. So a loop of calls comes to an end, whatever has failed before.
-/

namespace ZstdRuby.Libzstd

open Streaming

section

variable {blocks : BlockDecoder} {capacity : Nat} {source : Bytes}
  {zds : DStream blocks.Entropy}

/-! ## Contexts -/

/-- The context stands where a context between two calls can stand. -/
def Steady (zds : DStream blocks.Entropy) : Prop :=
  ∃ (dictionary : Option Bytes) (before : StreamStanding blocks),
    StreamStands dictionary zds before ∧ (streamMachine blocks dictionary).Sound before.cursor

/-- A context that a failed call has left. -/
inductive Broken (zds : DStream blocks.Entropy) : Prop
  /-- The header that has been read is none, or nothing comes of it. -/
  | header (stage : zds.streamStage = .loadHeader) (input : zds.inBuff = [])
      (output : zds.outBuff = []) (free : zds.hostageByte = false)
  | read (stage : zds.streamStage = .read) (failed : zds.stage.failed = true)
      (input : zds.inBuff = []) (output : zds.outBuff = []) (free : zds.hostageByte = false)
  | load (stage : zds.streamStage = .load) (failed : zds.stage.failed = true)
      (whole : zds.stage.streams = false) (input : zds.inBuff = []) (output : zds.outBuff = [])
      (free : zds.hostageByte = false)
  | flush (stage : zds.streamStage = .flush) (works : zds.stage.failed = false)
      (input : zds.inBuff = []) (hostage : zds.hostageByte = true → zds.stage.expected = 0)

/-- What a context is between two calls, failed ones included. -/
def Usable (zds : DStream blocks.Entropy) : Prop := Steady zds ∨ Broken zds

theorem steady_init (stage : zds.streamStage = .init) : Steady zds :=
  ⟨_, _, .init rfl stage, UnitMachine.sound_start _ _⟩

theorem steady_read (stage : zds.streamStage = .read) (works : zds.stage.failed = false)
    (input : zds.inBuff = []) (output : zds.outBuff = [])
    (hostage : zds.hostageByte = true ↔ zds.stage.expected = 0) : Steady zds :=
  ⟨_, _, .read rfl stage works input output hostage, UnitMachine.sound_start _ _⟩

theorem steady_flush (stage : zds.streamStage = .flush) (works : zds.stage.failed = false)
    (input : zds.inBuff = []) (hostage : zds.hostageByte = true ↔ zds.stage.expected = 0) :
    Steady zds :=
  ⟨_, _, .flush rfl stage works input hostage, UnitMachine.sound_start _ _⟩

theorem steady_load (stage : zds.streamStage = .load) (output : zds.outBuff = [])
    (free : zds.hostageByte = false) (whole : zds.stage.streams = false)
    (short : zds.inBuff.length < zds.stage.expected) : Steady zds := by
  have needed : zds.stage.expected ≠ 0 := by omega
  refine ⟨_, _, .load rfl stage output free whole needed, fun _ => short, ?_, ?_⟩
  · exact fun ended => absurd ended needed
  · intro streams
    cases whole.symm.trans streams

theorem Usable.counted (usable : Usable zds) (count : Nat) :
    Usable { zds with noForwardProgress := count } := by
  rcases usable with ⟨dictionary, before, stands, sound⟩ | broken
  · exact Or.inl ⟨dictionary, before, stands.counted count, sound⟩
  · right
    cases broken with
    | header stage input output free => exact .header stage input output free
    | read stage failed input output free => exact .read stage failed input output free
    | load stage failed whole input output free => exact .load stage failed whole input output free
    | flush stage works input hostage => exact .flush stage works input hostage

/-! ## The passes -/

inductive Midway : StreamCall blocks.Entropy → Prop
  | init {call : StreamCall blocks.Entropy} (stage : call.zds.streamStage = .init) : Midway call
  | header {call : StreamCall blocks.Entropy} (stage : call.zds.streamStage = .loadHeader)
      (input : call.zds.inBuff = []) (output : call.zds.outBuff = [])
      (free : call.zds.hostageByte = false) : Midway call
  | read {call : StreamCall blocks.Entropy} (stage : call.zds.streamStage = .read)
      (works : call.zds.stage.failed = false) (input : call.zds.inBuff = [])
      (output : call.zds.outBuff = [])
      (hostage : call.zds.hostageByte = true → call.zds.stage.expected = 0) : Midway call
  | load {call : StreamCall blocks.Entropy} (stage : call.zds.streamStage = .load)
      (output : call.zds.outBuff = []) (free : call.zds.hostageByte = false)
      (whole : call.zds.stage.streams = false)
      (short : call.zds.inBuff.length < call.zds.stage.expected) : Midway call
  | flush {call : StreamCall blocks.Entropy} (stage : call.zds.streamStage = .flush)
      (works : call.zds.stage.failed = false) (input : call.zds.inBuff = [])
      (hostage : call.zds.hostageByte = true → call.zds.stage.expected = 0) : Midway call
  | failedRead {call : StreamCall blocks.Entropy} (stage : call.zds.streamStage = .read)
      (failed : call.zds.stage.failed = true) (input : call.zds.inBuff = [])
      (output : call.zds.outBuff = []) (free : call.zds.hostageByte = false)
      (first : call.ip = 0) : Midway call
  | failedLoad {call : StreamCall blocks.Entropy} (stage : call.zds.streamStage = .load)
      (failed : call.zds.stage.failed = true) (whole : call.zds.stage.streams = false)
      (input : call.zds.inBuff = []) (output : call.zds.outBuff = [])
      (free : call.zds.hostageByte = false) : Midway call

/-- The call leaves a context that can be called. If it had input and has not failed,
nothing of an earlier failure is left. -/
def LeavesUsable (source : Bytes) (reply : StreamReply blocks.Entropy) : Prop :=
  Usable reply.context ∧ (source ≠ [] → ∀ status, reply.status = .ok status →
    Steady reply.context)

theorem leavesUsable_failed {reply : StreamReply blocks.Entropy} {code : ErrorCode}
    (usable : Usable reply.context) (status : reply.status = .error code) :
    LeavesUsable source reply := by
  refine ⟨usable, fun _ hint replied => ?_⟩
  cases status.symm.trans replied

theorem leavesUsable_steady {reply : StreamReply blocks.Entropy} (steady : Steady reply.context) :
    LeavesUsable source reply :=
  ⟨Or.inl steady, fun _ _ _ => steady⟩

theorem streamResult_leavesUsable {call : StreamCall blocks.Entropy}
    (usable : Usable call.zds)
    (returns : ∀ count, LeavesUsable source (streamReturn blocks source
      { call with zds := { call.zds with noForwardProgress := count } })) :
    LeavesUsable source (streamResult blocks capacity source call) := by
  simp only [streamResult]
  generalize (if call.ip = 0 ∧ call.op = [] then call.zds.noForwardProgress + 1 else 0) = count
  split
  · exact leavesUsable_failed (usable.counted count) rfl
  · split
    · exact leavesUsable_failed (usable.counted count) rfl
    · exact returns count

theorem streamResult_leavesSteady {call : StreamCall blocks.Entropy}
    (returns : ∀ count, Steady (streamReturn blocks source
      { call with zds := { call.zds with noForwardProgress := count } }).context)
    (usable : Usable call.zds) :
    LeavesUsable source (streamResult blocks capacity source call) :=
  streamResult_leavesUsable usable fun count => leavesUsable_steady (returns count)

theorem streamResult_ended {call : StreamCall blocks.Entropy}
    (works : call.zds.stage.failed = false ∨ call.zds.hostageByte = false)
    (ended : call.zds.stage.expected = 0) (input : call.zds.inBuff = [])
    (output : call.zds.outBuff = []) :
    LeavesUsable source (streamResult blocks capacity source
      { call with zds := { call.zds with streamStage := .init } }) := by
  refine streamResult_leavesSteady (fun count => ?_) (Or.inl (steady_init rfl))
  simp only [streamReturn, ended, output, if_true]
  cases kept : call.zds.hostageByte with
  | false => exact steady_init rfl
  | true =>
      simp only [if_true]
      split
      · have works := works.resolve_right (by simp [kept])
        exact steady_read rfl works input rfl (by simp only [ended])
      · exact steady_init rfl

theorem loadHeaderPass_midway {call : StreamCall blocks.Entropy}
    (stage : call.zds.streamStage = .loadHeader) (input : call.zds.inBuff = [])
    (output : call.zds.outBuff = []) (free : call.zds.hostageByte = false) :
    (loadHeaderPass blocks capacity source call).Ensures Midway (LeavesUsable source) := by
  have stuck : Usable call.zds := Or.inr (.header stage input output free)
  simp only [loadHeaderPass]
  split
  · exact leavesUsable_failed stuck rfl
  · rename_i size wanted
    split
    · rename_i short
      split
      · exact leavesUsable_failed (Or.inr (.header stage input output free)) rfl
      · rename_i result accepted
        have same := getFrameHeader_wanted_append wanted
          (by rw [List.length_append]; omega) accepted
        subst same
        refine leavesUsable_steady ⟨_, _, .loadHeader rfl stage (List.append_nil _).symm accepted
          input output free, UnitMachine.sound_start _ _⟩
    · exact .header stage input output free
  · rename_i header filled
    split
    · split
      · exact leavesUsable_failed stuck rfl
      · refine streamResult_leavesSteady (fun count => ?_) (Or.inl (steady_init rfl))
        simp only [streamReturn, DecodeStage.expected, output, free, if_true, Bool.false_eq_true,
          if_false]
        exact steady_init rfl
    · split
      · exact leavesUsable_failed stuck rfl
      · rename_i consumed
        refine .read rfl (consumeHeader_works consumed) input output fun kept => ?_
        cases free.symm.trans kept

theorem decompressContinueStream_midway {unit : Bytes} {next : DStream blocks.Entropy} {ip : Nat}
    {op : Bytes} (input : zds.inBuff = []) (output : zds.outBuff = [])
    (free : zds.hostageByte = false)
    (decoded : decompressContinueStream blocks zds unit = .ok next) : Midway ⟨next, ip, op⟩ := by
  have never : ∀ {stage : DecodeStage blocks.Entropy}, zds.hostageByte = true →
      stage.expected = 0 := by
    intro stage kept
    cases free.symm.trans kept
  rcases decompressContinueStream_cases none zds unit with
    ⟨code, failed, -⟩ | ⟨stage, works, equal, -⟩ | ⟨stage, produced, works, equal, -⟩
  · cases failed.symm.trans decoded
  · cases equal.symm.trans decoded
    exact .read rfl works input output never
  · cases equal.symm.trans decoded
    exact .flush rfl works input never

theorem failedStage_cases (stage : DecodeStage blocks.Entropy) (unit : Bytes) :
    (failedStage blocks stage unit).failed = true ∧
        (failedStage blocks stage unit).streams = stage.streams ∨
      stage.failed = false ∧ failedStage blocks stage unit = stage := by
  cases stage with
  | decompressBlock frame blockType lastBlock expected positive =>
      cases blockType <;> exact Or.inl ⟨rfl, rfl⟩
  | failedBlock frame blockType lastBlock block => cases blockType <;> exact Or.inl ⟨rfl, rfl⟩
  | _ => exact Or.inr ⟨rfl, rfl⟩

theorem usable_failedRead (stage : zds.streamStage = .read) (input : zds.inBuff = [])
    (output : zds.outBuff = []) (free : zds.hostageByte = false)
    (needed : zds.stage.expected ≠ 0) (unit : Bytes) :
    Usable { zds with stage := failedStage blocks zds.stage unit } := by
  rcases failedStage_cases zds.stage unit with ⟨failed, -⟩ | ⟨works, same⟩
  · exact Or.inr (.read stage failed input output free)
  · rw [same]
    exact Or.inl (steady_read stage works input output (by simp only [free, needed,
      Bool.false_eq_true]))

theorem readPass_midway {call : StreamCall blocks.Entropy} (stage : call.zds.streamStage = .read)
    (works : call.zds.stage.failed = false) (input : call.zds.inBuff = [])
    (output : call.zds.outBuff = [])
    (hostage : call.zds.hostageByte = true → call.zds.stage.expected = 0) :
    (readPass blocks capacity source call).Ensures Midway (LeavesUsable source) := by
  simp only [readPass]
  by_cases ended : call.zds.stage.expected = 0
  · rw [if_pos (expectedWithInputSize_of_ended works ended _)]
    exact streamResult_ended (Or.inl works) ended input output
  · have free : call.zds.hostageByte = false := by
      rw [← Bool.not_eq_true]
      exact fun kept => ended (hostage kept)
    have positive := expectedWithInputSize_pos ended (source.drop call.ip).length
    have steady : ∀ count, Steady { call.zds with noForwardProgress := count } := fun _ =>
      steady_read stage works input output (by simp only [free, ended, Bool.false_eq_true])
    rw [if_neg (by omega)]
    split
    · cases decoded : decompressContinueStream blocks call.zds ((source.drop call.ip).take
        (call.zds.stage.expectedWithInputSize (source.drop call.ip).length)) with
      | error code =>
          exact leavesUsable_failed (usable_failedRead stage input output free ended _) rfl
      | ok next => exact decompressContinueStream_midway input output free decoded
    · rename_i short
      split
      · refine streamResult_leavesSteady (fun count => ?_) (Or.inl (steady _))
        simp only [streamReturn, ended, if_false]
        exact steady count
      · rename_i available
        have whole : call.zds.stage.streams = false := by
          rw [← Bool.not_eq_true]
          intro streams
          have left := List.length_pos_iff.mpr available
          rw [DecodeStage.expectedWithInputSize, if_pos streams] at short
          omega
        refine .load rfl output free whole ?_
        rw [input]
        exact Nat.pos_of_ne_zero ended

theorem loadPass_decodes {call : StreamCall blocks.Entropy} {unit : Bytes} {ip : Nat}
    (stage : call.zds.streamStage = .load) (output : call.zds.outBuff = [])
    (free : call.zds.hostageByte = false) (whole : call.zds.stage.streams = false)
    (waits : call.zds.stage.failed = false → call.zds.stage.expected ≠ 0) :
    (match decompressContinueStream blocks { call.zds with inBuff := [] } unit with
      | .error code => Pass.leave (streamFailed blocks { call.zds with
          inBuff := [], stage := failedStage blocks call.zds.stage unit } code)
      | .ok zds => Pass.again (⟨zds, ip, call.op⟩ : StreamCall blocks.Entropy)).Ensures
      Midway (LeavesUsable source) := by
  cases decoded : decompressContinueStream blocks { call.zds with inBuff := [] } unit with
  | error code =>
      refine leavesUsable_failed ?_ rfl
      rcases failedStage_cases call.zds.stage unit with ⟨failed, streams⟩ | ⟨works, same⟩
      · exact Or.inr (.load stage failed (streams.trans whole) rfl output free)
      · simp only [same]
        exact Or.inl (steady_load stage output free whole (Nat.pos_of_ne_zero (waits works)))
  | ok next =>
      exact @decompressContinueStream_midway blocks { call.zds with inBuff := [] } unit next ip
        call.op rfl output free decoded

theorem loadPass_midway {call : StreamCall blocks.Entropy} (stage : call.zds.streamStage = .load)
    (output : call.zds.outBuff = []) (free : call.zds.hostageByte = false)
    (whole : call.zds.stage.streams = false)
    (short : call.zds.inBuff.length < call.zds.stage.expected) :
    (loadPass blocks capacity source call).Ensures Midway (LeavesUsable source) := by
  have needed : call.zds.stage.expected ≠ 0 := by omega
  simp only [loadPass]
  split
  · rename_i incomplete
    have still : (call.zds.inBuff ++ (source.drop call.ip).take
        (call.zds.stage.expected - call.zds.inBuff.length)).length < call.zds.stage.expected := by
      rw [List.length_append]
      omega
    refine streamResult_leavesSteady (fun count => ?_)
      (Or.inl (steady_load stage output free whole still))
    simp only [streamReturn, needed, if_false]
    exact steady_load stage output free whole still
  · exact loadPass_decodes stage output free whole fun _ => needed

theorem flushPass_midway {call : StreamCall blocks.Entropy} (stage : call.zds.streamStage = .flush)
    (works : call.zds.stage.failed = false) (input : call.zds.inBuff = [])
    (hostage : call.zds.hostageByte = true → call.zds.stage.expected = 0) :
    (flushPass blocks capacity source call).Ensures Midway (LeavesUsable source) := by
  simp only [flushPass]
  split
  · rename_i flushed
    refine .read rfl works input ?_ hostage
    rw [List.length_take] at flushed
    exact List.drop_eq_nil_iff.mpr (by omega)
  · rename_i unflushed
    have left : call.zds.outBuff.drop (capacity - call.op.length) ≠ [] := by
      rw [List.length_take] at unflushed
      rw [Ne, List.drop_eq_nil_iff]
      omega
    refine streamResult_leavesSteady (fun count => ?_) (Or.inr (.flush stage works input hostage))
    simp only [streamReturn, left, if_false]
    by_cases ended : call.zds.stage.expected = 0
    · cases kept : call.zds.hostageByte <;>
        simp only [ended, if_true, Bool.not_false, Bool.not_true, Bool.false_eq_true, if_false] <;>
        exact steady_flush stage works input (by simp only [ended])
    · simp only [ended, if_false]
      refine steady_flush stage works input ⟨hostage, fun finished => absurd finished ended⟩

theorem readPass_failed {call : StreamCall blocks.Entropy} (stage : call.zds.streamStage = .read)
    (failed : call.zds.stage.failed = true) (input : call.zds.inBuff = [])
    (output : call.zds.outBuff = []) (free : call.zds.hostageByte = false) (first : call.ip = 0) :
    (readPass blocks capacity source call).Ensures Midway (LeavesUsable source) := by
  have ended : call.zds.stage.expected = 0 := by
    cases block : call.zds.stage <;> simp_all [DecodeStage.failed, DecodeStage.expected]
  simp only [readPass]
  split
  · exact streamResult_ended (Or.inr free) ended input output
  · split
    · cases decoded : decompressContinueStream blocks call.zds ((source.drop call.ip).take
        (call.zds.stage.expectedWithInputSize (source.drop call.ip).length)) with
      | error code =>
          refine leavesUsable_failed ?_ rfl
          rcases failedStage_cases call.zds.stage ((source.drop call.ip).take
            (call.zds.stage.expectedWithInputSize (source.drop call.ip).length)) with
            ⟨again, -⟩ | ⟨works, -⟩
          · exact Or.inr (.read stage again input output free)
          · cases works.symm.trans failed
      | ok next => exact decompressContinueStream_midway input output free decoded
    · rename_i needed short
      -- One byte is enough for a raw block, so there is none.
      have streams : call.zds.stage.streams = true := by
        by_contra whole
        rw [DecodeStage.expectedWithInputSize, if_neg whole] at needed
        exact needed ended
      rw [DecodeStage.expectedWithInputSize, if_pos streams, ended] at short
      have nothing : source = [] := by
        rw [first, List.drop_zero] at short
        exact List.length_eq_zero_iff.mp (by omega)
      rw [if_pos (by rw [nothing, List.drop_nil])]
      refine streamResult_leavesUsable (Or.inr (.read stage failed input output free))
        fun count => ⟨?_, fun available => absurd nothing available⟩
      simp only [streamReturn, ended, output, free, if_true, Bool.false_eq_true, if_false]
      exact Or.inr (.read stage failed input rfl rfl)

theorem loadPass_failed {call : StreamCall blocks.Entropy} (stage : call.zds.streamStage = .load)
    (failed : call.zds.stage.failed = true) (whole : call.zds.stage.streams = false)
    (input : call.zds.inBuff = []) (output : call.zds.outBuff = [])
    (free : call.zds.hostageByte = false) :
    (loadPass blocks capacity source call).Ensures Midway (LeavesUsable source) := by
  have ended : call.zds.stage.expected = 0 := by
    cases block : call.zds.stage <;> simp_all [DecodeStage.failed, DecodeStage.expected]
  simp only [loadPass, ended, input, List.length_nil, Nat.sub_zero, List.take_zero,
    List.append_nil, Nat.lt_irrefl, if_false]
  apply loadPass_decodes stage output free whole
  intro works
  cases works.symm.trans failed

theorem streamPass_midway {call : StreamCall blocks.Entropy} (midway : Midway call) :
    (streamPass blocks capacity source call).Ensures Midway (LeavesUsable source) := by
  cases midway with
  | init stage =>
      simp only [streamPass, stage]
      exact loadHeaderPass_midway rfl rfl rfl rfl
  | header stage input output free =>
      simp only [streamPass, stage]
      exact loadHeaderPass_midway stage input output free
  | read stage works input output hostage =>
      simp only [streamPass, stage]
      exact readPass_midway stage works input output hostage
  | load stage output free whole short =>
      simp only [streamPass, stage]
      exact loadPass_midway stage output free whole short
  | flush stage works input hostage =>
      simp only [streamPass, stage]
      exact flushPass_midway stage works input hostage
  | failedRead stage failed input output free first =>
      simp only [streamPass, stage]
      exact readPass_failed stage failed input output free first
  | failedLoad stage failed whole input output free =>
      simp only [streamPass, stage]
      exact loadPass_failed stage failed whole input output free

/-! ## The calls -/

theorem Usable.midway (usable : Usable zds) : Midway ⟨zds, 0, []⟩ := by
  rcases usable with ⟨dictionary, before, stands, sound⟩ | broken
  · cases stands with
    | init uses stage => exact .init stage
    | loadHeader uses stage header wanted input output free =>
        exact .header stage input output free
    | read uses stage works input output hostage =>
        exact .read stage works input output hostage.mp
    | load uses stage output free whole needed =>
        exact .load stage output free whole (sound.short needed)
    | flush uses stage works input hostage => exact .flush stage works input hostage.mp
  · cases broken with
    | header stage input output free => exact .header stage input output free
    | read stage failed input output free => exact .failedRead stage failed input output free rfl
    | load stage failed whole input output free =>
        exact .failedLoad stage failed whole input output free
    | flush stage works input hostage => exact .flush stage works input hostage

theorem Usable.replies (usable : Usable zds) (capacity : Nat) (source : Bytes) :
    LeavesUsable source (decompressStream blocks zds capacity source) := by
  rw [decompressStream]
  cases returned : Loop.run (streamPass blocks capacity source) (streamFuel source)
      ⟨zds, 0, []⟩ with
  | none => exact leavesUsable_failed usable rfl
  | some reply =>
      exact Loop.run_ensures Midway (LeavesUsable source) (fun _ midway => streamPass_midway midway)
        usable.midway returned

/-! ## Loops of calls -/

theorem StreamStands.needed {dictionary : Option Bytes} {before : StreamStanding blocks}
    (stands : StreamStands dictionary zds before) (free : before.hostage = false) :
    (streamMachine blocks dictionary).need before.cursor.state ≠ 0 := by
  cases stands with
  | init uses stage =>
      change startingInputLength - 0 ≠ 0
      decide
  | loadHeader uses stage header wanted input output =>
      have incomplete := lt_of_getFrameHeader_wanted wanted
      rw [header, List.length_append] at incomplete
      simp only [streamMachine, StreamState.need]
      omega
  | read uses stage works input output hostage =>
      intro ended
      rw [hostage.mpr ended] at free
      cases free
  | load uses stage output free whole needed => exact needed
  | flush uses stage works input hostage =>
      intro ended
      rw [hostage.mpr ended] at free
      cases free

def decodeVariant (left : DStream blocks.Entropy × Bytes) : Nat × Nat :=
  (left.2.length - owedBytes left.1, (heldOutput left.1).length)

theorem steady_advances (steady : Steady zds) (room : 0 < capacity)
    {next : DStream blocks.Entropy × Bytes}
    (round : (decompressStream blocks).Round capacity next (zds, source)) :
    Prod.Lex Nat.lt Nat.lt (decodeVariant next) (decodeVariant (zds, source)) := by
  rcases steady with ⟨dictionary, before, stands, sound⟩
  cases round with
  | @call _ _ status available accepted goesOn =>
      have answers := @decompressStream_answers blocks dictionary capacity source before zds sound
        stands
      have stood := stands.owed_held
      rw [Prod.lex_def]
      simp only [decodeVariant, List.length_drop]
      cases answers with
      | answer answer kept =>
          have stoodAfter := (kept status accepted).owed_held
          rw [← stood.1, ← stood.2, ← stoodAfter.1, ← stoodAfter.2]
          exact answer.advances_of_available sound room available stands.needed accepted goesOn
      | @decoded next cSize content single decoded standsAfter replied =>
          rcases single with ⟨-, -, -, -, begun, -, -, found, within, -⟩
          rcases begun with ⟨buffer, size, loaded, rfl, -⟩
          have positive := (findFrameCompressedSize_pos found).1
          left
          rw [← stood.1, replied]
          simp only [Standing.owed, Bool.false_eq_true, if_false]
          exact (Nat.sub_le _ _).trans_lt (by omega)
      | refused single refused failed => cases failed.symm.trans accepted

theorem steady_acc (room : 0 < capacity) (steady : Steady zds) :
    Acc ((decompressStream blocks).Round capacity) (zds, source) := by
  generalize from_eq : decodeVariant (zds, source) = bound
  have wellFounded : WellFounded (Prod.Lex Nat.lt Nat.lt) :=
    (Prod.lex Nat.lt_wfRel Nat.lt_wfRel).wf
  induction bound using wellFounded.induction generalizing zds source with
  | _ bound induction =>
      apply Acc.intro _
      intro next round
      have less := steady_advances steady room round
      rw [from_eq] at less
      cases round with
      | call available accepted goesOn =>
          have usable : Usable zds := Or.inl steady
          exact induction _ less ((usable.replies capacity source).2 available _ accepted) rfl

/-- A loop of calls of the stream decoder ends, whatever calls have been made before and
whether they have failed. -/
theorem decompressStream_terminates (fresh : zds.streamStage = .init) (room : 0 < capacity) :
    (decompressStream blocks).Terminates capacity zds := by
  intro context reaches source
  have usable : Usable context := by
    induction reaches with
    | initial => exact Or.inl (steady_init fresh)
    | call reaches capacity source induction => exact (induction.replies capacity source).1
  rcases usable with steady | broken
  · exact steady_acc room steady
  · apply Acc.intro _
    intro next round
    cases round with
    | call available accepted goesOn =>
        have usable : Usable context := Or.inr broken
        exact steady_acc room ((usable.replies capacity source).2 available _ accepted)

end

end ZstdRuby.Libzstd
