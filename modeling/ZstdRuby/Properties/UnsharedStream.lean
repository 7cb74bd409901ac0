import ZstdRuby.Extension.SharedStream
import ZstdRuby.Properties.StreamingCompress

/-! # A stream that one thread uses

Where no other thread takes a step, the steps of a method are together what the
method does: the small steps refine the methods of `StreamingCompress`.
-/

namespace ZstdRuby

open Libzstd Streaming

variable {CCtx : Type} {library : CompressLibrary CCtx}

/-! ## Where one thread comes to -/

/-- The steps of one thread lead to this activity of it, this context, and these bytes
in `pending` and in what has been returned. The other threads stay as they are. -/
def Comes (library : CompressLibrary CCtx) (first : SharedCompress CCtx) (thread : Nat)
    (activity : Activity) (ctx : CCtx) (pending returned : Bytes) : Prop :=
  ∃ actions last, Run (Interleaves library) first actions last ∧
    (∀ action ∈ actions, action.thread = thread) ∧
    last.threads = first.threads.set thread activity ∧ last.ctx = ctx ∧
    last.pending.flatMap Chunk.bytes = pending ∧ last.returned.flatMap Chunk.bytes = returned

section

variable {first : SharedCompress CCtx} {thread : Nat} {ctx : CCtx} {pending returned : Bytes}

theorem Comes.start (found : first.threads[thread]? = some .idle) (method : CompressCall) :
    Comes library first thread (.next (CompressTask.start method)) first.ctx
      (first.pending.flatMap Chunk.bytes) (first.returned.flatMap Chunk.bytes) :=
  ⟨_, _, .singleton (.start method found), List.forall_mem_singleton.mpr rfl, rfl, rfl, rfl,
    rfl⟩

theorem snoc_thread {actions : List SharedAction} {last : SharedAction}
    (own : ∀ action ∈ actions, action.thread = thread) (same : last.thread = thread) :
    ∀ action ∈ actions ++ [last], action.thread = thread :=
  List.forall_mem_append.mpr ⟨own, List.forall_mem_singleton.mpr same⟩

theorem Comes.receives {task : CompressTask} {reply : Reply CCtx UInt8 ErrorCode}
    (comes : Comes library first thread (.calling task) ctx pending returned)
    (within : thread < first.threads.length)
    (replied : library.compressStream2 ctx task.directive cStreamOutSize task.source = reply) :
    ∃ actions state number, Run (Interleaves library) first actions state ∧
      (∀ action ∈ actions, action.thread = thread) ∧
      state.threads[thread]? = some
        (.resuming task number reply.output.length reply.consumed reply.status) ∧
      (∀ next, state.threads.set thread next = first.threads.set thread next) ∧
      state.buf.take reply.output.length = reply.output ∧ state.ctx = reply.context ∧
      state.pending.flatMap Chunk.bytes = pending ∧
      state.returned.flatMap Chunk.bytes = returned := by
  rcases comes with ⟨actions, state, run, own, threads, rfl, rfl, rfl⟩
  have found : state.threads[thread]? = some (.calling task) := by
    rw [threads]
    exact List.getElem?_set_self within
  refine ⟨_, _, state.calls.length, run.snoc (.call found replied), snoc_thread own rfl, ?_, ?_,
    ?_, rfl, rfl, rfl⟩
  · rw [threads, List.set_set]
    exact List.getElem?_set_self within
  · intro next
    rw [threads, List.set_set, List.set_set]
  · exact memcpy_zero_take state.buf reply.output

theorem Comes.raises {task : CompressTask} {reply : Reply CCtx UInt8 ErrorCode}
    {code : ErrorCode} (comes : Comes library first thread (.calling task) ctx pending returned)
    (within : thread < first.threads.length)
    (replied : library.compressStream2 ctx task.directive cStreamOutSize task.source = reply)
    (failed : reply.status = .error code) :
    Comes library first thread .idle reply.context pending returned := by
  rcases comes.receives within replied with
    ⟨actions, state, number, run, own, found, others, -, context, pends, returns⟩
  rw [failed] at found
  exact ⟨_, _, run.snoc (.raise found), snoc_thread own rfl, others .idle, context, pends, returns⟩

theorem Comes.proceeds {task : CompressTask} {reply : Reply CCtx UInt8 ErrorCode} {ret : Nat}
    (Next : Activity → Prop) (more back : Bytes)
    (comes : Comes library first thread (.calling task) ctx pending returned)
    (within : thread < first.threads.length)
    (replied : library.compressStream2 ctx task.directive cStreamOutSize task.source = reply)
    (succeeded : reply.status = .ok ret)
    (effect : ∀ (state : SharedCompress CCtx) (received : List Chunk),
      received.flatMap Chunk.bytes = reply.output →
      state.pending.flatMap Chunk.bytes = pending →
      state.returned.flatMap Chunk.bytes = returned →
      let after := state.proceed thread received reply.consumed ret task
      (∃ next, Next next ∧ after.threads = state.threads.set thread next) ∧
        after.ctx = state.ctx ∧ after.pending.flatMap Chunk.bytes = more ∧
        after.returned.flatMap Chunk.bytes = back) :
    ∃ next, Next next ∧ Comes library first thread next reply.context more back := by
  rcases comes.receives within replied with
    ⟨actions, state, number, run, own, found, others, holds, context, pends, returns⟩
  rw [succeeded] at found
  have received : (chunk number (state.buf.take reply.output.length)).flatMap Chunk.bytes =
      reply.output := by
    rw [flatMap_bytes_chunk, holds]
  rcases effect state _ received pends returns with ⟨⟨next, goes, threads⟩, same, pends, returns⟩
  exact ⟨next, goes, _, _, run.snoc (.proceed found), snoc_thread own rfl,
    threads.trans (others next), same.trans context, pends, returns⟩

/-! ## Feeding -/

def FeedsOn (input : Bytes) (Calling Done : FeedState CCtx → Prop) (state : FeedState CCtx) :
    Prop :=
  if state.pos < input.length then Calling state else Done state

theorem feed_ensures {input : Bytes} (Calling Done Failed : FeedState CCtx → Prop)
    (pass : ∀ state, Calling state → ∀ reply, feedReply library input state = reply →
      (∀ code, reply.status = .error code →
        Failed ⟨reply.context, state.pos + reply.consumed, state.out⟩) ∧
      ∀ ret, reply.status = .ok ret → FeedsOn input Calling Done
        ⟨reply.context, state.pos + reply.consumed, state.out ++ reply.output⟩)
    {fuel : Nat} {out : Bytes} {fed : Except RubyError Unit × FeedState CCtx}
    (ran : feed library input fuel ctx out = some fed)
    (holds : FeedsOn input Calling Done ⟨ctx, 0, out⟩) :
    (∀ raised, fed.1 = .error raised → Failed fed.2) ∧ (fed.1 = .ok () → Done fed.2) := by
  apply Loop.run_ensures (FeedsOn input Calling Done)
    (fun fed => (∀ raised, fed.1 = .error raised → Failed fed.2) ∧ (fed.1 = .ok () → Done fed.2))
    ?_ holds ran
  intro state holds
  by_cases left : state.pos < input.length
  · rw [FeedsOn, if_pos left] at holds
    rcases pass state holds _ rfl with ⟨fails, succeeds⟩
    cases status : (feedReply library input state).status with
    | error code =>
        rw [feedPass_failed left status]
        exact ⟨fun _ _ => fails code status, fun ok => (by cases ok)⟩
    | ok ret =>
        rw [feedPass_replied left status]
        exact succeeds ret status
  · rw [FeedsOn, if_neg left] at holds
    rw [feedPass_exhausted left]
    exact ⟨fun _ error => (by cases error), fun _ => holds⟩

theorem drop_eq_nil_iff_not_lt {input : Bytes} {pos : Nat} :
    input.drop pos = [] ↔ ¬pos < input.length := by
  rw [List.drop_eq_nil_iff, Nat.not_lt]

theorem Comes.feeds_compress {input : Bytes} {fuel : Nat}
    {fed : Except RubyError Unit × FeedState CCtx}
    (comes : Comes library first thread
      (.next (if input = [] then none else some (.compress input []))) ctx pending returned)
    (within : thread < first.threads.length)
    (ran : feed library input fuel ctx [] = some fed) :
    (∀ raised, fed.1 = .error raised →
      Comes library first thread .idle fed.2.ctx pending returned) ∧
    (fed.1 = .ok () →
      Comes library first thread .idle fed.2.ctx pending (returned ++ fed.2.out)) := by
  apply feed_ensures
    (fun state => ∃ result, result.flatMap Chunk.bytes = state.out ∧ Comes library first thread
      (.calling (.compress (input.drop state.pos) result)) state.ctx pending returned)
    (fun state => Comes library first thread .idle state.ctx pending (returned ++ state.out))
    (fun state => Comes library first thread .idle state.ctx pending returned) ?_ ran
  · rw [FeedsOn]
    split
    · rename_i left
      rw [if_neg (List.ne_nil_of_length_pos left)] at comes
      exact ⟨[], rfl, comes⟩
    · rename_i nothing
      rw [if_pos (List.length_eq_zero_iff.mp (Nat.eq_zero_of_not_pos nothing))] at comes
      rw [List.append_nil]
      exact comes
  · rintro state ⟨result, gathers, comes⟩ reply replied
    refine ⟨fun code failed => comes.raises within replied failed, fun ret succeeded => ?_⟩
    have same : (input.drop state.pos).drop reply.consumed =
        input.drop (state.pos + reply.consumed) := List.drop_drop
    by_cases left : state.pos + reply.consumed < input.length
    · rw [FeedsOn, if_pos left]
      rcases comes.proceeds
        (fun next => ∃ result', result'.flatMap Chunk.bytes = state.out ++ reply.output ∧
          next = .calling (.compress (input.drop (state.pos + reply.consumed)) result'))
        pending returned within replied succeeded (by
          intro before received receives pends returns
          simp only [SharedCompress.proceed, same, drop_eq_nil_iff_not_lt, left, not_true,
            if_false]
          refine ⟨⟨_, ⟨_, ?_, rfl⟩, rfl⟩, rfl, pends, returns⟩
          rw [List.flatMap_append, gathers, receives]) with ⟨next, ⟨result', gathers, rfl⟩, comes⟩
      exact ⟨result', gathers, comes⟩
    · rw [FeedsOn, if_neg left]
      rcases comes.proceeds (· = .idle) pending (returned ++ (state.out ++ reply.output)) within
        replied succeeded (by
          intro before received receives pends returns
          simp only [SharedCompress.proceed, same, drop_eq_nil_iff_not_lt, left, not_false_eq_true,
            if_true]
          refine ⟨⟨_, rfl, rfl⟩, rfl, pends, ?_⟩
          rw [List.flatMap_append, List.flatMap_append, returns, gathers, receives]) with
        ⟨next, rfl, comes⟩
      exact comes

theorem Comes.feeds_write {input : Bytes} {argv : List Value} {fuel : Nat}
    {fed : Except RubyError Unit × FeedState CCtx}
    (comes : Comes library first thread (.next (if input = [] then CompressTask.nextString argv
      else some (.write input argv))) ctx pending returned)
    (within : thread < first.threads.length)
    (ran : feed library input fuel ctx pending = some fed) :
    (∀ raised, fed.1 = .error raised →
      Comes library first thread .idle fed.2.ctx fed.2.out returned) ∧
    (fed.1 = .ok () → Comes library first thread (.next (CompressTask.nextString argv))
      fed.2.ctx fed.2.out returned) := by
  apply feed_ensures
    (fun state => Comes library first thread (.calling (.write (input.drop state.pos) argv))
      state.ctx state.out returned)
    (fun state => Comes library first thread (.next (CompressTask.nextString argv)) state.ctx
      state.out returned)
    (fun state => Comes library first thread .idle state.ctx state.out returned) ?_ ran
  · rw [FeedsOn]
    split
    · rename_i left
      rw [if_neg (List.ne_nil_of_length_pos left)] at comes
      exact comes
    · rename_i nothing
      rw [if_pos (List.length_eq_zero_iff.mp (Nat.eq_zero_of_not_pos nothing))] at comes
      exact comes
  · intro state comes reply replied
    refine ⟨fun code failed => comes.raises within replied failed, fun ret succeeded => ?_⟩
    have same : (input.drop state.pos).drop reply.consumed =
        input.drop (state.pos + reply.consumed) := List.drop_drop
    rcases comes.proceeds
      (· = .next (if state.pos + reply.consumed < input.length
        then some (.write (input.drop (state.pos + reply.consumed)) argv)
        else CompressTask.nextString argv))
      (state.out ++ reply.output) returned within replied succeeded (by
        intro before received receives pends returns
        simp only [SharedCompress.proceed, same, drop_eq_nil_iff_not_lt, ite_not]
        refine ⟨⟨_, rfl, rfl⟩, rfl, ?_, returns⟩
        rw [List.flatMap_append, pends, receives]) with ⟨next, rfl, comes⟩
    rw [FeedsOn]
    split at comes
    · rename_i left
      rw [if_pos left]
      exact comes
    · rename_i left
      rw [if_neg left]
      exact comes

/-! ## Draining -/

theorem Comes.drains {endOp : Directive} {fuel : Nat} {drained : Except RubyError Bytes × CCtx}
    (comes : Comes library first thread (.calling (.drain endOp [])) ctx pending returned)
    (within : thread < first.threads.length)
    (ran : noCompress library endOp fuel ctx = some drained) :
    (∀ raised, drained.1 = .error raised →
      Comes library first thread .idle drained.2 pending returned) ∧
    ∀ bytes, drained.1 = .ok bytes →
      Comes library first thread .idle drained.2 [] (returned ++ (pending ++ bytes)) := by
  apply Loop.run_ensures
    (fun state => ∃ result, result.flatMap Chunk.bytes = state.result ∧
      Comes library first thread (.calling (.drain endOp result)) state.ctx pending returned)
    (fun drained => (∀ raised, drained.1 = .error raised →
        Comes library first thread .idle drained.2 pending returned) ∧
      ∀ bytes, drained.1 = .ok bytes →
        Comes library first thread .idle drained.2 [] (returned ++ (pending ++ bytes)))
    ?_ ⟨[], rfl, comes⟩ ran
  rintro state ⟨result, gathers, comes⟩
  cases status : (noCompressReply library endOp state).status with
  | error code =>
      rw [noCompressPass_failed status]
      exact ⟨fun _ _ => comes.raises within rfl status, fun _ ok => (by cases ok)⟩
  | ok ret =>
      cases ret with
      | zero =>
          rw [noCompressPass_finished status]
          refine ⟨fun _ error => (by cases error), fun bytes ok => ?_⟩
          cases ok
          rcases comes.proceeds (· = .idle) [] (returned ++
            (pending ++ (state.result ++ (noCompressReply library endOp state).output)))
            within rfl status (by
              intro before received receives pends returns
              refine ⟨⟨_, rfl, rfl⟩, rfl, rfl, ?_⟩
              simp only [SharedCompress.proceed, if_true, List.flatMap_append, returns, pends,
                gathers, receives]
              rfl) with ⟨next, rfl, comes⟩
          exact comes
      | succ ret =>
          rw [noCompressPass_unfinished status]
          rcases comes.proceeds
            (fun next => ∃ result', result'.flatMap Chunk.bytes =
              state.result ++ (noCompressReply library endOp state).output ∧
                next = .calling (.drain endOp result'))
            pending returned within rfl status (by
              intro before received receives pends returns
              refine ⟨⟨_, ⟨result ++ received, ?_, rfl⟩, rfl⟩, rfl, pends, returns⟩
              rw [List.flatMap_append, gathers, receives]
              rfl) with ⟨next, ⟨result', gathers, rfl⟩, comes⟩
          exact ⟨result', gathers, comes⟩

/-! ## Methods -/

theorem Comes.writes {fuel : Nat} (within : thread < first.threads.length) :
    ∀ {argv : List Value} {stream : StreamingCompress CCtx} {total : Nat}
      {outcome : CompressOutcome CCtx Nat},
      Comes library first thread (.next (CompressTask.nextString argv)) stream.ctx
        stream.pending returned →
      writeLoop library fuel stream total argv = some outcome →
      Comes library first thread .idle outcome.stream.ctx outcome.stream.pending returned
  | [], stream, total, outcome, comes, ran => by
      cases ran
      exact comes
  | str :: argv, stream, total, outcome, comes, ran => by
      rw [writeLoop] at ran
      rw [CompressTask.nextString] at comes
      cases converted : str.stringValue with
      | error raised =>
          simp only [converted] at ran comes
          cases ran
          exact comes
      | ok input =>
          simp only [converted] at ran comes
          rcases Option.bind_eq_some_iff.mp ran with ⟨fed, feeds, ran⟩
          have written : (∀ raised, fed.1 = .error raised →
              Comes library first thread .idle fed.2.ctx fed.2.out returned) ∧
              (fed.1 = .ok () → Comes library first thread
                (.next (CompressTask.nextString argv)) fed.2.ctx fed.2.out returned) :=
            comes.feeds_write within feeds
          cases result : fed.1 with
          | error raised =>
              simp only [result] at ran
              cases ran
              exact written.1 raised result
          | ok _ =>
              simp only [result] at ran
              exact Comes.writes within (written.2 result) ran

def CompressOutcome.given (outcome : CompressOutcome CCtx Bytes) : Bytes :=
  match outcome.result with
  | .ok bytes => bytes
  | .error _ => []

theorem Comes.drainsPending {endOp : Directive} {fuel : Nat}
    {outcome : CompressOutcome CCtx Bytes}
    (comes : Comes library first thread (.calling (.drain endOp [])) ctx pending returned)
    (within : thread < first.threads.length)
    (ran : drainPending library endOp fuel ⟨ctx, pending⟩ = some outcome) :
    Comes library first thread .idle outcome.stream.ctx outcome.stream.pending
      (returned ++ outcome.given) := by
  rcases Option.map_eq_some_iff.mp ran with ⟨⟨result, context⟩, drains, rfl⟩
  rcases comes.drains within drains with ⟨fails, succeeds⟩
  cases result with
  | error raised =>
      rw [CompressOutcome.given, List.append_nil]
      exact fails raised rfl
  | ok bytes => exact succeeds bytes rfl

/-- Where no other thread takes a step, a thread that calls a method does what the
method does. -/
theorem CompressCall.run_interleaves {state : SharedCompress CCtx} {call : CompressCall}
    {fuel : Nat} {outcome : CompressOutcome CCtx Bytes}
    (idle : state.threads[thread]? = some .idle)
    (ran : call.run library fuel ⟨state.ctx, state.pending.flatMap Chunk.bytes⟩ = some outcome) :
    Comes library state thread .idle outcome.stream.ctx outcome.stream.pending
      (state.returned.flatMap Chunk.bytes ++ outcome.given) := by
  have within := (List.getElem?_eq_some_iff.mp idle).1
  have comes : Comes library state thread (.next (CompressTask.start call)) state.ctx
      (state.pending.flatMap Chunk.bytes) (state.returned.flatMap Chunk.bytes) :=
    .start idle call
  cases call with
  | compress src =>
      simp only [CompressCall.run, rbStreamingCompressCompress] at ran
      simp only [CompressTask.start] at comes
      cases converted : src.stringValue with
      | error raised =>
          simp only [converted] at ran comes
          cases ran
          rw [CompressOutcome.given, List.append_nil]
          exact comes
      | ok input =>
          simp only [converted] at ran comes
          rcases Option.map_eq_some_iff.mp ran with ⟨⟨result, fed⟩, feeds, rfl⟩
          rcases comes.feeds_compress within feeds with ⟨fails, succeeds⟩
          cases result with
          | error raised =>
              have raises := fails raised rfl
              rw [← List.append_nil (state.returned.flatMap Chunk.bytes)] at raises
              exact raises
          | ok _ => exact succeeds rfl
  | write argv =>
      rcases Option.map_eq_some_iff.mp ran with ⟨⟨result, stream⟩, writes, rfl⟩
      have nothing : CompressOutcome.given ⟨result.map fun _ => [], stream⟩ = [] := by
        cases result <;> rfl
      rw [nothing, List.append_nil]
      exact comes.writes within writes
  | flush => exact comes.drainsPending within ran
  | finish => exact comes.drainsPending within ran

end

end ZstdRuby
