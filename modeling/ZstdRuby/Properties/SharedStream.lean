import ZstdRuby.Extension.SharedStream
import ZstdRuby.Properties.ByteOrder

/-! # The output of a shared stream

All threads write to one buffer, so a thread that waits for the lock behind its
library call loses what the call has emitted to the next one that emits anything. An
exception from outside loses it as well, and with it what `flush` or `finish` has
gathered before. Where neither happens, every chunk that is emitted is appended once.
-/

namespace ZstdRuby

open Libzstd Streaming

variable {CCtx : Type} {library : CompressLibrary CCtx}

/-! ## Emitted chunks -/

def numbered (calls : List (Response UInt8 ErrorCode)) : List Chunk :=
  calls.zipIdx.flatMap fun call => chunk call.2 call.1.output

theorem numbered_concat (calls : List (Response UInt8 ErrorCode))
    (call : Response UInt8 ErrorCode) :
    numbered (calls ++ [call]) = numbered calls ++ chunk calls.length call.output := by
  simp [numbered, List.zipIdx_append]

def inCallOrder (calls : Nat) (chunks : List Chunk) : Bytes :=
  (List.range calls).flatMap fun call =>
    (chunks.filter fun chunk => chunk.call = call).flatMap Chunk.bytes

theorem filter_chunk (number call : Nat) (bytes : Bytes) :
    (chunk number bytes).filter (fun chunk => chunk.call = call) =
      if number = call then chunk number bytes else [] := by
  rw [chunk]
  by_cases empty : bytes = []
  · simp [empty]
  · by_cases same : number = call <;> simp [empty, same]

theorem filter_numbered (calls : List (Response UInt8 ErrorCode)) (call : Nat) :
    (numbered calls).filter (fun chunk => chunk.call = call) =
      (calls[call]?.map fun response => chunk call response.output).getD [] := by
  induction calls using List.reverseRecOn with
  | nil => rfl
  | append_singleton calls last induction =>
      rw [numbered_concat, List.filter_append, induction, filter_chunk]
      rcases Nat.lt_trichotomy call calls.length with before | same | behind
      · rw [List.getElem?_append_left before, if_neg (by omega), List.append_nil]
      · subst same
        simp
      · rw [if_neg (by omega), List.append_nil, List.getElem?_eq_none (by omega),
          List.getElem?_eq_none (by rw [List.length_append, List.length_singleton]; omega)]

theorem inCallOrder_of_perm {chunks : List Chunk} {calls : List (Response UInt8 ErrorCode)}
    (perm : chunks.Perm (numbered calls)) : inCallOrder calls.length chunks = emitted calls := by
  have same : ∀ call, chunks.filter (fun chunk => chunk.call = call) =
      (calls[call]?.map fun response => chunk call response.output).getD [] := by
    intro call
    have filtered := perm.filter (fun chunk => chunk.call = call)
    rw [filter_numbered] at filtered
    cases found : calls[call]? with
    | none =>
        rw [found] at filtered
        exact filtered.eq_nil
    | some response =>
        rw [found] at filtered
        simp only [Option.map_some, Option.getD_some, chunk] at filtered ⊢
        by_cases empty : response.output = []
        · rw [if_pos empty] at filtered ⊢
          exact filtered.eq_nil
        · rw [if_neg empty] at filtered ⊢
          exact filtered.eq_singleton
  simp only [inCallOrder, same]
  clear same perm
  induction calls using List.reverseRecOn with
  | nil => rfl
  | append_singleton calls last induction =>
      rw [List.length_append, List.length_singleton, List.range_succ, List.flatMap_append,
        emitted_append, emitted_singleton, ← induction]
      congr 1
      · apply List.flatMap_congr
        intro call member
        rw [List.getElem?_append_left (List.mem_range.mp member)]
      · simp [flatMap_bytes_chunk]

/-! ## Where the chunks are -/

/-- What a thread holds: what its method has appended to `result`, and what it will
find in `buf` if nothing changes there. -/
def Activity.chunks (buf : Bytes) : Activity → List Chunk
  | idle => []
  | calling task => task.result
  | resuming task call size _ _ => task.result ++ chunk call (buf.take size)

/-- Where emitted bytes are: in `pending`, in what has been returned, or with a
thread. -/
def SharedCompress.chunks (state : SharedCompress CCtx) : List Chunk :=
  state.pending ++ state.returned ++ state.threads.flatMap (Activity.chunks state.buf)

def Activity.appended : Activity → List Chunk
  | idle => []
  | calling task | resuming task _ _ _ _ => task.result

/-- What has been appended: to `pending`, to what has been returned, or to the
`result` of a method. -/
def SharedCompress.appended (state : SharedCompress CCtx) : List Chunk :=
  state.pending ++ state.returned ++ state.threads.flatMap Activity.appended

theorem flatMap_chunks_perm (buf : Bytes) :
    ∀ {threads : List Activity} {thread : Nat} {activity : Activity},
      threads[thread]? = some activity →
      (threads.flatMap (Activity.chunks buf)).Perm
        (activity.chunks buf ++ (threads.set thread .idle).flatMap (Activity.chunks buf))
  | [], thread, activity, found => by simp at found
  | head :: threads, 0, activity, found => by
      cases found
      exact List.Perm.refl _
  | head :: threads, thread + 1, activity, found => by
      rw [List.getElem?_cons_succ] at found
      have others := flatMap_chunks_perm buf found
      rw [List.set_cons_succ, List.flatMap_cons, List.flatMap_cons]
      exact (others.append_left _).trans (List.perm_append_comm_assoc _ _ _)

namespace SharedCompress

variable {state : SharedCompress CCtx} {thread : Nat} {activity : Activity}

theorem chunks_perm (found : state.threads[thread]? = some activity) :
    state.chunks.Perm (activity.chunks state.buf ++ (state.setThread thread .idle).chunks) := by
  have others := flatMap_chunks_perm state.buf found
  simp only [chunks, setThread]
  exact (others.append_left _).trans (List.perm_append_comm_assoc _ _ _)

theorem setThread_chunks_perm (found : state.threads[thread]? = some activity)
    (next : Activity) : (state.setThread thread next).chunks.Perm
      (next.chunks state.buf ++ (state.setThread thread .idle).chunks) := by
  have within := (List.getElem?_eq_some_iff.mp found).1
  have there : (state.setThread thread next).threads[thread]? = some next :=
    List.getElem?_set_self within
  have others := chunks_perm there
  simpa only [setThread, List.set_set] using others

end SharedCompress

/-! ## The condition on a step -/

/-- The thread waits for the lock, and what its library call has emitted is in
`buf`. -/
def Activity.Waits : Activity → Prop
  | resuming _ _ size _ _ => 0 < size
  | idle | calling _ => False

instance : (activity : Activity) → Decidable activity.Waits
  | .resuming _ _ size _ _ => inferInstanceAs (Decidable (0 < size))
  | .idle | .calling _ => inferInstanceAs (Decidable False)

theorem SharedCompress.appended_eq_chunks {state : SharedCompress CCtx}
    (free : ∀ activity ∈ state.threads, ¬activity.Waits) : state.appended = state.chunks := by
  rw [SharedCompress.appended, SharedCompress.chunks]
  congr 1
  apply List.flatMap_congr
  intro activity member
  have nothing := free activity member
  cases activity with
  | idle => rfl
  | calling task => rfl
  | resuming task call size consumed ret =>
      rw [Activity.chunks, Nat.eq_zero_of_not_pos nothing, List.take_zero]
      exact (List.append_nil _).symm

/-- The condition on a step: a library call that emits something is made while no thread
waits with emitted bytes in `buf`, and a method that is ended behind its library call,
because the call has failed or by an exception from outside, has neither emitted bytes in
`buf` nor in its `result`. -/
def SharedCompress.Allows (library : CompressLibrary CCtx) (state : SharedCompress CCtx) :
    SharedAction → Prop
  | .library thread => ∀ task, state.threads[thread]? = some (.calling task) →
      ((state.reply library task).output = [] ∨ ∀ activity ∈ state.threads, ¬activity.Waits) ∧
      ∀ code, (state.reply library task).status = .error code →
        task.result = [] ∧ (state.reply library task).output = []
  | .interrupt thread => ∀ task call size consumed ret,
      state.threads[thread]? = some (.resuming task call size consumed ret) →
        task.result = [] ∧ size = 0
  | .start _ _ | .resume _ => True

theorem SharedCompress.allows_call {state : SharedCompress CCtx} {thread ret : Nat}
    {task : CompressTask} {reply : Reply CCtx UInt8 ErrorCode}
    (found : state.threads[thread]? = some (.calling task))
    (replied : state.reply library task = reply) (succeeded : reply.status = .ok ret)
    (free : ∀ activity ∈ state.threads, ¬activity.Waits) :
    state.Allows library (.library thread) := by
  intro other same
  cases found.symm.trans same
  rw [replied, succeeded]
  exact ⟨.inr free, fun code failed => (by cases failed)⟩

def SharedCompress.KeepsOutput (state : SharedCompress CCtx) : Prop :=
  state.chunks.Perm (numbered state.calls)

def SharedCompress.FailsEmpty (state : SharedCompress CCtx) : Prop :=
  ∀ task call size consumed code,
    .resuming task call size consumed (.error code) ∈ state.threads → task.result = [] ∧ size = 0

/-! ## The steps -/

section

variable {state after : SharedCompress CCtx} {thread : Nat} {activity : Activity}

theorem result_nextString (argv : List Value) {task : CompressTask}
    (found : CompressTask.nextString argv = some task) : task.result = [] := by
  induction argv with
  | nil => cases found
  | cons str argv induction =>
      rw [CompressTask.nextString] at found
      split at found
      · cases found
      · split at found
        · exact induction found
        · cases found
          rfl

theorem chunks_next_nextString (buf : Bytes) (argv : List Value) :
    (Activity.next (CompressTask.nextString argv)).chunks buf = [] := by
  cases found : CompressTask.nextString argv with
  | none => rfl
  | some task => exact result_nextString argv found

theorem chunks_next_start (buf : Bytes) (call : CompressCall) :
    (Activity.next (CompressTask.start call)).chunks buf = [] := by
  cases call with
  | compress src =>
      rw [CompressTask.start]
      split
      · rfl
      · split <;> rfl
  | write argv => exact chunks_next_nextString buf argv
  | flush => rfl
  | finish => rfl

theorem proceed_calls (received : List Chunk) (consumed ret : Nat) (task : CompressTask) :
    (state.proceed thread received consumed ret task).calls = state.calls := by
  cases task with
  | compress input result =>
      simp only [SharedCompress.proceed]
      split <;> rfl
  | write input argv => rfl
  | drain endOp result =>
      simp only [SharedCompress.proceed]
      split <;> rfl

theorem proceed_threads (received : List Chunk) (consumed ret : Nat) (task : CompressTask) :
    ∃ next, (state.proceed thread received consumed ret task).threads =
      state.threads.set thread (.next next) := by
  cases task with
  | compress input result =>
      simp only [SharedCompress.proceed]
      split
      · exact ⟨none, rfl⟩
      · exact ⟨some _, rfl⟩
  | write input argv => exact ⟨_, rfl⟩
  | drain endOp result =>
      simp only [SharedCompress.proceed]
      split
      · exact ⟨none, rfl⟩
      · exact ⟨some _, rfl⟩

theorem proceed_chunks_perm {task : CompressTask} {call size consumed : Nat}
    {outcome : Except ErrorCode Nat}
    (found : state.threads[thread]? = some (.resuming task call size consumed outcome))
    (received : List Chunk) (ret : Nat) :
    (state.proceed thread received consumed ret task).chunks.Perm
      (task.result ++ received ++ (state.setThread thread .idle).chunks) := by
  cases task with
  | compress input result =>
      simp only [SharedCompress.proceed]
      split
      · simp only [SharedCompress.chunks, SharedCompress.setThread, CompressTask.result,
          List.perm_iff_count, List.count_append]
        omega
      · exact SharedCompress.setThread_chunks_perm found _
  | write input argv =>
      simp only [SharedCompress.proceed]
      generalize chosen : Activity.next (if input.drop consumed = [] then
        CompressTask.nextString argv else some (.write (input.drop consumed) argv)) = next
      have nothing : next.chunks state.buf = [] := by
        rw [← chosen]
        split
        · exact chunks_next_nextString _ argv
        · rfl
      have others := SharedCompress.setThread_chunks_perm found next
      rw [nothing] at others
      simp only [SharedCompress.chunks, SharedCompress.setThread, CompressTask.result,
        List.perm_iff_count, List.count_append, List.nil_append] at others ⊢
      intro chunk
      have same := others chunk
      omega
  | drain endOp result =>
      simp only [SharedCompress.proceed]
      split
      · simp only [SharedCompress.chunks, SharedCompress.setThread, CompressTask.result,
          List.perm_iff_count, List.count_append, List.nil_append]
        omega
      · exact SharedCompress.setThread_chunks_perm found _

theorem chunks_memcpy {buf output : Bytes}
    (apart : output = [] ∨ ¬activity.Waits) :
    activity.chunks (memcpy buf 0 output) = activity.chunks buf := by
  rcases apart with rfl | free
  · have same : memcpy buf 0 [] = buf := by simp [memcpy]
    rw [same]
  · cases activity with
    | idle => rfl
    | calling task => rfl
    | resuming task call size consumed ret =>
        have nothing : size = 0 := Nat.eq_zero_of_not_pos free
        simp only [Activity.chunks, nothing, List.take_zero]

theorem callLibrary_chunks_perm {task : CompressTask}
    (found : state.threads[thread]? = some (.calling task))
    (allowed : (state.reply library task).output = [] ∨
      ∀ activity ∈ state.threads, ¬activity.Waits) :
    (state.callLibrary library thread task).chunks.Perm
      (state.chunks ++ chunk state.calls.length (state.reply library task).output) := by
  have within := (List.getElem?_eq_some_iff.mp found).1
  have before := SharedCompress.chunks_perm found
  simp only [SharedCompress.callLibrary]
  generalize state.reply library task = reply at allowed ⊢
  generalize resumed_eq : Activity.resuming task state.calls.length reply.output.length
    reply.consumed reply.status = resumed
  have emits : resumed.chunks (memcpy state.buf 0 reply.output) =
      task.result ++ chunk state.calls.length reply.output := by
    rw [← resumed_eq, Activity.chunks, memcpy_zero_take]
  have others : (state.threads.set thread .idle).flatMap
      (Activity.chunks (memcpy state.buf 0 reply.output)) =
        (state.threads.set thread .idle).flatMap (Activity.chunks state.buf) := by
    apply List.flatMap_congr
    intro activity member
    rcases List.mem_or_eq_of_mem_set member with there | rfl
    · exact chunks_memcpy (allowed.imp_right fun free => free activity there)
    · rfl
  have there : (state.threads.set thread resumed)[thread]? = some resumed :=
    List.getElem?_set_self within
  have after := flatMap_chunks_perm (memcpy state.buf 0 reply.output) there
  rw [List.set_set, others, emits] at after
  simp only [SharedCompress.chunks, SharedCompress.setThread, Activity.chunks,
    List.perm_iff_count, List.count_append] at before after ⊢
  intro chunk
  have before := before chunk
  have after := after chunk
  omega

theorem setThread_idle_chunks_perm {task : CompressTask} {call size consumed : Nat}
    {outcome : Except ErrorCode Nat}
    (found : state.threads[thread]? = some (.resuming task call size consumed outcome))
    (nothing : task.result = [] ∧ size = 0) :
    (state.setThread thread .idle).chunks.Perm state.chunks := by
  have before := SharedCompress.chunks_perm found
  rw [Activity.chunks, nothing.1, nothing.2] at before
  exact before.symm

/-! ## The invariant -/

theorem SharedCompress.KeepsOutput.step (keeps : state.KeepsOutput)
    (fails : state.FailsEmpty) {action : SharedAction} (allowed : state.Allows library action)
    (stepped : Interleaves library state action after) : after.KeepsOutput := by
  rcases stepped.cases with ⟨thread, method, rfl, found, rfl⟩ | ⟨thread, task, rfl, found, rfl⟩ |
    ⟨thread, task, number, size, consumed, code, rfl, found, rfl⟩ |
    ⟨thread, task, number, size, consumed, ret, rfl, found, rfl⟩ |
    ⟨thread, task, number, size, consumed, outcome, rfl, found, rfl⟩
  · have after := SharedCompress.setThread_chunks_perm found (.next (CompressTask.start method))
    rw [chunks_next_start, List.nil_append] at after
    exact (after.trans (SharedCompress.chunks_perm found).symm).trans keeps
  · have added := callLibrary_chunks_perm found (allowed task found).1
    refine added.trans ((List.Perm.append_right _ keeps).trans ?_)
    rw [SharedCompress.callLibrary, numbered_concat]
    rfl
  · have nothing := fails _ _ _ _ _ (List.mem_of_getElem? found)
    exact (setThread_idle_chunks_perm found nothing).trans keeps
  · have after := proceed_chunks_perm found (chunk number (state.buf.take size)) ret
    rw [SharedCompress.KeepsOutput, proceed_calls]
    exact (after.trans (SharedCompress.chunks_perm found).symm).trans keeps
  · have nothing := allowed task number size consumed outcome found
    exact (setThread_idle_chunks_perm found nothing).trans keeps

theorem SharedCompress.FailsEmpty.of_next (fails : state.FailsEmpty)
    (next : Option CompressTask) (threads : after.threads = state.threads.set thread (.next next)) :
    after.FailsEmpty := by
  intro task call size consumed code member
  rw [threads] at member
  rcases List.mem_or_eq_of_mem_set member with there | same
  · exact fails task call size consumed code there
  · cases next <;> cases same

theorem SharedCompress.FailsEmpty.step (fails : state.FailsEmpty) {action : SharedAction}
    (allowed : state.Allows library action) (stepped : Interleaves library state action after) :
    after.FailsEmpty := by
  rcases stepped.cases with ⟨thread, method, rfl, found, rfl⟩ | ⟨thread, task, rfl, found, rfl⟩ |
    ⟨thread, task, number, size, consumed, code, rfl, found, rfl⟩ |
    ⟨thread, task, number, size, consumed, ret, rfl, found, rfl⟩ |
    ⟨thread, task, number, size, consumed, outcome, rfl, found, rfl⟩
  · exact fails.of_next (CompressTask.start method) rfl
  · intro waiting call size consumed code member
    rcases List.mem_or_eq_of_mem_set member with there | same
    · exact fails waiting call size consumed code there
    · injection same with task _ size _ failed
      rcases (allowed _ found).2 code failed.symm with ⟨nothing, empty⟩
      rw [task, size, empty]
      exact ⟨nothing, rfl⟩
  · exact fails.of_next none rfl
  · rcases proceed_threads _ _ _ _ with ⟨next, threads⟩
    exact fails.of_next next threads
  · exact fails.of_next none rfl

end

/-! ## Runs -/

def InterleavesApart (library : CompressLibrary CCtx) (before : SharedCompress CCtx)
    (action : SharedAction) (after : SharedCompress CCtx) : Prop :=
  Interleaves library before action after ∧ before.Allows library action

theorem SharedCompress.keepsOutput_new (ctx : CCtx) (buf : Bytes) (threads : Nat) :
    (SharedCompress.new ctx buf threads).KeepsOutput := by
  have nothing : (List.replicate threads Activity.idle).flatMap (Activity.chunks buf) = [] := by
    rw [List.flatMap_eq_nil_iff]
    intro activity member
    rw [List.eq_of_mem_replicate member]
    rfl
  simp only [SharedCompress.KeepsOutput, SharedCompress.chunks, SharedCompress.new, nothing]
  rfl

theorem SharedCompress.failsEmpty_new (ctx : CCtx) (buf : Bytes) (threads : Nat) :
    (SharedCompress.new ctx buf threads).FailsEmpty := by
  intro task call size consumed code member
  cases List.eq_of_mem_replicate member

/-- Whatever the threads call and in whatever order they take their steps: where the
condition is met, every chunk that has been emitted is there once. When no thread waits
for the lock, they have all been appended. -/
theorem sharedStream_keepsOutput (library : CompressLibrary CCtx) {ctx : CCtx} {buf : Bytes}
    {threads : Nat} {actions : List SharedAction} {last : SharedCompress CCtx}
    (run : Run (InterleavesApart library) (SharedCompress.new ctx buf threads) actions last) :
    last.chunks.Perm (numbered last.calls) ∧
      ((∀ activity ∈ last.threads, ¬activity.Waits) →
        inCallOrder last.calls.length last.appended = emitted last.calls) := by
  have invariant : last.KeepsOutput ∧ last.FailsEmpty := by
    apply run.invariant (fun state => state.KeepsOutput ∧ state.FailsEmpty)
    · rintro state action after ⟨keeps, fails⟩ ⟨stepped, allowed⟩
      exact ⟨keeps.step fails allowed stepped, fails.step allowed stepped⟩
    · exact ⟨SharedCompress.keepsOutput_new _ _ _, SharedCompress.failsEmpty_new _ _ _⟩
  refine ⟨invariant.1, fun free => ?_⟩
  rw [SharedCompress.appended_eq_chunks free]
  exact inCallOrder_of_perm invariant.1

theorem smallBlocks_first : smallBlocks.compressStream2 .fresh .proceed cStreamOutSize
    [0x61, 0x62, 0x63, 0x64] =
      ⟨⟨true, [], [], false⟩, 4,
        [0x28, 0xB5, 0x2F, 0xFD, 0, 0x58, 0x20, 0, 0, 0x61, 0x62, 0x63, 0x64], .ok 0⟩ := rfl

theorem smallBlocks_second : smallBlocks.compressStream2 ⟨true, [], [], false⟩ .proceed
    cStreamOutSize [0x65, 0x66, 0x67, 0x68] =
      ⟨⟨true, [], [], false⟩, 4, [0x20, 0, 0, 0x65, 0x66, 0x67, 0x68], .ok 0⟩ := rfl

theorem smallBlocks_finish : smallBlocks.compressStream2 .fresh .finish cStreamOutSize [] =
    ⟨.fresh, 0, [0x28, 0xB5, 0x2F, 0xFD, 0, 0x58, 1, 0, 0], .ok 0⟩ := rfl

theorem sharedStream_keepsOutput_writes :
    ∃ last, Run (InterleavesApart smallBlocks) (.new .fresh (.replicate cStreamOutSize 0) 2)
        [.start 0 (.write [.string [0x61, 0x62, 0x63, 0x64]]), .library 0, .resume 0,
          .start 1 (.write [.string [0x65, 0x66, 0x67, 0x68]]), .library 1, .resume 1] last ∧
      inCallOrder last.calls.length last.appended = emitted last.calls := by
  generalize List.replicate cStreamOutSize (0 : UInt8) = buf
  have apart : ∀ {left right : Activity}, ¬left.Waits → ¬right.Waits →
      ∀ activity ∈ [left, right], ¬activity.Waits := by
    intro left right leftFree rightFree
    simp [leftFree, rightFree]
  have run : Run (InterleavesApart smallBlocks) (.new .fresh buf 2)
      ([] ++ [.start 0 (.write [.string [0x61, 0x62, 0x63, 0x64]])] ++ [.library 0] ++
        [.resume 0] ++ [.start 1 (.write [.string [0x65, 0x66, 0x67, 0x68]])] ++ [.library 1] ++
        [.resume 1]) _ :=
    .snoc (.snoc (.snoc (.snoc (.snoc (.snoc .nil
      ⟨.start _ rfl, trivial⟩)
      ⟨.call rfl smallBlocks_first,
        SharedCompress.allows_call rfl smallBlocks_first rfl (apart id id)⟩)
      ⟨.proceed rfl, trivial⟩)
      ⟨.start _ rfl, trivial⟩)
      ⟨.call rfl smallBlocks_second,
        SharedCompress.allows_call rfl smallBlocks_second rfl (apart id id)⟩)
      ⟨.proceed rfl, trivial⟩
  exact ⟨_, run, (sharedStream_keepsOutput smallBlocks run).2 (apart id id)⟩

/-- The second of two library calls overwrites what the first has emitted, and an
exception that ends `finish` behind its library call discards it. -/
theorem sharedStream_losesOutput :
    (∃ actions last,
      Run (Interleaves smallBlocks) (.new .fresh (.replicate cStreamOutSize 0) 2) actions last ∧
      (∀ thread, .interrupt thread ∉ actions) ∧ last.threads = [.idle, .idle] ∧
      AllSucceed last.calls ∧
      inCallOrder last.calls.length last.appended ≠ emitted last.calls) ∧
    ∃ actions last,
      Run (Interleaves smallBlocks) (.new .fresh (.replicate cStreamOutSize 0) 1) actions last ∧
      last.threads = [.idle] ∧ AllSucceed last.calls ∧
      inCallOrder last.calls.length last.appended ≠ emitted last.calls := by
  generalize List.replicate cStreamOutSize (0 : UInt8) = buf
  constructor
  · have run : Run (Interleaves smallBlocks) (.new .fresh buf 2)
        ([] ++ [.start 0 (.write [.string [0x61, 0x62, 0x63, 0x64]])] ++
          [.start 1 (.write [.string [0x65, 0x66, 0x67, 0x68]])] ++ [.library 0] ++
          [.library 1] ++ [.resume 0] ++ [.resume 1]) _ :=
      .snoc (.snoc (.snoc (.snoc (.snoc (.snoc .nil
        (.start _ rfl))
        (.start _ rfl))
        (.call rfl smallBlocks_first))
        (.call rfl smallBlocks_second))
        (.proceed rfl))
        (.proceed rfl)
    refine ⟨_, _, run, by simp, rfl, (allSucceed_nil.snoc ⟨0, rfl⟩).snoc ⟨0, rfl⟩, ?_⟩
    show ([0x20, 0, 0, 0x65, 0x66, 0x67, 0x68, 0, 0, 0x61, 0x62, 0x63, 0x64,
        0x20, 0, 0, 0x65, 0x66, 0x67, 0x68] : Bytes) ≠
      [0x28, 0xB5, 0x2F, 0xFD, 0, 0x58, 0x20, 0, 0, 0x61, 0x62, 0x63, 0x64,
        0x20, 0, 0, 0x65, 0x66, 0x67, 0x68]
    decide
  · have run : Run (Interleaves smallBlocks) (.new .fresh buf 1)
        ([] ++ [.start 0 .finish] ++ [.library 0] ++ [.interrupt 0]) _ :=
      .snoc (.snoc (.snoc .nil
        (.start _ rfl))
        (.call rfl smallBlocks_finish))
        (.interrupt rfl)
    refine ⟨_, _, run, rfl, allSucceed_nil.snoc ⟨0, rfl⟩, ?_⟩
    show ([] : Bytes) ≠ [0x28, 0xB5, 0x2F, 0xFD, 0, 0x58, 1, 0, 0]
    decide

end ZstdRuby
