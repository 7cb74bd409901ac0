import ZstdRuby.Extension.StreamingCompress

/-! # A `StreamingCompress` shared by threads

The methods in the steps between which another thread can run. The lock is given up
for the library call only, so a method starts, makes a library call into `buf`, and
goes on with what it finds in `buf` up to its next library call, where it may
instead be ended by an exception from outside.
-/

namespace ZstdRuby

open Libzstd Streaming

variable {CCtx : Type}

/-! ## Threads -/

/-- Bytes that have been appended to a string, with the number of the library call
that has emitted them. -/
structure Chunk where
  call : Nat
  bytes : Bytes
  deriving DecidableEq

def chunk (call : Nat) (bytes : Bytes) : List Chunk :=
  if bytes = [] then [] else [⟨call, bytes⟩]

theorem flatMap_bytes_chunk (call : Nat) (bytes : Bytes) :
    (chunk call bytes).flatMap Chunk.bytes = bytes := by
  rw [chunk]
  split
  · rename_i empty
    exact empty.symm
  · simp

/-- The local variables of a method: what `input` has left of the string, the
arguments of `write` behind it, and `result`. -/
inductive CompressTask
  | compress (input : Bytes) (result : List Chunk)
  | write (input : Bytes) (argv : List Value)
  | drain (endOp : Directive) (result : List Chunk)
  deriving DecidableEq

namespace CompressTask

def directive : CompressTask → Directive
  | compress _ _ | write _ _ => .proceed
  | drain endOp _ => endOp

def source : CompressTask → Bytes
  | compress input _ | write input _ => input
  | drain _ _ => []

def result : CompressTask → List Chunk
  | compress _ result | drain _ result => result
  | write _ _ => []

/-- The next string of `write` that is not empty; `none` where `write` returns, or
raises at an argument that is no string. -/
def nextString : List Value → Option CompressTask
  | [] => none
  | str :: argv =>
      match str.stringValue with
      | .error _ => none
      | .ok input => if input = [] then nextString argv else some (write input argv)

def start : CompressCall → Option CompressTask
  | .compress src =>
      match src.stringValue with
      | .error _ => none
      | .ok input => if input = [] then none else some (compress input [])
  | .write argv => nextString argv
  | .flush => some (drain .flush [])
  | .finish => some (drain .finish [])

end CompressTask

/-- What a thread does with the stream: nothing, or it waits for its library call, or
it waits for the lock behind its library call, of which it has `output.pos`, how much
input it has taken, and `ret`. -/
inductive Activity
  | idle
  | calling (task : CompressTask)
  | resuming (task : CompressTask) (call size consumed : Nat) (ret : Except ErrorCode Nat)
  deriving DecidableEq

def Activity.next : Option CompressTask → Activity
  | none => idle
  | some task => calling task

/-! ## The stream -/

/-- A `StreamingCompress`, the threads that use it, the replies of its library calls,
and what its methods have returned. -/
structure SharedCompress (CCtx : Type) where
  ctx : CCtx
  buf : Bytes
  pending : List Chunk
  threads : List Activity
  calls : List (Response UInt8 ErrorCode)
  returned : List Chunk

inductive SharedAction
  | start (thread : Nat) (call : CompressCall)
  | library (thread : Nat)
  | resume (thread : Nat)
  | interrupt (thread : Nat)

def SharedAction.thread : SharedAction → Nat
  | start thread _ | library thread | resume thread | interrupt thread => thread

namespace SharedCompress

def new (ctx : CCtx) (buf : Bytes) (threads : Nat) : SharedCompress CCtx :=
  ⟨ctx, buf, [], List.replicate threads .idle, [], []⟩

def setThread (state : SharedCompress CCtx) (thread : Nat) (activity : Activity) :
    SharedCompress CCtx :=
  { state with threads := state.threads.set thread activity }

def reply (library : CompressLibrary CCtx) (state : SharedCompress CCtx) (task : CompressTask) :
    Reply CCtx UInt8 ErrorCode :=
  library.compressStream2 state.ctx task.directive cStreamOutSize task.source

/-- `stream_compress_wrapper`: the library call, which writes to the start of
`buf`. -/
def callLibrary (library : CompressLibrary CCtx) (state : SharedCompress CCtx) (thread : Nat)
    (task : CompressTask) : SharedCompress CCtx :=
  let reply := state.reply library task
  { state with
    ctx := reply.context
    buf := memcpy state.buf 0 reply.output
    calls := state.calls ++ [reply.response]
    threads := state.threads.set thread
      (.resuming task state.calls.length reply.output.length reply.consumed reply.status) }

/-- What a method does behind a library call that has not failed, up to the next one.
`received` is what it finds in `buf`. -/
def proceed (state : SharedCompress CCtx) (thread : Nat) (received : List Chunk)
    (consumed ret : Nat) : CompressTask → SharedCompress CCtx
  | .compress input result =>
      let rest := input.drop consumed
      if rest = [] then
        { state.setThread thread .idle with returned := state.returned ++ (result ++ received) }
      else state.setThread thread (.calling (.compress rest (result ++ received)))
  | .write input argv =>
      let rest := input.drop consumed
      { state.setThread thread (.next (if rest = [] then CompressTask.nextString argv
          else some (.write rest argv))) with pending := state.pending ++ received }
  | .drain endOp result =>
      if ret = 0 then
        { state.setThread thread .idle with
          pending := []
          returned := state.returned ++ (state.pending ++ (result ++ received)) }
      else state.setThread thread (.calling (.drain endOp (result ++ received)))

def step (library : CompressLibrary CCtx) (state : SharedCompress CCtx) :
    SharedAction → Option (SharedCompress CCtx)
  | .start thread call =>
      match state.threads[thread]? with
      | some .idle => some (state.setThread thread (.next (CompressTask.start call)))
      | _ => none
  | .library thread =>
      match state.threads[thread]? with
      | some (.calling task) => some (state.callLibrary library thread task)
      | _ => none
  | .resume thread =>
      match state.threads[thread]? with
      | some (.resuming task call size consumed ret) =>
          match ret with
          | .error _ => some (state.setThread thread .idle)
          | .ok ret =>
              some (state.proceed thread (chunk call (state.buf.take size)) consumed ret task)
      | _ => none
  | .interrupt thread =>
      match state.threads[thread]? with
      | some (.resuming _ _ _ _ _) => some (state.setThread thread .idle)
      | _ => none

end SharedCompress

/-! ## Steps -/

def Interleaves (library : CompressLibrary CCtx) (before : SharedCompress CCtx)
    (action : SharedAction) (after : SharedCompress CCtx) : Prop :=
  before.step library action = some after

namespace Interleaves

variable {library : CompressLibrary CCtx} {state : SharedCompress CCtx} {thread : Nat}
  {task : CompressTask} {number size consumed : Nat}

theorem start (method : CompressCall) (found : state.threads[thread]? = some .idle) :
    Interleaves library state (.start thread method)
      (state.setThread thread (.next (CompressTask.start method))) := by
  simp only [Interleaves, SharedCompress.step, found]

theorem call {reply : Reply CCtx UInt8 ErrorCode}
    (found : state.threads[thread]? = some (.calling task))
    (replied : state.reply library task = reply) :
    Interleaves library state (.library thread)
      { state with
        ctx := reply.context
        buf := memcpy state.buf 0 reply.output
        calls := state.calls ++ [reply.response]
        threads := state.threads.set thread
          (.resuming task state.calls.length reply.output.length reply.consumed
            reply.status) } := by
  simp only [Interleaves, SharedCompress.step, found, SharedCompress.callLibrary, replied]

theorem proceed {ret : Nat}
    (found : state.threads[thread]? = some (.resuming task number size consumed (.ok ret))) :
    Interleaves library state (.resume thread)
      (state.proceed thread (chunk number (state.buf.take size)) consumed ret task) := by
  simp only [Interleaves, SharedCompress.step, found]

theorem raise {code : ErrorCode}
    (found : state.threads[thread]? = some (.resuming task number size consumed (.error code))) :
    Interleaves library state (.resume thread) (state.setThread thread .idle) := by
  simp only [Interleaves, SharedCompress.step, found]

theorem interrupt {outcome : Except ErrorCode Nat}
    (found : state.threads[thread]? = some (.resuming task number size consumed outcome)) :
    Interleaves library state (.interrupt thread) (state.setThread thread .idle) := by
  simp only [Interleaves, SharedCompress.step, found]

theorem cases {after : SharedCompress CCtx} {action : SharedAction}
    (stepped : Interleaves library state action after) :
    (∃ thread method, action = .start thread method ∧ state.threads[thread]? = some .idle ∧
      after = state.setThread thread (.next (CompressTask.start method))) ∨
    (∃ thread task, action = .library thread ∧
      state.threads[thread]? = some (.calling task) ∧
      after = state.callLibrary library thread task) ∨
    (∃ thread task number size consumed code, action = .resume thread ∧
      state.threads[thread]? = some (.resuming task number size consumed (.error code)) ∧
      after = state.setThread thread .idle) ∨
    (∃ thread task number size consumed ret, action = .resume thread ∧
      state.threads[thread]? = some (.resuming task number size consumed (.ok ret)) ∧
      after = state.proceed thread (chunk number (state.buf.take size)) consumed ret task) ∨
    ∃ thread task number size consumed outcome, action = .interrupt thread ∧
      state.threads[thread]? = some (.resuming task number size consumed outcome) ∧
      after = state.setThread thread .idle := by
  cases action with
  | start thread method =>
      simp only [Interleaves, SharedCompress.step] at stepped
      split at stepped
      · rename_i found
        cases stepped
        exact .inl ⟨thread, method, rfl, found, rfl⟩
      · cases stepped
  | library thread =>
      simp only [Interleaves, SharedCompress.step] at stepped
      split at stepped
      · rename_i task found
        cases stepped
        exact .inr (.inl ⟨thread, task, rfl, found, rfl⟩)
      · cases stepped
  | resume thread =>
      simp only [Interleaves, SharedCompress.step] at stepped
      split at stepped
      · rename_i task number size consumed outcome found
        cases outcome with
        | error code =>
            cases stepped
            exact .inr (.inr (.inl ⟨thread, task, number, size, consumed, code, rfl, found, rfl⟩))
        | ok ret =>
            cases stepped
            exact .inr (.inr (.inr (.inl ⟨thread, task, number, size, consumed, ret, rfl, found,
              rfl⟩)))
      · cases stepped
  | interrupt thread =>
      simp only [Interleaves, SharedCompress.step] at stepped
      split at stepped
      · rename_i task number size consumed outcome found
        cases stepped
        exact .inr (.inr (.inr (.inr ⟨thread, task, number, size, consumed, outcome, rfl, found,
          rfl⟩)))
      · cases stepped

end Interleaves

end ZstdRuby
