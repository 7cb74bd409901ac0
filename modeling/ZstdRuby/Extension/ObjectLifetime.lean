import ZstdRuby.Foundation.ManagedHeap

/-! # The objects behind dictionaries and streams

The type callbacks of `zstdruby.c`, `streaming_compress.c` and
`streaming_decompress.c`, and what a program and Ruby's collector do with the
objects. A native dictionary stands for a `ZSTD_CDict` or a `ZSTD_DDict`.
-/

namespace ZstdRuby

open ManagedHeap

/-! ## The types -/

/-- `struct streaming_compress_t`. Of the context only the pointer is modelled
that `ZSTD_CCtx_refCDict` stores; `ZSTD_CCtx_loadDictionary` copies. -/
structure StreamingCompressData where
  cdict : Option Nat
  buf : Reference
  pending : Reference

/-- `struct streaming_decompress_t`, with the pointer `ZSTD_DCtx_refDDict`
stores. -/
structure StreamingDecompressData where
  ddict : Option Nat
  buf : Reference

def streamingCompressMark (sc : StreamingCompressData) : List Reference := [sc.buf, sc.pending]

def streamingCompressCompact (rbGcLocation : Nat → Nat) (sc : StreamingCompressData) :
    StreamingCompressData :=
  { sc with buf := sc.buf.moved rbGcLocation, pending := sc.pending.moved rbGcLocation }

def streamingDecompressMark (sd : StreamingDecompressData) : List Reference := [sd.buf]

def streamingDecompressCompact (rbGcLocation : Nat → Nat) (sd : StreamingDecompressData) :
    StreamingDecompressData :=
  { sd with buf := sd.buf.moved rbGcLocation }

/-- The objects the extension creates. A dictionary object holds its native
dictionary in `DATA_PTR`. -/
inductive RubyObject
  | string
  | cdict (data : Nat)
  | ddict (data : Nat)
  | streamingCompress (sc : StreamingCompressData)
  | streamingDecompress (sd : StreamingDecompressData)

namespace RubyObject

/-- The mark callbacks. `cdict_type` and `ddict_type` have none. -/
def mark : RubyObject → List Reference
  | streamingCompress sc => streamingCompressMark sc
  | streamingDecompress sd => streamingDecompressMark sd
  | string | cdict _ | ddict _ => []

def compact (rbGcLocation : Nat → Nat) : RubyObject → RubyObject
  | streamingCompress sc => streamingCompress (streamingCompressCompact rbGcLocation sc)
  | streamingDecompress sd => streamingDecompress (streamingDecompressCompact rbGcLocation sd)
  | object => object

/-- The native dictionary that `free_cdict` or `free_ddict` frees. A stream frees
its context, and no dictionary. -/
def frees : RubyObject → Option Nat
  | cdict data | ddict data => some data
  | string | streamingCompress _ | streamingDecompress _ => none

def isStream : RubyObject → Bool
  | streamingCompress _ | streamingDecompress _ => true
  | string | cdict _ | ddict _ => false

def usesDictionary : RubyObject → Option Nat
  | streamingCompress sc => sc.cdict
  | streamingDecompress sd => sd.ddict
  | string | cdict _ | ddict _ => none

def usesStrings : RubyObject → List Reference
  | streamingCompress sc => [sc.buf, sc.pending]
  | streamingDecompress sd => [sd.buf]
  | string | cdict _ | ddict _ => []

end RubyObject

/-- The callbacks, with `HAVE_RB_GC_MARK_MOVABLE` or without. -/
def callbacks (haveRbGcMarkMovable : Bool) : Callbacks RubyObject where
  marks := RubyObject.mark
  pins := !haveRbGcMarkMovable
  compact location object := if haveRbGcMarkMovable then object.compact location else object
  marks_compact := by
    intro location object pinned
    cases haveRbGcMarkMovable with
    | true =>
        rw [if_pos rfl]
        cases object <;> rfl
    | false =>
        rw [if_neg Bool.false_ne_true, List.map_congr_left, List.map_id]
        intro reference member
        rw [Reference.moved, pinned rfl reference member]
        rfl

/-! ## What happens -/

structure Memory where
  heap : Heap RubyObject
  native : Nat → Bool

/-- The `dict:` of a new stream: a string that is used for nothing else, or an
object the program holds. -/
inductive DictArgument
  | nil
  | string
  | object (reference : Reference)
  deriving DecidableEq

/-- The pointer `set_compress_params` stores in the context; `none` if it
raises. -/
def compressDictionaryPointer (heap : Heap RubyObject) : DictArgument → Option (Option Nat)
  | .nil | .string => some none
  | .object reference =>
      match heap.objects reference.address with
      | some ⟨_, .cdict data⟩ => some (some data)
      | some ⟨_, .string⟩ => some none
      | _ => none

/-- The pointer `set_decompress_params` stores in the context; `none` if it
raises. -/
def decompressDictionaryPointer (heap : Heap RubyObject) : DictArgument → Option (Option Nat)
  | .nil | .string => some none
  | .object reference =>
      match heap.objects reference.address with
      | some ⟨_, .ddict data⟩ => some (some data)
      | some ⟨_, .string⟩ => some none
      | _ => none

inductive MemoryAction
  | createCDict
  | createDDict
  | createStreamingCompress (dict : DictArgument)
  | createStreamingDecompress (dict : DictArgument)
  | operate (stream : Reference)
  | drop (reference : Reference)
  | collect
  | compact
  deriving DecidableEq

namespace Memory

def empty : Memory := ⟨.empty, fun _ => false⟩

def create (memory : Memory) (address : Nat) (object : RubyObject) : Memory :=
  { memory with
    heap := (memory.heap.allocate address object).hold ⟨address, memory.heap.fresh⟩ }

/-- Put a new dictionary object at an address. The native dictionary has the
number of the object. -/
def createDictionary (memory : Memory) (address : Nat) (object : Nat → RubyObject) : Memory :=
  { memory.create address (object memory.heap.fresh) with
    native := Function.update memory.native memory.heap.fresh true }

def createString (memory : Memory) (address : Nat) : Memory :=
  { memory with heap := memory.heap.allocate address .string }

variable (haveRbGcMarkMovable : Bool) in
/-- One action. New objects go to any free addresses. An operation on a stream
returns a new string, and `write` a number. A collection frees the native
dictionaries of the objects it frees. -/
inductive Step (before : Memory) : MemoryAction → Memory → Prop
  | createCDict {address : Nat} (free : before.heap.objects address = none) :
      Step before .createCDict (before.createDictionary address .cdict)
  | createDDict {address : Nat} (free : before.heap.objects address = none) :
      Step before .createDDict (before.createDictionary address .ddict)
  | createStreamingCompress {dict : DictArgument} {cdict : Option Nat} {buf pending address : Nat}
      (held : ∀ reference, dict = .object reference → reference ∈ before.heap.references)
      (accepted : compressDictionaryPointer before.heap dict = some cdict)
      (freeBuf : before.heap.objects buf = none)
      (freePending : (before.createString buf).heap.objects pending = none)
      (free : ((before.createString buf).createString pending).heap.objects address = none) :
      Step before (.createStreamingCompress dict)
        (((before.createString buf).createString pending).create address (.streamingCompress
          ⟨cdict, ⟨buf, before.heap.fresh⟩, ⟨pending, before.heap.fresh + 1⟩⟩))
  | createStreamingDecompress {dict : DictArgument} {ddict : Option Nat} {buf address : Nat}
      (held : ∀ reference, dict = .object reference → reference ∈ before.heap.references)
      (accepted : decompressDictionaryPointer before.heap dict = some ddict)
      (freeBuf : before.heap.objects buf = none)
      (free : (before.createString buf).heap.objects address = none) :
      Step before (.createStreamingDecompress dict)
        ((before.createString buf).create address (.streamingDecompress
          ⟨ddict, ⟨buf, before.heap.fresh⟩⟩))
  | operate {stream : Reference} {object : Object RubyObject} {address : Nat}
      (held : stream ∈ before.heap.references)
      (found : before.heap.objects stream.address = some object)
      (isStream : object.body.isStream = true)
      (free : before.heap.objects address = none) :
      Step before (.operate stream) (before.create address .string)
  | operateWrite {stream : Reference} {object : Object RubyObject}
      (held : stream ∈ before.heap.references)
      (found : before.heap.objects stream.address = some object)
      (isStream : object.body.isStream = true) : Step before (.operate stream) before
  | drop (reference : Reference) :
      Step before (.drop reference) { before with heap := before.heap.drop reference }
  | collect {after : Memory}
      (collects : Heap.Collects (callbacks haveRbGcMarkMovable) before.heap after.heap)
      (frees : ∀ data, after.native data = true ↔ before.native data = true ∧
        ∀ address object, before.heap.objects address = some object →
          object.body.frees = some data →
          before.heap.Reachable (callbacks haveRbGcMarkMovable) address) :
      Step before .collect after
  | compact {after : Memory} {location : Nat → Nat}
      (compacts : Heap.Compacts (callbacks haveRbGcMarkMovable) location before.heap after.heap)
      (native : after.native = before.native) :
      Step before .compact after

end Memory

end ZstdRuby
