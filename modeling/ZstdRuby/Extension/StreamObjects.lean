import ZstdRuby.Extension.StreamIo

/-! # The stream objects of a program

The objects of the four stream classes, with what a program can do to them:
allocate, create, duplicate and call them. An object that has only been allocated
has no context and `nil` for its strings; a reader or writer that has only been
allocated has `nil` for its instance variables.
-/

namespace ZstdRuby

open Libzstd

variable {CCtx DCtx ρ τ : Type}

/-! ## How a call stops -/

/-- What a call stops with. `raised` is an exception of the extension's own or of
the Ruby C API, `ioError` is what an `IO` raises once it is closed,
`undefinedMethod` is a `NoMethodError`, and `crashed` is the use of a `nil` string
or a `NULL` context in C. -/
inductive Stop
  | raised (error : RubyError)
  | ioError (message : String)
  | undefinedMethod (name : String)
  | crashed
  deriving DecidableEq

def Stop.Deliberate : Stop → Prop
  | raised _ | ioError _ => True
  | undefinedMethod _ | crashed => False

/-! ## Calls on allocated objects -/

/-- The arguments of `write` on an allocated object, one after the other. The loop
takes `RSTRING_PTR` of `buf` for the first that is not empty. -/
def writeAllocated : List Value → Except Stop Bytes
  | [] => .ok []
  | str :: argv =>
      match str.stringValue with
      | .error raised => .error (.raised raised)
      | .ok input => if input = [] then writeAllocated argv else .error .crashed

def CompressCall.onAllocated : CompressCall → Except Stop Bytes
  | compress src =>
      match src.stringValue with
      | .error raised => .error (.raised raised)
      | .ok input => if input = [] then .ok [] else .error .crashed
  | write argv => writeAllocated argv
  | flush | finish => .error .crashed

/-- A call on a `StreamingDecompress` that has only been allocated.
`decompress_with_pos` takes `RSTRING_PTR` of `buf` for every string. -/
def DecompressCall.onAllocated : DecompressCall → Except Stop Unit
  | decompress src =>
      match src.stringValue with
      | .error raised => .error (.raised raised)
      | .ok input => if input = [] then .ok () else .error .crashed
  | decompressWithPos src =>
      match src.stringValue with
      | .error raised => .error (.raised raised)
      | .ok _ => .error .crashed

/-! ## The objects -/

structure IoObject where
  io : Io
  closed : Bool

/-- The instance variables `initialize` sets in a `StreamWriter` or a
`StreamReader`: the numbers of their `IO` and of their stream. `initialize` takes
any object; `none` is one that is no `IO`, such as `nil`. -/
structure StreamFields where
  io : Option Nat
  stream : Nat

/-- All objects there are, in the order of their creation. `none` is an object that
has only been allocated. -/
structure Objects (CCtx DCtx : Type) where
  ios : List IoObject
  compressors : List (Option (StreamingCompress CCtx))
  decompressors : List (Option DCtx)
  writers : List (Option StreamFields)
  readers : List (Option StreamFields)

abbrev Ended (CCtx DCtx ρ : Type) := Except Stop ρ × Objects CCtx DCtx

namespace Objects

def empty : Objects CCtx DCtx := ⟨[], [], [], [], []⟩

def setIo (objects : Objects CCtx DCtx) (id : Nat) (object : IoObject) : Objects CCtx DCtx :=
  { objects with ios := objects.ios.set id object }

def setCompressor (objects : Objects CCtx DCtx) (id : Nat) (stream : StreamingCompress CCtx) :
    Objects CCtx DCtx :=
  { objects with compressors := objects.compressors.set id (some stream) }

def setDecompressor (objects : Objects CCtx DCtx) (id : Nat) (dctx : DCtx) :
    Objects CCtx DCtx :=
  { objects with decompressors := objects.decompressors.set id (some dctx) }

/-! ## Calls that go on -/

def andThen (ended : Option (Ended CCtx DCtx ρ))
    (next : ρ → Objects CCtx DCtx → Option (Ended CCtx DCtx τ)) : Option (Ended CCtx DCtx τ) :=
  ended.bind fun ended =>
    match ended.1 with
    | .error stop => some (.error stop, ended.2)
    | .ok value => next value ended.2

variable (cLibrary : CompressLibrary CCtx) (dLibrary : DecompressLibrary DCtx) (fuel : Nat)

/-! ## `StreamingCompress` and `StreamingDecompress`

A number that is not that of an object stands for no call. -/

def callCompressor (objects : Objects CCtx DCtx) (id : Nat) (call : CompressCall) :
    Option (Ended CCtx DCtx Bytes) :=
  match objects.compressors[id]? with
  | none => some (.ok [], objects)
  | some none => some (call.onAllocated, objects)
  | some (some stream) => (call.run cLibrary fuel stream).map fun outcome =>
      (outcome.result.mapError .raised, objects.setCompressor id outcome.stream)

def callDecompressor (objects : Objects CCtx DCtx) (id : Nat) (call : DecompressCall) :
    Option (Ended CCtx DCtx Unit) :=
  match objects.decompressors[id]? with
  | none => some (.ok (), objects)
  | some none => some (call.onAllocated, objects)
  | some (some dctx) => (call.run dLibrary fuel dctx).map fun outcome =>
      (outcome.1.mapError .raised, objects.setDecompressor id outcome.2)

/-! ## `IO` -/

def writeIo (objects : Objects CCtx DCtx) (id : Nat) (data : Bytes) : Ended CCtx DCtx Unit :=
  match objects.ios[id]? with
  | none => (.ok (), objects)
  | some object =>
      if object.closed then (.error (.ioError "closed stream"), objects)
      else (.ok (), objects.setIo id { object with io := object.io.write data })

def eofIo (objects : Objects CCtx DCtx) (id : Nat) : Ended CCtx DCtx Bool :=
  match objects.ios[id]? with
  | none => (.ok true, objects)
  | some object =>
      if object.closed then (.error (.ioError "closed stream"), objects)
      else (.ok object.io.eof, objects)

def readIo (objects : Objects CCtx DCtx) (id : Nat) (length : Value) : Ended CCtx DCtx Value :=
  match objects.ios[id]? with
  | none => (.ok .nil, objects)
  | some object =>
      if object.closed then (.error (.ioError "closed stream"), objects)
      else
        match length with
        | .nil =>
            let data := object.io.content.drop object.io.pos
            (.ok (.string data), objects.setIo id
              { object with io := { object.io with pos := object.io.pos + data.length } })
        | length =>
            match length.num2long with
            | .error raised => (.error (.raised raised), objects)
            | .ok number =>
                if number < 0 then (.error (.raised (.argumentError
                  ("negative length " ++ toString number ++ " given"))), objects)
                else
                  let read := object.io.read number.toNat
                  (.ok read.1, objects.setIo id { object with io := read.2 })

def closeIo (objects : Objects CCtx DCtx) (id : Nat) : Objects CCtx DCtx :=
  match objects.ios[id]? with
  | none => objects
  | some object => objects.setIo id { object with closed := true }

def onIo (objects : Objects CCtx DCtx) (io : Option Nat) (name : String)
    (call : Nat → Ended CCtx DCtx ρ) : Option (Ended CCtx DCtx ρ) :=
  match io with
  | none => some (.error (.undefinedMethod name), objects)
  | some id => some (call id)

/-! ## `StreamWriter` -/

/-- `@io.write(@stream.finish)`, in `StreamWriter#finish` and `StreamWriter#close`. -/
def writeFinished (objects : Objects CCtx DCtx) (fields : StreamFields) :
    Option (Ended CCtx DCtx Unit) :=
  andThen (objects.callCompressor cLibrary fuel fields.stream .finish) fun bytes objects =>
    objects.onIo fields.io "write" fun io => objects.writeIo io bytes

def writeWriter (objects : Objects CCtx DCtx) (id : Nat) (data : List Value) :
    Option (Ended CCtx DCtx Unit) :=
  match objects.writers[id]? with
  | none => some (.ok (), objects)
  | some none => some (.error (.undefinedMethod "write"), objects)
  | some (some fields) =>
      andThen (objects.callCompressor cLibrary fuel fields.stream (.write data))
        fun _ objects => andThen (objects.callCompressor cLibrary fuel fields.stream .flush)
          fun bytes objects => objects.onIo fields.io "write" fun io => objects.writeIo io bytes

def finishWriter (objects : Objects CCtx DCtx) (id : Nat) : Option (Ended CCtx DCtx Unit) :=
  match objects.writers[id]? with
  | none => some (.ok (), objects)
  | some none => some (.error (.undefinedMethod "finish"), objects)
  | some (some fields) => objects.writeFinished cLibrary fuel fields

def closeWriter (objects : Objects CCtx DCtx) (id : Nat) : Option (Ended CCtx DCtx Unit) :=
  match objects.writers[id]? with
  | none => some (.ok (), objects)
  | some none => some (.error (.undefinedMethod "finish"), objects)
  | some (some fields) => andThen (objects.writeFinished cLibrary fuel fields)
      fun _ objects => objects.onIo fields.io "close" fun io => (.ok (), objects.closeIo io)

/-! ## `StreamReader` -/

def readReader (objects : Objects CCtx DCtx) (id : Nat) (length : Value) :
    Option (Ended CCtx DCtx Unit) :=
  match objects.readers[id]? with
  | none => some (.ok (), objects)
  | some none => some (.error (.undefinedMethod "eof?"), objects)
  | some (some fields) => andThen (objects.onIo fields.io "eof?" objects.eofIo) fun eof objects =>
      if eof then some (.error (.raised (.standardError "EOF")), objects)
      else andThen (objects.onIo fields.io "read" fun io => objects.readIo io length)
        fun data objects =>
          objects.callDecompressor dLibrary fuel fields.stream (.decompress data)

/-- `StreamReader#close`. It asks its stream for `finish`, which neither a
`StreamingDecompress` nor `nil` has. -/
def closeReader (objects : Objects CCtx DCtx) (id : Nat) : Ended CCtx DCtx Unit :=
  match objects.readers[id]? with
  | none => (.ok (), objects)
  | some _ => (.error (.undefinedMethod "finish"), objects)

end Objects

/-! ## What a program does -/

/-- What a program does. `dup` and `clone` allocate an object and copy its instance
variables; what a C struct holds is copied by `initialize_copy` only, and the stream
classes define none. -/
inductive StreamOperation
  | openIo (content : Bytes)
  | allocateCompressor
  | newCompressor (kwargs : Kwargs)
  | dupCompressor (id : Nat)
  | callCompressor (id : Nat) (call : CompressCall)
  | allocateDecompressor
  | newDecompressor (kwargs : Kwargs)
  | dupDecompressor (id : Nat)
  | callDecompressor (id : Nat) (call : DecompressCall)
  | allocateWriter
  | newWriter (io : Option Nat) (level : Value)
  | dupWriter (id : Nat)
  | writeWriter (id : Nat) (data : List Value)
  | finishWriter (id : Nat)
  | closeWriter (id : Nat)
  | allocateReader
  | newReader (io : Option Nat)
  | dupReader (id : Nat)
  | readReader (id : Nat) (length : Value)
  | closeReader (id : Nat)

namespace Objects

variable (cLibrary : CompressLibrary CCtx) (dLibrary : DecompressLibrary DCtx) (fuel : Nat)

def newWriter (objects : Objects CCtx DCtx) (io : Option Nat) (level : Value) :
    Ended CCtx DCtx Unit :=
  if ∃ id ∈ io, objects.ios.length ≤ id then (.ok (), objects)
  else
    match rbStreamingCompressInitialize cLibrary [("level", level)] with
    | .error raised => (.error (.raised raised), objects)
    | .ok stream => (.ok (), { objects with
        compressors := objects.compressors ++ [some stream]
        writers := objects.writers ++ [some ⟨io, objects.compressors.length⟩] })

def newReader (objects : Objects CCtx DCtx) (io : Option Nat) : Ended CCtx DCtx Unit :=
  if ∃ id ∈ io, objects.ios.length ≤ id then (.ok (), objects)
  else
    match rbStreamingDecompressInitialize dLibrary [] with
    | .error raised => (.error (.raised raised), objects)
    | .ok dctx => (.ok (), { objects with
        decompressors := objects.decompressors ++ [some dctx]
        readers := objects.readers ++ [some ⟨io, objects.decompressors.length⟩] })

def perform (objects : Objects CCtx DCtx) : StreamOperation → Option (Ended CCtx DCtx Unit)
  | .openIo content => some (.ok (), { objects with ios := objects.ios ++ [⟨⟨content, 0⟩, false⟩] })
  | .allocateCompressor => some (.ok (), { objects with
      compressors := objects.compressors ++ [none] })
  | .newCompressor kwargs =>
      match rbStreamingCompressInitialize cLibrary kwargs with
      | .error raised => some (.error (.raised raised), objects)
      | .ok stream => some (.ok (), { objects with
          compressors := objects.compressors ++ [some stream] })
  | .dupCompressor id =>
      match objects.compressors[id]? with
      | none => some (.ok (), objects)
      | some _ => some (.ok (), { objects with compressors := objects.compressors ++ [none] })
  | .callCompressor id call => andThen (objects.callCompressor cLibrary fuel id call)
      fun _ objects => some (.ok (), objects)
  | .allocateDecompressor => some (.ok (), { objects with
      decompressors := objects.decompressors ++ [none] })
  | .newDecompressor kwargs =>
      match rbStreamingDecompressInitialize dLibrary kwargs with
      | .error raised => some (.error (.raised raised), objects)
      | .ok dctx => some (.ok (), { objects with
          decompressors := objects.decompressors ++ [some dctx] })
  | .dupDecompressor id =>
      match objects.decompressors[id]? with
      | none => some (.ok (), objects)
      | some _ => some (.ok (), { objects with decompressors := objects.decompressors ++ [none] })
  | .callDecompressor id call => objects.callDecompressor dLibrary fuel id call
  | .allocateWriter => some (.ok (), { objects with writers := objects.writers ++ [none] })
  | .newWriter io level => some (objects.newWriter cLibrary io level)
  | .dupWriter id =>
      match objects.writers[id]? with
      | none => some (.ok (), objects)
      | some fields => some (.ok (), { objects with writers := objects.writers ++ [fields] })
  | .writeWriter id data => objects.writeWriter cLibrary fuel id data
  | .finishWriter id => objects.finishWriter cLibrary fuel id
  | .closeWriter id => objects.closeWriter cLibrary fuel id
  | .allocateReader => some (.ok (), { objects with readers := objects.readers ++ [none] })
  | .newReader io => some (objects.newReader dLibrary io)
  | .dupReader id =>
      match objects.readers[id]? with
      | none => some (.ok (), objects)
      | some fields => some (.ok (), { objects with readers := objects.readers ++ [fields] })
  | .readReader id length => objects.readReader dLibrary fuel id length
  | .closeReader id => some (objects.closeReader id)

end Objects

end ZstdRuby
