import ZstdRuby.Extension.StreamingCompress
import ZstdRuby.Extension.StreamingDecompress

/-! # `Zstd::StreamWriter` and `Zstd::StreamReader`

The methods of `stream_writer.rb` and `stream_reader.rb`, on an object that
stores bytes and returns them.
-/

namespace ZstdRuby

open Libzstd

variable {CCtx DCtx : Type}

/-! ## The stored bytes -/

structure Io where
  content : Bytes
  pos : Nat

namespace Io

def empty : Io := ⟨[], 0⟩

def rewind (io : Io) : Io := { io with pos := 0 }

def eof (io : Io) : Bool := decide (io.content.length ≤ io.pos)

def write (io : Io) (data : Bytes) : Io :=
  ⟨memcpy io.content io.pos data, io.pos + data.length⟩

/-- `IO#read(length)`. At the end of the file it returns `nil`, except for
length zero. -/
def read (io : Io) (length : Nat) : Value × Io :=
  if io.eof ∧ 0 < length then (.nil, io)
  else
    let data := (io.content.drop io.pos).take length
    (.string data, { io with pos := io.pos + data.length })

theorem write_atEnd {io : Io} (atEnd : io.pos = io.content.length) (data : Bytes) :
    io.write data = ⟨io.content ++ data, (io.content ++ data).length⟩ := by
  rw [write, memcpy, atEnd, List.take_length, List.drop_eq_nil_of_le (Nat.le_add_right _ _),
    List.append_nil, List.length_append]

theorem read_inside {io : Io} (inside : io.eof = false) (length : Nat) :
    io.read length = (.string ((io.content.drop io.pos).take length),
      { io with pos := io.pos + ((io.content.drop io.pos).take length).length }) := by
  simp [read, inside]

end Io

/-! ## Writing -/

structure StreamWriter (CCtx : Type) where
  io : Io
  stream : StreamingCompress CCtx

def streamWriterInitialize (library : CompressLibrary CCtx) (io : Io) (level : Value) :
    Except RubyError (StreamWriter CCtx) :=
  (rbStreamingCompressInitialize library [("level", level)]).map fun stream => ⟨io, stream⟩

/-- How a method call on a writer ends: what it returns, which is what
`IO#write` returns, or raises, and the object it leaves. -/
structure WriterOutcome (CCtx : Type) where
  result : Except RubyError Nat
  writer : StreamWriter CCtx

def writeReturned (io : Io) (returned : CompressOutcome CCtx Bytes) : WriterOutcome CCtx :=
  match returned.result with
  | .error raised => ⟨.error raised, ⟨io, returned.stream⟩⟩
  | .ok bytes => ⟨.ok bytes.length, ⟨io.write bytes, returned.stream⟩⟩

def streamWriterWrite (library : CompressLibrary CCtx) (fuel : Nat) (writer : StreamWriter CCtx)
    (data : List Value) : Option (WriterOutcome CCtx) :=
  (rbStreamingCompressWrite library fuel writer.stream data).bind fun written =>
    match written.result with
    | .error raised => some ⟨.error raised, { writer with stream := written.stream }⟩
    | .ok _ => (rbStreamingCompressFlush library fuel written.stream).map (writeReturned writer.io)

def streamWriterFinish (library : CompressLibrary CCtx) (fuel : Nat)
    (writer : StreamWriter CCtx) : Option (WriterOutcome CCtx) :=
  (rbStreamingCompressFinish library fuel writer.stream).map (writeReturned writer.io)

/-! ## Reading -/

structure StreamReader (DCtx : Type) where
  io : Io
  dctx : DCtx

def streamReaderInitialize (library : DecompressLibrary DCtx) (io : Io) :
    Except RubyError (StreamReader DCtx) :=
  (rbStreamingDecompressInitialize library []).map fun dctx => ⟨io, dctx⟩

/-- How a method call on a reader ends: what it returns or raises, and the
object it leaves. -/
structure ReaderOutcome (DCtx : Type) where
  result : Except RubyError Bytes
  reader : StreamReader DCtx

def streamReaderRead (library : DecompressLibrary DCtx) (fuel : Nat) (reader : StreamReader DCtx)
    (length : Nat) : Option (ReaderOutcome DCtx) :=
  if reader.io.eof then some ⟨.error (.standardError "EOF"), reader⟩
  else
    let data := reader.io.read length
    (rbStreamingDecompressDecompress library fuel reader.dctx data.1).map fun outcome =>
      ⟨outcome.result, ⟨data.2, outcome.dctx⟩⟩

theorem streamReaderRead_atEnd {library : DecompressLibrary DCtx} {reader : StreamReader DCtx}
    (atEnd : reader.io.eof = true) (length : Nat) :
    Settles (fun fuel => streamReaderRead library fuel reader length)
      ⟨.error (.standardError "EOF"), reader⟩ :=
  ⟨0, fun fuel _ => by simp [streamReaderRead, atEnd]⟩

end ZstdRuby
