import ZstdRuby.Extension.SkippableFrame
import ZstdRuby.Foundation.Recorded

/-! # Buffer accesses

The skippable-frame functions once more, with a record of every access to a buffer
whose bounds nobody checks: the fixed-size reads and writes of libzstd, its calls
of `memcpy`, and what the Ruby string functions copy.
-/

namespace ZstdRuby

open Libzstd

/-! ## Accesses -/

inductive Access
  /-- `count` bytes are read from `offset` on. -/
  | read (size offset count : Nat)
  /-- `count` bytes are written from `offset` on. -/
  | write (size offset count : Nat)
  /-- The length of a string is set to `count`. -/
  | resize (size count : Nat)

def Access.InBounds : Access → Prop
  | .read size offset count | .write size offset count =>
      ∀ index, index < count → offset + index < size
  | .resize size count => count ≤ size

abbrev Accessing (ρ : Type) := Recorded Access RubyError ρ

def readLE32At (source : Bytes) (offset : Nat) : Accessing Nat := do
  .note (.read source.length offset 4)
  return readLE32 (source.drop offset)

def writeLE32At (dst : Bytes) (offset number : Nat) : Accessing Bytes := do
  .note (.write dst.length offset 4)
  return memcpy dst offset (writeLE32 number)

def copyAt (dst : Bytes) (offset : Nat) (source : Bytes) (start count : Nat) :
    Accessing Bytes := do
  .note (.read source.length start count)
  .note (.write dst.length offset count)
  return memcpy dst offset ((source.drop start).take count)

/-! ## libzstd -/

def writeSkippableFrameAccesses (dst : Bytes) (dstCapacity : Nat) (src : Bytes)
    (magicVariant : Nat) : Accessing (Nat × Bytes) :=
  if dstCapacity < (src.length + skippableHeaderSize) % sizeRange then
    return (error .dstSizeTooSmall, dst)
  else if src.length > 0xFFFFFFFF then
    return (error .srcSizeWrong, dst)
  else if magicVariant > 15 then
    return (error .parameterOutOfBound, dst)
  else do
    let dst ← writeLE32At dst 0 (magicSkippableStart + magicVariant)
    let dst ← writeLE32At dst 4 src.length
    let dst ← copyAt dst 8 src 0 src.length
    return (src.length + skippableHeaderSize, dst)

def isSkippableFrameAccesses (buffer : Bytes) : Accessing Bool :=
  if buffer.length < frameIdSize then
    return false
  else do
    let magic ← readLE32At buffer 0
    return isSkippableMagic magic

def readSkippableFrameSizeAccesses (src : Bytes) : Accessing Nat :=
  if src.length < skippableHeaderSize then
    return error .srcSizeWrong
  else do
    let sizeU32 ← readLE32At src frameIdSize
    if (sizeU32 + skippableHeaderSize) % 2 ^ 32 < sizeU32 then
      return error .frameParameterUnsupported
    else if skippableHeaderSize + sizeU32 > src.length then
      return error .srcSizeWrong
    else
      return skippableHeaderSize + sizeU32

def readSkippableFrameAccesses (dst : Bytes) (dstCapacity : Nat) (src : Bytes) :
    Accessing (Nat × Bytes) :=
  if src.length < skippableHeaderSize then
    return (error .srcSizeWrong, dst)
  else do
    let _magicNumber ← readLE32At src 0
    let skippableFrameSize ← readSkippableFrameSizeAccesses src
    let skippableContentSize :=
      (skippableFrameSize + sizeRange - skippableHeaderSize) % sizeRange
    let skippable ← isSkippableFrameAccesses src
    if !skippable then
      return (error .frameParameterUnsupported, dst)
    else if skippableFrameSize < skippableHeaderSize ∨ skippableFrameSize > src.length then
      return (error .srcSizeWrong, dst)
    else if skippableContentSize > dstCapacity then
      return (error .dstSizeTooSmall, dst)
    else if skippableContentSize > 0 then do
      let dst ← copyAt dst 0 src skippableHeaderSize skippableContentSize
      return (skippableContentSize, dst)
    else
      return (skippableContentSize, dst)

/-! ## The extension -/

def rbStrNewAccesses (source : Bytes) (beyond : Nat → UInt8) (size : Nat) :
    Accessing Bytes :=
  if 2 ^ 63 ≤ size then
    .lift (.error (.argumentError "negative string size (or size too big)"))
  else do
    .note (.read source.length 0 size)
    .note (.write size 0 size)
    return rbStrNew source beyond size

def rbWriteSkippableFrameAccesses (beyond : Nat → UInt8) (input skip : Value)
    (kwargs : Kwargs) : Accessing Bytes := do
  let variant ← .lift (magicVariant kwargs)
  let inputData ← .lift input.stringValue
  let skipData ← .lift skip.stringValue
  let dstSize := (inputData.length + skippableHeaderSize + skipData.length) % sizeRange
  let output ← rbStrNewAccesses inputData beyond dstSize
  let written ← writeSkippableFrameAccesses output dstSize skipData variant
  if isError written.1 then
    .lift (.error (.runtimeError
      ("write skippable frame failed: " ++ getErrorName written.1)))
  else do
    .note (.resize output.length written.1)
    return rbStrResize written.2 written.1

def rbReadSkippableFrameAccesses (unset : Nat → UInt8) (input : Bytes) :
    Accessing (Option Bytes) := do
  let skippable ← isSkippableFrameAccesses input
  if !skippable then
    return none
  else do
    let output := rbStrNew [] unset skipLen
    let read ← readSkippableFrameAccesses output skipLen input
    if isError read.1 then
      .lift (.error (.runtimeError
        ("read skippable frame failed: " ++ getErrorName read.1)))
    else do
      .note (.resize output.length read.1)
      return some (rbStrResize read.2 read.1)

end ZstdRuby
