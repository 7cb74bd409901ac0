import ZstdRuby.Properties.StreamFormat

/-! # Frames of stored blocks

The frames an encoder writes that compresses nothing: a header that announces a
window, raw blocks, and an empty raw block that is marked as the last one. A
decoder without entropy tables reads them.
-/

namespace ZstdRuby.Libzstd

open Streaming

def storedBlocks : BlockDecoder where
  Entropy := Unit
  decompressBegin _ := ()
  dictID _ := 0
  decompressBlock _ _ _ := .error .corruptionDetected
  xxh64 _ := 0

def storedHeader : Bytes := [0x28, 0xB5, 0x2F, 0xFD, 0x00, 0x58]

def storedBlock (lastBlock : Bool) (content : Bytes) : Bytes :=
  LittleEndian.encode blockHeaderSize (content.length * 2 ^ 3 + lastBlock.toNat) ++ content

def storedParts (parts : List Bytes) : Bytes := (parts.map (storedBlock false)).flatten

def storedFrame (parts : List Bytes) : Bytes :=
  storedHeader ++ (storedParts parts ++ storedBlock true [])

def storedParameters : FrameParameters := ⟨none, 2 ^ 21, blockSizeMax, 0, false⟩

section

variable {dictionary : Option Bytes}

theorem getcBlockSize_storedBlock (lastBlock : Bool) {size : Nat} (fits : size < 2 ^ 20) :
    getcBlockSize (LittleEndian.encode blockHeaderSize (size * 2 ^ 3 + lastBlock.toNat)) =
      .ok (.raw, size, lastBlock) := by
  have bound := Bool.toNat_lt lastBlock
  have encoded := @LittleEndian.value_encode_of_lt blockHeaderSize (size * 2 ^ 3 + lastBlock.toNat)
    (by simp only [blockHeaderSize]; omega)
  have blockType : (size * 2 ^ 3 + lastBlock.toNat) / 2 % 4 = 0 := by omega
  have cSize : (size * 2 ^ 3 + lastBlock.toNat) / 2 ^ 3 = size := by omega
  simp only [getcBlockSize, encoded, blockType, cSize]
  cases lastBlock <;> simp only [Bool.toNat_true, Bool.toNat_false] <;> simp <;> omega

def storedState (decoded : Bytes) : FrameState storedBlocks.Entropy :=
  ⟨storedParameters, (), decoded⟩

theorem decompressContinue_storedHeader (decoded : Bytes) {part : Bytes}
    (fits : part.length ≤ blockSizeMax) (nonempty : 0 < part.length) :
    decompressContinue storedBlocks (.decodeBlockHeader (storedState decoded))
        (LittleEndian.encode blockHeaderSize (part.length * 2 ^ 3 + false.toNat)) =
      .ok (.decompressBlock (storedState decoded) .raw false part.length nonempty, []) := by
  have header := getcBlockSize_storedBlock false
    (show part.length < 2 ^ 20 by simp only [blockSizeMax] at fits; omega)
  have small : ¬part.length > (storedState decoded).fParams.blockSizeMax := not_lt.mpr fits
  simp only [decompressContinue, header, bind, Except.bind, if_neg small, dif_pos nonempty]

theorem decompressContinue_storedContent (decoded : Bytes) {part : Bytes}
    (nonempty : 0 < part.length) :
    decompressContinue storedBlocks
        (.decompressBlock (storedState decoded) .raw false part.length nonempty) part =
      .ok (.decodeBlockHeader (storedState (decoded ++ part)), part) := by
  simp only [decompressContinue, Nat.sub_self, lt_irrefl, dite_false, endOfBlock,
    Bool.false_eq_true, if_false, bind, Except.bind, pure, Except.pure]
  rfl

theorem scanAll_frame_unit {blocks : BlockDecoder} {stage next : DecodeStage blocks.Entropy}
    {unit output : Bytes} (continued : decompressContinue blocks stage unit = .ok (next, output))
    (needed : stage.expected ≠ 0) (size : unit.length = stage.expected) :
    (streamMachine blocks dictionary).scanAll ⟨.frame stage, []⟩ unit =
      some (⟨.frame next, []⟩, output) := by
  apply UnitMachine.scanAll_unit needed size
  simp only [streamMachine, feedStream, continued, bind, Except.bind, pure, Except.pure]

theorem scanAll_storedHeader : (streamMachine storedBlocks dictionary).scanAll
    ⟨streamStart storedBlocks, []⟩ storedHeader =
      some (⟨.frame (.decodeBlockHeader (storedState [])), []⟩, []) := rfl

theorem scanAll_storedBlock (decoded : Bytes) {part : Bytes} (fits : part.length ≤ blockSizeMax) :
    (streamMachine storedBlocks dictionary).scanAll
        ⟨.frame (.decodeBlockHeader (storedState decoded)), []⟩ (storedBlock false part) =
      some (⟨.frame (.decodeBlockHeader (storedState (decoded ++ part))), []⟩, part) := by
  rw [storedBlock]
  by_cases empty : part = []
  · subst empty
    rw [List.append_nil, List.append_nil]
    exact scanAll_frame_unit rfl (Nat.succ_ne_zero 2) rfl
  · have nonempty := List.length_pos_iff.mpr empty
    have needed : (DecodeStage.decompressBlock (storedState decoded) .raw false part.length
        nonempty).expected ≠ 0 := nonempty.ne'
    exact UnitMachine.scanAll_append_some
      (scanAll_frame_unit (decompressContinue_storedHeader decoded fits nonempty)
        (Nat.succ_ne_zero 2) rfl)
      (scanAll_frame_unit (decompressContinue_storedContent decoded nonempty) needed rfl)

theorem scanAll_storedParts {parts : List Bytes}
    (fit : ∀ part ∈ parts, part.length ≤ blockSizeMax) (decoded : Bytes) :
    (streamMachine storedBlocks dictionary).scanAll
        ⟨.frame (.decodeBlockHeader (storedState decoded)), []⟩ (storedParts parts) =
      some (⟨.frame (.decodeBlockHeader (storedState (decoded ++ parts.flatten))), []⟩,
        parts.flatten) := by
  induction parts generalizing decoded with
  | nil =>
      rw [List.flatten_nil, List.append_nil]
      rfl
  | cons part rest induction =>
      have later := induction (fun part member => fit part (List.mem_cons_of_mem _ member))
        (decoded ++ part)
      rw [List.append_assoc] at later
      exact UnitMachine.scanAll_append_some
        (scanAll_storedBlock decoded (fit part List.mem_cons_self)) later

theorem scanAll_storedFront {parts : List Bytes}
    (fit : ∀ part ∈ parts, part.length ≤ blockSizeMax) :
    (streamMachine storedBlocks dictionary).scanAll ⟨streamStart storedBlocks, []⟩
        (storedHeader ++ storedParts parts) =
      some (⟨.frame (.decodeBlockHeader (storedState parts.flatten)), []⟩, parts.flatten) :=
  UnitMachine.scanAll_append_some scanAll_storedHeader (scanAll_storedParts fit [])

theorem storedFront_streamPart (dictionary : Option Bytes) {parts : List Bytes}
    (fit : ∀ part ∈ parts, part.length ≤ blockSizeMax) :
    streamPart storedBlocks dictionary (storedHeader ++ storedParts parts) parts.flatten := by
  have header : (undeclaredMachine storedBlocks (usedDictionary dictionary)).scanAll
      ⟨streamStart storedBlocks, []⟩ storedHeader =
        some (⟨.frame (.decodeBlockHeader (storedState [])), []⟩, []) := rfl
  have rest := @scanAll_storedParts (usedDictionary dictionary) _ fit []
  rw [← scanAll_frame_undeclared] at rest
  exact ⟨_, UnitMachine.scanAll_append_some header rest, Nat.succ_ne_zero 2, Or.inr ⟨_, rfl⟩⟩

/-- A frame of stored blocks is a data frame with the blocks' content, for every
dictionary. -/
theorem storedFrame_dataFrame (dictionary : Option Bytes) {parts : List Bytes}
    (fit : ∀ part ∈ parts, part.length ≤ blockSizeMax) :
    (undeclaredFormat storedBlocks).DataFrame dictionary (storedFrame parts) parts.flatten := by
  have last : decompressContinue storedBlocks (.decodeBlockHeader (storedState parts.flatten))
      (storedBlock true []) = .ok (.getFrameHeaderSize, []) := rfl
  have whole := UnitMachine.scanAll_append_some
    (@scanAll_storedFront (usedDictionary dictionary) _ fit)
    (scanAll_frame_unit last (Nat.succ_ne_zero 2) rfl)
  rw [List.append_nil, List.append_assoc] at whole
  refine undeclaredFormat_of_streamPart (storedFront_streamPart dictionary fit) ?_
    ⟨List.prefix_append (writeLE32 magicNumber) _, _, whole, rfl⟩ ⟨storedBlock true [], ?_⟩
  · rw [storedHeader]
    exact List.cons_ne_nil _ _
  · rw [List.append_assoc, storedFrame]

end

end ZstdRuby.Libzstd
