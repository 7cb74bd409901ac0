import ZstdRuby.Libzstd.Compression
import ZstdRuby.Properties.StoredFrames

/-! # A compression library that stores

A library that writes stored frames, with blocks of a given size. It is one of
the libraries the extension can be linked with, and small enough to be run.
-/

namespace ZstdRuby.Libzstd

open Streaming

/-! ## The encoder -/

/-- The input that is in no block yet and the output that is not handed on yet,
and whether the frame's header and its last block have been written. -/
structure StoredEncoder where
  started : Bool
  inBuff : Bytes
  outBuff : Bytes
  ended : Bool
  deriving DecidableEq

namespace StoredEncoder

def fresh : StoredEncoder := ⟨false, [], [], false⟩

def missingHeader (encoder : StoredEncoder) : Bytes :=
  if encoder.started then [] else storedHeader

def writeBlock (encoder : StoredEncoder) : StoredEncoder :=
  ⟨true, [], encoder.outBuff ++ (encoder.missingHeader ++ storedBlock false encoder.inBuff),
    encoder.ended⟩

def writeRest (encoder : StoredEncoder) : StoredEncoder :=
  if encoder.inBuff = [] then encoder else encoder.writeBlock

def writeEnd (encoder : StoredEncoder) : StoredEncoder :=
  if encoder.ended then encoder
  else
    let encoder := encoder.writeRest
    ⟨true, [], encoder.outBuff ++ (encoder.missingHeader ++ storedBlock true []), true⟩

def taken (blockSize : Nat) (encoder : StoredEncoder) (source : Bytes) : Nat :=
  min source.length (blockSize - encoder.inBuff.length)

def load (blockSize : Nat) (encoder : StoredEncoder) (source : Bytes) : StoredEncoder :=
  let inBuff := encoder.inBuff ++ source.take (encoder.taken blockSize source)
  if inBuff.length < blockSize then { encoder with inBuff := inBuff }
  else writeBlock { encoder with inBuff := inBuff }

def handOn (encoder : StoredEncoder) (capacity consumed : Nat) :
    Reply StoredEncoder UInt8 ErrorCode :=
  ⟨{ encoder with outBuff := encoder.outBuff.drop capacity }, consumed,
    encoder.outBuff.take capacity, .ok (encoder.outBuff.length - capacity)⟩

end StoredEncoder

def storedStream (blockSize : Nat) : Encoder StoredEncoder UInt8 UInt8 ErrorCode :=
  fun encoder directive capacity source =>
    match directive with
    | .proceed => (encoder.load blockSize source).handOn capacity (encoder.taken blockSize source)
    | .flush => encoder.writeRest.handOn capacity 0
    | .finish =>
        let reply := encoder.writeEnd.handOn capacity 0
        if reply.context.outBuff = [] then { reply with context := .fresh } else reply

def cutInto (size : Nat) : (fuel : Nat) → Bytes → List Bytes
  | 0, source => [source]
  | fuel + 1, source =>
      if source.length ≤ size then [source]
      else source.take size :: cutInto size fuel (source.drop size)

def storedLibrary (blockSize : Nat) : CompressLibrary StoredEncoder where
  createCCtx := some .fresh
  setCompressionLevel encoder _ := encoder
  refCDict encoder _ := .ok encoder
  loadDictionary encoder _ := .ok encoder
  compress2 _ capacity source :=
    let frame := storedFrame (cutInto blockSizeMax source.length source)
    if frame.length ≤ capacity then .ok frame else .error .dstSizeTooSmall
  compressStream2 := storedStream blockSize

/-! ## Frames in one call -/

section

variable {size : Nat}

theorem cutInto_flatten (size : Nat) (fuel : Nat) (source : Bytes) :
    (cutInto size fuel source).flatten = source := by
  induction fuel generalizing source with
  | zero => simp [cutInto]
  | succ fuel induction =>
      rw [cutInto]
      split
      · simp
      · rw [List.flatten_cons, induction, List.take_append_drop]

theorem cutInto_fit (positive : 0 < size) {fuel : Nat} {source : Bytes}
    (enough : source.length ≤ fuel) : ∀ part ∈ cutInto size fuel source, part.length ≤ size := by
  induction fuel generalizing source with
  | zero =>
      simp only [cutInto, List.mem_singleton, forall_eq]
      omega
  | succ fuel induction =>
      rw [cutInto]
      split
      · rename_i short
        simpa using short
      · rename_i long
        intro part member
        rcases List.mem_cons.mp member with rfl | member
        · exact List.length_take_le _ _
        · refine induction ?_ part member
          rw [List.length_drop]
          omega

theorem cutInto_length (positive : 0 < size) {fuel : Nat} {source : Bytes}
    (enough : source.length ≤ fuel) :
    (cutInto size fuel source).length ≤ source.length / size + 1 := by
  induction fuel generalizing source with
  | zero => simp [cutInto]
  | succ fuel induction =>
      rw [cutInto]
      split
      · simp
      · rename_i long
        have rest := @induction (source.drop size) (by rw [List.length_drop]; omega)
        rw [List.length_drop] at rest
        have split := Nat.add_div_right (source.length - size) positive
        rw [Nat.sub_add_cancel (by omega)] at split
        rw [List.length_cons]
        omega

theorem storedBlock_length (lastBlock : Bool) (content : Bytes) :
    (storedBlock lastBlock content).length = 3 + content.length := by
  rw [storedBlock, List.length_append, LittleEndian.encode_length, blockHeaderSize]

theorem storedParts_length (parts : List Bytes) :
    (storedParts parts).length = 3 * parts.length + parts.flatten.length := by
  induction parts with
  | nil => rfl
  | cons part rest induction =>
      have split : storedParts (part :: rest) = storedBlock false part ++ storedParts rest := rfl
      rw [split, List.length_append, storedBlock_length, induction, List.flatten_cons,
        List.length_append, List.length_cons]
      omega

theorem storedLibrary_compress2 {blockSize : Nat} (cctx : StoredEncoder) {source : Bytes}
    (fits : source.length < 2 ^ 63) :
    (storedLibrary blockSize).compress2 cctx (compressBound source.length) source =
      .ok (storedFrame (cutInto blockSizeMax source.length source)) := by
  have enough : (cutInto blockSizeMax source.length source).length ≤ source.length / 2 ^ 17 + 1 :=
    cutInto_length (by decide : 0 < blockSizeMax) (le_refl source.length)
  have length : (storedFrame (cutInto blockSizeMax source.length source)).length =
      9 + (3 * (cutInto blockSizeMax source.length source).length + source.length) := by
    rw [storedFrame, List.length_append, List.length_append, storedParts_length,
      storedBlock_length, cutInto_flatten]
    simp only [storedHeader, List.length_cons, List.length_nil]
    omega
  simp only [storedLibrary]
  rw [length, compressBound, if_pos]
  split <;> omega

theorem storedFrame_cutInto (dictionary : Option Bytes) (source : Bytes) :
    (undeclaredFormat storedBlocks).DataFrame dictionary
      (storedFrame (cutInto blockSizeMax source.length source)) source := by
  have isFrame := storedFrame_dataFrame dictionary
    (cutInto_fit (by decide : 0 < blockSizeMax) (le_refl source.length))
  rwa [cutInto_flatten] at isFrame

end

/-! ## Frames in many calls -/

/-- What the encoder has taken and given are the blocks of a frame, up to what
it still holds. -/
structure Encodes (blockSize : Nat) (encoder : StoredEncoder) (phase : Option Directive)
    (taken given : Bytes) (parts : List Bytes) : Prop where
  fit : ∀ part ∈ parts, part.length ≤ blockSize
  room : encoder.inBuff.length ≤ blockSize
  takes : taken = parts.flatten ++ encoder.inBuff
  gives : given ++ encoder.outBuff = (if encoder.started then storedHeader else []) ++
    (storedParts parts ++ if encoder.ended then storedBlock true [] else [])
  unstarted : encoder.started = false → parts = []
  ended : encoder.ended = true →
    encoder.started = true ∧ encoder.inBuff = [] ∧ phase = some .finish

namespace Encodes

variable {blockSize : Nat} {encoder : StoredEncoder} {phase : Option Directive}
  {taken given : Bytes} {parts : List Bytes}

theorem fresh (blockSize : Nat) : Encodes blockSize .fresh none [] [] [] where
  fit := by simp
  room := Nat.zero_le _
  takes := rfl
  gives := rfl
  unstarted := fun _ => rfl
  ended := fun absurd => by cases absurd

theorem gives_header (encodes : Encodes blockSize encoder phase taken given parts)
    (unended : encoder.ended = false) (more : Bytes) :
    given ++ (encoder.outBuff ++ (encoder.missingHeader ++ more)) =
      storedHeader ++ (storedParts parts ++ more) := by
  rw [← List.append_assoc, encodes.gives, unended]
  cases started : encoder.started with
  | false =>
      rw [encodes.unstarted started]
      simp [StoredEncoder.missingHeader, started, storedParts]
  | true => simp [StoredEncoder.missingHeader, started]

theorem writeBlock (encodes : Encodes blockSize encoder phase taken given parts)
    (unended : encoder.ended = false) :
    Encodes blockSize encoder.writeBlock phase taken given (parts ++ [encoder.inBuff]) where
  fit := by
    intro part member
    rcases List.mem_append.mp member with member | member
    · exact encodes.fit part member
    · exact List.mem_singleton.mp member ▸ encodes.room
  room := Nat.zero_le _
  takes := by simp [StoredEncoder.writeBlock, encodes.takes]
  gives := by
    have gives := encodes.gives_header unended (storedBlock false encoder.inBuff)
    simp only [StoredEncoder.writeBlock, unended]
    rw [gives]
    simp [storedParts]
  unstarted := fun absurd => by cases absurd
  ended := fun absurd => by simp [StoredEncoder.writeBlock, unended] at absurd

theorem writeRest (encodes : Encodes blockSize encoder phase taken given parts)
    (unended : encoder.ended = false) :
    encoder.writeRest.inBuff = [] ∧ encoder.writeRest.ended = false ∧
      ∃ parts, Encodes blockSize encoder.writeRest phase taken given parts := by
  rw [StoredEncoder.writeRest]
  split
  · rename_i empty
    exact ⟨empty, unended, parts, encodes⟩
  · exact ⟨rfl, unended, _, encodes.writeBlock unended⟩

theorem writeEnd (encodes : Encodes blockSize encoder phase taken given parts) :
    encoder.writeEnd.ended = true ∧
      ∃ parts, Encodes blockSize encoder.writeEnd (some .finish) taken given parts := by
  rw [StoredEncoder.writeEnd]
  split
  · rename_i ended
    have facts := encodes.ended ended
    exact ⟨ended, parts, encodes.fit, encodes.room, encodes.takes, encodes.gives,
      encodes.unstarted, fun _ => ⟨facts.1, facts.2.1, rfl⟩⟩
  · rename_i unended
    rcases encodes.writeRest (Bool.eq_false_iff.mpr unended) with ⟨empty, unended, parts, encodes⟩
    refine ⟨rfl, parts, encodes.fit, Nat.zero_le _, ?_, ?_, (fun absurd => by cases absurd),
      fun _ => ⟨rfl, rfl, rfl⟩⟩
    · simpa [empty] using encodes.takes
    · exact encodes.gives_header unended _

theorem handOn (encodes : Encodes blockSize encoder phase taken given parts)
    (capacity : Nat) : Encodes blockSize { encoder with outBuff := encoder.outBuff.drop capacity }
      phase taken (given ++ encoder.outBuff.take capacity) parts :=
  ⟨encodes.fit, encodes.room, encodes.takes,
    by simpa [List.append_assoc] using encodes.gives, encodes.unstarted, encodes.ended⟩

theorem isFrame (encodes : Encodes blockSize encoder phase taken given parts)
    (small : blockSize ≤ blockSizeMax) (ended : encoder.ended = true)
    (drained : encoder.outBuff = []) (dictionary : Option Bytes) :
    (undeclaredFormat storedBlocks).DataFrame dictionary given taken := by
  have facts := encodes.ended ended
  have gives := encodes.gives
  rw [drained, List.append_nil, ended, facts.1] at gives
  rw [encodes.takes, facts.2.1, List.append_nil, gives]
  exact storedFrame_dataFrame dictionary fun part member => (encodes.fit part member).trans small

theorem unended_of_flush (encodes : Encodes blockSize encoder phase taken given parts)
    (allowed : phase = none ∨ phase = some .flush) : encoder.ended = false := by
  by_contra ended
  have finishing := (encodes.ended (by simpa using ended)).2.2
  rcases allowed with rfl | rfl <;> cases finishing

theorem changePhase (encodes : Encodes blockSize encoder phase taken given parts)
    (unended : encoder.ended = false) (phase' : Option Directive) :
    Encodes blockSize encoder phase' taken given parts :=
  ⟨encodes.fit, encodes.room, encodes.takes, encodes.gives, encodes.unstarted,
    fun ended => absurd (unended.symm.trans ended) Bool.false_ne_true⟩

theorem load (encodes : Encodes blockSize encoder none taken given parts)
    (room : encoder.inBuff.length < blockSize) (source : Bytes) :
    (encoder.load blockSize source).inBuff.length < blockSize ∧ ∃ parts,
      Encodes blockSize (encoder.load blockSize source) none
        (taken ++ source.take (encoder.taken blockSize source)) given parts := by
  have unended := encodes.unended_of_flush (Or.inl rfl)
  have loaded : Encodes blockSize
      { encoder with inBuff := encoder.inBuff ++ source.take (encoder.taken blockSize source) } none
      (taken ++ source.take (encoder.taken blockSize source)) given parts := by
    refine ⟨encodes.fit, ?_, ?_, encodes.gives, encodes.unstarted, fun ended => ?_⟩
    · simp only [List.length_append, List.length_take, StoredEncoder.taken]
      omega
    · simp only [encodes.takes, List.append_assoc]
    · rw [unended] at ended
      cases ended
  simp only [StoredEncoder.load]
  split
  · rename_i short
    exact ⟨short, parts, loaded⟩
  · exact ⟨by simp only [StoredEncoder.writeBlock, List.length_nil]; omega, _,
      loaded.writeBlock unended⟩

end Encodes

section

variable {blockSize capacity : Nat} {encoder : StoredEncoder} {phase : Option Directive}
  {taken given source : Bytes}

def StoredEncoder.held (encoder : StoredEncoder) : Nat :=
  encoder.outBuff.length + (encoder.inBuff.length + 3 * min 1 encoder.inBuff.length) +
    6 * (!encoder.started).toNat + 3 * (!encoder.ended).toNat

theorem StoredEncoder.missingHeader_length (encoder : StoredEncoder) :
    encoder.missingHeader.length = 6 * (!encoder.started).toNat := by
  rw [missingHeader]
  cases encoder.started <;> rfl

theorem StoredEncoder.held_writeRest (encoder : StoredEncoder) :
    encoder.writeRest.held = encoder.held := by
  rw [writeRest]
  split
  · rfl
  · rename_i nonempty
    have positive := List.length_pos_iff.mpr nonempty
    simp only [writeBlock, held, List.length_append, missingHeader_length, storedBlock_length,
      List.length_nil, Bool.not_true, Bool.toNat_false]
    omega

theorem StoredEncoder.held_writeEnd (encoder : StoredEncoder)
    (empties : encoder.writeRest.inBuff = []) (same : encoder.writeRest.ended = encoder.ended) :
    encoder.writeEnd.held = encoder.held := by
  rw [writeEnd]
  split
  · rfl
  · rename_i unended
    rw [← held_writeRest encoder]
    have unended : encoder.writeRest.ended = false := same.trans (Bool.eq_false_iff.mpr unended)
    simp only [held, List.length_append, missingHeader_length, storedBlock_length, List.length_nil,
      empties, unended, Bool.not_true, Bool.not_false, Bool.toNat_false, Bool.toNat_true]
    omega

theorem StoredEncoder.held_handOn (encoder : StoredEncoder) (consumed : Nat)
    (room : 0 < capacity) (left : capacity < encoder.outBuff.length) :
    (encoder.handOn capacity consumed).context.held < encoder.held := by
  simp only [handOn, held, List.length_drop]
  omega

theorem storedStream_flush (encoder : StoredEncoder) :
    storedStream blockSize encoder .flush capacity [] = encoder.writeRest.handOn capacity 0 := rfl

theorem storedStream_finish_unfinished {status : Nat}
    (unfinished : (storedStream blockSize encoder .finish capacity []).status =
      .ok (status + 1)) :
    storedStream blockSize encoder .finish capacity [] = encoder.writeEnd.handOn capacity 0 ∧
      capacity < encoder.writeEnd.outBuff.length := by
  simp only [storedStream] at unfinished ⊢
  split at unfinished
  · rename_i drained
    simp only [StoredEncoder.handOn, List.drop_eq_nil_iff, Except.ok.injEq] at drained unfinished
    omega
  · rename_i left
    simp only [StoredEncoder.handOn, List.drop_eq_nil_iff] at left
    rw [if_neg (by simpa [StoredEncoder.handOn] using left)]
    exact ⟨rfl, by omega⟩

theorem storedStream_finish_finished
    (finished : (storedStream blockSize encoder .finish capacity []).status = .ok 0) :
    encoder.writeEnd.outBuff.drop capacity = [] ∧
      storedStream blockSize encoder .finish capacity [] =
        { encoder.writeEnd.handOn capacity 0 with context := .fresh } := by
  simp only [storedStream] at finished ⊢
  split at finished
  · rename_i drained
    exact ⟨drained, if_pos drained⟩
  · rename_i left
    simp only [StoredEncoder.handOn, List.drop_eq_nil_iff, Except.ok.injEq] at left finished
    omega

theorem storedStream_encodes (positive : 0 < blockSize)
    (session : EncodingSession (storedStream blockSize) .fresh encoder phase taken given) :
    encoder.inBuff.length < blockSize ∧
      ∃ parts, Encodes blockSize encoder phase taken given parts := by
  induction session with
  | initial => exact ⟨positive, [], .fresh blockSize⟩
  | @proceed encoder taken given capacity source status session accepted induction =>
      rcases induction with ⟨room, parts, encodes⟩
      rcases encodes.load room source with ⟨room, parts, encodes⟩
      exact ⟨room, parts, encodes.handOn capacity⟩
  | @unfinished encoder phase directive taken given capacity status session drains allowed
      unfinished induction =>
      rcases induction with ⟨room, parts, encodes⟩
      cases directive with
      | proceed => exact absurd rfl drains
      | flush =>
          rcases encodes.writeRest (encodes.unended_of_flush allowed) with
            ⟨empty, unended, parts, encodes⟩
          have room : (encoder.writeRest.handOn capacity 0).context.inBuff.length < blockSize := by
            simpa [StoredEncoder.handOn, empty] using positive
          exact ⟨room, parts, (encodes.changePhase unended (some .flush)).handOn capacity⟩
      | finish =>
          rcases encodes.writeEnd with ⟨ended, parts, encodes⟩
          have room : (encoder.writeEnd.handOn capacity 0).context.inBuff.length < blockSize := by
            simpa [StoredEncoder.handOn, (encodes.ended ended).2.1] using positive
          rw [(storedStream_finish_unfinished unfinished).1]
          exact ⟨room, parts, encodes.handOn capacity⟩
  | @flushed encoder phase taken given capacity session allowed finished induction =>
      rcases induction with ⟨room, parts, encodes⟩
      rcases encodes.writeRest (encodes.unended_of_flush allowed) with
        ⟨empty, unended, parts, encodes⟩
      have room : (encoder.writeRest.handOn capacity 0).context.inBuff.length < blockSize := by
        simpa [StoredEncoder.handOn, empty] using positive
      exact ⟨room, parts, (encodes.changePhase unended none).handOn capacity⟩
  | finished session allowed finished induction =>
      rw [(storedStream_finish_finished finished).2]
      exact ⟨positive, [], .fresh blockSize⟩

/-- The stored stream encoder satisfies the contract of an encoder. -/
theorem storedStream_contract (positive : 0 < blockSize) (small : blockSize ≤ blockSizeMax)
    (dictionary : Option Bytes) : EncoderContract (storedStream blockSize) .fresh
      ((undeclaredFormat storedBlocks).DataFrame dictionary) where
  proceeds := by
    intro encoder taken given capacity source session room nonempty
    exact ⟨_, rfl, Nat.min_le_left _ _, List.length_take_le _ _⟩
  drains := by
    intro encoder phase directive taken given capacity session drains allowed room
    cases directive with
    | proceed => exact absurd rfl drains
    | flush => exact ⟨_, rfl, List.length_take_le _ _⟩
    | finish =>
        simp only [storedStream]
        split <;> exact ⟨_, rfl, List.length_take_le _ _⟩
  frames := by
    intro encoder phase taken given capacity session allowed finished
    rcases storedStream_encodes positive session with ⟨room, parts, encodes⟩
    rcases encodes.writeEnd with ⟨ended, parts, encodes⟩
    have drained := storedStream_finish_finished finished
    rw [drained.2]
    exact (encodes.handOn capacity).isFrame small ended drained.1 dictionary
  progress := by
    refine ⟨StoredEncoder.held, ?_, ?_⟩
    · intro encoder taken given capacity source status session room nonempty accepted
      have space := (storedStream_encodes positive session).1
      have available := List.length_pos_iff.mpr nonempty
      left
      change 0 < min source.length (blockSize - encoder.inBuff.length)
      omega
    · intro encoder phase directive taken given capacity status session drains allowed room
        unfinished
      rcases storedStream_encodes positive session with ⟨space, parts, encodes⟩
      cases directive with
      | proceed => exact absurd rfl drains
      | flush =>
          have left : capacity < encoder.writeRest.outBuff.length := by
            have status := Except.ok.inj unfinished
            omega
          rw [storedStream_flush, ← StoredEncoder.held_writeRest encoder]
          exact StoredEncoder.held_handOn _ 0 room left
      | finish =>
          have left := storedStream_finish_unfinished unfinished
          rw [left.1]
          apply (StoredEncoder.held_handOn _ 0 room left.2).trans_eq
          by_cases ended : encoder.ended = true
          · rw [StoredEncoder.writeEnd, if_pos ended]
          · have rest := encodes.writeRest (Bool.eq_false_iff.mpr ended)
            exact StoredEncoder.held_writeEnd encoder rest.1
              (rest.2.1.trans (Bool.eq_false_iff.mpr ended).symm)

theorem storedLibrary_prepared {dictionary : Option Bytes} {cctx : StoredEncoder}
    (prepared : (storedLibrary blockSize).Prepared dictionary cctx) : cctx = .fresh := by
  induction prepared with
  | create created => exact (Option.some.inj created).symm
  | level prepared level induction => exact induction
  | reference prepared referenced induction => exact (Except.ok.inj referenced).symm.trans induction
  | load prepared loaded induction => exact (Except.ok.inj loaded).symm.trans induction

theorem storedLibrary_accepts (dictionary : Option Bytes) :
    (storedLibrary blockSize).Accepts dictionary :=
  ⟨⟨_, rfl⟩, fun _ _ _ => ⟨_, rfl⟩, fun _ _ => ⟨_, rfl⟩⟩

theorem storedLibrary_oneShotContract (blockSize : Nat) (dictionary : Option Bytes) :
    (storedLibrary blockSize).OneShotContract (undeclaredFormat storedBlocks) dictionary where
  compresses := fun _ source fits =>
    ⟨_, storedLibrary_compress2 _ fits, storedFrame_cutInto dictionary source⟩

end

end ZstdRuby.Libzstd
