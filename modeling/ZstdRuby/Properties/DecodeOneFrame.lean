import ZstdRuby.Extension.Decompress

/-! # The drain loop of `decode_one_frame`

The loop collects the output of an unknown number of calls. It stops at the end
of the first frame, neither a call early nor a call late.
-/

namespace ZstdRuby

open Libzstd Streaming

variable {DCtx : Type} {library : DecompressLibrary DCtx} {initial : DCtx}
  {Frame : Bytes → Bytes → Prop}

/-! ## The invariant -/

/-- The calls made so far form a session with the source, have consumed its first
`pos` bytes and have given `out`. -/
structure Draining (library : DecompressLibrary DCtx) (initial : DCtx) (src : Bytes)
    (state : DrainState DCtx) : Prop where
  session : WholeSession library.decompressStream initial dStreamOutSize src state.dctx
    (src.take state.pos) state.out
  pos_le : state.pos ≤ src.length

namespace Draining

variable {src : Bytes} {state : DrainState DCtx}

theorem start (library : DecompressLibrary DCtx) (initial : DCtx) (src : Bytes) :
    Draining library initial src ⟨initial, 0, []⟩ :=
  ⟨.initial, Nat.zero_le _⟩

theorem taken_length (draining : Draining library initial src state) :
    (src.take state.pos).length = state.pos := by
  rw [List.length_take, min_eq_left draining.pos_le]

theorem drainReply_eq (draining : Draining library initial src state) :
    library.decompressStream state.dctx dStreamOutSize
      (src.drop (src.take state.pos).length) = drainReply library src state := by
  rw [draining.taken_length, drainReply]

theorem take_add (draining : Draining library initial src state) {consumed : Nat}
    (bounded : consumed ≤ (src.drop state.pos).length) :
    src.take state.pos ++ (src.drop state.pos).take consumed =
        src.take (state.pos + consumed) ∧
      state.pos + consumed ≤ src.length := by
  have within := draining.pos_le
  rw [List.length_drop] at bounded
  exact ⟨List.take_add.symm, by omega⟩

theorem bounded (contract : DecodesWhole library.decompressStream initial dStreamOutSize Frame)
    (draining : Draining library initial src state) {status : Nat}
    (replied : (drainReply library src state).status = .ok status) :
    (drainReply library src state).consumed ≤ (src.drop state.pos).length := by
  have bounded := @contract.bounded src _ _ _ status draining.session
  rw [draining.drainReply_eq, draining.taken_length] at bounded
  exact (bounded replied).1

theorem again (contract : DecodesWhole library.decompressStream initial dStreamOutSize Frame)
    (draining : Draining library initial src state) {status : Nat}
    (unfinished : (drainReply library src state).status = .ok (status + 1)) :
    Draining library initial src
      ⟨(drainReply library src state).context,
        state.pos + (drainReply library src state).consumed,
        state.out ++ (drainReply library src state).output⟩ := by
  have moved := draining.take_add (draining.bounded contract unfinished)
  refine ⟨?_, moved.2⟩
  have session := draining.session.inside (by rw [draining.drainReply_eq]; exact unfinished)
  rw [draining.drainReply_eq, draining.taken_length, moved.1] at session
  exact session

end Draining

/-! ## What the loop returns -/

/-- Whatever the source is, a normal return is the whole content of a complete
frame the source starts with. -/
theorem drain_sound (contract : WholeContract library.decompressStream initial dStreamOutSize Frame)
    {src content : Bytes} {fuel : Nat}
    (returned : Loop.run (drainPass library src) fuel ⟨initial, 0, []⟩ =
      some (.ok content)) :
    ∃ frame, frame <+: src ∧ Frame frame content := by
  refine Loop.run_ensures (Draining library initial src)
    (fun result => ∀ content, result = .ok content →
      ∃ frame, frame <+: src ∧ Frame frame content) ?_
    (Draining.start library initial src) returned content rfl
  intro state draining
  cases replied : (drainReply library src state).status with
  | error code =>
      rw [drainPass_failed replied]
      simp
  | ok status =>
      cases status with
      | zero =>
          rw [drainPass_finished replied]
          intro content equal
          cases equal
          have moved := draining.take_add (draining.bounded contract.toDecodesWhole replied)
          have isFrame := contract.sound draining.session
          rw [draining.drainReply_eq, draining.taken_length, moved.1] at isFrame
          exact ⟨_, List.take_prefix _ _, isFrame replied⟩
      | succ status =>
          rw [drainPass_unfinished replied]
          exact draining.again contract.toDecodesWhole replied

/-- On a complete frame, whatever follows it, the loop returns exactly the
frame's content. -/
theorem drain_complete
    (contract : DecodesWhole library.decompressStream initial dStreamOutSize Frame)
    {frame content : Bytes} (isFrame : Frame frame content) (trailing : Bytes) :
    Settles (fun fuel => Loop.run (drainPass library (frame ++ trailing)) fuel
      ⟨initial, 0, []⟩) (.ok content) := by
  have heads : frame <+: frame ++ trailing := List.prefix_append _ _
  -- Each call that does not end the frame consumes or delivers something.
  refine Loop.settles_to
    (fun state => Draining library initial (frame ++ trailing) state ∧
      state.pos ≤ frame.length ∧ state.out <+: content)
    (fun state => (frame.length - state.pos) + (content.length - state.out.length))
    ?_ ⟨Draining.start library initial _, Nat.zero_le _, List.nil_prefix⟩
  rintro state ⟨draining, inside, delivered⟩
  have takenLength := draining.taken_length
  rcases contract.complete draining.session isFrame heads (takenLength.le.trans inside) with
    ⟨status, replied, made⟩
  rw [draining.drainReply_eq] at replied made
  cases status with
  | zero =>
      rw [drainPass_finished replied]
      exact congrArg Except.ok (made.finished_iff.mp rfl).2
  | succ status =>
      rw [drainPass_unfinished replied]
      have within := made.within
      have delivers := made.delivers
      have progress := made.progress (Nat.succ_ne_zero _)
      have bound := delivers.length_le
      rw [takenLength] at within
      rw [List.length_append] at bound
      refine ⟨⟨draining.again contract replied, within, delivers⟩, ?_⟩
      simp only [List.length_append, drainReply] at *
      omega

end ZstdRuby
