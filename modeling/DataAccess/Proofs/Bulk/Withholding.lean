/-
A chunk that cannot be had. The chunks of an export are asked for one by one,
so a chunk is asked for only if everything before it could be decoded. If it
cannot be had then, the export fails with just that (`decode_withheld`);
in every other case it fails, if it does, over what it got, and with an error
that names no place (`decode_unwithheld`).
-/
import DataAccess.Proofs.Error.Placeless

namespace DataAccess.Bulk

variable {σ α : Type}

-- ================================================================== asking

/-- The chunks up to the first one that cannot be had, and why it cannot. -/
def untilFailure : List ScriptedChunk → List Bytes × Option DriverError
  | [] => ([], none)
  | .error failure :: _ => ([], some failure)
  | .ok chunk :: rest =>
    (chunk :: (untilFailure rest).1, (untilFailure rest).2)

/-- The failure of the chunk that an export is left without, if it asks for
one that cannot be had. -/
def withheld (types : List BulkType) (mapper : BulkRow → EStateM Error σ α)
    (state : σ) (chunks : List ScriptedChunk) : List DriverError :=
  match untilFailure chunks with
  | (_, none) => []
  | ([], some failure) => [failure]
  | (had, some failure) =>
    match (decode types mapper (had.map .ok)).answer state with
    | .ok _ => [failure]
    | .error _ => []

/-- The decoder sees the chunks that can be had, and what is behind them if
one cannot. -/
theorem chunksOf_eq (context : StatementContext)
    (chunks : List ScriptedChunk) :
    ∃ rest, Action.chunksOf context chunks
      = (untilFailure chunks).1.map .ok
        ++ match (untilFailure chunks).2 with
          | none => []
          | some failure => .error (.ofDriver failure context) :: rest := by
  induction chunks with
  | nil => exact ⟨[], rfl⟩
  | cons chunk chunks ih =>
      cases chunk with
      | error failure => exact ⟨Action.chunksOf context chunks, rfl⟩
      | ok bytes =>
          obtain ⟨rest, hrest⟩ := ih
          exact ⟨rest, congrArg (Except.ok bytes :: ·) hrest⟩

-- ================================================================ decoding

section

variable (types : List BulkType) (visit : BulkRow → EStateM Error σ Unit)

/-- Chunks are decoded in turn. -/
theorem visitFrames_append (chunks more : List Chunk) :
    visitFrames types visit (chunks ++ more) = do
      let n ← visitFrames types visit chunks
      let m ← visitFrames types visit more
      return n + m := by
  induction chunks with
  | nil => simp only [List.nil_append, visitFrames, pure_bind, Nat.zero_add,
      bind_pure]
  | cons chunk chunks ih =>
      cases chunk with
      | error e => rfl
      | ok frame =>
          simp only [List.cons_append, visitFrames, ih, bind_assoc, pure_bind,
            Nat.add_assoc]

/-- The first chunk differs from the others, the last ones do not. -/
theorem forEach_append {chunks : List Chunk} (h : chunks ≠ [])
    (more : List Chunk) :
    forEach types visit (chunks ++ more) = do
      let n ← forEach types visit chunks
      let m ← visitFrames types visit more
      return n + m := by
  cases chunks with
  | nil => exact absurd rfl h
  | cons chunk chunks =>
      cases chunk with
      | error e => rfl
      | ok chunk =>
          simp only [List.cons_append, forEach]
          cases bodyOf chunk with
          | error fault => rfl
          | ok body =>
              cases body with
              | nil => exact visitFrames_append types visit chunks more
              | cons byte body =>
                  exact visitFrames_append types visit
                    (.ok (byte :: body) :: chunks) more

/-- An export that breaks off after chunks that were decoded. -/
theorem answer_broken {chunks : List Chunk} (h : chunks ≠ []) {n : Nat}
    {w : σ} (hdecoded : (forEach types visit chunks).answer w = .ok n)
    (e : Error) (rest : List Chunk) :
    (forEach types visit (chunks ++ .error e :: rest)).answer w
      = .error e := by
  rw [forEach_append types visit h, EStateM.answer_bind_ok hdecoded]
  rfl

/-- An export that failed over its first chunks asks for no more. -/
theorem answer_failed {chunks : List Chunk} (h : chunks ≠ []) {e : Error}
    {w : σ} (hfailed : (forEach types visit chunks).answer w = .error e)
    (more : List Chunk) :
    (forEach types visit (chunks ++ more)).answer w = .error e := by
  rw [forEach_append types visit h, EStateM.answer_bind_error hfailed]

/-- A frame that cannot be read names no place. -/
theorem placeless_visitFrame (frame : Bytes) (w : σ) :
    FailsAs Placeless (visitFrame types visit frame) w := by
  intro e he
  unfold visitFrame EStateM.answer at he
  cases hframe : decodeFrame types frame with
  | error fault =>
      rw [hframe] at he
      cases he
      rfl
  | ok found =>
      rw [hframe] at he
      cases found with
      | none => cases he
      | some row =>
          dsimp only at he
          cases hvisit : visit row w <;> rw [hvisit] at he <;> cases he
          rfl

/-- Nor do several. -/
theorem placeless_visitFrames (frames : List Bytes) (w : σ) :
    FailsAs Placeless (visitFrames types visit (frames.map .ok)) w := by
  induction frames generalizing w with
  | nil => exact failsAs_of_answer rfl
  | cons frame frames ih =>
      exact (placeless_visitFrame types visit frame w).bind fun _ _ =>
        (ih _).bind fun _ _ => failsAs_of_answer rfl

/-- Nor does an export without failures of the driver. -/
theorem placeless_forEach (chunks : List Bytes) (w : σ) :
    FailsAs Placeless (forEach types visit (chunks.map .ok)) w := by
  cases chunks with
  | nil => exact failsAs_throw rfl
  | cons chunk chunks =>
      simp only [List.map_cons, forEach]
      cases bodyOf chunk with
      | error fault => exact failsAs_throw rfl
      | ok body =>
          cases body with
          | nil => exact placeless_visitFrames types visit chunks w
          | cons byte body =>
              exact placeless_visitFrames types visit
                ((byte :: body) :: chunks) w

end

section

variable {types : List BulkType} {mapper : BulkRow → EStateM Error σ α}
  {state : σ} {chunks : List ScriptedChunk}

/-- Decoding fails as the visit of all rows does. -/
theorem answer_decode_error {chunks : List Chunk} {e : Error} :
    (decode types mapper chunks).answer state = .error e
      ↔ (forEach types (collecting mapper) chunks).answer (state, [])
        = .error e := by
  unfold decode EStateM.answer
  dsimp only
  generalize forEach types (collecting mapper) chunks (state, []) = run
  cases run with
  | ok n w => exact iff_of_false (by rintro ⟨⟩) (by rintro ⟨⟩)
  | error e' w =>
      constructor
      · rintro ⟨⟩
        rfl
      · rintro ⟨⟩
        rfl

/-- An export that is left without a chunk fails as the driver did. -/
theorem decode_withheld {failure : DriverError} {failures : List DriverError}
    (h : withheld types mapper state chunks = failure :: failures)
    (context : StatementContext) :
    failures = []
      ∧ (decode types mapper (Action.chunksOf context chunks)).answer state
        = .error (.ofDriver failure context) := by
  obtain ⟨rest, hchunks⟩ := chunksOf_eq context chunks
  rw [hchunks, answer_decode_error]
  unfold withheld at h
  generalize untilFailure chunks = asked at h
  obtain ⟨had, _ | found⟩ := asked
  · cases h
  cases had with
  | nil =>
      cases h
      exact ⟨rfl, rfl⟩
  | cons chunk had =>
      dsimp only at h ⊢
      cases hdecoded : (forEach types (collecting mapper)
          ((chunk :: had).map .ok)).answer (state, []) with
      | error e =>
          rw [answer_decode_error.mpr hdecoded] at h
          cases h
      | ok n =>
          split at h
          · cases h
            exact ⟨rfl, answer_broken types _ (by simp) hdecoded _ rest⟩
          · cases h

/-- An export that gets every chunk it asks for fails over what it got. -/
theorem decode_unwithheld (h : withheld types mapper state chunks = [])
    (context : StatementContext) :
    FailsAs Placeless (decode types mapper (Action.chunksOf context chunks))
      state := by
  intro e he
  obtain ⟨rest, hchunks⟩ := chunksOf_eq context chunks
  rw [answer_decode_error, hchunks] at he
  unfold withheld at h
  generalize untilFailure chunks = asked at h he
  obtain ⟨had, _ | found⟩ := asked
  · rw [List.append_nil] at he
    exact placeless_forEach types _ had _ e he
  cases had with
  | nil => cases h
  | cons chunk had =>
      dsimp only at h he
      split at h
      · cases h
      · next e' hfailed =>
        have hforEach := answer_decode_error.mp hfailed
        rw [answer_failed types _ (by simp) hforEach] at he
        cases he
        exact placeless_forEach types _ (chunk :: had) _ _ hforEach

end

end DataAccess.Bulk
