/-
The course of an export. Chunks are pulled from the left, and each row is
handed to the visitor before the next chunk is pulled. The first event that
fails ends the export with its own error: a chunk that cannot be had, a
malformed header, a malformed frame, or the visitor (`Fails`). Up to there
everything has happened once and in order, and nothing has happened after
it (`export_course`).

# Pulling

A list of chunks does not show how many of them were looked at. So pulling
a chunk is given an effect here, any at all, on the state that the visitor
works on; the export itself is the case of no effect (`pulling_still`). As
the effects of pulling and of visiting are told apart by some state, the
state that is left tells which events took place and in which order.

# The argument

One chunk holds a row, holds none, or fails (`holds_or_fails`), and the
first chunk is told apart from the others only there. By induction on the
chunks a run gets through all of them, or through some up to one that fails
(`completes_or_fails`); what it answers is read off in either case, as a run
goes on behind what it got through (`visitChunks_append`).
-/
import DataAccess.Proofs.Bulk.Canonical

namespace DataAccess.Bulk

variable {σ α : Type}

-- ================================================================== events

/-- Something that happens in an export. -/
inductive Happening where
  | pulled (chunk : Chunk)
  | visited (row : BulkRow)

namespace Happening

/-- The row that is visited. -/
def row? : Happening → Option BulkRow
  | .pulled _ => none
  | .visited row => some row

/-- What happens to the state. -/
def perform (pull : Chunk → σ → σ) (visit : BulkRow → EStateM Error σ Unit) :
    Happening → EStateM Error σ Unit
  | .pulled chunk => modify (pull chunk)
  | .visited row => visit row

/-- What a mapper makes of the rows that are visited. -/
def gather (pull : Chunk → σ → σ) (mapper : BulkRow → EStateM Error σ α) :
    List Happening → EStateM Error σ (List α)
  | [] => pure []
  | .pulled chunk :: happened => do
    modify (pull chunk)
    gather pull mapper happened
  | .visited row :: happened => do
    let x ← mapper row
    let xs ← gather pull mapper happened
    return x :: xs

end Happening

/-- The frame in a chunk: in the first one what follows its header, if
anything does, in any other one all of it. -/
inductive FrameIn : Bool → Bytes → Bytes → Prop where
  | body {bytes frame : Bytes} (hbody : bodyOf bytes = .ok frame)
      (hsome : frame ≠ []) : FrameIn true bytes frame
  | whole (bytes : Bytes) : FrameIn false bytes bytes

/-- What a chunk holds: a row, or none if it has only a header or is a
trailer. -/
inductive Holds (types : List BulkType) :
    Bool → Chunk → Option BulkRow → Prop where
  | header {bytes : Bytes} (hbody : bodyOf bytes = .ok []) :
      Holds types true (.ok bytes) none
  | frame {first : Bool} {bytes frame : Bytes} {row? : Option BulkRow}
      (hframe : FrameIn first bytes frame)
      (hread : decodeFrame types frame = .ok row?) :
      Holds types first (.ok bytes) row?

/-- How a chunk ends an export: with which error, and from one state of the
visitor to which other. -/
inductive Fails (types : List BulkType)
    (visit : BulkRow → EStateM Error σ Unit) :
    Bool → Chunk → σ → Error → σ → Prop where
  /-- The chunk cannot be had. -/
  | source (first : Bool) (e : Error) (s : σ) :
      Fails types visit first (.error e) s e s
  | header {bytes : Bytes} {fault : FrameFault}
      (hbody : bodyOf bytes = .error fault) (s : σ) :
      Fails types visit true (.ok bytes) s (.decode (.frame fault) bytes) s
  | frame {first : Bool} {bytes frame : Bytes} {fault : FrameFault}
      (hframe : FrameIn first bytes frame)
      (hread : decodeFrame types frame = .error fault) (s : σ) :
      Fails types visit first (.ok bytes) s (.decode (.frame fault) frame) s
  /-- The visitor fails on the row of the chunk. -/
  | visitor {first : Bool} {bytes frame : Bytes} {row : BulkRow}
      (hframe : FrameIn first bytes frame)
      (hread : decodeFrame types frame = .ok (some row)) {s s' : σ}
      {e : Error} (hvisit : visit row s = .error e s') :
      Fails types visit first (.ok bytes) s
        (.decode (.frame (.mapper e.message)) frame) s'

/-- What happens while chunks are pulled that can all be read. -/
inductive Unfolds (types : List BulkType) :
    Bool → List Chunk → List Happening → Prop where
  | nil (first : Bool) : Unfolds types first [] []
  | cons {first : Bool} {chunk : Chunk} {row? : Option BulkRow}
      {chunks : List Chunk} {happened : List Happening}
      (hholds : Holds types first chunk row?)
      (hrest : Unfolds types false chunks happened) :
      Unfolds types first (chunk :: chunks)
        (.pulled chunk :: row?.toList.map .visited ++ happened)

/-- All of the chunks are got through, with these happenings, from one state
to the other. -/
def Completes (types : List BulkType) (pull : Chunk → σ → σ)
    (visit : BulkRow → EStateM Error σ Unit) (first : Bool)
    (chunks : List Chunk) (s : σ) (happened : List Happening) (s' : σ) :
    Prop :=
  Unfolds types first chunks happened
    ∧ happened.forM (Happening.perform pull visit) s = .ok () s'

-- ================================================================= pulling

section

variable (types : List BulkType) (pull : Chunk → σ → σ)
  (visit : BulkRow → EStateM Error σ Unit)

/-- Visits the row of a chunk, if there is one; returns how many. -/
def visitChunk (first : Bool) : Chunk → EStateM Error σ Nat
  | .error e => throw e
  | .ok bytes =>
    if first then
      match bodyOf bytes with
      | .error fault => throw (frameError fault bytes)
      | .ok [] => pure 0
      | .ok body => visitFrame types visit body
    else visitFrame types visit bytes

/-- Pulls chunks one by one and visits the row of each. -/
def visitChunks : Bool → List Chunk → EStateM Error σ Nat
  | _, [] => pure 0
  | first, chunk :: chunks => do
    modify (pull chunk)
    let n ← visitChunk types visit first chunk
    let m ← visitChunks false chunks
    return n + m

/-- An export whose chunks are pulled with an effect. -/
def forEachPulling : List Chunk → EStateM Error σ Nat
  | [] => throw (frameError .noHeader [])
  | chunk :: chunks => visitChunks types pull visit true (chunk :: chunks)

/-- The effect of pulling a chunk next to the rows that are collected. -/
def keeping (chunk : Chunk) (w : σ × List α) : σ × List α :=
  (pull chunk w.1, w.2)

/-- The rows of such an export, mapped. -/
def decodePulling (mapper : BulkRow → EStateM Error σ α)
    (chunks : List Chunk) : EStateM Error σ (List α) := fun s =>
  match forEachPulling types (keeping pull) (collecting mapper) chunks
    (s, []) with
  | .ok _ (s, rows) => .ok rows s
  | .error e (s, _) => .error e s

/-- Frames are chunks without anything in between. -/
theorem visitFrames_eq (chunks : List Chunk) :
    visitFrames types visit chunks
      = visitChunks types (fun _ s => s) visit false chunks := by
  induction chunks with
  | nil => rfl
  | cons chunk chunks ih =>
      cases chunk with
      | error e => rfl
      | ok frame =>
          simp only [visitFrames, visitChunks, ih]
          rfl

/-- If pulling has no effect, this is the export as it is. -/
theorem pulling_still :
    forEachPulling types (fun _ s => s) visit = forEach types visit := by
  funext chunks
  cases chunks with
  | nil => rfl
  | cons chunk chunks =>
      cases chunk with
      | error e => rfl
      | ok bytes =>
          simp only [forEachPulling, visitChunks, visitChunk, forEach,
            ← visitFrames_eq]
          cases bodyOf bytes with
          | error fault => rfl
          | ok body =>
              cases body with
              | cons byte body => rfl
              | nil =>
                  simp only [if_true, pure_bind, Nat.zero_add, bind_pure]
                  rfl

/-- So it is if the rows are mapped. -/
theorem decoding_still (mapper : BulkRow → EStateM Error σ α) :
    decodePulling types (fun _ s => s) mapper = decode types mapper := by
  funext chunks s
  unfold decodePulling decode
  rw [← pulling_still]
  rfl

end

-- =============================================================== one chunk

section

variable {types : List BulkType} {visit : BulkRow → EStateM Error σ Unit}
  {first : Bool} {chunk : Chunk} {s s' : σ}

/-- A chunk is visited as the frame in it. -/
theorem visitChunk_frame {bytes frame : Bytes}
    (h : FrameIn first bytes frame) :
    visitChunk types visit first (.ok bytes) = visitFrame types visit frame := by
  cases h with
  | whole => rfl
  | body hbody hsome =>
      obtain ⟨byte, more, rfl⟩ := List.exists_cons_of_ne_nil hsome
      simp only [visitChunk, hbody, if_true]

/-- A chunk that holds a row is visited with it. -/
theorem visitChunk_of_holds {row? : Option BulkRow}
    (h : Holds types first chunk row?)
    (hvisit : row?.toList.forM visit s = .ok () s') :
    visitChunk types visit first chunk s = .ok row?.toList.length s' := by
  cases h with
  | header hbody =>
      cases hvisit
      simp only [visitChunk, hbody, if_true]
      rfl
  | frame hframe hread =>
      rw [visitChunk_frame hframe]
      cases row? with
      | none =>
          cases hvisit
          exact visitFrame_none _ hread
      | some row =>
          obtain ⟨_, s₁, hrow, hdone⟩ := EStateM.bind_eq_ok_iff.mp hvisit
          cases hdone
          exact visitFrame_row hread hrow

/-- A chunk that fails is told as its failure. -/
theorem visitChunk_of_fails {e : Error}
    (h : Fails types visit first chunk s e s') :
    visitChunk types visit first chunk s = .error e s' := by
  cases h with
  | source => rfl
  | header hbody =>
      simp only [visitChunk, hbody, if_true]
      rfl
  | frame hframe hread =>
      rw [visitChunk_frame hframe]
      simp only [visitFrame, hread, frameError]
  | visitor hframe hread hvisit =>
      rw [visitChunk_frame hframe]
      simp only [visitFrame, hread, hvisit, frameError]

/-- A frame can be read and visited, or it fails. -/
theorem holds_or_fails_of_frame {bytes frame : Bytes}
    (hframe : FrameIn first bytes frame) (s : σ) :
    (∃ row? s', Holds types first (.ok bytes) row?
        ∧ row?.toList.forM visit s = .ok () s')
      ∨ ∃ e s', Fails types visit first (.ok bytes) s e s' := by
  cases hread : decodeFrame types frame with
  | error fault => exact .inr ⟨_, s, .frame hframe hread s⟩
  | ok row? =>
      cases row? with
      | none => exact .inl ⟨none, s, .frame hframe hread, rfl⟩
      | some row =>
          cases hvisit : visit row s with
          | error e s' => exact .inr ⟨_, s', .visitor hframe hread hvisit⟩
          | ok _ s' =>
              refine .inl ⟨some row, s', .frame hframe hread, ?_⟩
              exact EStateM.bind_of_eq_ok hvisit _

/-- So can any chunk. -/
theorem holds_or_fails (types : List BulkType)
    (visit : BulkRow → EStateM Error σ Unit) (first : Bool) (chunk : Chunk)
    (s : σ) :
    (∃ row? s', Holds types first chunk row?
        ∧ row?.toList.forM visit s = .ok () s')
      ∨ ∃ e s', Fails types visit first chunk s e s' := by
  cases chunk with
  | error e => exact .inr ⟨e, s, .source first e s⟩
  | ok bytes =>
      cases first with
      | false => exact holds_or_fails_of_frame (.whole bytes) s
      | true =>
          cases hbody : bodyOf bytes with
          | error fault => exact .inr ⟨_, s, .header hbody s⟩
          | ok body =>
              cases body with
              | nil => exact .inl ⟨none, s, .header hbody, rfl⟩
              | cons byte more =>
                  exact holds_or_fails_of_frame
                    (.body hbody (List.cons_ne_nil byte more)) s

end

-- =================================================================== a run

section

variable {types : List BulkType} {pull : Chunk → σ → σ}
  {visit : BulkRow → EStateM Error σ Unit} {first : Bool}
  {happened : List Happening} {s s' : σ}

/-- How many rows are visited. -/
def visits (happened : List Happening) : Nat :=
  (happened.filterMap Happening.row?).length

/-- What happens with one chunk and what happens after it. -/
theorem forM_chunk_iff {chunk : Chunk} {row? : Option BulkRow} :
    (Happening.pulled chunk :: row?.toList.map .visited ++ happened).forM
        (Happening.perform pull visit) s = .ok () s'
      ↔ ∃ s₁, row?.toList.forM visit (pull chunk s) = .ok () s₁
        ∧ happened.forM (Happening.perform pull visit) s₁ = .ok () s' := by
  cases row? with
  | none =>
      constructor
      · intro h
        exact ⟨pull chunk s, rfl, h⟩
      · rintro ⟨s₁, ⟨⟩, h⟩
        exact h
  | some row =>
      constructor
      · intro h
        change (visit row >>= fun _ => happened.forM _) (pull chunk s) = _ at h
        obtain ⟨_, s₁, hrow, hrest⟩ := EStateM.bind_eq_ok_iff.mp h
        exact ⟨s₁, EStateM.bind_of_eq_ok hrow _, hrest⟩
      · rintro ⟨s₁, h, hrest⟩
        obtain ⟨_, s₂, hrow, hdone⟩ := EStateM.bind_eq_ok_iff.mp h
        cases hdone
        exact (EStateM.bind_of_eq_ok hrow _).trans hrest

theorem completes_nil (s : σ) : Completes types pull visit first [] s [] s :=
  ⟨.nil first, rfl⟩

/-- One chunk after the other is got through. -/
theorem Completes.cons {chunk : Chunk} {row? : Option BulkRow}
    {chunks : List Chunk} {s₁ : σ} (hholds : Holds types first chunk row?)
    (hvisit : row?.toList.forM visit (pull chunk s) = .ok () s₁)
    (hrest : Completes types pull visit false chunks s₁ happened s') :
    Completes types pull visit first (chunk :: chunks) s
      (.pulled chunk :: row?.toList.map .visited ++ happened) s' :=
  ⟨.cons hholds hrest.1, forM_chunk_iff.mpr ⟨s₁, hvisit, hrest.2⟩⟩

/-- A run goes on behind what it got through. -/
theorem visitChunks_append {earlier : List Chunk}
    (h : Completes types pull visit first earlier s happened s')
    (later : List Chunk) :
    visitChunks types pull visit first (earlier ++ later) s
      = (do
          let m ← visitChunks types pull visit (first && earlier.isEmpty) later
          return visits happened + m) s' := by
  obtain ⟨hunfolds, hperform⟩ := h
  induction hunfolds generalizing s with
  | nil first =>
      cases hperform
      simp [visits]
  | @cons first chunk row? chunks happened hholds _ ih =>
      obtain ⟨s₁, hvisit, hrest⟩ := forM_chunk_iff.mp hperform
      have hchunk := visitChunk_of_holds hholds hvisit
      -- the count is that of the first chunk and that of the others
      have hvisits : visits
          (.pulled chunk :: row?.toList.map .visited ++ happened)
          = row?.toList.length + visits happened := by
        cases row? <;>
          simp [visits, List.filterMap_cons, Happening.row?, Nat.add_comm]
      calc visitChunks types pull visit first (chunk :: chunks ++ later) s
          = (do
              let m ← visitChunks types pull visit false (chunks ++ later)
              return row?.toList.length + m) s₁ :=
            EStateM.bind_of_eq_ok hchunk _
        _ = (do
              let m ← (do
                let m ← visitChunks types pull visit
                  (false && chunks.isEmpty) later
                return visits happened + m)
              return row?.toList.length + m) s' :=
            EStateM.bind_of_eq (ih hrest) _
        _ = _ := by
            rw [hvisits]
            simp only [bind_assoc, pure_bind, Nat.add_assoc, Bool.false_and,
              List.isEmpty_cons, Bool.and_false]

/-- A run gets through all chunks, or through those before one that
fails. -/
theorem completes_or_fails (types : List BulkType) (pull : Chunk → σ → σ)
    (visit : BulkRow → EStateM Error σ Unit) (first : Bool)
    (chunks : List Chunk) (s : σ) :
    (∃ happened s', Completes types pull visit first chunks s happened s')
      ∨ ∃ earlier chunk later happened s₁ e s',
        chunks = earlier ++ chunk :: later
        ∧ Completes types pull visit first earlier s happened s₁
        ∧ Fails types visit (first && earlier.isEmpty) chunk (pull chunk s₁) e
          s' := by
  induction chunks generalizing first s with
  | nil => exact .inl ⟨[], s, completes_nil s⟩
  | cons chunk chunks ih =>
      rcases holds_or_fails types visit first chunk (pull chunk s) with
        ⟨row?, s₁, hholds, hvisit⟩ | ⟨e, s', hfails⟩
      · rcases ih false s₁ with ⟨happened, s', hrest⟩
          | ⟨earlier, failing, later, happened, s₂, e, s', rfl, hrest, hfails⟩
        · exact .inl ⟨_, s', hrest.cons hholds hvisit⟩
        · refine .inr ⟨chunk :: earlier, failing, later, _, s₂, e, s', rfl,
            hrest.cons hholds hvisit, ?_⟩
          simpa using hfails
      · refine .inr ⟨[], chunk, chunks, [], s, e, s', rfl, completes_nil s, ?_⟩
        simpa using hfails

/-- What a run through all chunks answers. -/
theorem visitChunks_of_completes {chunks : List Chunk}
    (h : Completes types pull visit first chunks s happened s') :
    visitChunks types pull visit first chunks s = .ok (visits happened) s' := by
  have happend := visitChunks_append h []
  rw [List.append_nil] at happend
  rw [happend]
  rfl

/-- What it answers if a chunk fails; the chunks behind that one do not
matter. -/
theorem visitChunks_of_fails {earlier : List Chunk} {chunk : Chunk}
    {s₁ : σ} {e : Error}
    (h : Completes types pull visit first earlier s happened s₁)
    (hfails : Fails types visit (first && earlier.isEmpty) chunk
      (pull chunk s₁) e s') (later : List Chunk) :
    visitChunks types pull visit first (earlier ++ chunk :: later) s
      = .error e s' := by
  have hchunk := visitChunk_of_fails hfails
  rw [visitChunks_append h]
  have hrun : visitChunks types pull visit (first && earlier.isEmpty)
      (chunk :: later) s₁ = .error e s' :=
    EStateM.bind_of_eq_error hchunk _
  exact EStateM.bind_of_eq_error hrun _

/-- An export with chunks is a run through them. -/
theorem forEachPulling_of_ne_nil {chunks : List Chunk} (h : chunks ≠ []) :
    forEachPulling types pull visit chunks
      = visitChunks types pull visit true chunks := by
  cases chunks with
  | nil => exact absurd rfl h
  | cons chunk chunks => rfl

end

-- ================================================================ collecting

section

variable {types : List BulkType} {pull : Chunk → σ → σ}
  {mapper : BulkRow → EStateM Error σ α} {s s' : σ}

/-- A mapper as a visitor who forgets what it makes of a row. -/
def calling (mapper : BulkRow → EStateM Error σ α) (row : BulkRow) :
    EStateM Error σ Unit := do
  let _ ← mapper row

/-- A row that is mapped is added to those before. -/
theorem collecting_of_ok {row : BulkRow} {x : α}
    (h : mapper row s = .ok x s') (xs : List α) :
    collecting mapper row (s, xs) = .ok () (s', xs ++ [x]) := by
  simp only [collecting, h]

/-- A call fails as its mapper does. -/
theorem mapper_of_calling {row : BulkRow} {e : Error}
    (h : calling mapper row s = .error e s') : mapper row s = .error e s' := by
  unfold calling at h
  cases hmapper : mapper row s with
  | ok x s₁ =>
      rw [EStateM.bind_of_eq_ok hmapper] at h
      cases h
  | error e' s₁ =>
      rw [EStateM.bind_of_eq_error hmapper] at h
      cases h
      rfl

/-- The calls of a mapper make something of every row. -/
theorem gather_of_calling {happened : List Happening}
    (h : happened.forM (Happening.perform pull (calling mapper)) s
      = .ok () s') :
    ∃ xs, Happening.gather pull mapper happened s = .ok xs s' := by
  induction happened generalizing s with
  | nil =>
      cases h
      exact ⟨[], rfl⟩
  | cons event happened ih =>
      cases event with
      | pulled chunk => exact ih h
      | visited row =>
          obtain ⟨_, s₁, hcall, hrest⟩ := EStateM.bind_eq_ok_iff.mp h
          obtain ⟨x, s₂, hmapper, hdone⟩ := EStateM.bind_eq_ok_iff.mp hcall
          cases hdone
          obtain ⟨xs, hgather⟩ := ih hrest
          refine ⟨x :: xs, ?_⟩
          calc Happening.gather pull mapper (.visited row :: happened) s
              = (do
                  let xs ← Happening.gather pull mapper happened
                  return x :: xs) s₁ := EStateM.bind_of_eq_ok hmapper _
            _ = .ok (x :: xs) s' := EStateM.bind_of_eq_ok hgather _

/-- What it makes of them is collected, behind what there is already. -/
theorem collecting_of_gather {happened : List Happening} {xs : List α}
    (h : Happening.gather pull mapper happened s = .ok xs s')
    (sofar : List α) :
    happened.forM (Happening.perform (keeping pull) (collecting mapper))
        (s, sofar) = .ok () (s', sofar ++ xs) := by
  induction happened generalizing s xs sofar with
  | nil =>
      cases h
      rw [List.append_nil]
      rfl
  | cons event happened ih =>
      cases event with
      | pulled chunk => exact ih h sofar
      | visited row =>
          obtain ⟨x, s₁, hmapper, hrest⟩ := EStateM.bind_eq_ok_iff.mp h
          obtain ⟨ys, s₂, hgather, hdone⟩ := EStateM.bind_eq_ok_iff.mp hrest
          cases hdone
          rw [List.append_cons]
          exact (EStateM.bind_of_eq_ok (collecting_of_ok hmapper sofar) _).trans
            (ih hgather _)

/-- A chunk over which the calls fail is one over which collecting fails. -/
theorem collecting_of_fails {first : Bool} {chunk : Chunk} {e : Error}
    (h : Fails types (calling mapper) first chunk s e s') (xs : List α) :
    Fails types (collecting mapper) first chunk (s, xs) e (s', xs) := by
  cases h with
  | source => exact .source first e (s, xs)
  | header hbody => exact .header hbody (s, xs)
  | frame hframe hread => exact .frame hframe hread (s, xs)
  | visitor hframe hread hvisit =>
      refine .visitor hframe hread ?_
      simp only [collecting, mapper_of_calling hvisit]

/-- Collecting goes through what the calls go through. -/
theorem Completes.collected {first : Bool} {chunks : List Chunk}
    {happened : List Happening}
    (h : Completes types pull (calling mapper) first chunks s happened s') :
    ∃ xs, Happening.gather pull mapper happened s = .ok xs s'
      ∧ Completes types (keeping pull) (collecting mapper) first chunks (s, [])
        happened (s', xs) := by
  obtain ⟨xs, hgather⟩ := gather_of_calling h.2
  exact ⟨xs, hgather, h.1, collecting_of_gather hgather []⟩

/-- The mapped rows, or how mapping them fails, next to the calls. -/
theorem decodePulling_cases (chunks : List Chunk) (s : σ) :
    (∃ e s', forEachPulling types pull (calling mapper) chunks s = .error e s'
        ∧ decodePulling types pull mapper chunks s = .error e s')
      ∨ ∃ happened xs s', Unfolds types true chunks happened
        ∧ forEachPulling types pull (calling mapper) chunks s
          = .ok (visits happened) s'
        ∧ Happening.gather pull mapper happened s = .ok xs s'
        ∧ decodePulling types pull mapper chunks s = .ok xs s' := by
  by_cases hchunks : chunks = []
  · subst hchunks
    exact .inl ⟨_, s, rfl, rfl⟩
  unfold decodePulling
  rw [forEachPulling_of_ne_nil hchunks, forEachPulling_of_ne_nil hchunks]
  rcases completes_or_fails types pull (calling mapper) true chunks s with
    ⟨happened, s', hcalls⟩
    | ⟨earlier, chunk, later, happened, s₁, e, s', rfl, hcalls, hfails⟩
  · obtain ⟨xs, hgather, hcollects⟩ := hcalls.collected
    refine .inr ⟨happened, xs, s', hcalls.1,
      visitChunks_of_completes hcalls, hgather, ?_⟩
    rw [visitChunks_of_completes hcollects]
  · obtain ⟨xs, -, hcollects⟩ := hcalls.collected
    have hstops := collecting_of_fails hfails xs
    refine .inl ⟨e, s', visitChunks_of_fails hcalls hfails later, ?_⟩
    rw [visitChunks_of_fails hcollects hstops later]

end

-- ============================================================== the course

/-- An export without chunks fails for want of a header. Else either every
chunk is got through, and the answer is the number of rows; or some are, and
then one fails, and its failure is the answer, with the state as it is after
just what happened up to there. Mapping the rows fails in the same way and
from the same calls; if it does not fail it gives what the mapper made of
the rows, call by call. All of this is so whatever pulling a chunk does to
the state, the export itself being the case where it does nothing. -/
theorem export_course (types : List BulkType) (pull : Chunk → σ → σ)
    (visit : BulkRow → EStateM Error σ Unit)
    (mapper : BulkRow → EStateM Error σ α) (chunks : List Chunk) (s : σ) :
    forEachPulling types (fun _ s => s) visit = forEach types visit
      ∧ decodePulling types (fun _ s => s) mapper = decode types mapper
      ∧ ((chunks = []
          ∧ forEachPulling types pull visit chunks s
            = .error (.decode (.frame .noHeader) []) s)
        ∨ (chunks ≠ [] ∧ ∃ happened s',
          Completes types pull visit true chunks s happened s'
          ∧ forEachPulling types pull visit chunks s
            = .ok (visits happened) s')
        ∨ ∃ earlier chunk later happened s₁ e s',
          chunks = earlier ++ chunk :: later
          ∧ Completes types pull visit true earlier s happened s₁
          ∧ Fails types visit earlier.isEmpty chunk (pull chunk s₁) e s'
          ∧ forEachPulling types pull visit chunks s = .error e s')
      ∧ ((∃ e s', forEachPulling types pull (calling mapper) chunks s
            = .error e s'
          ∧ decodePulling types pull mapper chunks s = .error e s')
        ∨ ∃ happened xs s', Unfolds types true chunks happened
          ∧ forEachPulling types pull (calling mapper) chunks s
            = .ok (visits happened) s'
          ∧ Happening.gather pull mapper happened s = .ok xs s'
          ∧ decodePulling types pull mapper chunks s = .ok xs s') := by
  refine ⟨pulling_still types visit, decoding_still types mapper, ?_,
    decodePulling_cases chunks s⟩
  · by_cases hchunks : chunks = []
    · subst hchunks
      exact .inl ⟨rfl, rfl⟩
    -- there are chunks: either each is got through, or there is a first that
    -- is not
    refine .inr ?_
    rw [forEachPulling_of_ne_nil hchunks]
    rcases completes_or_fails types pull visit true chunks s with
      ⟨happened, s', hcompletes⟩
      | ⟨earlier, chunk, later, happened, s₁, e, s', rfl, hcompletes, hfails⟩
    · exact .inl ⟨hchunks, happened, s', hcompletes,
        visitChunks_of_completes hcompletes⟩
    · exact .inr ⟨earlier, chunk, later, happened, s₁, e, s', rfl, hcompletes,
        hfails, visitChunks_of_fails hcompletes hfails later⟩

end DataAccess.Bulk
