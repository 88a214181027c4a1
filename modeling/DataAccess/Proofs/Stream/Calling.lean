/-
What a caller does with the driver: nothing but calls. `Calling` says this of
an action. It holds of statements as of everything that is put together from
parts (`Composed.calling`); beginning, ending and streams are gone through step
by step. `reaches_serveAll` puts them together. So whatever holds of a driver
and is not broken by a call holds of it at any time, for one that its handles
are in order (`numbered_serveAll`). What is said of a stream or of the calls of
a driver that is in order is thus said of every session that a caller can come
to (`Desk.Kept.exists_life_serveAll`, `Desk.Kept.agrees_serveAll`,
`Desk.Kept.exists_records_struck`).

Which calls are made, in which order, and what is made of their failures is
said elsewhere; here they may be any.
-/
import DataAccess.Proofs.Driver.Failures
import DataAccess.Proofs.Stream.Desk
import DataAccess.Proofs.Stream.Draining

namespace DataAccess

variable {τ σ α β : Type} {view : τ → Session}

/-- An action that makes any number of calls and leaves the driver alone
otherwise. Its state may hold more than the session, which `view` finds in
it. -/
def Calling (view : τ → Session) (a : EStateM Error τ α) : Prop :=
  ∀ w, (view w).driver.Reaches (view (a.after w)).driver

-- ========================================================= through the monad

/-- An action that makes no call. -/
theorem calling_quiet {a : EStateM Error τ α}
    (h : ∀ w, (view (a.after w)).driver = (view w).driver) :
    Calling view a := by
  intro w
  rw [h w]
  exact .refl

/-- What leaves the driver alone makes no call, which is some number of
calls. -/
theorem Quiet.calling {a : EStateM Error τ α} (h : Quiet view a) :
    Calling view a :=
  calling_quiet h.driver

theorem calling_pure (x : α) : Calling view (pure x : EStateM Error τ α) :=
  calling_quiet fun _ => rfl

theorem calling_throw (e : Error) :
    Calling view (throw e : EStateM Error τ α) :=
  calling_quiet fun _ => rfl

theorem calling_get : Calling view (get : EStateM Error τ τ) :=
  calling_quiet fun _ => rfl

/-- What follows on a step is asked for its results only. -/
theorem Calling.bind_of_answer {a : EStateM Error τ α}
    {f : α → EStateM Error τ β} (ha : Calling view a)
    (hf : ∀ x, (∃ w, a.answer w = .ok x) → Calling view (f x)) :
    Calling view (a >>= f) := by
  intro w
  rw [EStateM.after_bind]
  cases hanswer : a.answer w with
  | ok x => exact (ha w).trans (hf x ⟨w, hanswer⟩ _)
  | error e => exact ha w

theorem Calling.bind {a : EStateM Error τ α} {f : α → EStateM Error τ β}
    (ha : Calling view a) (hf : ∀ x, Calling view (f x)) :
    Calling view (a >>= f) :=
  ha.bind_of_answer fun x _ => hf x

namespace Action

variable {t : TransactionId} {a : Action α}

theorem calling_attempt (h : Calling id a) : Calling id (attempt a) := by
  intro s
  rw [after_attempt]
  exact h s

theorem calling_mapError (h : Calling id a) (f : Error → Error) :
    Calling id (mapError f a) := by
  intro s
  rw [after_mapError]
  exact h s

theorem calling_ofExcept (r : Except Error α) : Calling id (ofExcept r) :=
  (quiet_ofExcept r).calling

theorem calling_ignoring (h : Calling id a) : Calling id (ignoring a) :=
  h.bind fun _ => calling_pure ()

theorem calling_report (e : Event) : Calling id (report e) :=
  calling_quiet fun _ => rfl

theorem calling_modifyCache
    (f : Session → IdentityCache InstanceId → IdentityCache InstanceId)
    (h : ∀ s, a.after s = s.modifyCache t (f s)) : Calling id a :=
  (quiet_modifyCache f h).calling

-- =============================================================== the calls

/-- A call is one call. -/
theorem calling_drive (c : Nat) (call : Call) (context : StatementContext) :
    Calling id (drive context (Driver.ask c call)) := by
  intro s
  rw [after_drive]
  exact Driver.reaches_ask c call s.driver

/-- A call on the connection of a transaction, if it has one. -/
theorem calling_onConnectionQuietly (call : Call) (sql : String)
    (params : List Value) :
    Calling id (onConnectionQuietly t sql params fun c =>
      Driver.ask c call) := by
  intro s
  cases hc : s.connectionOf? t with
  | none =>
      rw [EStateM.after_of_eq_error (onConnectionQuietly_released hc ..)]
      exact .refl
  | some c =>
      rw [after_onConnectionQuietly hc]
      exact calling_drive c call _ s

/-- That a call is reported first makes no difference. -/
theorem calling_onConnection (call : Call) (sql : String)
    (params : List Value) :
    Calling id (onConnection t sql params fun c => Driver.ask c call) :=
  calling_get.bind fun _ => (calling_report _).bind fun _ =>
    calling_onConnectionQuietly call sql params

theorem calling_ensureOpen : Calling id (ensureOpen t) :=
  calling_quiet fun s => by rw [after_ensureOpen]

-- =============================================================== beginning

/-- A root is begun with a connection and a call on it; the connection is
closed if that fails. -/
theorem calling_begin (readOnly : Bool) : Calling id (begin readOnly) := by
  unfold begin
  refine (calling_report _).bind fun _ =>
    (calling_drive 0 .connect _).bind fun c =>
      (calling_quiet fun _ => rfl).bind fun number =>
        (calling_attempt (calling_drive c (.begin readOnly) _)).bind
          fun begun => ?_
  cases begun with
  | ok _ => exact (calling_report _).bind fun _ => calling_quiet fun _ => rfl
  | error e =>
      refine (calling_attempt (calling_drive c .close _)).bind
        fun closed => ?_
      cases closed <;> exact calling_throw _

/-- A nested transaction is begun with a savepoint. -/
theorem calling_beginNested (parent : TransactionId) :
    Calling id (beginNested parent) := by
  unfold beginNested
  refine calling_get.bind fun s => ?_
  dsimp only
  split
  · exact calling_throw _
  · exact (calling_quiet fun _ => rfl).bind fun number =>
      (calling_onConnection (.savepoint _) _ _).bind fun _ =>
        (calling_quiet fun _ => rfl).bind fun _ =>
          (calling_report _).bind fun _ => calling_quiet fun _ => rfl

-- ================================================================== ending

theorem calling_clearCache : Calling id (clearCache t) :=
  calling_modifyCache (fun _ => IdentityCache.clear) fun _ => rfl

/-- A root ends with a call, and its connection is closed. -/
theorem calling_endRoot (outcome : Outcome) :
    Calling id (endRoot t outcome) := by
  have htake : Calling id (takeConnection t) :=
    calling_quiet fun s => s.driver_modifyChain t _
  have hend : ∀ c context, Calling id (drive context (endCall outcome c)) := by
    intro c context
    cases outcome with
    | commit => exact calling_drive c .commit context
    | rollback => exact calling_drive c .rollback context
  unfold endRoot
  refine htake.bind fun taken => ?_
  cases taken with
  | none => exact calling_get.bind fun _ => calling_throw _
  | some c =>
      exact calling_get.bind fun _ => (calling_report _).bind fun _ =>
        (calling_attempt (hend c _)).bind fun _ =>
          (calling_attempt (calling_drive c .close _)).bind fun _ =>
            calling_clearCache.bind fun _ => (calling_report _).bind
              fun _ => calling_ofExcept _

/-- A nested transaction is reverted, if it is rolled back, and its savepoint
is released. -/
theorem calling_endNested (name : String) (outcome : Outcome) :
    Calling id (endNested t name outcome) := by
  have hrevert : Calling id (revert t name) :=
    calling_clearCache.bind fun _ =>
      calling_onConnection (.rollbackToSavepoint name) _ _
  have hrelease : Calling id (onConnection t (releaseStatement name) []
      fun c => Driver.releaseSavepoint c name) :=
    calling_onConnection (.releaseSavepoint name) _ _
  unfold endNested
  cases outcome with
  | commit =>
      exact (calling_pure _).bind fun _ => (calling_attempt hrelease).bind
        fun _ => calling_get.bind fun _ => (calling_report _).bind fun _ =>
          calling_ofExcept _
  | rollback =>
      exact (calling_attempt hrevert).bind fun _ =>
        (calling_attempt hrelease).bind fun _ => calling_get.bind fun _ =>
          (calling_report _).bind fun _ => calling_ofExcept _

theorem calling_markFinished : Calling id (markFinished t) := by
  refine calling_quiet fun s => ?_
  unfold markFinished
  rw [EStateM.after_modify]
  dsimp only
  split <;> rfl

/-- An ending that is refused makes no call. -/
theorem calling_finish (outcome : Outcome) :
    Calling id (finish t outcome) := by
  unfold finish
  refine calling_get.bind fun s => ?_
  dsimp only
  split
  · exact calling_throw _
  · split
    · exact calling_throw _
    · refine (calling_attempt ?_).bind fun _ =>
        calling_markFinished.bind fun _ => calling_ofExcept _
      split
      · exact calling_endRoot outcome
      · exact calling_endNested _ outcome

/-- A transaction that was finished is closed without a call. -/
theorem calling_close : Calling id (close t) := by
  unfold close
  refine calling_get.bind fun s => ?_
  dsimp only
  split
  · exact calling_pure ()
  · exact calling_finish _

theorem calling_drop : Calling id (drop t) := by
  unfold drop
  refine (calling_attempt calling_close).bind fun closed => ?_
  cases closed with
  | ok _ => exact calling_pure ()
  | error e => exact calling_get.bind fun _ => calling_report _

end Action

-- ============================================================== statements

/-- What is put together from the parts of statements makes calls only. -/
theorem Composed.calling {trusted looks calls caches : Prop}
    {t : TransactionId} {stage : Stage τ} {footing : Footing}
    {a : EStateM Error τ α}
    (h : Composed trusted looks calls caches t stage footing a) :
    Calling stage.view a := by
  induction h with
  | ok x => exact calling_pure x
  | error => exact calling_throw _
  | look => exact calling_get
  | report _ e => exact Action.calling_report e
  | check _ hafter _ _ _ ih =>
      exact (calling_quiet fun w => by rw [hafter]).bind fun _ => ih
  | call => exact Action.calling_onConnectionQuietly _ _ _
  | cache _ f g ha =>
      exact Action.calling_modifyCache (fun s => g (s.cacheOf _)) fun s =>
        EStateM.after_of_eq_ok (ha s)
  | share => exact calling_quiet fun _ => rfl
  | edit => exact (quiet_ofEdit _).calling
  | bind _ _ iha ihf => exact iha.bind_of_answer ihf
  | mapError _ _ ih => exact Action.calling_mapError ih _
  | beside _ ih =>
      intro w
      rw [EntityAction.after_ofAction]
      exact ih w.session
  | within _ e g ih =>
      intro s
      rw [EntityAction.after_within]
      exact ih ⟨e, s⟩

-- ============================================================== operations

section

variable {schema : Schema} {t : TransactionId}

theorem Ending.calling_run (how : Ending) : Calling id (how.run t) := by
  cases how with
  | commit => exact Action.calling_finish .commit
  | rollback => exact Action.calling_finish .rollback
  | close => exact Action.calling_close
  | drop => exact Action.calling_drop

theorem Operation.calling_run (op : Operation) :
    Calling id (op.run schema) := by
  cases op with
  | begin readOnly => exact Action.calling_ignoring (Action.calling_begin _)
  | beginNested parent =>
      exact Action.calling_ignoring (Action.calling_beginNested _)
  | ending t how => exact how.calling_run
  | statement t st => exact st.composed_run.calling

end

-- ================================================================= streams

namespace QueryStream

variable {t : TransactionId}

theorem calling_failureOf {a : Action Unit} (h : Calling id a) :
    Calling id (failureOf a) := by
  refine (Action.calling_attempt h).bind fun r => ?_
  cases r <;> exact calling_pure _

/-- Giving a stream back closes what it holds. -/
theorem calling_release (q : QueryStream σ α) : Calling id q.release := by
  unfold release
  cases q.tx with
  | none => exact calling_pure _
  | some t =>
      have hcursor : Calling id (q.releaseCursor t) := by
        unfold releaseCursor
        cases q.cursor with
        | none => exact calling_pure _
        | some cursor =>
            exact calling_failureOf
              (Action.calling_onConnection (.closeCursor cursor) _ _)
      have hstatement : Calling id (q.releaseStatement t) := by
        unfold releaseStatement
        cases q.statement with
        | none => exact calling_pure _
        | some statement =>
            exact calling_failureOf
              (Action.calling_onConnection (.closeStatement statement) _ _)
      exact hcursor.bind fun _ => hstatement.bind fun _ =>
        (calling_failureOf Action.calling_close).bind fun _ =>
          calling_get.bind fun _ => (Action.calling_report _).bind fun _ =>
            calling_pure _

/-- A stream prepares its statement and opens a cursor, if the first
succeeds. -/
theorem calling_acquire (q : QueryStream σ α) (params : List Value) :
    Calling id (q.acquire t params) := by
  refine (Action.calling_attempt (Action.calling_ensureOpen.bind fun _ =>
    Action.calling_onConnection (.prepare _) _ _)).bind
      fun prepared => ?_
  cases prepared with
  | error e => exact calling_pure _
  | ok statement =>
      refine calling_get.bind fun s => (Action.calling_attempt
        (Action.calling_ensureOpen.bind fun _ => Action.calling_onConnection
          (.openCursor _ _ _) _ _)).bind fun opened => ?_
      cases opened with
      | error e => exact calling_pure _
      | ok opened =>
          exact calling_get.bind fun _ => (Action.calling_report _).bind
            fun _ => calling_pure _

/-- A stream that cannot be opened is given back. -/
theorem calling_openMapped (sql : String) (params : Params)
    (mapper : TransactionId → Row → σ → Action (α × σ)) (memory : σ) :
    Calling id (openMapped sql params mapper memory) := by
  unfold openMapped
  cases params.resolve sql with
  | error fault => exact calling_throw _
  | ok b =>
      refine (Action.calling_begin true).bind fun t =>
        (calling_acquire _ b.params).bind fun acquired => ?_
      obtain ⟨r, q⟩ := acquired
      cases r with
      | ok _ => exact calling_pure q
      | error e => exact (calling_release q).bind fun _ => calling_throw _

/-- A mapper that makes no calls does not make a stream do anything else. -/
theorem calling_advance {q : QueryStream σ α} (hpassive : Passive q.mapper) :
    Calling id q.advance := by
  unfold advance
  split
  · refine Action.calling_ensureOpen.bind fun _ =>
      (Action.calling_onConnectionQuietly (.fetch _) _ _).bind
        fun fetched => ?_
    cases fetched with
    | none => exact calling_pure none
    | some values =>
        exact calling_get.bind fun _ => (Action.calling_mapError
          ((Action.calling_ofExcept _).bind fun row =>
            (hpassive _ row _).calling) _).bind fun _ => calling_pure _
  · exact calling_throw _

/-- A stream that is at its end, or failed, is given back at once. -/
theorem calling_next {q : QueryStream σ α} (hpassive : Passive q.mapper) :
    Calling id q.next := by
  unfold next
  split
  · exact calling_pure _
  · refine (Action.calling_attempt (calling_advance hpassive)).bind
      fun advanced => ?_
    rcases advanced with e | _ | ⟨x, memory⟩
    · exact (calling_release _).bind fun _ => calling_pure _
    · refine (calling_release _).bind fun given => ?_
      obtain ⟨errors, q⟩ := given
      cases errors <;> exact calling_pure _
    · exact calling_pure _

theorem calling_drop (q : QueryStream σ α) : Calling id q.drop := by
  have hreports : ∀ errors, Calling id (reportFailures q.sql errors) := by
    intro errors
    induction errors with
    | nil => exact calling_pure ()
    | cons e errors ih => exact (Action.calling_report _).bind fun _ => ih
  exact (calling_release q).bind fun released => hreports released.1

end QueryStream

-- =================================================================== desks

namespace Desk

variable {d : Desk} {schema : Schema}

/-- Opening a stream is what it does to the session. -/
theorem reaches_opened {a : Action (QueryStream σ α)} (h : Calling id a)
    (d : Desk) :
    d.session.driver.Reaches (d.opened a).session.driver := by
  have hafter : (d.opened a).session = a.after d.session := by
    unfold opened EStateM.after
    cases a d.session <;> rfl
  rw [hafter]
  exact h d.session

/-- Whatever is asked, calls are made, and the driver is left alone
otherwise. -/
theorem Kept.reaches_serve (h : d.Kept) (request : Request) :
    d.session.driver.Reaches (d.serve schema request).session.driver := by
  cases request with
  | operation op =>
      by_cases hhas : d.has op = true
      · rw [serve_of_has schema hhas]
        exact op.calling_run d.session
      · rw [serve_of_not_has schema hhas]
        exact .refl
  | openRows sql params f memory =>
      exact reaches_opened (QueryStream.calling_openMapped _ _ _ _) d
  | openEntities typeName sql params =>
      exact reaches_opened ((Action.calling_ofExcept _).bind fun _ =>
        QueryStream.calling_openMapped _ _ _ _) d
  | next i =>
      cases hx : d.stream? i with
      | none =>
          rw [serve_next_none schema hx]
          exact .refl
      | some x =>
          rw [session_serve_next schema hx]
          exact QueryStream.calling_next (h.wellFormed hx).passive d.session
  | dropStream i =>
      cases hx : d.stream? i with
      | none =>
          rw [serve_dropStream_none schema hx]
          exact .refl
      | some x =>
          rw [serve_dropStream schema hx]
          exact QueryStream.calling_drop x.stream d.session

/-- So it is with any number of requests. -/
theorem Kept.reaches_serveAll (h : d.Kept) (requests : List Request) :
    d.session.driver.Reaches (d.serveAll schema requests).session.driver := by
  induction requests generalizing d with
  | nil => exact .refl
  | cons request requests ih =>
      exact (h.reaches_serve request).trans (ih (h.serve schema request))

/-- At any time no cursor is open under a handle that is yet to be given, if
it was so in the beginning. -/
theorem Kept.numbered_serveAll (h : d.Kept)
    (hnumbered : d.session.driver.Numbered) (requests : List Request) :
    (d.serveAll schema requests).session.driver.Numbered :=
  (h.reaches_serveAll requests).numbered hnumbered

-- ------------------------------------------------------------- at any time

/-- After whatever was asked of a desk, what comes of another stream is one of
its lives. -/
theorem Kept.exists_life_serveAll (h : d.Kept)
    (hnumbered : d.session.driver.Numbered) (requests : List Request)
    {mapper : TransactionId → Row → σ → Action (α × σ)}
    (hpassive : Passive mapper) (sql : String) (params : Params) (memory : σ)
    (n : Nat) :
    let s := (d.serveAll schema requests).session
    ∃ u s', QueryStream.use sql params mapper memory n s = .ok u s'
      ∧ s'.driver.log = s.driver.log ++ u.records
      ∧ Life s sql params mapper memory n u := by
  cases hb : params.resolve sql with
  | error fault => exact QueryStream.exists_life_unresolved hb _ mapper memory n
  | ok b =>
      exact QueryStream.exists_life_resolved hpassive
        (h.numbered_serveAll hnumbered requests) hb memory n

/-- After whatever was asked of a desk, a stream of entities and the query for
them agree. -/
theorem Kept.agrees_serveAll (h : d.Kept)
    (hnumbered : d.session.driver.Numbered) (requests : List Request)
    {sql : String} {params : Params} {b : BoundStatement}
    (hb : params.resolve sql = .ok b) {n : Nat}
    (hn : (d.serveAll schema requests).session.nextResult.rows.length < n) :
    let s := (d.serveAll schema requests).session
    (∀ (f : Row → σ → Except Error (α × σ)) (memory : σ),
      s.Agrees b n (QueryStream.openRows sql params f memory)
        (fun t => Action.fetchMapFrom t sql params
          (fun row m => Action.ofExcept (f row m)) memory)
        (s.mapped b (fun _ row m => Action.ofExcept (f row m)) memory))
    ∧ (∀ mapper : RecordMapper α,
      s.Agrees b n (QueryStream.openRecords sql params mapper)
        (fun t => Action.fetchRecords t sql params mapper)
        (s.mapped b mapper.ofRow ()))
    ∧ ∀ typeName,
      match EntityBinding.ofType schema typeName with
      | .ok binding =>
        s.Agrees b n (QueryStream.openEntities schema typeName sql params)
          (fun t => Action.fetchEntities schema t typeName sql params)
          (s.mapped b (QueryStream.entityMapper schema binding) ())
      | .error e =>
        (QueryStream.openEntities schema typeName sql params).answer s
            = .error e
          ∧ ∀ t, (Action.fetchEntities schema t typeName sql params).answer s
            = .error e := by
  have hs : (d.serveAll schema requests).session.driver.Numbered :=
    h.numbered_serveAll hnumbered requests
  exact ⟨QueryStream.openRows_agrees hs hb hn,
    QueryStream.openRecords_agrees hs hb hn,
    QueryStream.openEntities_agrees hs hb hn schema⟩

/-- Of the calls that are made for a desk, those fail that the failures of the
script are due at. -/
theorem Kept.exists_records_struck (h : d.Kept) (requests : List Request) :
    ∃ records, (d.serveAll schema requests).session.driver.log
        = d.session.driver.log ++ records
      ∧ ∀ (i : Nat) record (j : Nat) f, records[i]? = some record →
        (d.session.driver.registered record.call.kind)[j]? = some f →
        Driver.recordsOf record.call.kind (records.take (i + 1))
          = Driver.due (d.session.driver.registered record.call.kind) j →
        record.failure = some f.error :=
  (h.reaches_serveAll requests).exists_records_struck

end Desk

end DataAccess
