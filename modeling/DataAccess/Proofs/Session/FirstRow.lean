/-
The first row of a result. What answers with the first row of a query maps all
of them before it picks one. So the later rows have a say: one that cannot be
mapped makes the whole of it fail, and one that names another entity has its
relation looked up, so that the cache is not what it would be without that row
(`first_row_iff`).

Two sessions are compared, one with the result and one with nothing but its
first row (`Session.firstRowOnly`). A mapper sees no driver, so both can be
followed in one session (`fetchMap_cases`), and the difference is what the later
rows do there: nothing, exactly if they are inert (`sameOnFirst_fetchMap_iff`).
-/
import DataAccess.Proofs.Entity.Inert
import DataAccess.Proofs.Stream.Blind
import DataAccess.Proofs.Stream.Life

namespace DataAccess

open DataAccess.Action

variable {α : Type}

-- ============================================================ two sessions

/-- A result without the rows after the first. -/
def ResultSet.firstRowOnly (r : ResultSet) : ResultSet :=
  { r with rows := r.rows.take 1 }

/-- The session in which the result that comes next has only its first row. -/
def Session.firstRowOnly (s : Session) : Session :=
  { s with driver := { s.driver with
      results := s.driver.results.modifyHead ResultSet.firstRowOnly } }

/-- An action comes to the same with only the first row, and leaves the same
caches. -/
def Action.SameOnFirst (a : Action α) (s : Session) : Prop :=
  a.answer s = a.answer s.firstRowOnly
    ∧ ∀ u, (a.after s).cacheOf u = (a.after s.firstRowOnly).cacheOf u

/-- What follows a query for the first row. -/
def Action.picking (a : Action (List α)) : Action (Option α) :=
  a >>= fun xs => pure xs.head?

variable {s s' : Session} {t : TransactionId}

theorem Session.undriven_firstRowOnly (s : Session) :
    s.firstRowOnly.undriven = s.undriven := rfl

/-- The driver is no part of a cache. -/
theorem Session.cacheOf_congr (h : s.undriven = s'.undriven)
    (u : TransactionId) : s.cacheOf u = s'.cacheOf u := by
  show s.undriven.cacheOf u = s'.undriven.cacheOf u
  rw [h]

-- =============================================================== the query

/-- Whether a query fails does not depend on what it is answered. -/
theorem Driver.query_cases_first (c : Nat) (sql : String) (params : List Value)
    (s : Session) :
    (∃ e, (Driver.query c sql params).answer s.driver = .error e
      ∧ (Driver.query c sql params).answer s.firstRowOnly.driver = .error e)
    ∨ (Driver.query c sql params).answer s.driver
        = .ok s.nextResult
      ∧ (Driver.query c sql params).answer s.firstRowOnly.driver
        = .ok s.firstRowOnly.nextResult := by
  rcases perform_cases (some c) (.query sql params) _ s.driver with
    ⟨e, failures, htrigger, hanswer, -⟩ | ⟨failures, htrigger, hanswer, -⟩ <;>
    rcases perform_cases (some c) (.query sql params) _
      s.firstRowOnly.driver with
      ⟨e', failures', htrigger', hanswer', -⟩
      | ⟨failures', htrigger', hanswer', -⟩
  · cases htrigger.symm.trans htrigger'
    exact Or.inl ⟨e, hanswer, hanswer'⟩
  · cases htrigger.symm.trans htrigger'
  · cases htrigger.symm.trans htrigger'
  · exact Or.inr ⟨hanswer, hanswer'⟩

namespace Action

/-- A query fails in both sessions alike, or it is answered in both. -/
theorem runQuery_cases_first (s : Session) (t : TransactionId)
    (b : BoundStatement) :
    (∃ e, (runQuery t b).answer s = .error e
      ∧ (runQuery t b).answer s.firstRowOnly = .error e)
    ∨ (s.connectionOf? t).isSome
      ∧ (runQuery t b).answer s
        = .ok s.nextResult
      ∧ (runQuery t b).answer s.firstRowOnly
        = .ok s.firstRowOnly.nextResult := by
  have hrun : ∀ s : Session, (runQuery t b).answer s
      = if (s.transaction t).finished then .error (s.fault t .finished)
        else (onConnectionQuietly t b.sql b.params fun c =>
            Driver.query c b.sql b.params).answer
          (s.report (.statement (s.transaction t).display b.sql b.params
            s.config.logParameters)) := by
    intro s
    unfold runQuery
    rw [EStateM.answer_bind, answer_ensureOpen, after_ensureOpen]
    cases (s.transaction t).finished <;> rfl
  rw [hrun, hrun]
  cases hfinished : (s.transaction t).finished with
  -- a finished transaction: both fail before the call
  | true =>
      refine Or.inl ⟨s.fault t .finished, rfl, ?_⟩
      exact if_pos hfinished
  -- an open one: the script does not depend on how many rows a result has
  | false =>
      have hopen : ¬ (s.firstRowOnly.transaction t).finished = true := by
        intro h
        cases hfinished.symm.trans h
      rw [if_neg nofun, if_neg hopen]
      cases hc : s.connectionOf? t with
      | none =>
          refine Or.inl ⟨_, EStateM.answer_of_eq_error
            (onConnectionQuietly_released (s := s.report _) hc ..),
            EStateM.answer_of_eq_error (onConnectionQuietly_released
              (s := s.firstRowOnly.report _) hc ..)⟩
      | some c =>
          rw [answer_onConnectionQuietly (s := s.report _) hc,
            answer_onConnectionQuietly (s := s.firstRowOnly.report _) hc]
          rcases Driver.query_cases_first c b.sql b.params s with
            ⟨e, hanswer, hanswer'⟩ | ⟨hanswer, hanswer'⟩
          · exact Or.inl ⟨Error.ofDriver e (s.context t b.sql b.params),
              congrArg (Except.mapError _) hanswer,
              congrArg (Except.mapError _) hanswer'⟩
          · exact Or.inr ⟨rfl, congrArg (Except.mapError _) hanswer,
              congrArg (Except.mapError _) hanswer'⟩

-- ================================================================ the rows

variable {f : Row → Action α} {resolver : ColumnResolver} {sql : String}
  {params : Params}

/-- What is made of rows sees no more than what is made of a row. -/
theorem blind_mapRows (hf : ∀ row, Blind Session.undriven (f row))
    (resolver : ColumnResolver) (rows : List (List Value)) :
    Blind Session.undriven (mapRows resolver f rows) := by
  induction rows with
  | nil => exact blind_pure []
  | cons values rows ih =>
      exact (blind_ofExcept _).bind fun row => (hf row).bind fun x =>
        ih.bind fun xs => blind_pure _

/-- Parameters that fit are resolved without a look at the session. -/
theorem resolve_of_eq_ok {b : BoundStatement} (hb : params.resolve sql = .ok b)
    (t : TransactionId) (s : Session) : resolve t sql params s = .ok b s := by
  unfold resolve
  rw [hb]
  rfl

/-- What is answered is mapped, in a session that looks the same. -/
theorem fetchMap_of_answered (hf : ∀ row, Blind Session.undriven (f row))
    {b : BoundStatement} (hb : params.resolve sql = .ok b)
    {result : ResultSet} (hquery : (runQuery t b).answer s = .ok result) :
    let map := mapRows (.ofColumns result.columns) f result.rows
    (fetchMap t sql params f).answer s
        = (map.answer s).mapError
          (Error.withContext (s.context t b.sql b.params))
      ∧ ((fetchMap t sql params f).after s).undriven
        = (map.after s).undriven := by
  intro map
  have hblind := blind_mapRows hf (.ofColumns result.columns) result.rows
  have hsame : ((runQuery t b).after s).undriven = s.undriven :=
    undriven_runQuery t b s
  have hresolve := resolve_of_eq_ok hb t s
  have hrun : fetchMap t sql params f s
      = mapError (Error.withContext
          (((runQuery t b).after s).context t b.sql b.params))
        map ((runQuery t b).after s) := by
    unfold fetchMap
    rw [EStateM.bind_of_eq_ok hresolve, EStateM.bind_of_eq_ok
      (EStateM.apply_eq_ok_iff.mpr ⟨hquery, rfl⟩)]
    rfl
  have hcontext : ((runQuery t b).after s).context t b.sql b.params
      = s.context t b.sql b.params := by
    show ((runQuery t b).after s).undriven.context t b.sql b.params
      = s.undriven.context t b.sql b.params
    rw [hsame]
  rw [hcontext] at hrun
  constructor
  · unfold EStateM.answer
    rw [hrun]
    show (mapError _ _).answer _ = _
    rw [answer_mapError, hblind.answer_eq hsame]
    rfl
  · unfold EStateM.after
    rw [hrun]
    show ((mapError _ _).after _).undriven = _
    rw [after_mapError]
    exact hblind.after_eq hsame

/-- A query that fails leaves a session that looks the same. -/
theorem fetchMap_of_failed {b : BoundStatement}
    (hb : params.resolve sql = .ok b) {e : Error}
    (hquery : (runQuery t b).answer s = .error e) :
    (fetchMap t sql params f).answer s = .error e
      ∧ ((fetchMap t sql params f).after s).undriven = s.undriven := by
  have hresolve := resolve_of_eq_ok hb t s
  unfold fetchMap
  rw [EStateM.answer_bind_ok (EStateM.answer_of_eq_ok hresolve),
    EStateM.after_bind_ok (EStateM.answer_of_eq_ok hresolve),
    EStateM.after_of_eq_ok hresolve, EStateM.answer_bind_error hquery,
    EStateM.after_bind_error hquery]
  exact ⟨rfl, undriven_runQuery t b s⟩

variable {columns : List ColumnMeta} {first : List Value}
  {rest : List (List Value)} {more : List ResultSet}
  {inert : List Value → Prop}

/-- Both queries fail alike, or both have their rows mapped, with the same
context for errors. -/
theorem fetchMap_cases (hf : ∀ row, Blind Session.undriven (f row))
    (hnext : s.driver.results = ⟨columns, first :: rest⟩ :: more)
    (t : TransactionId) (sql : String) (params : Params) :
    let fetch := fetchMap t sql params f
    (∃ e, fetch.answer s = .error e ∧ fetch.answer s.firstRowOnly = .error e
      ∧ (fetch.after s).undriven = (fetch.after s.firstRowOnly).undriven)
    ∨ (s.connectionOf? t).isSome ∧ ∃ place : Error → Error,
      let map := mapRows (.ofColumns columns) f
      fetch.answer s = ((map (first :: rest)).answer s).mapError place
      ∧ (fetch.after s).undriven = ((map (first :: rest)).after s).undriven
      ∧ fetch.answer s.firstRowOnly = ((map [first]).answer s).mapError place
      ∧ (fetch.after s.firstRowOnly).undriven
        = ((map [first]).after s).undriven := by
  intro fetch
  cases hb : params.resolve sql with
  | error fault =>
      have hresolve : ∀ s : Session, resolve t sql params s
          = .error (.database (.parameters fault) (s.context t sql [])) s := by
        intro s
        unfold resolve
        rw [hb]
        rfl
      have hfailed : ∀ s : Session, fetch s
          = .error (.database (.parameters fault) (s.context t sql [])) s :=
        fun s => EStateM.bind_of_eq_error (hresolve s) _
      refine Or.inl ⟨_, EStateM.answer_of_eq_error (hfailed s),
        EStateM.answer_of_eq_error (hfailed s.firstRowOnly), ?_⟩
      rw [EStateM.after_of_eq_error (hfailed s),
        EStateM.after_of_eq_error (hfailed s.firstRowOnly)]
      rfl
  | ok b =>
      rcases runQuery_cases_first s t b with
        ⟨e, hquery, hquery'⟩ | ⟨hconnection, hquery, hquery'⟩
      · obtain ⟨hanswer, hafter⟩ := fetchMap_of_failed (f := f) hb hquery
        obtain ⟨hanswer', hafter'⟩ := fetchMap_of_failed (f := f) hb hquery'
        exact Or.inl ⟨e, hanswer, hanswer', hafter.trans hafter'.symm⟩
      · have hresults : s.firstRowOnly.driver.results
            = ⟨columns, [first]⟩ :: more := by
          show s.driver.results.modifyHead ResultSet.firstRowOnly = _
          rw [hnext]
          rfl
        have hall : (runQuery t b).answer s
            = .ok ⟨columns, first :: rest⟩ := by
          rw [hquery, Session.nextResult, hnext]
          rfl
        have hone : (runQuery t b).answer s.firstRowOnly
            = .ok ⟨columns, [first]⟩ := by
          rw [hquery', Session.nextResult, hresults]
          rfl
        obtain ⟨hanswer, hafter⟩ := fetchMap_of_answered hf hb hall
        obtain ⟨hanswer', hafter'⟩ := fetchMap_of_answered hf hb hone
        -- the two sessions look the same to the mapper
        have hblind := blind_mapRows hf (.ofColumns columns) [first]
        have hsame := s.undriven_firstRowOnly
        refine Or.inr ⟨hconnection, _, hanswer, hafter, hanswer'.trans ?_,
          hafter'.trans (hblind.after_eq hsame)⟩
        exact congrArg (Except.mapError _) (hblind.answer_eq hsame)

-- ============================================================ the first row

/-- The first row is enough to find something. -/
def FindsFirst (a : Action (Option α)) (s : Session) : Prop :=
  ∃ x, a.answer s.firstRowOnly = .ok (some x)

/-- The first is picked from the answer. -/
theorem answer_picking (a : Action (List α)) (s : Session) :
    (picking a).answer s = (a.answer s).map List.head? := by
  unfold picking
  rw [EStateM.answer_bind]
  cases a.answer s <;> rfl

theorem after_picking (a : Action (List α)) (s : Session) :
    (picking a).after s = a.after s := by
  unfold picking
  rw [EStateM.after_bind]
  cases a.answer s <;> rfl

/-- What is connected is on a chain. -/
theorem exists_onChain (h : (s.connectionOf? t).isSome) :
    ∃ chain, s.holdings.OnChain t chain := by
  obtain ⟨c, hc⟩ := Option.isSome_iff_exists.mp h
  obtain ⟨chain, hchain, -⟩ := Option.bind_eq_some_iff.mp hc
  obtain ⟨tx, htx, hplace⟩ := Option.bind_eq_some_iff.mp hchain
  refine ⟨tx.chain, ?_, ?_⟩
  · show (s.transactions.map (·.chain))[t]? = some tx.chain
    rw [List.getElem?_map, htx]
    rfl
  · show tx.chain < (s.chains.map (·.cache)).length
    rw [List.length_map]
    exact (List.getElem?_eq_some_iff.mp hplace).1

/-- What fails alike makes no difference, and finds nothing. -/
theorem sameOnFirst_iff_of_failed {a : Action (List α)} {e : Error} {p : Prop}
    (hanswer : a.answer s = .error e)
    (hanswer' : a.answer s.firstRowOnly = .error e)
    (hafter : (a.after s).undriven = (a.after s.firstRowOnly).undriven) :
    (picking a).SameOnFirst s ↔ ((picking a).FindsFirst s → p) := by
  have hfailed : (picking a).answer s.firstRowOnly = .error e := by
    rw [answer_picking, hanswer']
    rfl
  constructor
  · rintro - ⟨x, hx⟩
    cases hfailed.symm.trans hx
  · intro _
    refine ⟨?_, fun u => ?_⟩
    · rw [hfailed, answer_picking, hanswer]
      rfl
    · rw [after_picking, after_picking]
      exact Session.cacheOf_congr hafter u

/-- Where the first row was mapped, the rest of them make no difference exactly
if they are inert. -/
theorem sameOnFirst_iff_of_mapped {a : Action (List α)} {x : α} {s₁ : Session}
    {chain : ChainId} {place : Error → Error}
    (hd : Discerns t (mapRow resolver f) inert)
    (ht : s₁.holdings.OnChain t chain)
    (hanswer : a.answer s = (((mapRows resolver f rest).answer s₁).map
      (x :: ·)).mapError place)
    (hafter : (a.after s).undriven
      = ((mapRows resolver f rest).after s₁).undriven)
    (hanswer' : a.answer s.firstRowOnly = .ok [x])
    (hafter' : (a.after s.firstRowOnly).undriven = s₁.undriven) :
    (picking a).SameOnFirst s
      ↔ ((picking a).FindsFirst s → ∀ values ∈ rest, inert values) := by
  have hfinds : (picking a).answer s.firstRowOnly = .ok (some x) := by
    rw [answer_picking, hanswer']
    rfl
  constructor
  · rintro ⟨hsame, hcaches⟩ -
    rw [hfinds, answer_picking, hanswer] at hsame
    cases hrest : mapRows resolver f rest s₁ with
    | error e s₂ =>
        rw [EStateM.answer_of_eq_error hrest] at hsame
        cases hsame
    | ok xs s₂ =>
        -- the cache is as it was after the first row, so nothing was looked up
        have hcache := hcaches t
        rw [after_picking, after_picking, Session.cacheOf_congr hafter,
          Session.cacheOf_congr hafter', EStateM.after_of_eq_ok hrest] at hcache
        refine (hd.counted_mapRows ht hrest).quiet ?_
        unfold Session.lookUps
        rw [hcache]
  · intro h
    obtain ⟨xs, hxs⟩ := hd.exists_mapRows (h ⟨x, hfinds⟩)
    have hrest := hxs s₁
    refine ⟨?_, fun u => ?_⟩
    · rw [hfinds, answer_picking, hanswer, EStateM.answer_of_eq_ok hrest]
      rfl
    · rw [after_picking, after_picking, Session.cacheOf_congr hafter,
        Session.cacheOf_congr hafter', EStateM.after_of_eq_ok hrest]

/-- The later rows make no difference if they are inert, or if nothing comes
of the first row; otherwise they do. -/
theorem sameOnFirst_fetchMap_iff (hf : ∀ row, Blind Session.undriven (f row))
    (hd : Discerns t (mapRow (.ofColumns columns) f) inert)
    (hnext : s.driver.results = ⟨columns, first :: rest⟩ :: more)
    (sql : String) (params : Params) :
    (picking (fetchMap t sql params f)).SameOnFirst s
      ↔ ((picking (fetchMap t sql params f)).FindsFirst s →
        ∀ values ∈ rest, inert values) := by
  rcases fetchMap_cases hf hnext t sql params with
    ⟨e, hanswer, hanswer', hafter⟩
    | ⟨hconnection, place, hanswer, hafter, hanswer', hafter'⟩
  · exact sameOnFirst_iff_of_failed hanswer hanswer' hafter
  obtain ⟨chain, ht⟩ := exists_onChain hconnection
  cases hfirst : mapRow (.ofColumns columns) f first s with
  | error e s₁ =>
      have hfailed := mapRows_of_failed hfirst
      rw [EStateM.answer_of_eq_error (hfailed _)] at hanswer hanswer'
      rw [EStateM.after_of_eq_error (hfailed _)] at hafter hafter'
      exact sameOnFirst_iff_of_failed hanswer hanswer'
        (hafter.trans hafter'.symm)
  | ok x s₁ =>
      obtain ⟨hrest, hrest'⟩ := mapRows_of_mapped hfirst rest
      have hone : mapRows (.ofColumns columns) f [first] s = .ok [x] s₁ := by
        rw [mapRows_cons, EStateM.bind_of_eq_ok hfirst]
        rfl
      rw [hrest] at hanswer
      rw [hrest'] at hafter
      rw [EStateM.answer_of_eq_ok hone] at hanswer'
      rw [EStateM.after_of_eq_ok hone] at hafter'
      exact sameOnFirst_iff_of_mapped hd (hd.counted ht hfirst).onChain hanswer
        hafter hanswer' hafter'

/-- An action that reads the first entity of a type: either it is clear
without a query that there is none, or it is the first one of a query. -/
inductive ReadsFirst (schema : Schema) (t : TransactionId) (typeName : String)
    (a : Action (Option Entity)) : Prop where
  | settled (result : Except Error (Option Entity)) (h : a = ofExcept result)
      (hnone : ∀ e, result ≠ .ok (some e))
  | queried {b : EntityBinding} (sql : String) (params : Params)
      (hb : EntityBinding.ofType schema typeName = .ok b)
      (h : a = picking (fetchMap t sql params (load schema t b)))

section

variable {schema : Schema} {typeName : String}

/-- A query for entities of a type that is well configured. -/
theorem fetchEntities_eq {b : EntityBinding}
    (hb : EntityBinding.ofType schema typeName = .ok b) (t : TransactionId)
    (sql : String) (params : Params) :
    fetchEntities schema t typeName sql params
      = fetchMap t sql params (load schema t b) := by
  unfold fetchEntities
  rw [hb]
  rfl

/-- A selection of one reads the first row. -/
theorem readsFirst_selectOptional (schema : Schema) (t : TransactionId)
    (typeName suffix : String) (params : Params) :
    ReadsFirst schema t typeName
      (selectOptional schema t typeName suffix params) := by
  cases hb : EntityBinding.ofType schema typeName with
  | error e =>
      refine .settled (.error e) ?_ nofun
      unfold selectOptional select
      rw [hb]
      rfl
  | ok b =>
      refine .queried (withSuffix b.selectStatement suffix) params hb ?_
      rw [← fetchEntities_eq hb]
      unfold selectOptional select
      rw [hb]
      rfl

/-- So does a find. -/
theorem readsFirst_find (schema : Schema) (t : TransactionId)
    (typeName : String) (id : List Value) :
    ReadsFirst schema t typeName (find schema t typeName id) := by
  cases hb : EntityBinding.ofType schema typeName with
  | error e =>
      refine .settled (.error e) ?_ nofun
      unfold find
      rw [hb]
      rfl
  | ok b =>
      have hfind : find schema t typeName id
          = if id.length ≠ b.identityColumns.length then
              throw (.mapping
                (.lookupWidth b.table id.length b.identityColumns))
            else if id.any Value.isNull then pure none
            else picking (fetchEntities schema t typeName b.findStatement
              (Params.empty.bindAll id)) := by
        unfold find
        rw [hb]
        rfl
      rw [hfind, fetchEntities_eq hb]
      split
      · exact .settled (.error _) rfl nofun
      split
      · exact .settled (.ok none) rfl nofun
      · exact .queried b.findStatement (Params.empty.bindAll id) hb rfl

/-- With entities, the rest makes no difference if nothing of it leaves a
trace. -/
theorem sameOnFirst_entity_iff {a : Action (Option Entity)}
    (ha : ReadsFirst schema t typeName a)
    (hnext : s.driver.results = ⟨columns, first :: rest⟩ :: more) :
    a.SameOnFirst s ↔ (a.FindsFirst s →
      ∀ values ∈ rest, InertFor schema typeName columns values) := by
  cases ha with
  | settled result h hnone =>
      subst h
      constructor
      · rintro - ⟨e, he⟩
        rw [answer_ofExcept] at he
        exact absurd he (hnone e)
      · intro _
        refine ⟨by rw [answer_ofExcept, answer_ofExcept], fun u => ?_⟩
        rw [after_ofExcept, after_ofExcept]
        rfl
  | queried sql params hb h =>
      subst h
      exact sameOnFirst_fetchMap_iff (blind_load schema t _)
        (discerns_load hb t columns) hnext sql params

end

/-- A query for the first row comes to the same as if the result had only its
first row, and leaves the same caches, exactly if nothing comes of that row or
all others have the right number of values. For an entity, by a condition or by
its identity, the others also must have no key in any relation of the type, and
an entity must come of each of them: else it fails, or the cache shows what was
looked up. -/
theorem first_row_iff
    (hnext : s.driver.results = ⟨columns, first :: rest⟩ :: more)
    (t : TransactionId) :
    (∀ sql params, (fetchOptional t sql params).SameOnFirst s
      ↔ ((fetchOptional t sql params).FindsFirst s →
        ∀ values ∈ rest, values.length = columns.length))
    ∧ (∀ schema typeName suffix params,
      (selectOptional schema t typeName suffix params).SameOnFirst s
      ↔ ((selectOptional schema t typeName suffix params).FindsFirst s →
        ∀ values ∈ rest, InertFor schema typeName columns values))
    ∧ ∀ schema typeName id, (find schema t typeName id).SameOnFirst s
      ↔ ((find schema t typeName id).FindsFirst s →
        ∀ values ∈ rest, InertFor schema typeName columns values) := by
  refine ⟨fun sql params => ?_, fun schema typeName suffix params => ?_,
    fun schema typeName id => ?_⟩
  · exact sameOnFirst_fetchMap_iff (fun row => blind_pure row)
      (discerns_pure t columns) hnext sql params
  · exact sameOnFirst_entity_iff
      (readsFirst_selectOptional schema t typeName suffix params) hnext
  · exact sameOnFirst_entity_iff (readsFirst_find schema t typeName id) hnext

/-- What is found in the first row alone is found. -/
theorem findsFirst_of_isSome {a : Action (Option α)}
    (h : (a.answer s.firstRowOnly).toOption.join.isSome) : a.FindsFirst s := by
  unfold FindsFirst
  cases hanswer : a.answer s.firstRowOnly with
  | error e =>
      rw [hanswer] at h
      cases h
  | ok x? =>
      rw [hanswer] at h
      obtain ⟨x, rfl⟩ := Option.isSome_iff_exists.mp h
      exact ⟨x, rfl⟩

/-- Two orders, where the second one names a customer. -/
def laterOrdered : ResultSet where
  columns := [⟨none, "id"⟩, ⟨none, "customer_id"⟩, ⟨none, "note"⟩,
    ⟨none, "balance"⟩]
  rows := [[.int64 1, .null, .null, .float64 EntityBinding.negativeZero],
    [.int64 2, .int64 7, .null, .float64 EntityBinding.negativeZero]]

/-- The first of two rows is what it would be alone, but for an order the
customer of the second one is looked up. -/
theorem first_row_iff_ordered :
    let s := (begin true).after
      (.blank (Driver.empty.pushResult laterOrdered))
    (fetchOptional 0 "SELECT * FROM orders" .empty).SameOnFirst s
      ∧ ¬ (find EntityBinding.shop 0 "Order" [.int64 1]).SameOnFirst s := by
  intro s
  have hnext : s.driver.results = ⟨laterOrdered.columns,
      [.int64 1, .null, .null, .float64 EntityBinding.negativeZero]
        :: [[.int64 2, .int64 7, .null, .float64 EntityBinding.negativeZero]]⟩
      :: [] := rfl
  obtain ⟨hrow, -, hfind⟩ := first_row_iff hnext 0
  refine ⟨(hrow _ _).mpr fun _ => List.forall_mem_singleton.mpr rfl, ?_⟩
  intro hsame
  have hfinds : (find EntityBinding.shop 0 "Order" [.int64 1]).FindsFirst s :=
    findsFirst_of_isSome (by decide +kernel)
  obtain ⟨b, row, hb, hmade, hinert⟩ :=
    (hfind _ _ _).mp hsame hfinds _ (List.mem_singleton_self _)
  cases (show EntityBinding.ofType EntityBinding.shop "Order"
    = .ok EntityBinding.orders from rfl).symm.trans hb
  cases hmade
  -- the customer of the second order is not null
  have hnull := hinert.unrelated EntityBinding.orders.columns[1]
    (List.getElem_mem _) rfl
  cases hnull

/-- A row of two values behind one of one. -/
def laterWide : ResultSet where
  columns := [⟨none, "n"⟩]
  rows := [[.int64 1], [.int64 2, .int64 3]]

/-- Not always: the first row is not answered if the second one is too wide. -/
theorem not_first_row_alone :
    ¬ ∀ (s : Session) (columns : List ColumnMeta) (first : List Value)
      (rest : List (List Value)) (more : List ResultSet),
      s.driver.results = ⟨columns, first :: rest⟩ :: more →
      ∀ t, (∀ sql params, (fetchOptional t sql params).SameOnFirst s)
        ∧ (∀ schema typeName suffix params,
          (selectOptional schema t typeName suffix params).SameOnFirst s)
        ∧ ∀ schema typeName id, (find schema t typeName id).SameOnFirst s := by
  intro h
  let s := (begin true).after (.blank (Driver.empty.pushResult laterWide))
  obtain ⟨hrow, -⟩ := h s laterWide.columns [.int64 1]
    [[.int64 2, .int64 3]] [] rfl 0
  have hanswer := (hrow "SELECT n FROM t" .empty).1
  have hall : ((fetchOptional 0 "SELECT n FROM t" .empty).answer s).isOk
      = false := by
    decide +kernel
  have hone : ((fetchOptional 0 "SELECT n FROM t" .empty).answer
      s.firstRowOnly).isOk = true := by
    decide +kernel
  rw [← hanswer, hall] at hone
  cases hone

end Action

end DataAccess
