/-
A select, for its parameters. What is sent is the statement of the type, then
a space and the suffix; what a caller binds is meant for the tokens and the
question marks of the suffix alone. If no name of the type or of its columns
has a quote or a colon, then nothing in the statement takes part in the
rewriting, and the parameters come to what they come to for the suffix
(`resolve_withSuffix`).

# What is sent

A fault of the parameters is told before anything else is looked at. Without
one, an open transaction sends what was resolved, once: the rows are made into
entities without a further call (`ledger_fetchMap`).
-/
import DataAccess.Proofs.Session.Asking
import DataAccess.Proofs.Session.FirstRow
import DataAccess.Proofs.Session.Stepping
import DataAccess.Proofs.Statement.Appending

namespace DataAccess

-- ================================================================ the suffix

namespace Text

/-- Nothing is left of a blank text. -/
theorem trimBlank_of_isBlankText {text : String}
    (h : isBlankText text = true) : trimBlank text = "" := by
  have hdrop : text.toList.dropWhile isBlank = [] :=
    List.dropWhile_eq_nil_iff.mpr (List.all_eq_true.mp h)
  unfold trimBlank trimBy
  rw [hdrop]
  rfl

end Text

namespace EntityBinding

/-- The statement of a type has no quotes and colons if no name in it has. -/
theorem isPlainText_selectStatement {b : EntityBinding}
    (htable : IsPlainText b.table)
    (hcolumns : ∀ name ∈ b.columnNames, IsPlainText name) :
    IsPlainText b.selectStatement := by
  have hnames : IsPlainText (Text.commaSeparated b.columnNames) :=
    isPlainText_join (by decide +kernel) hcolumns
  have hselect : IsPlainText "SELECT " := by decide +kernel
  have hfrom : IsPlainText " FROM " := by decide +kernel
  exact isPlainText_append
    (isPlainText_append (isPlainText_append hselect hnames) hfrom) htable

end EntityBinding

namespace Action

/-- A statement with a resolved suffix behind it; a blank suffix leaves
nothing behind it. -/
def suffixed (statement suffix : String) (st : BoundStatement) :
    BoundStatement where
  sql := if Text.isBlankText suffix then statement
    else statement ++ " " ++ st.sql
  params := st.params

/-- The parameters of a plain statement are those of its suffix. -/
theorem resolve_withSuffix {statement : String} (h : IsPlainText statement)
    (suffix : String) (params : Params) :
    params.resolve (withSuffix statement suffix)
      = (params.resolve (Text.trimBlank suffix)).map
          (suffixed statement suffix) := by
  unfold withSuffix
  split
  · next hblank =>
    have hnothing := Text.trimBlank_of_isBlankText hblank
    have hwhole := Params.resolve_append h params ""
    rw [String.append_empty] at hwhole
    rw [hwhole, hnothing]
    cases hresolve : params.resolve "" with
    | error fault => rfl
    | ok st =>
        have hsql : st.sql = "" :=
          (Params.sql_of_resolve hresolve).trans (by decide +kernel)
        simp [Except.map, suffixed, hblank, hsql]
  · next hblank =>
    have hspace : IsPlainText (statement ++ " ") :=
      isPlainText_append h (by decide +kernel)
    rw [Params.resolve_append hspace]
    cases params.resolve (Text.trimBlank suffix) with
    | error fault => rfl
    | ok st => simp [Except.map, suffixed, hblank]

-- ================================================================= the query

section

variable {α : Type} {s : Session} {t : TransactionId} {c : Nat}

/-- A query on an open transaction is sent, once, on its connection. -/
theorem ledger_runQuery (hopen : s.ledger.IsOpen t)
    (hc : s.connectionOf? t = some c) (st : BoundStatement) :
    ∃ failure, ((runQuery t st).after s).ledger
      = s.ledger.record [⟨some c, .query st.sql st.params, failure⟩] := by
  have hpasses : (ensureOpen t).answer s = .ok () := by
    rw [answer_ensureOpen]
    exact if_neg (Bool.eq_false_iff.mp hopen)
  obtain ⟨failure, -, hledger⟩ := onConnection_cases hc
    (fun c => Driver.query c st.sql st.params)
    (Driver.records_query c st.sql st.params) st.sql st.params
  refine ⟨failure, ?_⟩
  unfold runQuery
  rw [EStateM.after_bind_ok hpasses, after_ensureOpen]
  exact hledger

/-- Nothing else is sent when its rows are mapped. -/
theorem ledger_fetchMap {f : Row → Action α} (hf : ∀ row, Quiet id (f row))
    (hopen : s.ledger.IsOpen t) (hc : s.connectionOf? t = some c)
    {sql : String} {params : Params} {st : BoundStatement}
    (hst : params.resolve sql = .ok st) :
    ∃ failure, ((fetchMap t sql params f).after s).ledger
      = s.ledger.record [⟨some c, .query st.sql st.params, failure⟩] := by
  obtain ⟨failure, hledger⟩ := ledger_runQuery hopen hc st
  refine ⟨failure, ?_⟩
  have hresolve := resolve_of_eq_ok hst t s
  unfold fetchMap
  rw [EStateM.after_bind_ok (EStateM.answer_of_eq_ok hresolve),
    EStateM.after_of_eq_ok hresolve, ← hledger]
  cases hquery : (runQuery t st).answer s with
  | error e => rw [EStateM.after_bind_error hquery]
  | ok result =>
      rw [EStateM.after_bind_ok hquery]
      have hmap := (quiet_mapRows (.ofColumns result.columns) hf
        result.rows).mapError
      exact (hmap _).ledger _

end

-- ================================================================ the select

/-- A selection is a query with its suffix whose rows are loaded. -/
theorem select_eq {schema : Schema} {typeName : String} {b : EntityBinding}
    (hb : EntityBinding.ofType schema typeName = .ok b) (t : TransactionId)
    (suffix : String) (params : Params) :
    select schema t typeName suffix params
      = fetchMap t (withSuffix b.selectStatement suffix) params
          (load schema t b) := by
  rw [← fetchEntities_eq hb]
  unfold select
  rw [hb]
  rfl

/-- A statement behind a text without quotes and colons is rewritten as it is
alone, and has the same names. So a select fails on its parameters, and leaves
the session as it is, exactly if the suffix by itself has that fault. On an
open transaction, which has a connection in any session that comes of a run, it
otherwise sends one query: the statement of the type followed by a space and
the resolved suffix, or by nothing if the suffix is blank, with the parameters
of the suffix. No name of the type or of its columns may have a quote or a
colon. -/
theorem select_resolves_suffix :
    (∀ text, IsPlainText text → ∀ sql, rewriteTokens? (text ++ sql)
      = some (text ++ (rewriteTokens sql).1, (rewriteTokens sql).2))
    ∧ ∀ {schema : Schema} {typeName : String} {b : EntityBinding},
      EntityBinding.ofType schema typeName = .ok b →
      IsPlainText b.table → (∀ name ∈ b.columnNames, IsPlainText name) →
      ∀ {s : Session} {t : TransactionId}, s.ledger.IsOpen t →
      s.ledger.Connected t → ∀ suffix params,
        (∀ fault, select schema t typeName suffix params s
            = .error (.database (.parameters fault)
                (s.context t (withSuffix b.selectStatement suffix) [])) s
          ↔ params.resolve (Text.trimBlank suffix) = .error fault)
        ∧ ∀ st, params.resolve (Text.trimBlank suffix) = .ok st →
          ∃ c failure, s.connectionOf? t = some c
            ∧ ((select schema t typeName suffix params).after s).driver.log
              = s.driver.log ++ [⟨some c, .query
                  (if Text.isBlankText suffix then b.selectStatement
                    else b.selectStatement ++ " " ++ st.sql)
                  st.params, failure⟩] := by
  refine ⟨fun text h sql => rewriteTokens?_append h sql, ?_⟩
  intro schema typeName b hb htable hcolumns s t hopen hconnected suffix params
  have hresolve := resolve_withSuffix
    (EntityBinding.isPlainText_selectStatement htable hcolumns) suffix params
  have hsent : ∀ st, params.resolve (Text.trimBlank suffix) = .ok st →
      ∃ c failure, s.connectionOf? t = some c
        ∧ ((select schema t typeName suffix params).after s).driver.log
          = s.driver.log ++ [⟨some c, .query
              (suffixed b.selectStatement suffix st).sql st.params,
              failure⟩] := by
    intro st hst
    rw [hst] at hresolve
    obtain ⟨c, hc⟩ := Option.isSome_iff_exists.mp (hconnected hopen)
    rw [Session.connectionOf?_ledger] at hc
    obtain ⟨failure, hledger⟩ :=
      ledger_fetchMap (quiet_load schema t b) hopen hc hresolve
    rw [← select_eq hb] at hledger
    exact ⟨c, failure, hc, congrArg Ledger.log hledger⟩
  refine ⟨fun fault => ?_, hsent⟩
  cases hst : params.resolve (Text.trimBlank suffix) with
  | error other =>
      rw [hst] at hresolve
      rw [select_eq hb, fetchMap_of_fault hresolve]
      constructor
      · intro h
        cases h
        rfl
      · intro h
        cases h
        rfl
  | ok st =>
      -- something was sent, so this is not the session from before
      refine iff_of_false (fun h => ?_) nofun
      obtain ⟨c, failure, -, hlog⟩ := hsent st hst
      rw [EStateM.after_of_eq_error h] at hlog
      have hlength := congrArg List.length hlog
      rw [List.length_append] at hlength
      simp at hlength

/-- A note to look for. -/
def noted : Params :=
  Params.empty.param "n" (.stored (.text "gift"))

/-- A name in front of a cast and one in quotes, then a name that is not
bound. -/
theorem select_resolves_suffix_orders :
    let s := (Session.blank .empty).performAll EntityBinding.shop [.begin true]
    let sql := "SELECT id, customer_id, note, balance FROM orders"
    rewriteTokens? (sql ++ " WHERE :n::text <> ':x'")
        = some (sql ++ " WHERE ?::text <> ':x'", ["n"])
      ∧ (∃ failure, ((select EntityBinding.shop 0 "Order"
          "\n WHERE :n::text <> ':x' " noted).after s).driver.log
        = s.driver.log ++ [⟨some 0, .query (sql ++ " WHERE ?::text <> ':x'")
            [.text "gift"], failure⟩])
      ∧ select EntityBinding.shop 0 "Order" "WHERE note = :m" noted s
        = .error (.database (.parameters (.unused "n"))
            (s.context 0 (sql ++ " WHERE note = :m") [])) s := by
  intro s sql
  have hb : EntityBinding.ofType EntityBinding.shop "Order"
    = .ok EntityBinding.orders := rfl
  have hconsistent : s.ledger.Consistent :=
    Session.consistent_performAll
      (Session.consistent_start (Session.start_default .empty)) [.begin true]
  obtain ⟨hrewritten, hselect⟩ := select_resolves_suffix
  have h := hselect hb (by decide +kernel) (by decide +kernel) (s := s)
    (t := 0) rfl (hconsistent.connected 0)
  have hbound : noted.resolve
      (Text.trimBlank "\n WHERE :n::text <> ':x' ")
      = .ok ⟨"WHERE ?::text <> ':x'", [.text "gift"]⟩ := by
    decide +kernel
  refine ⟨?_, ?_, ?_⟩
  · rw [hrewritten sql (by decide +kernel)]
    decide +kernel
  · obtain ⟨c, failure, hc, hlog⟩ := (h _ noted).2 _ hbound
    cases hc
    exact ⟨failure, hlog⟩
  · exact ((h "WHERE note = :m" noted).1 _).mpr (by decide +kernel)

end Action

end DataAccess
