/-
What the identity cache serves is not stale. Whatever a caller asks for, in
whatever order, on however many chains, and whatever the driver does: once a
request has outdated a key of a chain, nothing is under it
(`find?_of_outdated`), and what is served under it later was put there since
(`put_since_outdated`). Outdating is writing an entity with that key, going
back to a savepoint of the chain, and ending its root; the last two outdate
every key, whether or not their calls succeed.
-/
import DataAccess.Proofs.Stream.Accounted

namespace DataAccess

namespace Desk

open Entry

variable {schema : Schema} {d : Desk} {c : ChainId} {key : CacheKey}
  {x : Entry} {i : InstanceId}

/-- Nothing is under a key that was outdated just now. -/
theorem find?_of_outdated
    (h : d.Accounts schema x.request x.chain x.events)
    (houtdates : d.Outdates schema c key x.request) :
    ((d.serve schema x.request).session.holdings.cache c).find? key
      = none := by
  obtain ⟨rfl, before, event, hevents, hevent⟩ := h.outdated houtdates
  rw [h.recounts.cache, hevents]
  exact IdentityCache.find?_replay_outdated hevent

/-- What is given under a key was put there, if nothing was there before. -/
theorem Accounted.put_of_gives {xs : List Entry}
    (h : d.Accounted schema (xs ++ [x]))
    (hnone : (d.session.holdings.cache c).find? key = none)
    (hgives : (d.after schema xs).Gives schema c key i x.request) :
    ∃ loaded, .put key i loaded ∈ history c (xs ++ [x]) := by
  obtain ⟨-, haccounts, -⟩ := accounted_append.mp h
  obtain ⟨rfl, event, hmem, loaded, hshown⟩ := haccounts.shows hgives
  have hevent : event ∈ history x.chain (xs ++ [x]) := by
    rw [history_append]
    refine List.mem_append_right _ (List.mem_flatMap.mpr ⟨x, ?_, ?_⟩)
    · exact List.mem_singleton_self x
    · unfold Entry.on
      rw [if_pos rfl]
      exact hmem
  exact ⟨loaded, IdentityCache.put_of_shown (h.retraces x.chain).traced hnone
    hevent hshown⟩

/-- Whatever is asked for, there is an account of it; and in any account, what
is taken from a cache after its key was outdated, and what is given to the
caller then, was put there since. -/
theorem put_since_outdated {s : Session} (hfresh : s.Fresh) (schema : Schema)
    (requests : List Request) :
    let d := ofSession s
    (∃ xs : List Entry, xs.map (·.request) = requests
      ∧ d.Accounted schema xs)
    ∧ ∀ (xs : List Entry) (x : Entry) (ys : List Entry),
        (xs ++ x :: ys).map (·.request) = requests →
        d.Accounted schema (xs ++ x :: ys) →
        ∀ c key, (d.after schema xs).Outdates schema c key x.request →
          (((d.after schema (xs ++ [x])).session.holdings.cache c).find? key
            = none)
          ∧ (∀ events i loaded events',
              history c ys = events ++ .took key i loaded :: events' →
              .put key i loaded ∈ events)
          ∧ ∀ zs y rest i, ys = zs ++ y :: rest →
              (d.after schema (xs ++ x :: zs)).Gives schema c key i
                y.request →
              ∃ loaded, .put key i loaded ∈ history c (zs ++ [y]) := by
  intro d
  refine ⟨(kept_ofSession hfresh).exists_accounted
    (browsing_ofSession schema s) requests, ?_⟩
  rintro xs x ys - haccounted c key houtdates
  have hcons : ∀ zs : List Entry, xs ++ x :: zs = (xs ++ [x]) ++ zs :=
    fun zs => List.append_cons xs x zs
  rw [hcons, accounted_append] at haccounted
  obtain ⟨hxs, hys⟩ := haccounted
  -- the key is gone once it is outdated, so what is taken must have been put
  have hnone : ((d.after schema (xs ++ [x])).session.holdings.cache c).find?
      key = none := by
    rw [after_append]
    exact find?_of_outdated (accounted_append.mp hxs).2.1 houtdates
  refine ⟨hnone, fun events i loaded events' hevents => ?_,
    fun zs y rest i hsplit hgives => ?_⟩
  · have htraced := (hys.retraces c).traced
    rw [hevents] at htraced
    exact IdentityCache.put_of_took htraced hnone
  · rw [hcons, after_append] at hgives
    rw [hsplit, List.append_cons zs y rest, accounted_append] at hys
    exact hys.1.put_of_gives hnone hgives

-- ================================================================ a reread

/-- A type of entities with a text as identity. -/
def tags : Schema :=
  [.ofColumns "Tag" "tags"
    [(ColumnBinding.plain "code" (.optional .text)).asIdentity,
     .plain "label" (.required .text)]]

/-- What a query for a tag answers. -/
def tagged (code label : String) : ResultSet :=
  ⟨[⟨none, "code"⟩, ⟨none, "label"⟩], [[.text code, .text label]]⟩

/-- The key of a tag. -/
def tagKey (code : String) : CacheKey :=
  ⟨"Tag", ⟨[.text code]⟩⟩

/-- A driver that answers two queries for a tag. -/
def relabeling : Driver :=
  (Driver.empty.pushResult (tagged "5" "old")).pushResult (tagged "5" "new")

/-- A tag is found, and found again after a nested transaction went back. -/
def reread : List Request :=
  [.operation (.begin false),
   .operation (.statement 0 (.findShared "Tag" [.text "5"])),
   .operation (.beginNested 0),
   .operation (.ending 1 .rollback),
   .operation (.statement 0 (.findShared "Tag" [.text "5"]))]

theorem ok_of_toOption {α : Type} {r : Except Error α} {a : α}
    (h : r.toOption = some a) : r = .ok a := by
  cases r with
  | error => cases h
  | ok a' => exact congrArg Except.ok (Option.some.inj h)

/-- The second instance was put after the nested transaction went back. -/
theorem put_since_reverted :
    let s := Session.blank relabeling
    let d := ofSession s
    s.Fresh ∧ ∃ xs : List Entry, xs.map (·.request) = reread
      ∧ d.Accounted tags xs
      ∧ ∃ loaded, .put (tagKey "5") 1 loaded ∈ history 0 (xs.drop 4) := by
  intro s d
  have hfresh : s.Fresh :=
    Session.fresh_start (Session.start_default relabeling) rfl rfl
  obtain ⟨⟨xs, hxs, haccounted⟩, hput⟩ :=
    put_since_outdated hfresh tags reread
  refine ⟨hfresh, xs, hxs, haccounted, ?_⟩
  have hrequests := hxs
  obtain ⟨x₀, xs, rfl, h₀, hxs⟩ := List.map_eq_cons_iff.mp hxs
  obtain ⟨x₁, xs, rfl, h₁, hxs⟩ := List.map_eq_cons_iff.mp hxs
  obtain ⟨x₂, xs, rfl, h₂, hxs⟩ := List.map_eq_cons_iff.mp hxs
  obtain ⟨x₃, xs, rfl, h₃, hxs⟩ := List.map_eq_cons_iff.mp hxs
  obtain ⟨x₄, xs, rfl, h₄, hxs⟩ := List.map_eq_cons_iff.mp hxs
  cases List.map_eq_nil_iff.mp hxs
  -- what has happened when the nested transaction goes back, and after it
  have hbefore : d.after tags [x₀, x₁, x₂]
      = d.serveAll tags (reread.take 3) := by
    simp only [after, List.map_cons, List.map_nil, h₀, h₁, h₂]
    rfl
  have hbetween : d.after tags [x₀, x₁, x₂, x₃]
      = d.serveAll tags (reread.take 4) := by
    simp only [after, List.map_cons, List.map_nil, h₀, h₁, h₂, h₃]
    rfl
  -- it goes back to its savepoint, which outdates all keys
  have houtdates : (d.after tags [x₀, x₁, x₂]).Outdates tags 0 (tagKey "5")
      x₃.request := by
    rw [hbefore, h₃]
    refine ⟨.reverted ⟨?_, ?_⟩ ?_ rfl (Ledger.endedSince_of_finished ?_ ?_),
      fun _ _ => nofun⟩ <;> decide +kernel
  -- the last find yields the second instance
  have hgives : (d.after tags [x₀, x₁, x₂, x₃]).Gives tags 0 (tagKey "5") 1
      x₄.request := by
    rw [hbetween, h₄]
    refine .yielded (.statement ?_ ⟨?_, ?_⟩
      (.findShared rfl (ok_of_toOption ?_))) <;> decide +kernel
  obtain ⟨-, -, hgiven⟩ := hput [x₀, x₁, x₂] x₃ [x₄] hrequests haccounted 0
    (tagKey "5") houtdates
  exact hgiven [] x₄ [] 1 rfl hgives

end Desk

end DataAccess
