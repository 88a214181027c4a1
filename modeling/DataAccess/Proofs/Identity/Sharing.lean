/-
One instance for one key. As long as no request touches a key of a chain, and
the cache has room for whatever is put into it, all that is shown under the
key is some of one stub, and then some of one loaded instance
(`sharesInstance_of_untouched`). So what a caller is given changes at most
once, from a stub to the instance that was loaded from its own row; and once
a shared find has answered, it answers the same again, and makes no call.
-/
import DataAccess.Proofs.Identity.Freshness

namespace DataAccess

open DataAccess.Action

/-- A shared find that finds a loaded instance makes no call. -/
theorem Action.findShared_of_loaded {schema : Schema} {s : Session}
    {t : TransactionId} {c : ChainId} {typeName : String} {id : List Value}
    {identity : IdentityKey} {i : InstanceId}
    (h : s.holdings.OnChain t c)
    (hid : IdentityKey.ofValues? id = some identity)
    (hfound : (s.holdings.cache c).find? ⟨typeName, identity⟩
      = some ⟨i, true⟩) :
    (findShared schema t typeName id).answer s = .ok (some i)
      ∧ ((findShared schema t typeName id).after s).driver = s.driver := by
  have hanswer : (cachedLoaded t ⟨typeName, identity⟩).answer s
      = .ok (some i) := by
    rw [answer_cachedLoaded h, hfound]
    rfl
  have hdriver : ((cachedLoaded t ⟨typeName, identity⟩).after s).driver
      = s.driver := by
    rw [after_cachedLoaded, Session.driver_modifyCache]
  unfold findShared
  rw [hid]
  dsimp only
  rw [EStateM.answer_bind_ok hanswer, EStateM.after_bind_ok hanswer]
  exact ⟨rfl, hdriver⟩

/-- The keys that anything is put under. -/
def Entry.cachedKeys (c : ChainId) (xs : List Entry) : List CacheKey :=
  ((history c xs).filterMap CacheEvent.putKey?).dedup

namespace Desk

open Entry

variable {schema : Schema} {d : Desk} {c : ChainId} {key : CacheKey}
  {x : Entry} {xs ys zs : List Entry} {i : InstanceId} {keys : List CacheKey}

/-- No request of a run touches a key of a chain. -/
def Untouched (schema : Schema) (d : Desk) (c : ChainId) (key : CacheKey)
    (xs : List Entry) : Prop :=
  ∀ ys y zs, xs = ys ++ y :: zs →
    ¬ (d.after schema ys).Touches schema c key y.request

/-- What a caller is given under a key is one instance, which may come after a
stub. -/
structure SharesInstance (schema : Schema) (d : Desk) (c : ChainId)
    (key : CacheKey) (xs : List Entry) : Prop where
  /-- What is shown is some of one stub, and then some of one loaded
  instance. -/
  shown : ∃ i m j n, (history c xs).filterMap (CacheEvent.shown? key)
    = List.replicate m ⟨i, false⟩ ++ List.replicate n ⟨j, true⟩
  /-- The stub was made for the key, and the loaded instance is what a find
  answered. -/
  origin : ∀ entry ∈ (history c xs).filterMap (CacheEvent.shown? key),
    ∃ e, (d.after schema xs).session.instances[entry.item]? = some e
      ∧ Origin schema key entry.loaded e
  /-- What a request gives is shown. -/
  given : ∀ ys y zs i, xs = ys ++ y :: zs →
    (d.after schema ys).Gives schema c key i y.request →
    ∃ loaded, ⟨i, loaded⟩ ∈ (y.on c).filterMap (CacheEvent.shown? key)
  /-- What a shared find or a resolved reference answers is a loaded instance,
  shown last. -/
  yielded : ∀ ys y zs i, xs = ys ++ y :: zs →
    (d.after schema ys).Yields schema c key i y.request →
    ((y.on c).filterMap (CacheEvent.shown? key)).getLast? = some ⟨i, true⟩
  /-- After that a shared find answers the same, and makes no call. -/
  again : ∀ ys y zs rest i t id, xs = ys ++ y :: (zs ++ rest) →
    (d.after schema ys).Yields schema c key i y.request →
    (d.after schema (ys ++ y :: zs)).session.holdings.OnChain t c →
    IdentityKey.ofValues? id = some key.identity →
    let s := (d.after schema (ys ++ y :: zs)).session
    (findShared schema t key.entity id).answer s = .ok (some i)
      ∧ ((findShared schema t key.entity id).after s).driver = s.driver

/-- Nothing takes away what is under a key that is not touched. -/
theorem Accounted.not_outdates (h : d.Accounted schema xs)
    (huntouched : d.Untouched schema c key xs) :
    ∀ event ∈ history c xs, ¬ event.Outdates key := by
  induction xs generalizing d with
  | nil => exact List.forall_mem_nil _
  | cons x xs ih =>
      obtain ⟨haccounts, haccounted⟩ := h
      rw [history_cons]
      refine List.forall_mem_append.mpr ⟨fun event hmem houtdates => ?_,
        ih haccounted fun ys y zs hsplit => ?_⟩
      · unfold Entry.on at hmem
        split at hmem
        · next hc =>
          exact huntouched [] x xs rfl (hc ▸ haccounts.touched hmem houtdates)
        · cases hmem
      · exact huntouched (x :: ys) y zs (congrArg (x :: ·) hsplit)

/-- A run in which nothing leaves the cache of a chain for want of room, and
nothing takes away what is under a key. -/
structure Settled (schema : Schema) (d : Desk) (c : ChainId)
    (key : CacheKey) (keys : List CacheKey) (xs : List Entry) : Prop where
  accounted : d.Accounted schema xs
  roomy : (d.session.holdings.cache c).Roomy keys
  putKeys : ∀ event ∈ history c xs, ∀ k ∈ event.putKey?, k ∈ keys
  current : ∀ event ∈ history c xs, ¬ event.Outdates key

theorem Settled.append (h : d.Settled schema c key keys (xs ++ ys)) :
    d.Settled schema c key keys xs
      ∧ (d.after schema xs).Settled schema c key keys ys := by
  obtain ⟨haccounted, hroomy, hkeys, hcurrent⟩ := h
  obtain ⟨hxs, hys⟩ := accounted_append.mp haccounted
  rw [history_append] at hkeys hcurrent
  obtain ⟨hkeysxs, hkeysys⟩ := List.forall_mem_append.mp hkeys
  obtain ⟨hcurrentxs, hcurrentys⟩ := List.forall_mem_append.mp hcurrent
  refine ⟨⟨hxs, hroomy, hkeysxs, hcurrentxs⟩, hys, ?_, hkeysys, hcurrentys⟩
  rw [(hxs.retraces c).cache]
  exact hroomy.replay hkeysxs

/-- What a shared find answers is under its key right after it. -/
theorem Settled.find?_of_yields (h : d.Settled schema c key keys [x])
    (hyields : d.Yields schema c key i x.request) :
    ((d.after schema [x]).session.holdings.cache c).find? key
      = some ⟨i, true⟩ := by
  obtain ⟨rfl, before, event, hevents, -, hshown⟩ :=
    h.accounted.1.yields hyields
  have hhistory : history x.chain [x] = before ++ [event] := by
    rw [history_cons, Entry.on, if_pos rfl, hevents]
    exact List.append_nil _
  have hretraces := h.accounted.retraces x.chain
  have hkeys := h.putKeys
  rw [hhistory] at hretraces hkeys
  obtain ⟨hkeysBefore, hkeysEvent⟩ := List.forall_mem_append.mp hkeys
  obtain ⟨-, hfits, -⟩ := IdentityCache.traced_append.mp hretraces.traced
  rw [hretraces.cache, IdentityCache.replay_append]
  exact (h.roomy.replay hkeysBefore).find?_of_shown hfits
    (hkeysEvent event (List.mem_singleton_self _)) hshown

/-- And it stays there. -/
theorem Settled.find?_of_loaded (h : d.Settled schema c key keys xs)
    (hfound : (d.session.holdings.cache c).find? key = some ⟨i, true⟩) :
    ((d.after schema xs).session.holdings.cache c).find? key
      = some ⟨i, true⟩ := by
  have hretraces := h.accounted.retraces c
  obtain ⟨entry, hentry, hleads⟩ := h.roomy.find?_of_current
    hretraces.traced h.putKeys h.current hfound
  rw [← hretraces.cache, hleads.eq_of_loaded rfl] at hentry
  exact hentry

/-- What a request of a run gives is shown. -/
theorem Accounted.shown_of_gives
    (h : d.Accounted schema (xs ++ x :: ys))
    (hgives : (d.after schema xs).Gives schema c key i x.request) :
    ∃ loaded, ⟨i, loaded⟩ ∈ (x.on c).filterMap (CacheEvent.shown? key) := by
  obtain ⟨-, haccounts, -⟩ := accounted_append.mp h
  obtain ⟨rfl, event, hmem, loaded, hshown⟩ := haccounts.shows hgives
  refine ⟨loaded, List.mem_filterMap.mpr ⟨event, ?_, hshown⟩⟩
  unfold Entry.on
  rw [if_pos rfl]
  exact hmem

/-- What a shared find of a run answers is shown last. -/
theorem Accounted.getLast?_of_yields
    (h : d.Accounted schema (xs ++ x :: ys))
    (hyields : (d.after schema xs).Yields schema c key i x.request) :
    ((x.on c).filterMap (CacheEvent.shown? key)).getLast?
      = some ⟨i, true⟩ := by
  obtain ⟨-, haccounts, -⟩ := accounted_append.mp h
  obtain ⟨rfl, before, event, hevents, -, hshown⟩ := haccounts.yields hyields
  unfold Entry.on
  rw [if_pos rfl, hevents, List.filterMap_append]
  simp [hshown]

/-- What a run shows that begins with nothing cached was made for its key. -/
theorem Accounted.origin_of_shown (h : d.Accounted schema (xs ++ ys))
    (hnone : (d.session.holdings.cache c).find? key = none)
    {entry : CacheEntry InstanceId}
    (hentry : entry ∈ (history c ys).filterMap (CacheEvent.shown? key)) :
    ∃ e, ((d.after schema xs).after schema ys).session.instances[entry.item]?
        = some e ∧ Origin schema key entry.loaded e := by
  obtain ⟨event, hevent, hshown⟩ := List.mem_filterMap.mp hentry
  have hretraces := h.retraces c
  have hput := IdentityCache.put_of_shown hretraces.traced hnone
    (history_append c xs ys ▸ List.mem_append_right _ hevent) hshown
  rw [← after_append]
  exact hretraces.origin hput

/-- After a shared find answered, another one answers the same, and makes no
call. -/
theorem Settled.findShared_again {t : TransactionId} {id : List Value}
    (h : d.Settled schema c key keys (xs ++ x :: (ys ++ zs)))
    (hyields : (d.after schema xs).Yields schema c key i x.request)
    (ht : (d.after schema (xs ++ x :: ys)).session.holdings.OnChain t c)
    (hid : IdentityKey.ofValues? id = some key.identity) :
    let s := (d.after schema (xs ++ x :: ys)).session
    (findShared schema t key.entity id).answer s = .ok (some i)
      ∧ ((findShared schema t key.entity id).after s).driver = s.driver := by
  have hsplit : xs ++ x :: (ys ++ zs) = xs ++ ([x] ++ ys) ++ zs := by simp
  rw [hsplit] at h
  obtain ⟨hx, hys⟩ := h.append.1.append.2.append
  have hfound := hys.find?_of_loaded (hx.find?_of_yields hyields)
  rw [← after_append, ← after_append] at hfound
  exact findShared_of_loaded ht hid hfound

/-- A run of a caller that has just begun is settled, if there is room for
whatever is put, and nothing touches the key. -/
theorem settled_of_untouched {s : Session} (hfresh : s.Fresh)
    (haccounted : (ofSession s).Accounted schema (xs ++ ys ++ zs))
    (hroom : (cachedKeys c (xs ++ ys ++ zs)).length
      ≤ (s.holdings.cache c).capacity)
    (huntouched : ((ofSession s).after schema xs).Untouched schema c key ys) :
    ((ofSession s).after schema xs).Settled schema c key
      (cachedKeys c (xs ++ ys ++ zs)) ys := by
  have hkeys : ∀ event ∈ history c (xs ++ ys ++ zs), ∀ k ∈ event.putKey?,
      k ∈ cachedKeys c (xs ++ ys ++ zs) := fun event hmem k hk =>
    List.mem_dedup.mpr (List.mem_filterMap.mpr ⟨event, hmem, hk⟩)
  generalize cachedKeys c (xs ++ ys ++ zs) = keys at hroom hkeys
  have hroomy : (s.holdings.cache c).Roomy keys := by
    rw [cache_of_fresh hfresh c] at hroom ⊢
    exact IdentityCache.roomy_empty hroom
  obtain ⟨hxsys, -⟩ := accounted_append.mp haccounted
  obtain ⟨hxs, hys⟩ := accounted_append.mp hxsys
  rw [history_append, history_append] at hkeys
  obtain ⟨hkeys, -⟩ := List.forall_mem_append.mp hkeys
  obtain ⟨hkeysxs, hkeysys⟩ := List.forall_mem_append.mp hkeys
  refine ⟨hys, ?_, hkeysys, hys.not_outdates huntouched⟩
  rw [(hxs.retraces c).cache]
  exact hroomy.replay hkeysxs

/-- Whatever is asked for, there is an account of it; and in any account, as
long as there is room for whatever is put into the cache of a chain, what a
caller is given under a key is one instance, until the key is touched. -/
theorem sharesInstance_of_untouched {s : Session} (hfresh : s.Fresh)
    (schema : Schema) (requests : List Request) :
    let d := ofSession s
    (∃ xs : List Entry, xs.map (·.request) = requests
      ∧ d.Accounted schema xs)
    ∧ ∀ (xs ys zs : List Entry) c key,
        (xs ++ ys ++ zs).map (·.request) = requests →
        d.Accounted schema (xs ++ ys ++ zs) →
        (cachedKeys c (xs ++ ys ++ zs)).length
          ≤ (s.holdings.cache c).capacity →
        (d.after schema xs).Untouched schema c key ys →
        (d.after schema xs).SharesInstance schema c key ys := by
  intro d
  refine ⟨(kept_ofSession hfresh).exists_accounted
    (browsing_ofSession schema s) requests, ?_⟩
  rintro xs ys zs c key - haccounted hroom huntouched
  obtain ⟨hxsys, -⟩ := accounted_append.mp haccounted
  have hys := (accounted_append.mp hxsys).2
  have hsettled := settled_of_untouched hfresh haccounted hroom huntouched
  constructor
  · exact CacheEntry.exists_replicate (hsettled.roomy.pairwise_shown
      (hys.retraces c).traced hsettled.putKeys hsettled.current)
  · intro entry hentry
    refine hxsys.origin_of_shown ?_ hentry
    exact (cache_of_fresh hfresh c).symm ▸ IdentityCache.find?_empty _ key
  · intro ys₁ y ys₂ i hsplit hgives
    exact (hsplit ▸ hys).shown_of_gives hgives
  · intro ys₁ y ys₂ i hsplit hyields
    exact (hsplit ▸ hys).getLast?_of_yields hyields
  · intro ys₁ y ys₂ rest i t id hsplit hyields ht hid
    exact (hsplit ▸ hsettled).findShared_again hyields ht hid

-- ============================================================= a nested find

/-- No more keys are put than instances. -/
theorem Accounted.length_cachedKeys_le (h : d.Accounted schema xs)
    (c : ChainId) :
    (cachedKeys c xs).length
      ≤ (d.after schema xs).session.instances.length := by
  calc (cachedKeys c xs).length
      ≤ ((history c xs).filterMap CacheEvent.putKey?).length :=
        (List.dedup_sublist _).length_le
    _ ≤ d.session.instances.length
        + ((history c xs).filterMap CacheEvent.putKey?).length :=
        Nat.le_add_left ..
    _ ≤ (d.after schema xs).session.instances.length := (h.retraces c).puts

/-- A tag is found, and a nested transaction begins. -/
def nesting : List Request :=
  [.operation (.begin false),
   .operation (.statement 0 (.findShared "Tag" [.text "5"])),
   .operation (.beginNested 0)]

/-- The nested transaction finds the same tag, without a call. -/
theorem shared_nested :
    let s := Session.blank relabeling
    let d := ofSession s
    let s' := (d.serveAll tags nesting).session
    s.Fresh ∧ (findShared tags 1 "Tag" [.text "5"]).answer s' = .ok (some 0)
      ∧ ((findShared tags 1 "Tag" [.text "5"]).after s').driver
        = s'.driver := by
  intro s d s'
  have hfresh : s.Fresh :=
    Session.fresh_start (Session.start_default relabeling) rfl rfl
  refine ⟨hfresh, ?_⟩
  obtain ⟨⟨xs, hxs, haccounted⟩, hshares⟩ :=
    sharesInstance_of_untouched hfresh tags nesting
  have hrequests := hxs
  obtain ⟨x₀, xs, rfl, h₀, hxs⟩ := List.map_eq_cons_iff.mp hxs
  obtain ⟨x₁, xs, rfl, h₁, hxs⟩ := List.map_eq_cons_iff.mp hxs
  obtain ⟨x₂, xs, rfl, h₂, hxs⟩ := List.map_eq_cons_iff.mp hxs
  cases List.map_eq_nil_iff.mp hxs
  -- the three requests, one after the other
  have hbegun : d.after tags [x₀] = d.serveAll tags (nesting.take 1) := by
    simp only [after, List.map_cons, List.map_nil, h₀]
    rfl
  have hfound : d.after tags [x₀, x₁] = d.serveAll tags (nesting.take 2) := by
    simp only [after, List.map_cons, List.map_nil, h₀, h₁]
    rfl
  have hend : d.after tags [x₀, x₁, x₂] = d.serveAll tags nesting := by
    simp only [after, List.map_cons, List.map_nil, h₀, h₁, h₂]
    rfl
  have hroom : (cachedKeys 0 [x₀, x₁, x₂]).length
      ≤ (s.holdings.cache 0).capacity := by
    refine Nat.le_trans (haccounted.length_cachedKeys_le 0) ?_
    rw [hend]
    decide +kernel
  -- neither of the later two touches the key
  have huntouched : (d.after tags [x₀]).Untouched tags 0 (tagKey "5")
      [x₁, x₂] := by
    intro ys y zs hsplit htouches
    rcases ys with _ | ⟨y₁, _ | ⟨y₂, ys⟩⟩
    · cases hsplit
      rw [hbegun, h₁] at htouches
      cases htouches with
      | written _ _ hwrites => cases hwrites
      | rootEnded _ _ hended =>
          refine Ledger.not_endedSince_of_open ?_ hended
          decide +kernel
    · cases hsplit
      rw [← after_append, List.singleton_append, hfound, h₂] at htouches
      cases htouches with
      | rootEnded _ _ hended =>
          refine Ledger.not_endedSince_of_open ?_ hended
          decide +kernel
    · simp at hsplit
  have hshared := hshares [x₀] [x₁, x₂] [] 0 (tagKey "5") hrequests haccounted
    hroom huntouched
  -- so a second find in the nested transaction shares the instance
  have hagain := hshared.again [] x₁ [x₂] [] 0 1 [.text "5"] rfl ?_ ?_ rfl
  · rw [List.nil_append, ← after_append, List.singleton_append, hend] at hagain
    exact hagain
  · rw [after, List.map_nil, serveAll, hbegun, h₁]
    refine .statement ?_ ⟨?_, ?_⟩ (.findShared rfl (ok_of_toOption ?_)) <;>
      decide +kernel
  · rw [List.nil_append, ← after_append, List.singleton_append, hend]
    exact ⟨by decide +kernel, by decide +kernel⟩

end Desk

end DataAccess
