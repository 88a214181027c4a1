/-
What a session holds in its identity caches, and how an action changes it.
`Session.holdings` is all that the caches depend on: the caches of the chains,
the chain of each transaction, the shared instances. `Recounts` says that
events on the cache of one chain tell how holdings came from earlier ones;
`Told` says that what is run on a transaction is told by events on the cache
of its chain, and by which.

# The shape of the proofs

Most of what an action does leaves the holdings as they are (`Idle`). The four
actions on a cache are one event each; `Told.bind` puts events together as an
action is put together from its steps. What is wanted of the events is a
relation between them and what the action did, so that an answer can be tied
to the events that brought it about.
-/
import DataAccess.Proofs.Identity.History
import DataAccess.Proofs.Session.Statements

namespace DataAccess

-- ================================================================ holdings

/-- What a session holds in its caches. -/
structure Holdings where
  /-- The capacity of a new cache. -/
  capacity : Nat
  /-- The chain of each transaction. -/
  places : List ChainId
  caches : List (IdentityCache InstanceId)
  instances : List Entity

namespace Holdings

variable (h : Holdings)

/-- The cache of a chain; a chain that is still to come has an empty one. -/
def cache (c : ChainId) : IdentityCache InstanceId :=
  h.caches[c]?.getD (.empty h.capacity)

/-- A transaction is on a chain. -/
structure OnChain (t : TransactionId) (c : ChainId) : Prop where
  place : h.places[t]? = some c
  lt : c < h.caches.length

/-- The holdings with the cache of a chain changed. -/
def changed (c : ChainId)
    (f : IdentityCache InstanceId → IdentityCache InstanceId) : Holdings :=
  { h with caches := h.caches.modify c f }

variable {h} {t : TransactionId} {c c' : ChainId}
  {f : IdentityCache InstanceId → IdentityCache InstanceId}

/-- A transaction is on one chain. -/
theorem OnChain.unique (hc : h.OnChain t c) (hc' : h.OnChain t c') :
    c = c' :=
  Option.some.inj (hc.place.symm.trans hc'.place)

/-- A change of a cache moves no transaction to another chain. -/
theorem OnChain.changed {u : TransactionId} {c₁ : ChainId}
    (hu : h.OnChain u c₁) : (h.changed c f).OnChain u c₁ := by
  refine ⟨hu.place, ?_⟩
  show c₁ < (h.caches.modify c f).length
  rw [List.length_modify]
  exact hu.lt

theorem cache_changed_self (hlt : c < h.caches.length) :
    (h.changed c f).cache c = f (h.cache c) := by
  unfold changed cache
  dsimp only
  rw [List.getElem?_modify_eq, List.getElem?_eq_getElem hlt]
  rfl

theorem cache_changed_ne (hne : c' ≠ c) :
    (h.changed c f).cache c' = h.cache c' := by
  unfold changed cache
  dsimp only
  rw [List.getElem?_modify_ne _ _ hne.symm]

end Holdings

namespace Session

variable (s : Session) (t : TransactionId)

/-- What a session holds in its caches. -/
def holdings : Holdings :=
  { capacity := s.config.identityCacheCapacity
    places := s.transactions.map (·.chain)
    caches := s.chains.map (·.cache)
    instances := s.instances }

variable {s t} {c : ChainId}

/-- Where a transaction is. -/
theorem transaction_onChain (h : s.holdings.OnChain t c) :
    ∃ tx, s.transactions[t]? = some tx ∧ tx.chain = c
      ∧ c < s.chains.length := by
  have hplace := h.place
  have hlt := h.lt
  unfold holdings at hplace hlt
  rw [List.getElem?_map, Option.map_eq_some_iff] at hplace
  rw [List.length_map] at hlt
  obtain ⟨tx, htx, hchain⟩ := hplace
  exact ⟨tx, htx, hchain, hlt⟩

/-- The cache of a transaction is that of its chain. -/
theorem cacheOf_eq (h : s.holdings.OnChain t c) :
    s.cacheOf t = s.holdings.cache c := by
  obtain ⟨tx, htx, rfl, hlt⟩ := transaction_onChain h
  unfold cacheOf chainOf? Holdings.cache holdings
  simp only [htx, Option.bind_some, List.getElem?_map,
    List.getElem?_eq_getElem hlt]
  rfl

/-- A change of the cache of a transaction is one of the cache of its
chain. -/
theorem holdings_modifyCache (h : s.holdings.OnChain t c)
    (f : IdentityCache InstanceId → IdentityCache InstanceId) :
    (s.modifyCache t f).holdings = s.holdings.changed c f := by
  obtain ⟨tx, htx, rfl, -⟩ := transaction_onChain h
  unfold modifyCache modifyChain holdings Holdings.changed
  simp only [htx, Holdings.mk.injEq, true_and, and_true]
  refine List.ext_getElem? fun i => ?_
  simp only [List.getElem?_map, List.getElem?_modify]
  cases s.chains[i]? with
  | none => rfl
  | some chain => by_cases hi : tx.chain = i <;> simp [hi]

end Session

-- =============================================================== recounting

/-- Where the instance of an entry comes from: a stub was made for a key that
was found in a row; a loaded instance is what a find for an identity answered,
loaded from a row. -/
inductive Origin (schema : Schema) (key : CacheKey) : Bool → Entity → Prop where
  | stub {b : EntityBinding} {v : Value} {columnPrefix : String} {row : Row}
      {e : Entity} (hb : EntityBinding.ofType schema key.entity = .ok b)
      (hv : IdentityKey.ofValues? [v] = some key.identity)
      (he : Action.stub b v columnPrefix row = .ok e) :
      Origin schema key false e
  | loaded {b : EntityBinding} {id : List Value} {t : TransactionId}
      {row : Row} {s s' : Session} {e : Entity}
      (hb : EntityBinding.ofType schema key.entity = .ok b)
      (hid : IdentityKey.ofValues? id = some key.identity)
      (he : (Action.load schema t b row).answer s = .ok e)
      (hfind : (Action.find schema t key.entity id).answer s'
        = .ok (some e)) :
      Origin schema key true e

/-- Events on the cache of a chain tell how it came about, as holdings came
from earlier ones. -/
structure Retraces (schema : Schema) (h : Holdings) (c : ChainId)
    (events : List (CacheEvent InstanceId)) (h' : Holdings) : Prop where
  cache : h'.cache c = (h.cache c).replay events
  traced : (h.cache c).Traced events
  onChain : ∀ {t : TransactionId} {c' : ChainId},
    h.OnChain t c' → h'.OnChain t c'
  instances : h.instances <+: h'.instances
  /-- What is put is a new instance. -/
  puts : h.instances.length + (events.filterMap CacheEvent.putKey?).length
    ≤ h'.instances.length
  origin : ∀ {key : CacheKey} {i : InstanceId} {loaded : Bool},
    .put key i loaded ∈ events →
    ∃ e, h'.instances[i]? = some e ∧ Origin schema key loaded e

/-- They tell it all: nothing is done with other caches. -/
structure Recounts (schema : Schema) (h : Holdings) (c : ChainId)
    (events : List (CacheEvent InstanceId)) (h' : Holdings) : Prop
    extends Retraces schema h c events h' where
  elsewhere : ∀ c' ≠ c, h'.cache c' = h.cache c'

section

variable {schema : Schema} {h h' h'' : Holdings} {c : ChainId}
  {events events' : List (CacheEvent InstanceId)}

/-- An instance stays what it is. -/
theorem Retraces.instance_eq (hf : Retraces schema h c events h')
    {i : InstanceId} {e : Entity} (he : h.instances[i]? = some e) :
    h'.instances[i]? = some e := by
  obtain ⟨more, hmore⟩ := hf.instances
  rw [← hmore, List.getElem?_append_left (List.getElem?_eq_some_iff.mp he).1]
  exact he

theorem retraces_refl (h : Holdings) (c : ChainId) :
    Retraces schema h c [] h :=
  ⟨rfl, trivial, id, List.prefix_refl _, Nat.le_refl _, (nomatch ·)⟩

/-- What happened to a cache, and then more of it. -/
theorem Retraces.trans (hf : Retraces schema h c events h')
    (hf' : Retraces schema h' c events' h'') :
    Retraces schema h c (events ++ events') h'' := by
  constructor
  · rw [hf'.cache, hf.cache, IdentityCache.replay_append]
  · rw [IdentityCache.traced_append, ← hf.cache]
    exact ⟨hf.traced, hf'.traced⟩
  · exact fun ht => hf'.onChain (hf.onChain ht)
  · exact hf.instances.trans hf'.instances
  · rw [List.filterMap_append, List.length_append, ← Nat.add_assoc]
    exact Nat.le_trans (Nat.add_le_add_right hf.puts _) hf'.puts
  · intro key i loaded hput
    rcases List.mem_append.mp hput with hput | hput
    · obtain ⟨e, he, horigin⟩ := hf.origin hput
      exact ⟨e, hf'.instance_eq he, horigin⟩
    · exact hf'.origin hput

theorem recounts_refl (h : Holdings) (c : ChainId) :
    Recounts schema h c [] h :=
  ⟨retraces_refl h c, fun _ _ => rfl⟩

/-- An account can be continued. -/
theorem Recounts.trans (hr : Recounts schema h c events h')
    (hr' : Recounts schema h' c events' h'') :
    Recounts schema h c (events ++ events') h'' :=
  ⟨hr.toRetraces.trans hr'.toRetraces, fun c' hc' =>
    (hr'.elsewhere c' hc').trans (hr.elsewhere c' hc')⟩

/-- What is done with one cache is nothing that is done with another one. -/
theorem Recounts.retraces_elsewhere (hr : Recounts schema h c events h')
    {c' : ChainId} (hc' : c' ≠ c) : Retraces schema h c' [] h' :=
  ⟨hr.elsewhere c' hc', trivial, hr.onChain, hr.instances,
    hr.instances.length_le, (nomatch ·)⟩

/-- One event on the cache of a chain that puts nothing. -/
theorem recounts_changed {event : CacheEvent InstanceId}
    {f : IdentityCache InstanceId → IdentityCache InstanceId}
    (hlt : c < h.caches.length) (hfits : event.Fits (h.cache c))
    (hf : f (h.cache c) = event.apply (h.cache c))
    (hput : event.putKey? = none) :
    Recounts schema h c [event] (h.changed c f) := by
  refine ⟨⟨?_, ⟨hfits, trivial⟩, Holdings.OnChain.changed,
    List.prefix_refl _, ?_, fun hmem => ?_⟩,
    fun c' hc' => Holdings.cache_changed_ne hc'⟩
  · rw [Holdings.cache_changed_self hlt, hf]
    rfl
  · rw [List.filterMap_cons_none hput]
    exact Nat.le_refl _
  · cases List.mem_singleton.mp hmem
    cases hput

/-- A new instance is put into the cache of a chain. -/
theorem recounts_put {key : CacheKey} {e : Entity} {loaded : Bool}
    (hlt : c < h.caches.length)
    (hfits : (CacheEvent.put key h.instances.length loaded).Fits (h.cache c))
    (horigin : Origin schema key loaded e) :
    Recounts schema h c [.put key h.instances.length loaded]
      { h.changed c (·.put key h.instances.length loaded) with
        instances := h.instances ++ [e] } := by
  refine ⟨⟨Holdings.cache_changed_self hlt, ⟨hfits, trivial⟩, fun ht => ?_,
    List.prefix_append .., ?_, fun hmem => ?_⟩,
    fun c' hc' => Holdings.cache_changed_ne hc'⟩
  · refine ⟨ht.place, ?_⟩
    show _ < (h.caches.modify c _).length
    rw [List.length_modify]
    exact ht.lt
  · show _ ≤ (h.instances ++ [e]).length
    rw [List.length_append]
    exact Nat.le_refl _
  · cases List.mem_singleton.mp hmem
    exact ⟨e, List.getElem?_concat_length, horigin⟩

end

-- ============================================================ what is told

section

variable {τ α β : Type} {schema : Schema} {view : τ → Session}
  {t : TransactionId} {c : ChainId} {w : τ}

/-- What is run from a state is told by events on the cache of a chain, and
`R` holds of what it comes to, of the state it leaves behind, and of the
events. The state may hold more than the session, which `view` finds in
it. -/
def Told (schema : Schema) (view : τ → Session) (c : ChainId)
    (a : EStateM Error τ α) (w : τ)
    (R : Except Error α → τ → List (CacheEvent InstanceId) → Prop) : Prop :=
  ∃ events,
    Recounts schema (view w).holdings c events (view (a.after w)).holdings
      ∧ R (a.answer w) (a.after w) events

/-- An action that leaves the holdings alone. -/
def Idle (view : τ → Session) (a : EStateM Error τ α) : Prop :=
  ∀ w, (view (a.after w)).holdings = (view w).holdings

variable {a : EStateM Error τ α} {f : α → EStateM Error τ β}
  {R₁ R₁' : Except Error α → τ → List (CacheEvent InstanceId) → Prop}
  {R : Except Error β → τ → List (CacheEvent InstanceId) → Prop}

/-- What is told of an action may be weakened. -/
theorem Told.imp (h : Told schema view c a w R₁)
    (himp : ∀ events,
      R₁ (a.answer w) (a.after w) events →
        R₁' (a.answer w) (a.after w) events) :
    Told schema view c a w R₁' := by
  obtain ⟨events, hevents, hR⟩ := h
  exact ⟨events, hevents, himp events hR⟩

/-- The events of a first step, and of what follows on its result. -/
theorem Told.bind (ha : Told schema view c a w R₁)
    (herror : ∀ e events, a.answer w = .error e →
      R₁ (.error e) (a.after w) events → R (.error e) (a.after w) events)
    (hf : ∀ x events, a.answer w = .ok x →
      Recounts schema (view w).holdings c events
        (view (a.after w)).holdings →
      R₁ (.ok x) (a.after w) events →
      Told schema view c (f x) (a.after w)
        fun r w' events' => R r w' (events ++ events')) :
    Told schema view c (a >>= f) w R := by
  obtain ⟨events, hevents, hR⟩ := ha
  cases hx : a.answer w with
  | error e =>
      rw [hx] at hR
      refine ⟨events, ?_, ?_⟩
      · rw [EStateM.after_bind_error hx]
        exact hevents
      · rw [EStateM.after_bind_error hx, EStateM.answer_bind_error hx]
        exact herror e events hx hR
  | ok x =>
      rw [hx] at hR
      obtain ⟨events', hevents', hR'⟩ := hf x events hx hevents hR
      refine ⟨events ++ events', ?_, ?_⟩
      · rw [EStateM.after_bind_ok hx]
        exact hevents.trans hevents'
      · rw [EStateM.after_bind_ok hx, EStateM.answer_bind_ok hx]
        exact hR'

/-- Of an action that leaves the holdings alone no events are told. -/
theorem Idle.told (ha : Idle view a)
    (hR : R₁ (a.answer w) (a.after w) []) : Told schema view c a w R₁ :=
  ⟨[], ha w ▸ recounts_refl _ c, hR⟩

/-- What follows on a step that leaves the holdings alone. -/
theorem Idle.bind_told (ha : Idle view a)
    (herror : ∀ e, a.answer w = .error e → R (.error e) (a.after w) [])
    (hf : ∀ x, a.answer w = .ok x →
      Told schema view c (f x) (a.after w) R) :
    Told schema view c (a >>= f) w R := by
  have htold : Told schema view c a w fun _ _ events => events = [] :=
    ha.told rfl
  refine htold.bind ?_ ?_
  · rintro e events he rfl
    exact herror e he
  · rintro x events hx - rfl
    exact hf x hx

/-- The same where it does not matter what the step did. -/
theorem Idle.then_told (ha : Idle view a)
    (herror : ∀ e w', R (.error e) w' [])
    (hf : ∀ x w', (view w').holdings = (view w).holdings →
      Told schema view c (f x) w' R) :
    Told schema view c (a >>= f) w R :=
  ha.bind_told (fun e _ => herror e _) fun x _ => hf x _ (ha w)

-- ------------------------------------------------------------ what is idle

theorem idle_pure (x : α) : Idle view (pure x : EStateM Error τ α) :=
  fun _ => rfl

theorem idle_throw (e : Error) :
    Idle view (throw e : EStateM Error τ α) :=
  fun _ => rfl

theorem idle_get : Idle view (get : EStateM Error τ τ) :=
  fun _ => rfl

/-- What follows on a step is asked for its results only. -/
theorem Idle.bind_of_answer (ha : Idle view a)
    (hf : ∀ x, (∃ w, a.answer w = .ok x) → Idle view (f x)) :
    Idle view (a >>= f) := by
  intro w
  rw [EStateM.after_bind]
  cases hx : a.answer w with
  | error e => exact ha w
  | ok x => exact (hf x ⟨w, hx⟩ _).trans (ha w)

theorem Idle.bind (ha : Idle view a) (hf : ∀ x, Idle view (f x)) :
    Idle view (a >>= f) :=
  ha.bind_of_answer fun x _ => hf x

end

namespace Action

variable {α : Type} {schema : Schema} {t : TransactionId} {c : ChainId}
  {s : Session} {a : Action α}

theorem idle_ofExcept (r : Except Error α) : Idle id (ofExcept r) := by
  cases r with
  | ok x => exact idle_pure x
  | error e => exact idle_throw e

theorem idle_report (e : Event) : Idle id (report e) :=
  fun _ => rfl

/-- The driver has no part in what is held. -/
theorem idle_drive (context : StatementContext) (step : Driver.Step α) :
    Idle id (drive context step) := by
  intro s
  rw [after_drive]
  rfl

theorem idle_mapError {f : Error → Error} (h : Idle id a) :
    Idle id (mapError f a) := by
  intro s
  rw [after_mapError]
  exact h s

theorem idle_attempt (h : Idle id a) : Idle id (attempt a) := by
  intro s
  rw [after_attempt]
  exact h s

/-- An attempt is told like what is attempted, and always answers. -/
theorem told_attempt
    {R : Except Error α → Session → List (CacheEvent InstanceId) → Prop}
    (h : Told schema id c a s R) :
    Told schema id c (attempt a) s fun r s' events =>
      ∃ r', r = .ok r' ∧ R r' s' events := by
  obtain ⟨events, hevents, hR⟩ := h
  unfold Told
  rw [after_attempt, answer_attempt]
  exact ⟨events, hevents, _, rfl, hR⟩

/-- An answer that is not looked at does not change what is told. -/
theorem told_ignoring
    {R : Except Error α → Session → List (CacheEvent InstanceId) → Prop}
    (h : Told schema id c a s R) :
    Told schema id c (ignoring a) s fun r s' events =>
      r = (a.answer s).map (fun _ => ()) ∧ R (a.answer s) s' events := by
  obtain ⟨events, hevents, hR⟩ := h
  unfold Told
  rw [after_ignoring, answer_ignoring]
  exact ⟨events, hevents, rfl, hR⟩

/-- An attempt at such an action, and what follows on what came of it. -/
theorem attempt_bind_told {β : Type} {f : Except Error α → Action β}
    {R : Except Error β → Session → List (CacheEvent InstanceId) → Prop}
    (ha : Idle id a)
    (hf : ∀ r s', s'.holdings = s.holdings → Told schema id c (f r) s' R) :
    Told schema id c (attempt a >>= f) s R := by
  refine (idle_attempt ha).bind_told (fun e h => ?_) fun r _ => hf r _ ?_
  · rw [answer_attempt] at h
    cases h
  · exact idle_attempt ha s

theorem idle_ignoring (h : Idle id a) : Idle id (ignoring a) := by
  intro s
  rw [after_ignoring]
  exact h s

/-- Nor does a call, made on whatever connection. -/
theorem idle_onConnectionQuietly (sql : String) (params : List Value)
    (step : Nat → Driver.Step α) :
    Idle id (onConnectionQuietly t sql params step) := by
  refine idle_get.bind fun s => ?_
  cases s.connectionOf? t with
  | none => exact idle_throw _
  | some c => exact idle_drive _ _

theorem idle_onConnection (sql : String) (params : List Value)
    (step : Nat → Driver.Step α) :
    Idle id (onConnection t sql params step) :=
  idle_get.bind fun _ => (idle_report _).bind fun _ =>
    idle_onConnectionQuietly sql params step

theorem idle_ensureOpen (t : TransactionId) : Idle id (ensureOpen t) := by
  intro s
  rw [after_ensureOpen]

theorem idle_ensureWritable (t : TransactionId) (sql : String) :
    Idle id (ensureWritable t sql) := by
  intro s
  rw [after_ensureWritable]

-- ------------------------------------------------------- one event of a cache

variable {key : CacheKey}

/-- A change of the cache of a transaction is an event that fits. -/
theorem recounts_modifyCache (event : CacheEvent InstanceId)
    {f : IdentityCache InstanceId → IdentityCache InstanceId}
    (h : s.holdings.OnChain t c) (hfits : event.Fits (s.holdings.cache c))
    (hf : f (s.holdings.cache c) = event.apply (s.holdings.cache c))
    (hput : event.putKey? = none) :
    Recounts schema s.holdings c [event] (s.modifyCache t f).holdings := by
  rw [Session.holdings_modifyCache h]
  exact recounts_changed h.lt hfits hf hput

/-- A look-up, and what is found then. -/
theorem recounts_lookUp (schema : Schema) (event : CacheEvent InstanceId)
    {s' : Session} (h : s.holdings.OnChain t c)
    (hs' : s' = s.modifyCache t fun _ => ((s.cacheOf t).lookUp key).2)
    (hfits : event.Fits (s.holdings.cache c))
    (hevent : event.apply (s.holdings.cache c)
      = ((s.holdings.cache c).lookUp key).2)
    (hput : event.putKey? = none) :
    Recounts schema s.holdings c [event] s'.holdings
      ∧ (s'.holdings.cache c).find? key
        = (s.holdings.cache c).find? key := by
  rw [Session.cacheOf_eq h, ← hevent] at hs'
  subst hs'
  have hrecounts : Recounts schema s.holdings c [event]
      (s.modifyCache t fun _ =>
        event.apply (s.holdings.cache c)).holdings :=
    recounts_modifyCache event h hfits rfl hput
  refine ⟨hrecounts, ?_⟩
  rw [hrecounts.cache]
  show (event.apply (s.holdings.cache c)).find? key = _
  rw [hevent, IdentityCache.find?_lookUp]

/-- A look-up answers with what the cache has under the key. -/
theorem answer_cached (t : TransactionId) (key : CacheKey) (s : Session) :
    (cached t key).answer s
      = .ok (((s.cacheOf t).find? key).map (·.item)) := by
  show Except.ok ((s.cacheOf t).get key).1 = _
  rw [IdentityCache.get_eq]

/-- A look-up for any instance takes what it finds. -/
theorem told_cached (h : s.holdings.OnChain t c) (key : CacheKey) :
    Told schema id c (cached t key) s fun r s' events =>
      (∃ i loaded, r = .ok (some i) ∧ events = [.took key i loaded])
      ∨ r = .ok none ∧ events = [.missed key]
        ∧ (s'.holdings.cache c).find? key = none := by
  have hanswer : (cached t key).answer s
      = .ok (((s.holdings.cache c).find? key).map (·.item)) := by
    rw [answer_cached, Session.cacheOf_eq h]
  have hafter : (cached t key).after s
      = s.modifyCache t fun _ => ((s.cacheOf t).lookUp key).2 := by
    show (s.modifyCache t fun _ => ((s.cacheOf t).get key).2) = _
    rw [IdentityCache.get_eq]
  unfold Told
  rw [hanswer]
  cases hfound : (s.holdings.cache c).find? key with
  | some entry =>
      obtain ⟨hrecounts, -⟩ := recounts_lookUp schema
        (.took key entry.item entry.loaded) h hafter hfound rfl rfl
      exact ⟨_, hrecounts, Or.inl ⟨_, _, rfl, rfl⟩⟩
  | none =>
      obtain ⟨hrecounts, hsame⟩ :=
        recounts_lookUp schema (.missed key) h hafter hfound rfl rfl
      exact ⟨_, hrecounts, Or.inr ⟨rfl, rfl, hsame.trans hfound⟩⟩

/-- A look-up for a loaded instance passes over a stub. -/
theorem answer_cachedLoaded (h : s.holdings.OnChain t c) (key : CacheKey) :
    (cachedLoaded t key).answer s
      = .ok (((s.holdings.cache c).find? key).bind fun entry =>
          if entry.loaded then some entry.item else none) := by
  rw [← Session.cacheOf_eq h]
  show Except.ok ((s.cacheOf t).getLoaded key).1 = _
  rw [IdentityCache.getLoaded_eq]

/-- Either look-up leaves the same cache behind. -/
theorem after_cachedLoaded (s : Session) (t : TransactionId)
    (key : CacheKey) :
    (cachedLoaded t key).after s
      = s.modifyCache t fun _ => ((s.cacheOf t).lookUp key).2 := by
  show (s.modifyCache t fun _ => ((s.cacheOf t).getLoaded key).2) = _
  rw [IdentityCache.getLoaded_eq]

/-- A look-up for a loaded instance takes nothing else. -/
theorem told_cachedLoaded (h : s.holdings.OnChain t c) (key : CacheKey) :
    Told schema id c (cachedLoaded t key) s fun r s' events =>
      (∃ i, r = .ok (some i) ∧ events = [.took key i true])
      ∨ r = .ok none ∧ (events = [.passed key] ∨ events = [.missed key])
        ∧ ∀ entry, (s'.holdings.cache c).find? key = some entry →
          entry.loaded = false := by
  have hanswer := answer_cachedLoaded h key
  have hafter := after_cachedLoaded s t key
  unfold Told
  rw [hanswer]
  cases hfound : (s.holdings.cache c).find? key with
  | some entry =>
      obtain ⟨i, loaded⟩ := entry
      cases loaded with
      | true =>
          obtain ⟨hrecounts, -⟩ :=
            recounts_lookUp schema (.took key i true) h hafter hfound rfl rfl
          exact ⟨_, hrecounts, Or.inl ⟨i, rfl, rfl⟩⟩
      | false =>
          obtain ⟨hrecounts, hsame⟩ := recounts_lookUp schema (.passed key) h
            hafter ⟨i, hfound⟩ rfl rfl
          refine ⟨_, hrecounts, Or.inr ⟨rfl, Or.inl rfl, fun entry he => ?_⟩⟩
          cases hfound.symm.trans (hsame.symm.trans he)
          rfl
  | none =>
      obtain ⟨hrecounts, hsame⟩ :=
        recounts_lookUp schema (.missed key) h hafter hfound rfl rfl
      refine ⟨_, hrecounts, Or.inr ⟨rfl, Or.inr rfl, fun entry he => ?_⟩⟩
      cases hfound.symm.trans (hsame.symm.trans he)

/-- An action that does nothing but take something out of the cache. -/
theorem told_event (event : CacheEvent InstanceId) {a : Action Unit}
    (h : s.holdings.OnChain t c) (hfits : event.Fits (s.holdings.cache c))
    (hput : event.putKey? = none) (hanswer : a.answer s = .ok ())
    (hafter : a.after s = s.modifyCache t fun cache => event.apply cache) :
    Told schema id c a s fun r _ events =>
      r = .ok () ∧ events = [event] := by
  refine ⟨[event], ?_, hanswer, rfl⟩
  rw [hafter]
  exact recounts_modifyCache event h hfits rfl hput

/-- Evicting a key is one event, whether something is there or not. -/
theorem told_evict (h : s.holdings.OnChain t c) (key : CacheKey) :
    Told schema id c (evict t key) s fun r _ events =>
      r = .ok () ∧ events = [.dropped key] :=
  told_event (.dropped key) h trivial rfl rfl rfl

/-- So is clearing the cache. -/
theorem told_clearCache (h : s.holdings.OnChain t c) :
    Told schema id c (clearCache t) s fun r _ events =>
      r = .ok () ∧ events = [.cleared] :=
  told_event .cleared h trivial rfl rfl rfl

/-- Sharing an instance and putting it is an event if nothing speaks against
it. -/
theorem told_shared {g : InstanceId → α} {e : Entity} {loaded : Bool}
    (h : s.holdings.OnChain t c)
    (hfits : ∀ entry, (s.holdings.cache c).find? key = some entry →
      entry.loaded = false ∧ loaded = true)
    (horigin : Origin schema key loaded e) :
    Told schema id c (do
      let shared ← share e
      cache t key shared loaded
      return g shared) s fun r _ events =>
        r = .ok (g s.instances.length)
          ∧ events = [.put key s.instances.length loaded] := by
  let s' : Session := { s with instances := s.instances ++ [e] }
  have hs' : s'.holdings.OnChain t c := ⟨h.place, h.lt⟩
  refine ⟨_, ?_, rfl, rfl⟩
  show Recounts schema s.holdings c _ (s'.modifyCache t
    (·.put key s.instances.length loaded)).holdings
  rw [Session.holdings_modifyCache hs']
  exact recounts_put h.lt hfits horigin

end Action

-- ===================================================== beside an entity

namespace EntityAction

variable {α : Type} {schema : Schema} {t : TransactionId} {c : ChainId}
  {w : Workbench}

theorem idle_ofAction {a : Action α} (h : Idle id a) :
    Idle Workbench.session (ofAction a) := by
  intro w
  rw [after_ofAction]
  exact h w.session

theorem after_ofExcept (r : Except Error α) (w : Workbench) :
    (ofExcept r).after w = w := by
  cases r <;> rfl

theorem answer_ofExcept (r : Except Error α) (w : Workbench) :
    (ofExcept r).answer w = r := by
  cases r <;> rfl

theorem ofExcept_eq_ok_iff {r : Except Error α} {x : α} {w w' : Workbench} :
    ofExcept r w = .ok x w' ↔ r = .ok x ∧ w' = w := by
  rw [EStateM.apply_eq_ok_iff, answer_ofExcept, after_ofExcept,
    eq_comm (a := w)]

theorem idle_ofEdit (edit : Edit α) : Idle Workbench.session (ofEdit edit) := by
  intro w
  rw [after_ofEdit]

theorem idle_ofExcept (r : Except Error α) :
    Idle Workbench.session (ofExcept r) := by
  intro w
  rw [after_ofExcept]

theorem idle_entity : Idle Workbench.session entity :=
  idle_get.bind fun _ => idle_pure _

theorem idle_refuse (fault : StatementFault) (sql : String)
    (params : List Value) :
    Idle Workbench.session (refuse (α := α) t fault sql params) :=
  idle_get.bind fun _ => idle_throw _

/-- What an action beside an entity does is told by what the action does. -/
theorem told_ofAction {a : Action α}
    {R : Except Error α → Session → List (CacheEvent InstanceId) → Prop}
    (h : Told schema id c a w.session R) :
    Told schema Workbench.session c (ofAction a) w
      fun r w' events => R r w'.session events ∧ w'.entity = w.entity := by
  obtain ⟨events, hevents, hR⟩ := h
  refine ⟨events, ?_, ?_, ?_⟩ <;> rw [after_ofAction]
  · exact hevents
  · rw [answer_ofAction]
    exact hR

end EntityAction

-- ------------------------------------------------------------------ the whole

/-- What is put together without the cache leaves the holdings alone. -/
theorem Composed.idle {τ α : Type} {trusted looks calls : Prop}
    {t : TransactionId} {stage : Stage τ} {footing : Footing}
    {a : EStateM Error τ α}
    (h : Composed trusted looks calls False t stage footing a) :
    Idle stage.view a := by
  induction h with
  | ok => exact fun _ => rfl
  | error => exact fun _ => rfl
  | look => exact fun _ => rfl
  | report => exact fun _ => rfl
  | check _ hafter _ _ _ ih =>
      exact Idle.bind (fun w => by rw [hafter]) fun _ => ih
  | call => exact Action.idle_onConnectionQuietly _ _ _
  | cache h => exact h.elim
  | share h => exact h.elim
  | edit => exact EntityAction.idle_ofEdit _
  | bind _ _ iha ihf => exact iha.bind_of_answer ihf
  | mapError _ _ ih => exact Action.idle_mapError ih
  | beside _ ih => exact EntityAction.idle_ofAction ih
  | within _ e g ih =>
      intro s
      show (id ((EntityAction.within _ e g).after s)).holdings = s.holdings
      rw [EntityAction.after_within]
      exact ih ⟨e, s⟩

end DataAccess
