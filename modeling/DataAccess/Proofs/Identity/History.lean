/-
The history of an identity cache. What is done with a cache is told by events
(`CacheEvent`): what look-ups came upon, what was put, what was dropped. A
list of events tells how a cache came from an earlier one if each of them fits
the cache it meets (`IdentityCache.Traced`) and the cache is what they make of
the earlier one (`IdentityCache.replay`).

# The argument

- What is under a key was put there: no event brings an entry to a key but a
  put under that key (`find?_apply`). So what a look-up takes was put before,
  or was there from the beginning (`put_of_took`).
- Entries leave a cache that is never full in two ways only: their key is
  dropped, or everything is. Until then an entry stays, and the one thing that
  can become of it is that a loaded instance takes the place of a stub
  (`find?_of_current`). So the instances that are shown under a key are one
  instance, or two of which the first was a stub (`pairwise_shown`).
-/
import DataAccess.Identity.Cache
import Mathlib.Data.List.Dedup
import Mathlib.Data.List.Perm.Subperm

namespace DataAccess

variable {α : Type}

-- ================================================================= events

/-- Something that is done with a cache. -/
inductive CacheEvent (α : Type) where
  /-- A look-up takes what is under a key. -/
  | took (key : CacheKey) (item : α) (loaded : Bool)
  /-- A look-up for a loaded instance comes upon a stub. -/
  | passed (key : CacheKey)
  /-- A look-up comes upon nothing. -/
  | missed (key : CacheKey)
  | put (key : CacheKey) (item : α) (loaded : Bool)
  | dropped (key : CacheKey)
  | cleared

namespace CacheEvent

/-- What an event makes of a cache. -/
def apply (c : IdentityCache α) : CacheEvent α → IdentityCache α
  | .took key _ _ => (c.lookUp key).2
  | .passed key => (c.lookUp key).2
  | .missed key => (c.lookUp key).2
  | .put key x loaded => c.put key x loaded
  | .dropped key => c.invalidate key
  | .cleared => c.clear

/-- Whether an event can happen to a cache. Nothing is put in the place of a
loaded instance, and no stub in the place of another one. -/
def Fits (c : IdentityCache α) : CacheEvent α → Prop
  | .took key x loaded => c.find? key = some ⟨x, loaded⟩
  | .passed key => ∃ x, c.find? key = some ⟨x, false⟩
  | .missed key => c.find? key = none
  | .put key _ loaded =>
    ∀ entry, c.find? key = some entry → entry.loaded = false ∧ loaded = true
  | .dropped _ => True
  | .cleared => True

/-- Whether an event takes away what is under a key. -/
def Outdates (key : CacheKey) : CacheEvent α → Prop
  | .dropped k => k = key
  | .cleared => True
  | _ => False

/-- The entry that an event shows under a key: it was taken, or it was put. -/
def shown? (key : CacheKey) : CacheEvent α → Option (CacheEntry α)
  | .took k x loaded => if k = key then some ⟨x, loaded⟩ else none
  | .put k x loaded => if k = key then some ⟨x, loaded⟩ else none
  | _ => none

/-- The key that something is put under. -/
def putKey? : CacheEvent α → Option CacheKey
  | .put key _ _ => some key
  | _ => none

end CacheEvent

/-- Whether an entry can come after another one under the same key: they are
the same, or a loaded instance took the place of a stub. -/
def CacheEntry.LeadsTo (e e' : CacheEntry α) : Prop :=
  e = e' ∨ e.loaded = false ∧ e'.loaded = true

/-- What an entry leads to leads on. -/
theorem CacheEntry.LeadsTo.trans {e e' e'' : CacheEntry α}
    (h : e.LeadsTo e') (h' : e'.LeadsTo e'') : e.LeadsTo e'' := by
  rcases h with rfl | ⟨hstub, hloaded⟩
  · exact h'
  · rcases h' with rfl | ⟨-, hloaded'⟩
    · exact Or.inr ⟨hstub, hloaded⟩
    · exact Or.inr ⟨hstub, hloaded'⟩

/-- A loaded instance keeps its place. -/
theorem CacheEntry.LeadsTo.eq_of_loaded {e e' : CacheEntry α}
    (h : e.LeadsTo e') (hloaded : e.loaded = true) : e' = e := by
  rcases h with rfl | ⟨hstub, -⟩
  · rfl
  · rw [hloaded] at hstub
    cases hstub

/-- Entries that come one after the other are some of one stub, and then some
of one loaded instance. -/
theorem CacheEntry.exists_replicate [Inhabited α]
    {entries : List (CacheEntry α)} (h : entries.Pairwise LeadsTo) :
    ∃ x m y n, entries
      = List.replicate m ⟨x, false⟩ ++ List.replicate n ⟨y, true⟩ := by
  induction h with
  | nil => exact ⟨default, 0, default, 0, rfl⟩
  | @cons e entries hleads _ ih =>
      obtain ⟨x, m, y, n, rfl⟩ := ih
      obtain ⟨z, loaded⟩ := e
      cases loaded with
      | true =>
          have hsame := List.eq_replicate_of_mem fun e he =>
            (hleads e he).eq_of_loaded rfl
          exact ⟨x, 0, z, _ + 1, congrArg (List.cons ⟨z, true⟩) hsame⟩
      | false =>
          cases m with
          | zero => exact ⟨z, 1, y, n, rfl⟩
          | succ m =>
              obtain hsame | ⟨-, hloaded⟩ := hleads ⟨x, false⟩ (by simp)
              · cases hsame
                exact ⟨x, m + 2, y, n, rfl⟩
              · cases hloaded

namespace IdentityCache

variable {c : IdentityCache α} {key k : CacheKey} {x : α} {loaded : Bool}
  {entry : CacheEntry α} {event : CacheEvent α}
  {events events' : List (CacheEvent α)}

-- =============================================================== look-ups

/-- What is taken out is not there, and all else is. -/
theorem lookup_without (key k : CacheKey)
    (entries : List (CacheKey × CacheEntry α)) :
    (without key entries).lookup k
      = if k = key then none else entries.lookup k := by
  induction entries with
  | nil => simp [without]
  | cons head entries ih =>
      obtain ⟨k', entry⟩ := head
      unfold without at ih ⊢
      by_cases hk' : k' = key
      · rw [List.filter_cons_of_neg (by simp [hk']), ih]
        by_cases hk : k = key
        · simp [hk]
        · have hne : (k == k') = false := beq_false_of_ne (hk' ▸ hk)
          rw [List.lookup_cons, hne]
      · rw [List.filter_cons_of_pos (by simp [hk']), List.lookup_cons, ih,
          List.lookup_cons]
        by_cases hk : k = k'
        · simp [hk, hk']
        · have hne : (k == k') = false := beq_false_of_ne hk
          rw [hne]

/-- An entry that was invalidated is gone, and no other is. -/
theorem find?_invalidate (c : IdentityCache α) (key k : CacheKey) :
    (c.invalidate key).find? k = if k = key then none else c.find? k :=
  lookup_without key k c.entries

/-- Nothing is left in a cache that was cleared. -/
theorem find?_clear (c : IdentityCache α) (k : CacheKey) :
    c.clear.find? k = none := rfl

theorem find?_empty (capacity : Nat) (k : CacheKey) :
    (empty capacity : IdentityCache α).find? k = none := rfl

/-- A look-up changes the order of the entries, and nothing else about
them. -/
theorem find?_lookUp (c : IdentityCache α) (key k : CacheKey) :
    (c.lookUp key).2.find? k = c.find? k := by
  unfold lookUp
  cases h : c.find? key with
  | none => rfl
  | some entry =>
      show ((key, entry) :: without key c.entries).lookup k = _
      rw [List.lookup_cons, lookup_without]
      by_cases hk : k = key
      · subst hk
        rw [beq_self_eq_true, h]
      · rw [beq_false_of_ne hk, if_neg hk]
        rfl

/-- A look-up finds what is there, and changes the order. -/
theorem get_eq (c : IdentityCache α) (key : CacheKey) :
    c.get key = ((c.find? key).map (·.item), (c.lookUp key).2) := by
  unfold get lookUp
  cases c.find? key <;> rfl

/-- A look-up for a loaded instance is a look-up that passes over stubs. -/
theorem getLoaded_eq (c : IdentityCache α) (key : CacheKey) :
    c.getLoaded key
      = ((c.find? key).bind fun entry =>
          if entry.loaded then some entry.item else none,
        (c.lookUp key).2) := by
  unfold getLoaded lookUp
  cases c.find? key <;> rfl

/-- What was put is there, if there is room for one. -/
theorem find?_put_self (h : 0 < c.capacity) :
    (c.put key x loaded).find? key = some ⟨x, loaded⟩ := by
  obtain ⟨n, hn⟩ := Nat.exists_eq_succ_of_ne_zero (Nat.ne_of_gt h)
  unfold put find?
  rw [hn, List.take_succ_cons, List.lookup_cons, beq_self_eq_true]

/-- An entry of the first so many is an entry. -/
theorem lookup_of_lookup_take {n : Nat}
    {entries : List (CacheKey × CacheEntry α)}
    (h : (entries.take n).lookup k = some entry) :
    entries.lookup k = some entry := by
  rw [← List.take_append_drop n entries, List.lookup_append, h]
  rfl

/-- What is under a key after a put was put, or was there before. -/
theorem find?_put (h : (c.put key x loaded).find? k = some entry) :
    k = key ∧ entry = ⟨x, loaded⟩ ∨ k ≠ key ∧ c.find? k = some entry := by
  have hfound := lookup_of_lookup_take h
  rw [List.lookup_cons] at hfound
  by_cases hk : k = key
  · subst hk
    rw [beq_self_eq_true] at hfound
    exact Or.inl ⟨rfl, (Option.some.inj hfound).symm⟩
  · rw [beq_false_of_ne hk] at hfound
    dsimp only at hfound
    rw [lookup_without, if_neg hk] at hfound
    exact Or.inr ⟨hk, hfound⟩

-- ================================================================ replaying

/-- What events make of a cache. -/
def replay (c : IdentityCache α) (events : List (CacheEvent α)) :
    IdentityCache α :=
  events.foldl CacheEvent.apply c

/-- Whether events can happen to a cache, one after the other. -/
def Traced : IdentityCache α → List (CacheEvent α) → Prop
  | _, [] => True
  | c, event :: events => event.Fits c ∧ Traced (event.apply c) events

@[simp] theorem replay_nil : c.replay [] = c := rfl

@[simp] theorem replay_cons :
    c.replay (event :: events) = (event.apply c).replay events := rfl

theorem replay_append :
    c.replay (events ++ events') = (c.replay events).replay events' :=
  List.foldl_append

@[simp] theorem traced_nil : c.Traced [] := trivial

@[simp] theorem traced_cons :
    c.Traced (event :: events)
      ↔ event.Fits c ∧ (event.apply c).Traced events := Iff.rfl

/-- Events that fit, and more that fit what they leave. -/
theorem traced_append :
    c.Traced (events ++ events')
      ↔ c.Traced events ∧ (c.replay events).Traced events' := by
  induction events generalizing c with
  | nil => simp
  | cons event events ih => simp [ih, and_assoc]

-- ============================================================ what was put

/-- What is under a key was there before, or was put. -/
theorem find?_apply (h : (event.apply c).find? k = some entry) :
    c.find? k = some entry
      ∨ event = .put k entry.item entry.loaded := by
  cases event with
  | took key _ _ => exact Or.inl (find?_lookUp c key k ▸ h)
  | passed key => exact Or.inl (find?_lookUp c key k ▸ h)
  | missed key => exact Or.inl (find?_lookUp c key k ▸ h)
  | put key x loaded =>
      rcases find?_put h with ⟨rfl, rfl⟩ | ⟨-, hfound⟩
      · exact Or.inr rfl
      · exact Or.inl hfound
  | dropped key =>
      have hfound : (c.invalidate key).find? k = some entry := h
      rw [find?_invalidate] at hfound
      split at hfound
      · cases hfound
      · exact Or.inl hfound
  | cleared => exact nomatch (find?_clear c k).symm.trans h

/-- What is in a cache was in it, or was put. -/
theorem find?_replay (h : (c.replay events).find? k = some entry) :
    c.find? k = some entry ∨ .put k entry.item entry.loaded ∈ events := by
  induction events generalizing c with
  | nil => exact Or.inl h
  | cons event events ih =>
      rcases ih h with hfound | hput
      · rcases find?_apply hfound with hfound | hevent
        · exact Or.inl hfound
        · exact Or.inr (List.mem_cons.mpr (Or.inl hevent.symm))
      · exact Or.inr (List.mem_cons_of_mem _ hput)

/-- What is taken was put before, if nothing was there. -/
theorem put_of_took
    (h : c.Traced (events ++ .took key x loaded :: events'))
    (hnone : c.find? key = none) : .put key x loaded ∈ events := by
  obtain ⟨htook, -⟩ := (traced_append.mp h).2
  rcases find?_replay htook with hfound | hput
  · rw [hnone] at hfound
    cases hfound
  · exact hput

/-- So what is shown was put, if nothing was there. -/
theorem put_of_shown (h : c.Traced events) (hnone : c.find? key = none)
    (hmem : event ∈ events) (hshown : event.shown? key = some entry) :
    .put key entry.item entry.loaded ∈ events := by
  cases event with
  | took k x loaded =>
      obtain ⟨rfl, hentry⟩ := Option.ite_none_right_eq_some.mp hshown
      cases hentry
      obtain ⟨before, after, rfl⟩ := List.append_of_mem hmem
      exact List.mem_append_left _ (put_of_took h hnone)
  | put k x loaded =>
      obtain ⟨rfl, hentry⟩ := Option.ite_none_right_eq_some.mp hshown
      cases hentry
      exact hmem
  | passed => cases hshown
  | missed => cases hshown
  | dropped => cases hshown
  | cleared => cases hshown

/-- Nothing is under a key that was dropped just now. -/
theorem find?_replay_outdated (h : event.Outdates key) :
    (c.replay (events ++ [event])).find? key = none := by
  rw [replay_append, replay_cons, replay_nil]
  cases event with
  | dropped k =>
      exact (find?_invalidate _ k key).trans (if_pos (Eq.symm h))
  | cleared => rfl
  | took => exact h.elim
  | passed => exact h.elim
  | missed => exact h.elim
  | put => exact h.elim

-- ========================================================== what is kept

/-- A cache that has room for as many entries as there are keys that anything
is put under. -/
structure Roomy (c : IdentityCache α) (keys : List CacheKey) : Prop where
  nodup : (c.entries.map Prod.fst).Nodup
  subset : c.entries.map Prod.fst ⊆ keys
  room : keys.length ≤ c.capacity

variable {keys : List CacheKey}

/-- A cache with room for some keys is roomy in the beginning. -/
theorem roomy_empty {capacity : Nat}
    (h : keys.length ≤ (empty capacity : IdentityCache α).capacity) :
    (empty capacity : IdentityCache α).Roomy keys :=
  ⟨List.nodup_nil, List.nil_subset _, h⟩

theorem map_fst_without (key : CacheKey)
    (entries : List (CacheKey × CacheEntry α)) :
    (without key entries).map Prod.fst
      = (entries.map Prod.fst).filter fun k => decide (k ≠ key) := by
  unfold without
  rw [List.filter_map]
  rfl

/-- The keys of the entries when one of them comes first. -/
theorem Roomy.nodup_cons (h : c.Roomy keys) (key : CacheKey) :
    (key :: (without key c.entries).map Prod.fst).Nodup := by
  rw [map_fst_without, List.nodup_cons]
  exact ⟨by simp, h.nodup.filter _⟩

/-- The key that is put is one of those there is room for. -/
theorem Roomy.subset_cons (h : c.Roomy keys) (hkey : key ∈ keys) :
    key :: (without key c.entries).map Prod.fst ⊆ keys := by
  rw [map_fst_without, List.cons_subset]
  exact ⟨hkey, fun k hk => h.subset (List.mem_of_mem_filter hk)⟩

theorem Roomy.capacity_pos (h : c.Roomy keys) (hkey : key ∈ keys) :
    0 < c.capacity :=
  Nat.lt_of_lt_of_le (List.length_pos_of_mem hkey) h.room

/-- Nothing has to leave for a new entry. -/
theorem Roomy.entries_put (h : c.Roomy keys) (hkey : key ∈ keys) :
    (c.put key x loaded).entries
      = (key, ⟨x, loaded⟩) :: without key c.entries := by
  have hlength := (List.subperm_of_subset (h.nodup_cons key)
    (h.subset_cons hkey)).length_le
  rw [List.length_cons, List.length_map] at hlength
  exact List.take_of_length_le (Nat.le_trans hlength h.room)

/-- In a roomy cache nothing makes way for what is put. -/
theorem Roomy.find?_put_ne (h : c.Roomy keys) (hkey : key ∈ keys)
    (hk : k ≠ key) : (c.put key x loaded).find? k = c.find? k := by
  unfold find?
  rw [h.entries_put hkey, List.lookup_cons, beq_false_of_ne hk]
  dsimp only
  rw [lookup_without, if_neg hk]

theorem Roomy.lookUp (h : c.Roomy keys) (key : CacheKey) :
    (c.lookUp key).2.Roomy keys := by
  unfold IdentityCache.lookUp
  cases hfound : c.find? key with
  | none => exact ⟨h.nodup, h.subset, h.room⟩
  | some entry =>
      have hkey : key ∈ c.entries.map Prod.fst := by
        obtain ⟨l₁, l₂, hentries, -⟩ := List.lookup_eq_some_iff.mp hfound
        rw [hentries]
        simp
      exact ⟨h.nodup_cons key, h.subset_cons (h.subset hkey), h.room⟩

/-- An event leaves a cache roomy if it puts one of the keys. -/
theorem Roomy.apply (h : c.Roomy keys)
    (hkey : ∀ k ∈ event.putKey?, k ∈ keys) : (event.apply c).Roomy keys := by
  cases event with
  | took key _ _ => exact h.lookUp key
  | passed key => exact h.lookUp key
  | missed key => exact h.lookUp key
  | put key x loaded =>
      have hkey : key ∈ keys := hkey key rfl
      refine ⟨?_, ?_, h.room⟩ <;>
        simp only [CacheEvent.apply, h.entries_put hkey, List.map_cons]
      · exact h.nodup_cons key
      · exact h.subset_cons hkey
  | dropped key =>
      refine ⟨?_, ?_, h.room⟩ <;>
        simp only [CacheEvent.apply, invalidate, map_fst_without]
      · exact h.nodup.filter _
      · exact fun k hk => h.subset (List.mem_of_mem_filter hk)
  | cleared => exact ⟨List.nodup_nil, List.nil_subset _, h.room⟩

/-- So do any number of events. -/
theorem Roomy.replay (h : c.Roomy keys)
    (hkeys : ∀ event ∈ events, ∀ k ∈ event.putKey?, k ∈ keys) :
    (c.replay events).Roomy keys := by
  induction events generalizing c with
  | nil => exact h
  | cons event events ih =>
      obtain ⟨hevent, hevents⟩ := List.forall_mem_cons.mp hkeys
      exact ih (h.apply hevent) hevents

/-- An entry stays, or a loaded instance takes the place of a stub. -/
theorem Roomy.find?_of_fits (h : c.Roomy keys) (hfits : event.Fits c)
    (hkeys : ∀ k ∈ event.putKey?, k ∈ keys) (hcurrent : ¬ event.Outdates key)
    (hfound : c.find? key = some entry) :
    ∃ entry', (event.apply c).find? key = some entry'
      ∧ entry.LeadsTo entry' := by
  cases event with
  | took k _ _ =>
      exact ⟨entry, (find?_lookUp c k key).trans hfound, Or.inl rfl⟩
  | passed k =>
      exact ⟨entry, (find?_lookUp c k key).trans hfound, Or.inl rfl⟩
  | missed k =>
      exact ⟨entry, (find?_lookUp c k key).trans hfound, Or.inl rfl⟩
  | put k x loaded =>
      have hk : k ∈ keys := hkeys k rfl
      by_cases hkey : key = k
      · subst hkey
        exact ⟨⟨x, loaded⟩, find?_put_self (h.capacity_pos hk),
          Or.inr (hfits entry hfound)⟩
      · exact ⟨entry, (h.find?_put_ne hk hkey).trans hfound, Or.inl rfl⟩
  | dropped k =>
      have hkey : key ≠ k := fun hkey => hcurrent hkey.symm
      refine ⟨entry, (find?_invalidate c k key).trans ?_, Or.inl rfl⟩
      rw [if_neg hkey, hfound]
  | cleared => exact absurd trivial hcurrent

/-- What is under a key leads to what is there later, as long as nothing
takes it away. -/
theorem Roomy.find?_of_current (h : c.Roomy keys) (htraced : c.Traced events)
    (hkeys : ∀ event ∈ events, ∀ k ∈ event.putKey?, k ∈ keys)
    (hcurrent : ∀ event ∈ events, ¬ event.Outdates key)
    (hfound : c.find? key = some entry) :
    ∃ entry', (c.replay events).find? key = some entry'
      ∧ entry.LeadsTo entry' := by
  induction events generalizing c entry with
  | nil => exact ⟨entry, hfound, Or.inl rfl⟩
  | cons event events ih =>
      obtain ⟨hfits, htraced⟩ := htraced
      obtain ⟨hevent, hevents⟩ := List.forall_mem_cons.mp hkeys
      obtain ⟨hnot, hcurrent⟩ := List.forall_mem_cons.mp hcurrent
      obtain ⟨entry₁, hfound₁, hleads⟩ :=
        h.find?_of_fits hfits hevent hnot hfound
      obtain ⟨entry₂, hfound₂, hleads'⟩ :=
        ih (h.apply hevent) htraced hevents hcurrent hfound₁
      exact ⟨entry₂, hfound₂, hleads.trans hleads'⟩

/-- What an event shows under a key is there after it. -/
theorem Roomy.find?_of_shown (h : c.Roomy keys) (hfits : event.Fits c)
    (hkeys : ∀ k ∈ event.putKey?, k ∈ keys)
    (hshown : event.shown? key = some entry) :
    (event.apply c).find? key = some entry := by
  cases event with
  | took k x loaded =>
      obtain ⟨rfl, hentry⟩ := Option.ite_none_right_eq_some.mp hshown
      cases hentry
      exact (find?_lookUp c k k).trans hfits
  | put k x loaded =>
      obtain ⟨rfl, hentry⟩ := Option.ite_none_right_eq_some.mp hshown
      cases hentry
      exact find?_put_self (h.capacity_pos (hkeys k rfl))
  | passed => cases hshown
  | missed => cases hshown
  | dropped => cases hshown
  | cleared => cases hshown

/-- What is under a key leads to whatever is shown later, as long as nothing
takes it away. -/
theorem Roomy.leadsTo_of_shown (h : c.Roomy keys) (htraced : c.Traced events)
    (hkeys : ∀ event ∈ events, ∀ k ∈ event.putKey?, k ∈ keys)
    (hcurrent : ∀ event ∈ events, ¬ event.Outdates key)
    (hfound : c.find? key = some entry) :
    ∀ entry' ∈ events.filterMap (CacheEvent.shown? key),
      entry.LeadsTo entry' := by
  intro entry' hmem
  obtain ⟨event, hevent, hshown⟩ := List.mem_filterMap.mp hmem
  obtain ⟨before, after, rfl⟩ := List.append_of_mem hevent
  obtain ⟨hbefore, hfits, -⟩ := traced_append.mp htraced
  obtain ⟨hkeysBefore, hkeysAfter⟩ := List.forall_mem_append.mp hkeys
  obtain ⟨hcurrentBefore, hcurrentAfter⟩ := List.forall_mem_append.mp hcurrent
  have hroomy := h.replay hkeysBefore
  have hkeysEvent := hkeysAfter event List.mem_cons_self
  obtain ⟨entry₁, hfound₁, hleads⟩ :=
    h.find?_of_current hbefore hkeysBefore hcurrentBefore hfound
  obtain ⟨entry₂, hfound₂, hleads'⟩ := hroomy.find?_of_fits hfits hkeysEvent
    (hcurrentAfter event List.mem_cons_self) hfound₁
  rw [hroomy.find?_of_shown hfits hkeysEvent hshown] at hfound₂
  cases hfound₂
  exact hleads.trans hleads'

/-- What is shown under a key while nothing takes it away is one instance, or
a stub and then the loaded instance. -/
theorem Roomy.pairwise_shown (h : c.Roomy keys) (htraced : c.Traced events)
    (hkeys : ∀ event ∈ events, ∀ k ∈ event.putKey?, k ∈ keys)
    (hcurrent : ∀ event ∈ events, ¬ event.Outdates key) :
    (events.filterMap (CacheEvent.shown? key)).Pairwise
      CacheEntry.LeadsTo := by
  induction events generalizing c with
  | nil => exact .nil
  | cons event events ih =>
      obtain ⟨hfits, htraced⟩ := htraced
      obtain ⟨hevent, hevents⟩ := List.forall_mem_cons.mp hkeys
      obtain ⟨-, hcurrent⟩ := List.forall_mem_cons.mp hcurrent
      have hroomy := h.apply hevent
      have htail := ih hroomy htraced hevents hcurrent
      rw [List.filterMap_cons]
      cases hshown : event.shown? key with
      | none => exact htail
      | some entry =>
          exact List.pairwise_cons.mpr
            ⟨hroomy.leadsTo_of_shown htraced hevents hcurrent
              (h.find?_of_shown hfits hevent hshown), htail⟩

end IdentityCache

end DataAccess
