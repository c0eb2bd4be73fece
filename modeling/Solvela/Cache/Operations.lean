import Solvela.Cache.Model

/-
  What the cache operations do to the recency list.

  The LRU map is given by its documented behavior, so each
  operation is described once, by cases, and nothing later
  unfolds it.

  Main declarations:
    * `ResponseCache.entries`
    * `ResponseCache.get_cases`
    * `ResponseCache.suppresses_iff`, `ResponseCache.entries_put`
    * `ResponseCache.settings_get`, `settings_put`
    * `ResponseCache.lookup_of_get`, `lookup_of_put`
    * `ResponseCache.get_of_live`
    * `ResponseCache.cacheKeyStream_injective`
-/

------------------------------------------------------------
-- Entries And Settings
------------------------------------------------------------

namespace Solvela

namespace ResponseCache

open Recency

variable {C : Type}
variable {ops : LruOps C UInt64 CacheEntry}

/- The entries of a cache, the most recently used first. -/
def entries
    (laws : ops.Laws)
    (cache : ResponseCache C) : List (UInt64 × CacheEntry) :=
  laws.recency cache.inner

/- What no operation changes. -/
structure Settings where
  capacity : Nat
  ttl : Nat
  dedupWindow : Nat

/- What no operation changes. -/
def settings
    (laws : ops.Laws)
    (cache : ResponseCache C) : Settings where
  capacity := laws.capacity cache.inner
  ttl := cache.ttl
  dedupWindow := cache.dedupWindow

@[simp] theorem entries_withConfig
    (laws : ops.Laws)
    (maxEntries ttl dedupWindow : Nat) :
    (withConfig ops maxEntries ttl dedupWindow).entries laws =
      [] := by
  exact laws.recency_new _

/- A capacity of zero is read as one. -/
theorem settings_withConfig
    (laws : ops.Laws)
    (maxEntries ttl dedupWindow : Nat) :
    (withConfig ops maxEntries ttl dedupWindow).settings
        laws =
      { capacity := max 1 maxEntries
        ttl := ttl
        dedupWindow := dedupWindow } := by
  unfold settings withConfig
  rw [laws.capacity_new]
  by_cases hZero : maxEntries = 0
  · rw [if_pos hZero, hZero]
    rfl
  · rw [if_neg hZero, Nat.max_eq_right (by omega)]

/- The number of entries is within the capacity. -/
theorem len_le
    (laws : ops.Laws)
    (cache : ResponseCache C) :
    cache.len ops ≤ (cache.settings laws).capacity := by
  unfold len
  rw [laws.len_eq]
  exact laws.length_le _

theorem nodup_entries
    (laws : ops.Laws)
    (cache : ResponseCache C) :
    ((cache.entries laws).map Prod.fst).Nodup :=
  laws.nodup _

@[simp] theorem settings_get
    (laws : ops.Laws)
    (cache : ResponseCache C)
    (now : Nat)
    (key : UInt64) :
    (cache.get ops now key).2.settings laws =
      cache.settings laws := by
  unfold get
  cases ops.peek cache.inner key with
  | none => rfl
  | some entry =>
      by_cases hOld : now - entry.inserted > cache.ttl
      · simp only [if_pos hOld, settings,
          laws.capacity_pop]
      · simp only [if_neg hOld, settings,
          laws.capacity_get]

@[simp] theorem settings_put
    (laws : ops.Laws)
    (cache : ResponseCache C)
    (now inserted : Nat)
    (key : UInt64)
    (response : ChatResponse) :
    (cache.put ops now inserted key response).settings laws =
      cache.settings laws := by
  unfold put
  by_cases hDropped : cache.suppresses ops now key = true
  · rw [if_pos hDropped]
  · rw [if_neg hDropped]
    simp only [settings, laws.capacity_put]

end ResponseCache

end Solvela

------------------------------------------------------------
-- The Cases Of Each Operation
------------------------------------------------------------

namespace Solvela

namespace ResponseCache

open Recency

variable {C : Type}
variable {ops : LruOps C UInt64 CacheEntry}

/-
  A look-up finds nothing, or removes an entry that is too
  old, or returns a live entry and makes it the most recent.
-/
theorem get_cases
    (laws : ops.Laws)
    (cache : ResponseCache C)
    (now : Nat)
    (key : UInt64) :
    ((cache.entries laws).lookup key = none ∧
      (cache.get ops now key).1 = none ∧
        (cache.get ops now key).2 = cache) ∨
    (∃ entry, (cache.entries laws).lookup key = some entry ∧
      cache.ttl < now - entry.inserted ∧
        (cache.get ops now key).1 = none ∧
          (cache.get ops now key).2.entries laws =
            dropKey key (cache.entries laws)) ∨
    ∃ entry, (cache.entries laws).lookup key = some entry ∧
      now - entry.inserted ≤ cache.ttl ∧
        (cache.get ops now key).1 = some entry.response ∧
          (cache.get ops now key).2.entries laws =
            touch (cache.settings laws).capacity key entry
              (cache.entries laws) := by
  unfold get entries
  rw [laws.peek_eq]
  cases hLookup :
      (laws.recency cache.inner).lookup key with
  | none => exact Or.inl ⟨rfl, rfl, rfl⟩
  | some entry =>
      right
      by_cases hOld : now - entry.inserted > cache.ttl
      · left
        simp only [if_pos hOld]
        exact ⟨entry, rfl, hOld, trivial,
          laws.recency_pop _ _⟩
      · right
        simp only [if_neg hOld]
        refine ⟨entry, rfl, Nat.not_lt.mp hOld, ?_, ?_⟩
        · rw [laws.get_eq, hLookup]
          rfl
        · exact laws.recency_get_some _ _ _ hLookup

/- A store is dropped while the present entry is young. -/
theorem suppresses_iff
    (laws : ops.Laws)
    (cache : ResponseCache C)
    (now : Nat)
    (key : UInt64) :
    cache.suppresses ops now key = true ↔
      ∃ entry, (cache.entries laws).lookup key = some entry ∧
        now - entry.inserted < cache.dedupWindow := by
  unfold suppresses entries
  rw [laws.peek_eq]
  cases (laws.recency cache.inner).lookup key with
  | none => simp
  | some entry => simp

/- A store that is dropped changes nothing. -/
theorem put_of_suppresses
    {cache : ResponseCache C}
    {now : Nat}
    {key : UInt64}
    (hDropped : cache.suppresses ops now key = true)
    (inserted : Nat)
    (response : ChatResponse) :
    cache.put ops now inserted key response = cache := by
  unfold put
  exact if_pos hDropped

/- Any other store makes its entry the most recent. -/
theorem entries_put
    (laws : ops.Laws)
    {cache : ResponseCache C}
    {now : Nat}
    {key : UInt64}
    (hStored : cache.suppresses ops now key = false)
    (inserted : Nat)
    (response : ChatResponse) :
    (cache.put ops now inserted key response).entries laws =
      touch (cache.settings laws).capacity key
        { response := response, inserted := inserted }
        (cache.entries laws) := by
  unfold put
  rw [hStored]
  exact laws.recency_put _ _ _

/- A look-up adds no entry. -/
theorem lookup_of_get
    (laws : ops.Laws)
    {cache : ResponseCache C}
    {now : Nat}
    {key key' : UInt64}
    {entry : CacheEntry}
    (hEntry :
      ((cache.get ops now key).2.entries laws).lookup key' =
        some entry) :
    (cache.entries laws).lookup key' = some entry := by
  rcases get_cases laws cache now key with
    ⟨_, _, hSame⟩ | ⟨_, _, _, _, hEntries⟩ |
      ⟨found, hFound, _, _, hEntries⟩
  · rw [hSame] at hEntry
    exact hEntry
  · rw [hEntries] at hEntry
    by_cases hKey : key = key'
    · subst hKey
      rw [lookup_dropKey_self] at hEntry
      cases hEntry
    · rw [lookup_dropKey_of_ne hKey] at hEntry
      exact hEntry
  · rw [hEntries] at hEntry
    by_cases hKey : key = key'
    · subst hKey
      rw [eq_of_lookup_touch_self hEntry]
      exact hFound
    · exact lookup_of_lookup_touch hKey hEntry

/- A store adds no entry but its own. -/
theorem lookup_of_put
    (laws : ops.Laws)
    {cache : ResponseCache C}
    {now inserted : Nat}
    {key key' : UInt64}
    {response : ChatResponse}
    {entry : CacheEntry}
    (hEntry :
      ((cache.put ops now inserted key response).entries
        laws).lookup key' = some entry) :
    (cache.entries laws).lookup key' = some entry ∨
      key' = key ∧
        entry =
          { response := response, inserted := inserted } := by
  cases hDropped : cache.suppresses ops now key with
  | true =>
      rw [put_of_suppresses hDropped] at hEntry
      exact Or.inl hEntry
  | false =>
      rw [entries_put laws hDropped] at hEntry
      by_cases hKey : key = key'
      · subst hKey
        exact Or.inr ⟨rfl, eq_of_lookup_touch_self hEntry⟩
      · exact Or.inl (lookup_of_lookup_touch hKey hEntry)

/- A miss leaves nothing under its key. -/
theorem lookup_of_miss
    (laws : ops.Laws)
    {cache : ResponseCache C}
    {now : Nat}
    {key : UInt64}
    (hMiss : (cache.get ops now key).1 = none) :
    ((cache.get ops now key).2.entries laws).lookup key =
      none := by
  rcases get_cases laws cache now key with
    ⟨hNone, _, hSame⟩ | ⟨_, _, _, _, hEntries⟩ |
      ⟨_, _, _, hHit, _⟩
  · rw [hSame]
    exact hNone
  · rw [hEntries]
    exact lookup_dropKey_self _ _
  · rw [hHit] at hMiss
    cases hMiss

theorem get_of_lookup_none
    (laws : ops.Laws)
    {cache : ResponseCache C}
    {now : Nat}
    {key : UInt64}
    (hNone : (cache.entries laws).lookup key = none) :
    (cache.get ops now key).1 = none := by
  rcases get_cases laws cache now key with
    ⟨_, hMiss, _⟩ | ⟨entry, hSome, _⟩ | ⟨entry, hSome, _⟩
  · exact hMiss
  · rw [hNone] at hSome
    cases hSome
  · rw [hNone] at hSome
    cases hSome

/- A look-up of a live entry returns it. -/
theorem get_of_live
    (laws : ops.Laws)
    {cache : ResponseCache C}
    {now : Nat}
    {key : UInt64}
    {entry : CacheEntry}
    (hFound : (cache.entries laws).lookup key = some entry)
    (hLive : now - entry.inserted ≤ cache.ttl) :
    (cache.get ops now key).1 = some entry.response := by
  rcases get_cases laws cache now key with
    ⟨hNone, _⟩ | ⟨found, hFound', hOld, _⟩ |
      ⟨found, hFound', _, hHit, _⟩
  · rw [hFound] at hNone
    cases hNone
  · rw [hFound] at hFound'
    cases hFound'
    omega
  · rw [hFound] at hFound'
    cases hFound'
    exact hHit

end ResponseCache

end Solvela

------------------------------------------------------------
-- What A Key Stream Determines
------------------------------------------------------------

namespace Solvela

/- The same author and the same text. -/
structure SameMessage
    (a b : ChatMessage) : Prop where
  role : a.role = b.role
  content : a.content = b.content

namespace ResponseCache

/- The parts of messages in order determine them in turn. -/
theorem sameMessages_of_flatMap_eq
    {roleToString : Role → String}
    (hRoles : Function.Injective roleToString)
    {messages messages' : List ChatMessage}
    (hEq :
      messages.flatMap
          (fun msg => [roleToString msg.role, msg.content]) =
        messages'.flatMap
          (fun msg =>
            [roleToString msg.role, msg.content])) :
    List.Forall₂ SameMessage messages messages' := by
  induction messages generalizing messages' with
  | nil =>
      cases messages' with
      | nil => exact List.Forall₂.nil
      | cons msg' rest' => cases hEq
  | cons msg rest ih =>
      cases messages' with
      | nil => cases hEq
      | cons msg' rest' =>
          rw [List.flatMap_cons, List.flatMap_cons] at hEq
          injection hEq with hRole hTail
          injection hTail with hContent hRest
          exact List.Forall₂.cons
            { role := hRoles hRole, content := hContent }
            (ih hRest)

/-
  Equal streams come from the same model and messages with
  the same authors and texts.
-/
theorem cacheKeyStream_injective
    {roleToString : Role → String}
    (hRoles : Function.Injective roleToString)
    {model model' : String}
    {messages messages' : List ChatMessage}
    (hEq :
      cacheKeyStream roleToString model messages =
        cacheKeyStream roleToString model' messages') :
    model = model' ∧
      List.Forall₂ SameMessage messages messages' := by
  have hTexts := Delimited.delimitedTexts_injective hEq
  injection hTexts with hModel hRest
  exact ⟨hModel, sameMessages_of_flatMap_eq hRoles hRest⟩

end ResponseCache

end Solvela
