import Solvela.Cache.Operations
import Solvela.Foundations.Histories
import Solvela.Foundations.Transitions

/-
  The response cache over runs of stores and look-ups.

  An entry is the latest store under its key that was not
  dropped, and it is held as long as fewer distinct keys than
  the capacity were used after its own last use.

  Main declarations:
    * `CacheEvent`, `CacheStep`
    * `Backed`, `Held`
    * `backed_of_run`, `held_of_run`
    * `cache_correct`
-/

------------------------------------------------------------
-- Runs
------------------------------------------------------------

namespace Solvela

open Recency

/-
  A store, with whether it took effect, or a look-up, with
  what it returned.  Times are the clock readings taken.
-/
inductive CacheEvent where
  | put
      (now inserted : Nat)
      (key : UInt64)
      (response : ChatResponse)
      (effective : Bool)
  | get
      (now : Nat)
      (key : UInt64)
      (result : Option ChatResponse)

namespace CacheEvent

/- The key that is stored, if the store took effect. -/
def stored : CacheEvent → Option UInt64
| .put _ _ key _ true => some key
| _ => none

/- The key that is stored in effect or hit. -/
def used : CacheEvent → Option UInt64
| .put _ _ key _ true => some key
| .get _ key (some _) => some key
| _ => none

/- The event puts an entry under the key. -/
def Stores
    (key : UInt64)
    (e : CacheEvent) : Prop :=
  e.stored = some key

/- The event makes the entry of the key the most recent. -/
def Uses
    (key : UInt64)
    (e : CacheEvent) : Prop :=
  e.used = some key

end CacheEvent

/- The distinct keys used by some events. -/
def usedKeys
    (es : List CacheEvent) : Finset UInt64 :=
  (es.filterMap CacheEvent.used).toFinset

/- A cache, and the clock at its last event. -/
structure TimedCache (C : Type) where
  cache : ResponseCache C
  clock : Nat

variable {C : Type}

/-
  One operation under a clock that never goes back.  A store
  reads it for the age of a present entry, and again for its
  own stamp if it takes effect.
-/
inductive CacheStep
    (ops : LruOps C UInt64 CacheEntry) :
    TimedCache C → CacheEvent → TimedCache C → Prop where
  | put
      {s : TimedCache C}
      {now inserted : Nat}
      {key : UInt64}
      {response : ChatResponse}
      (hClock : s.clock ≤ now)
      (hStamp : now ≤ inserted) :
      CacheStep ops s
        (.put now inserted key response
          (!s.cache.suppresses ops now key))
        { cache := s.cache.put ops now inserted key response
          clock :=
            if s.cache.suppresses ops now key then
              now
            else
              inserted }
  | get
      {s : TimedCache C}
      {now : Nat}
      {key : UInt64}
      (hClock : s.clock ≤ now) :
      CacheStep ops s
        (.get now key (s.cache.get ops now key).1)
        { cache := (s.cache.get ops now key).2
          clock := now }

end Solvela

------------------------------------------------------------
-- What A Step Can Do
------------------------------------------------------------

namespace Solvela

open Recency

variable {C : Type}
variable {ops : LruOps C UInt64 CacheEntry}
variable {s t : TimedCache C}
variable {e : CacheEvent}

theorem usedKeys_snoc
    (es : List CacheEvent)
    (e : CacheEvent) :
    usedKeys (es ++ [e]) =
      match e.used with
      | some key => insert key (usedKeys es)
      | none => usedKeys es := by
  unfold usedKeys
  rw [List.filterMap_append]
  cases hUsed : e.used with
  | none => simp [hUsed]
  | some key =>
      ext k
      simp [hUsed]

theorem CacheEvent.Stores.uses
    {key : UInt64}
    (hStores : e.Stores key) :
    e.Uses key := by
  unfold CacheEvent.Uses
  cases e with
  | put now inserted k response effective =>
      cases effective with
      | true => exact hStores
      | false => cases hStores
  | get now k result => cases hStores

/- The clock never goes back. -/
theorem CacheStep.clock_le
    (hStep : CacheStep ops s e t) :
    s.clock ≤ t.clock := by
  cases hStep with
  | get hClock => exact hClock
  | @put now inserted key response hClock hStamp =>
      by_cases hDropped :
          s.cache.suppresses ops now key = true
      · simp only [if_pos hDropped]
        exact hClock
      · simp only [if_neg hDropped]
        exact hClock.trans hStamp

theorem CacheStep.settings
    (laws : ops.Laws)
    (hStep : CacheStep ops s e t) :
    t.cache.settings laws = s.cache.settings laws := by
  cases hStep with
  | put _ _ => exact ResponseCache.settings_put laws _ _ _ _ _
  | get _ => exact ResponseCache.settings_get laws _ _ _

/-
  A step drops a store, stores, finds nothing, removes an
  entry that is too old, or hits.
-/
theorem CacheStep.cases
    (laws : ops.Laws)
    (hStep : CacheStep ops s e t) :
    (∃ now inserted key response entry,
      e = .put now inserted key response false ∧
        s.clock ≤ now ∧ t.clock = now ∧ t.cache = s.cache ∧
          (s.cache.entries laws).lookup key = some entry ∧
            now - entry.inserted < s.cache.dedupWindow) ∨
    (∃ now key response,
      e = .put now t.clock key response true ∧
        s.clock ≤ now ∧ now ≤ t.clock ∧
          t.cache.entries laws =
            touch (s.cache.settings laws).capacity key
              { response := response, inserted := t.clock }
              (s.cache.entries laws)) ∨
    (∃ key, e = .get t.clock key none ∧
      s.clock ≤ t.clock ∧ t.cache = s.cache ∧
        (s.cache.entries laws).lookup key = none) ∨
    (∃ key entry, e = .get t.clock key none ∧
      s.clock ≤ t.clock ∧
        (s.cache.entries laws).lookup key = some entry ∧
          s.cache.ttl < t.clock - entry.inserted ∧
            t.cache.entries laws =
              dropKey key (s.cache.entries laws)) ∨
    ∃ key entry,
      e = .get t.clock key (some entry.response) ∧
        s.clock ≤ t.clock ∧
          (s.cache.entries laws).lookup key = some entry ∧
            t.clock - entry.inserted ≤ s.cache.ttl ∧
              t.cache.entries laws =
                touch (s.cache.settings laws).capacity key
                  entry (s.cache.entries laws) := by
  cases hStep with
  | @put now inserted key response hClock hStamp =>
      cases hDropped : s.cache.suppresses ops now key with
      | true =>
          rcases (ResponseCache.suppresses_iff laws _ _ _).mp
              hDropped with ⟨entry, hLookup, hYoung⟩
          exact Or.inl ⟨now, inserted, key, response, entry,
            rfl, hClock, rfl,
            ResponseCache.put_of_suppresses hDropped _ _,
            hLookup, hYoung⟩
      | false =>
          exact Or.inr (Or.inl ⟨now, key, response, rfl,
            hClock, hStamp,
            ResponseCache.entries_put laws hDropped _ _⟩)
  | @get now key hClock =>
      right
      right
      rcases ResponseCache.get_cases laws s.cache now key with
        ⟨hLookup, hResult, hSame⟩ |
          ⟨entry, hLookup, hOld, hResult, hEntries⟩ |
            ⟨entry, hLookup, hLive, hResult, hEntries⟩
      · exact Or.inl ⟨key, by rw [hResult], hClock, hSame,
          hLookup⟩
      · exact Or.inr (Or.inl ⟨key, entry, by rw [hResult],
          hClock, hLookup, hOld, hEntries⟩)
      · exact Or.inr (Or.inr ⟨key, entry, by rw [hResult],
          hClock, hLookup, hLive, hEntries⟩)

end Solvela

------------------------------------------------------------
-- Entries Come From The Latest Store
------------------------------------------------------------

namespace Solvela

open Recency Histories

variable {C : Type}
variable {ops : LruOps C UInt64 CacheEntry}

/-
  `entry` is the latest store under `key` that took effect,
  and each later one was dropped as too young.
-/
def Backed
    (dedupWindow : Nat)
    (history : List CacheEvent)
    (clock : Nat)
    (key : UInt64)
    (entry : CacheEntry) : Prop :=
  ∃ now since,
    LastAt (CacheEvent.Stores key) history
        (.put now entry.inserted key entry.response true)
        since ∧
      entry.inserted ≤ clock ∧
        ∀ later stamp response,
          .put later stamp key response false ∈ since →
            entry.inserted ≤ later ∧
              later < entry.inserted + dedupWindow

variable {dedupWindow clock clock' : Nat}
variable {history : List CacheEvent}
variable {key : UInt64}
variable {entry : CacheEntry}
variable {e : CacheEvent}

/- A store in effect backs its entry. -/
theorem backed_of_put
    {now : Nat}
    {response : ChatResponse}
    (history : List CacheEvent) :
    Backed dedupWindow
      (history ++ [.put now clock key response true]) clock
      key { response := response, inserted := clock } := by
  have hStores :
      CacheEvent.Stores key
        (.put now clock key response true) := by
    rfl
  refine ⟨now, [], lastAt_snoc_self hStores history,
    Nat.le_refl _, ?_⟩
  intro later stamp response' hNone
  cases hNone

/- Other events keep an entry backed. -/
theorem Backed.snoc
    (hBacked : Backed dedupWindow history clock key entry)
    (hClock : clock ≤ clock')
    (hOther : ¬ e.Stores key)
    (hDropped :
      ∀ later stamp response,
        e = .put later stamp key response false →
          entry.inserted ≤ later ∧
            later < entry.inserted + dedupWindow) :
    Backed dedupWindow (history ++ [e]) clock' key entry := by
  rcases hBacked with ⟨now, since, hLast, hStamp, hLater⟩
  refine ⟨now, since ++ [e], hLast.snoc hOther,
    hStamp.trans hClock, ?_⟩
  intro later stamp response hMem
  rcases List.mem_append.mp hMem with hOld | hNew
  · exact hLater later stamp response hOld
  · exact hDropped later stamp response
      (List.mem_singleton.mp hNew).symm

/- A look-up is no store. -/
theorem Backed.snoc_get
    {now : Nat}
    {k : UInt64}
    {found : Option ChatResponse}
    (hBacked : Backed dedupWindow history clock key entry)
    (hClock : clock ≤ clock') :
    Backed dedupWindow (history ++ [.get now k found]) clock'
      key entry := by
  apply hBacked.snoc hClock
  · intro hNo
    cases hNo
  · intro later stamp response hNo
    cases hNo

/- Each entry of the cache is backed. -/
def AllBacked
    (laws : ops.Laws)
    (history : List CacheEvent)
    (s : TimedCache C) : Prop :=
  ∀ key entry, (s.cache.entries laws).lookup key = some entry →
    Backed s.cache.dedupWindow history s.clock key entry

/- Every step keeps the entries backed. -/
theorem AllBacked.step
    {laws : ops.Laws}
    {s t : TimedCache C}
    (hBacked : AllBacked laws history s)
    (hCapacity : 0 < (s.cache.settings laws).capacity)
    (hStep : CacheStep ops s e t) :
    AllBacked laws (history ++ [e]) t := by
  have hWindow :
      t.cache.dedupWindow = s.cache.dedupWindow :=
    congrArg ResponseCache.Settings.dedupWindow
      (hStep.settings laws)
  have hClock := hStep.clock_le
  intro key entry hEntry
  rw [hWindow]
  rcases hStep.cases laws with
    ⟨now, inserted, k, response, found, rfl, hNow, _, hSame,
        hFound, hYoung⟩ |
      ⟨now, k, response, rfl, _, _, hEntries⟩ |
        ⟨k, rfl, _, hSame, _⟩ |
          ⟨k, found, rfl, _, _, _, hEntries⟩ |
            ⟨k, found, rfl, _, hFound, _, hEntries⟩
  · rw [hSame] at hEntry
    have hOld := hBacked key entry hEntry
    apply hOld.snoc hClock (by intro hNo; cases hNo)
    intro later stamp response' hEvent
    cases hEvent
    rw [hFound] at hEntry
    cases hEntry
    rcases hOld with ⟨_, _, _, hStamp, _⟩
    exact ⟨hStamp.trans hNow, by omega⟩
  · rw [hEntries] at hEntry
    by_cases hKey : k = key
    · subst hKey
      rw [lookup_touch_self hCapacity] at hEntry
      cases hEntry
      exact backed_of_put history
    · have hOld :=
        hBacked key entry (lookup_of_lookup_touch hKey hEntry)
      apply hOld.snoc hClock
      · intro hStores
        exact hKey (Option.some.inj hStores)
      · intro later stamp response' hEvent
        cases hEvent
  · rw [hSame] at hEntry
    exact (hBacked key entry hEntry).snoc_get hClock
  · have hOld : (s.cache.entries laws).lookup key =
        some entry := by
      rw [hEntries] at hEntry
      by_cases hKey : k = key
      · subst hKey
        rw [lookup_dropKey_self] at hEntry
        cases hEntry
      · rw [lookup_dropKey_of_ne hKey] at hEntry
        exact hEntry
    exact (hBacked key entry hOld).snoc_get hClock
  · have hOld : (s.cache.entries laws).lookup key =
        some entry := by
      rw [hEntries] at hEntry
      by_cases hKey : k = key
      · subst hKey
        rw [lookup_touch_self hCapacity] at hEntry
        cases hEntry
        exact hFound
      · exact lookup_of_lookup_touch hKey hEntry
    exact (hBacked key entry hOld).snoc_get hClock

end Solvela

------------------------------------------------------------
-- Entries In Use Are Held
------------------------------------------------------------

namespace Solvela

open Recency Histories

variable {C : Type}
variable {ops : LruOps C UInt64 CacheEntry}

/-
  The latest store under a key is in the cache while it is
  live and fewer distinct keys than the capacity were used
  after the key itself.
-/
def AllHeld
    (laws : ops.Laws)
    (history : List CacheEvent)
    (s : TimedCache C) : Prop :=
  ∀ key entry now last recent since,
    LastAt (CacheEvent.Uses key) history last recent →
      LastAt (CacheEvent.Stores key) history
          (.put now entry.inserted key entry.response true)
          since →
        s.clock ≤ entry.inserted + s.cache.ttl →
          (usedKeys recent).card <
              (s.cache.settings laws).capacity →
            Retains key entry (usedKeys recent)
              (s.cache.entries laws)

variable {laws : ops.Laws}
variable {history : List CacheEvent}
variable {s t : TimedCache C}
variable {e : CacheEvent}
variable {key : UInt64}
variable {entry : CacheEntry}

/- The entry of a backed key is its latest store. -/
theorem AllBacked.entry_eq
    (hBacked : AllBacked laws history s)
    {found : CacheEntry}
    (hFound :
      (s.cache.entries laws).lookup key = some found)
    {now : Nat}
    {since : List CacheEvent}
    (hLast :
      LastAt (CacheEvent.Stores key) history
        (.put now entry.inserted key entry.response true)
        since) :
    found = entry := by
  rcases hBacked key found hFound with
    ⟨now', since', hLast', _, _⟩
  have hSame := (hLast'.unique hLast).1
  injection hSame with _ hStamp _ hResponse _
  cases found
  cases entry
  cases hStamp
  cases hResponse
  rfl

/- A step that uses a key makes it the most recent. -/
theorem AllHeld.step_of_uses
    (hBacked : AllBacked laws history s)
    (hCapacity : 0 < (s.cache.settings laws).capacity)
    (hStep : CacheStep ops s e t)
    (hUses : e.Uses key)
    {now : Nat}
    {since : List CacheEvent}
    (hLast :
      LastAt (CacheEvent.Stores key) (history ++ [e])
        (.put now entry.inserted key entry.response true)
        since) :
    Retains key entry ∅ (t.cache.entries laws) := by
  rcases hStep.cases laws with
    ⟨_, _, _, _, _, rfl, _⟩ |
      ⟨now', k, response, rfl, _, _, hEntries⟩ |
        ⟨_, rfl, _⟩ | ⟨_, _, rfl, _⟩ |
          ⟨k, found, rfl, _, hFound, _, hEntries⟩
  · cases hUses
  · cases hUses
    have hStores :
        CacheEvent.Stores key
          (.put now' t.clock key response true) := by
      rfl
    have hSame :=
      ((lastAt_snoc_self hStores history).unique hLast).1
    injection hSame with _ hStamp _ hResponse _
    have hEntry :
        entry =
          { response := response, inserted := t.clock } := by
      cases entry
      cases hStamp
      cases hResponse
      rfl
    rw [hEntries, hEntry]
    exact Retains.touch_self hCapacity _ _ _
  · cases hUses
  · cases hUses
  · cases hUses
    rcases hLast.of_snoc (by intro hNo; cases hNo) with
      ⟨earlier, hEarlier, _⟩
    have hEntry := hBacked.entry_eq hFound hEarlier
    rw [hEntries, hEntry]
    exact Retains.touch_self hCapacity _ _ _

/- A step that does not use a key leaves it held. -/
theorem Retains.step_of_not_uses
    {used : Finset UInt64}
    (hHeld : Retains key entry used (s.cache.entries laws))
    (hStep : CacheStep ops s e t)
    (hOther : ¬ e.Uses key)
    (hLive : t.clock ≤ entry.inserted + s.cache.ttl)
    (hFew :
      (match e.used with
      | some k => insert k used
      | none => used).card <
        (s.cache.settings laws).capacity) :
    Retains key entry
      (match e.used with
      | some k => insert k used
      | none => used)
      (t.cache.entries laws) := by
  rcases hStep.cases laws with
    ⟨_, _, _, _, _, rfl, _, _, hSame, _⟩ |
      ⟨_, k, response, rfl, _, _, hEntries⟩ |
        ⟨_, rfl, _, hSame, _⟩ |
          ⟨k, found, rfl, _, hFound, hOld, hEntries⟩ |
            ⟨k, found, rfl, _, hFound, _, hEntries⟩
  · rw [hSame]
    exact hHeld
  · have hNe : k ≠ key := by
      intro hEq
      exact hOther (congrArg some hEq)
    rw [hEntries]
    exact hHeld.touch_of_ne hNe
      (ResponseCache.nodup_entries laws s.cache) hFew
  · rw [hSame]
    exact hHeld
  · -- a live entry is not removed, so the key is another one
    have hNe : k ≠ key := by
      intro hEq
      rw [hEq, hHeld.1] at hFound
      cases hFound
      omega
    rw [hEntries]
    exact hHeld.dropKey_of_ne hNe
  · have hNe : k ≠ key := by
      intro hEq
      exact hOther (congrArg some hEq)
    rw [hEntries]
    exact hHeld.touch_of_ne hNe
      (ResponseCache.nodup_entries laws s.cache) hFew

/- Every step keeps the keys in use held. -/
theorem AllHeld.step
    (hHeld : AllHeld laws history s)
    (hBacked : AllBacked laws history s)
    (hCapacity : 0 < (s.cache.settings laws).capacity)
    (hStep : CacheStep ops s e t) :
    AllHeld laws (history ++ [e]) t := by
  have hSettings := hStep.settings laws
  have hTtl : t.cache.ttl = s.cache.ttl :=
    congrArg ResponseCache.Settings.ttl hSettings
  intro key entry now last recent since hUsed hStored hLive
    hFew
  by_cases hUses : e.Uses key
  · rcases (lastAt_snoc_self hUses history).unique hUsed with
      ⟨_, rfl⟩
    exact AllHeld.step_of_uses hBacked hCapacity hStep hUses
      hStored
  · have hOther : ¬ e.Stores key := by
      intro hStores
      exact hUses hStores.uses
    rcases hUsed.of_snoc hUses with
      ⟨earlier, hEarlier, rfl⟩
    rcases hStored.of_snoc hOther with
      ⟨before, hBefore, _⟩
    rw [usedKeys_snoc] at hFew ⊢
    rw [hSettings] at hFew
    rw [hTtl] at hLive
    have hFewer :
        (usedKeys earlier).card <
          (s.cache.settings laws).capacity := by
      apply Nat.lt_of_le_of_lt _ hFew
      apply Finset.card_le_card
      cases e.used with
      | none => exact Finset.Subset.refl _
      | some k => exact Finset.subset_insert _ _
    have hKept := hHeld key entry now last earlier before
      hEarlier hBefore (hStep.clock_le.trans hLive) hFewer
    exact Retains.step_of_not_uses hKept hStep hUses hLive
      hFew

end Solvela

------------------------------------------------------------
-- Runs From An Empty Cache
------------------------------------------------------------

namespace Solvela

open Recency Histories Transitions

variable {C : Type}
variable {ops : LruOps C UInt64 CacheEntry}

/- An empty cache at clock reading `start`. -/
def TimedCache.init
    (ops : LruOps C UInt64 CacheEntry)
    (maxEntries ttl dedupWindow start : Nat) :
    TimedCache C where
  cache :=
    ResponseCache.withConfig ops maxEntries ttl dedupWindow
  clock := start

/- What holds after every run. -/
structure CacheInvariant
    (laws : ops.Laws)
    (settings : ResponseCache.Settings)
    (history : List CacheEvent)
    (s : TimedCache C) : Prop where
  settings_eq : s.cache.settings laws = settings
  backed : AllBacked laws history s
  held : AllHeld laws history s

theorem cacheInvariant_init
    (laws : ops.Laws)
    (maxEntries ttl dedupWindow start : Nat) :
    CacheInvariant laws
      { capacity := max 1 maxEntries
        ttl := ttl
        dedupWindow := dedupWindow }
      [] (TimedCache.init ops maxEntries ttl dedupWindow
        start) where
  settings_eq :=
    ResponseCache.settings_withConfig laws maxEntries ttl
      dedupWindow
  backed := by
    intro key entry hEntry
    unfold TimedCache.init at hEntry
    rw [ResponseCache.entries_withConfig] at hEntry
    cases hEntry
  held := by
    intro key entry now last recent since hUsed
    cases hUsed.mem

theorem CacheInvariant.step
    {laws : ops.Laws}
    {settings : ResponseCache.Settings}
    {history : List CacheEvent}
    {s t : TimedCache C}
    {e : CacheEvent}
    (hInvariant : CacheInvariant laws settings history s)
    (hCapacity : 0 < settings.capacity)
    (hStep : CacheStep ops s e t) :
    CacheInvariant laws settings (history ++ [e]) t := by
  rcases hInvariant with ⟨hSettings, hBacked, hHeld⟩
  rw [← hSettings] at hCapacity
  exact
    { settings_eq := (hStep.settings laws).trans hSettings
      backed := hBacked.step hCapacity hStep
      held := hHeld.step hBacked hCapacity hStep }

theorem cacheInvariant_of_run
    (laws : ops.Laws)
    {maxEntries ttl dedupWindow start : Nat}
    {history : List CacheEvent}
    {s : TimedCache C}
    (hRun :
      LabelledRun (CacheStep ops)
        (TimedCache.init ops maxEntries ttl dedupWindow
          start) history s) :
    CacheInvariant laws
      { capacity := max 1 maxEntries
        ttl := ttl
        dedupWindow := dedupWindow }
      history s :=
  hRun.invariant
    (CacheInvariant laws
      { capacity := max 1 maxEntries
        ttl := ttl
        dedupWindow := dedupWindow })
    (cacheInvariant_init laws maxEntries ttl dedupWindow
      start)
    (fun _ _ _ _ _ hPast hStep =>
      hPast.step (Nat.le_max_left 1 maxEntries) hStep)

theorem CacheStep.clock_le_now
    {s t : TimedCache C}
    {now : Nat}
    {key : UInt64}
    {result : Option ChatResponse}
    (hStep : CacheStep ops s (.get now key result) t) :
    s.clock ≤ now := by
  cases hStep with
  | get hClock => exact hClock

/- A hit returns an entry that is in the cache and live. -/
theorem CacheStep.entry_of_hit
    (laws : ops.Laws)
    {s t : TimedCache C}
    {now : Nat}
    {key : UInt64}
    {response : ChatResponse}
    (hStep :
      CacheStep ops s (.get now key (some response)) t) :
    ∃ entry, entry.response = response ∧
      (s.cache.entries laws).lookup key = some entry ∧
        s.clock ≤ now ∧
          now - entry.inserted ≤ s.cache.ttl := by
  rcases hStep.cases laws with
    ⟨_, _, _, _, _, hEvent, _⟩ | ⟨_, _, _, hEvent, _⟩ |
      ⟨_, hEvent, _⟩ | ⟨_, _, hEvent, _⟩ |
        ⟨_, entry, hEvent, hClock, hFound, hAge, _⟩
  · cases hEvent
  · cases hEvent
  · cases hEvent
  · cases hEvent
  · cases hEvent
    exact ⟨entry, rfl, hFound, hClock, hAge⟩

/- A look-up of a live entry hits. -/
theorem CacheStep.result_of_live
    (laws : ops.Laws)
    {s t : TimedCache C}
    {now : Nat}
    {key : UInt64}
    {entry : CacheEntry}
    {result : Option ChatResponse}
    (hStep : CacheStep ops s (.get now key result) t)
    (hFound :
      (s.cache.entries laws).lookup key = some entry)
    (hLive : now ≤ entry.inserted + s.cache.ttl) :
    result = some entry.response := by
  cases hStep with
  | get _ =>
      exact ResponseCache.get_of_live laws hFound (by omega)

/- After a store its key is found, and live. -/
theorem CacheStep.entry_of_put
    (laws : ops.Laws)
    {s t : TimedCache C}
    {now inserted : Nat}
    {key : UInt64}
    {response : ChatResponse}
    {effective : Bool}
    (hStep :
      CacheStep ops s
        (.put now inserted key response effective) t)
    (hCapacity : 0 < (s.cache.settings laws).capacity)
    (hWindow : s.cache.dedupWindow ≤ s.cache.ttl) :
    ∃ entry,
      (t.cache.entries laws).lookup key = some entry ∧
        t.clock ≤ entry.inserted + t.cache.ttl := by
  have hTtl : t.cache.ttl = s.cache.ttl :=
    congrArg ResponseCache.Settings.ttl (hStep.settings laws)
  rcases hStep.cases laws with
    ⟨_, _, _, _, found, hEvent, _, hNow, hSame, hFound,
        hYoung⟩ |
      ⟨_, _, _, hEvent, _, _, hEntries⟩ |
        ⟨_, hEvent, _⟩ | ⟨_, _, hEvent, _⟩ |
          ⟨_, _, hEvent, _⟩
  · cases hEvent
    refine ⟨found, ?_, by omega⟩
    rw [hSame]
    exact hFound
  · cases hEvent
    let stored : CacheEntry :=
      { response := response, inserted := t.clock }
    refine ⟨stored, ?_, Nat.le_add_right _ _⟩
    rw [hEntries]
    exact lookup_touch_self hCapacity _ _ _
  · cases hEvent
  · cases hEvent
  · cases hEvent

/-
  Over every run: the size stays within the capacity; a hit
  returns the latest store, still live, after which every
  store came within the window; a live entry that few enough
  keys were used after is hit; and a look-up right after a
  store is a hit.
-/
theorem cache_correct
    (laws : ops.Laws)
    (maxEntries ttl dedupWindow start : Nat)
    (hWindow : dedupWindow ≤ ttl)
    (history : List CacheEvent)
    (s : TimedCache C)
    (hRun :
      LabelledRun (CacheStep ops)
        (TimedCache.init ops maxEntries ttl dedupWindow
          start) history s) :
    s.cache.len ops ≤ max 1 maxEntries ∧
    (∀ now key response t,
      CacheStep ops s (.get now key (some response)) t →
        ∃ first stamp since,
          LastAt (CacheEvent.Stores key) history
              (.put first stamp key response true) since ∧
            stamp ≤ now ∧ now ≤ stamp + ttl ∧
              ∀ later stamp' response' effective,
                .put later stamp' key response' effective ∈
                    since →
                  stamp ≤ later ∧
                    later < stamp + dedupWindow) ∧
    (∀ key first stamp response last recent since now result
        t,
      LastAt (CacheEvent.Uses key) history last recent →
        LastAt (CacheEvent.Stores key) history
            (.put first stamp key response true) since →
          (usedKeys recent).card < max 1 maxEntries →
            now ≤ stamp + ttl →
              CacheStep ops s (.get now key result) t →
                result = some response) ∧
    (∀ now inserted key response effective result t u,
      CacheStep ops s
          (.put now inserted key response effective) t →
        CacheStep ops t (.get t.clock key result) u →
          ∃ found, result = some found) := by
  have hInvariant := cacheInvariant_of_run laws hRun
  rcases hInvariant with ⟨hSettings, hBacked, hHeld⟩
  have hTtl : s.cache.ttl = ttl :=
    congrArg ResponseCache.Settings.ttl hSettings
  have hDedup : s.cache.dedupWindow = dedupWindow :=
    congrArg ResponseCache.Settings.dedupWindow hSettings
  have hCapacity :
      (s.cache.settings laws).capacity = max 1 maxEntries :=
    congrArg ResponseCache.Settings.capacity hSettings
  refine ⟨?_, ?_, ?_, ?_⟩
  · rw [← hCapacity]
    exact ResponseCache.len_le laws s.cache
  · intro now key response t hGet
    rcases hGet.entry_of_hit laws with
      ⟨entry, rfl, hFound, hClock, hAge⟩
    rcases hBacked key entry hFound with
      ⟨first, since, hLast, hStamp, hLater⟩
    refine ⟨first, entry.inserted, since, hLast,
      hStamp.trans hClock, by omega, ?_⟩
    intro later stamp' response' effective hMem
    rw [← hDedup]
    cases effective with
    | false => exact hLater later stamp' response' hMem
    | true =>
        rcases hLast with ⟨_, _, _, hSince⟩
        exact absurd rfl (hSince _ hMem)
  · intro key first stamp response last recent since now
      result t hUsed hStored hFew hAge hGet
    rw [← hCapacity] at hFew
    rw [← hTtl] at hAge
    have hKept := hHeld key
      { response := response, inserted := stamp } first last
      recent since hUsed hStored
      (hGet.clock_le_now.trans hAge) hFew
    exact hGet.result_of_live laws hKept.1 hAge
  · intro now inserted key response effective result t u hPut
      hGet
    have hPositive : 0 < (s.cache.settings laws).capacity := by
      rw [hCapacity]
      exact Nat.le_max_left 1 maxEntries
    have hNarrow : s.cache.dedupWindow ≤ s.cache.ttl := by
      rw [hTtl, hDedup]
      exact hWindow
    rcases hPut.entry_of_put laws hPositive hNarrow with
      ⟨entry, hFound, hLive⟩
    exact ⟨_, hGet.result_of_live laws hFound hLive⟩

/- An answer without choices. -/
def sampleAnswer : ChatResponse where
  id := "answer"
  object := "chat.completion"
  created := 0
  model := "openai/gpt-4o"
  choices := []
  usage := none

/- A cache for one entry, after one store. -/
def storedOnce :
    TimedCache (RecencyList UInt64 CacheEntry) where
  cache :=
    (ResponseCache.withConfig RecencyList.ops 1 600 30).put
      RecencyList.ops 0 0 7 sampleAnswer
  clock := 0

/- The stored answer is hit at the end of its lifetime. -/
theorem cache_correct_at_ttl :
    (storedOnce.cache.get RecencyList.ops 600 7).1 =
      some sampleAnswer := by
  have hStep :
      CacheStep RecencyList.ops
        (TimedCache.init RecencyList.ops 1 600 30 0)
        (.put 0 0 7 sampleAnswer true) storedOnce :=
    .put (Nat.le_refl 0) (Nat.le_refl 0)
  have hStores :
      CacheEvent.Stores 7 (.put 0 0 7 sampleAnswer true) := by
    rfl
  have hCorrect :=
    cache_correct RecencyList.laws 1 600 30 0 (by decide)
      [.put 0 0 7 sampleAnswer true] storedOnce
      ⟨storedOnce, hStep, rfl⟩
  exact hCorrect.2.2.1 7 0 0 sampleAnswer _ [] [] 600 _ _
    (lastAt_snoc_self hStores.uses [])
    (lastAt_snoc_self hStores [])
    Nat.one_pos (Nat.le_refl 600) (.get (Nat.zero_le 600))

end Solvela
