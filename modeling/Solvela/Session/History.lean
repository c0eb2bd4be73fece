import Solvela.Foundations.Histories
import Solvela.Session.Model

/-
  What a session remembers of the operations on its store.

  Each operation does one of four things to the store.  The
  entry under an id sums up the hashes recorded for the id
  since the entry was opened.

  Main declarations:
    * `StoreEvent`, `StoreEvent.apply`
    * `Summarises`, `Summarises.record`
    * `Remembers`, `Remembers.apply`
-/

------------------------------------------------------------
-- Events On A Store
------------------------------------------------------------

namespace Solvela

/- What an operation does to the store, if anything. -/
inductive StoreEvent where
  | looked
  | opened (id : String) (created : Nat) (model : String)
  | recorded (id : String) (hash : UInt64)
  | cleaned (readings : String → Nat)

namespace StoreEvent

/- What an event makes of a store. -/
def apply
    (store : SessionStore) : StoreEvent → SessionStore
| .looked => store
| .opened id created model =>
    store.insert id (.fresh created model)
| .recorded id hash => store.recordRequest id hash
| .cleaned readings => store.cleanupExpired readings

/- The event opens a session under `id`. -/
def Opens
    (id : String)
    (e : StoreEvent) : Prop :=
  ∃ created model, e = .opened id created model

/- The hash that is recorded for `id`, if one is. -/
def hashOn
    (id : String) : StoreEvent → Option UInt64
| .recorded id' hash => if id' = id then some hash else none
| _ => none

end StoreEvent

/- The hashes recorded for `id`, in order. -/
def hashesOn
    (id : String)
    (es : List StoreEvent) : List UInt64 :=
  es.filterMap (StoreEvent.hashOn id)

theorem hashesOn_snoc
    (id : String)
    (es : List StoreEvent)
    (e : StoreEvent) :
    hashesOn id (es ++ [e]) =
      hashesOn id es ++ (e.hashOn id).toList := by
  unfold hashesOn
  rw [List.filterMap_append]
  cases hHash : e.hashOn id with
  | none => simp [hHash]
  | some hash => simp [hHash]

end Solvela

------------------------------------------------------------
-- Summaries
------------------------------------------------------------

namespace Solvela

open Windows

/-
  The entry counts the hashes, keeps the last ten of them,
  and is escalated if three equal ones came close together.
-/
structure Summarises
    (hashes : List UInt64)
    (entry : SessionEntry) : Prop where
  requestCount : entry.requestCount = hashes.length
  recentHashes :
    entry.recentHashes = lastN maxRecentHashes hashes
  escalated :
    entry.escalated = true ↔
      Clusters maxRecentHashes threeStrikeThreshold hashes

theorem summarises_fresh
    (created : Nat)
    (model : String) :
    Summarises [] (.fresh created model) where
  requestCount := rfl
  recentHashes := rfl
  escalated := by
    constructor
    · intro hNo
      cases hNo
    · intro hClusters
      rcases hClusters with ⟨w, hInfix, _, hash, hCount⟩
      rw [List.infix_nil.mp hInfix] at hCount
      cases hCount

/- A recorded hash extends the summary. -/
theorem Summarises.record
    {hashes : List UInt64}
    {entry : SessionEntry}
    (hSummary : Summarises hashes entry)
    (hash : UInt64) :
    Summarises (hashes ++ [hash])
      (entry.recordRequest hash) := by
  have hWindow :
      pushBounded maxRecentHashes entry.recentHashes hash =
        lastN maxRecentHashes (hashes ++ [hash]) := by
    rw [hSummary.recentHashes]
    exact pushBounded_lastN (by decide) hashes hash
  have hLoop :
      countLoop threeStrikeThreshold
          (lastN maxRecentHashes (hashes ++ [hash]))
          (fun _ => 0) = true ↔
        ∃ h, threeStrikeThreshold ≤
          (lastN maxRecentHashes
            (hashes ++ [hash])).count h := by
    rw [countLoop_eq_true_iff (fun _ => by decide)]
    simp only [Nat.zero_add]
  constructor
  · rw [List.length_append, ← hSummary.requestCount]
    rfl
  · exact hWindow
  · rw [clusters_snoc_iff, ← hSummary.escalated, ← hLoop,
      ← hWindow]
    unfold SessionEntry.recordRequest
    cases entry.escalated with
    | true => simp
    | false => simp

end Solvela

------------------------------------------------------------
-- Stores And Their Histories
------------------------------------------------------------

namespace Solvela

open Histories

/-
  Each session was opened by the last event that opened one
  under its id, and sums up what was recorded since.
-/
def Remembers
    (history : List StoreEvent)
    (store : SessionStore) : Prop :=
  ∀ id entry, store.sessions id = some entry →
    ∃ since,
      LastAt (StoreEvent.Opens id) history
          (.opened id entry.created entry.model) since ∧
        Summarises (hashesOn id since) entry

theorem remembers_new
    (ttl : Nat) :
    Remembers [] (SessionStore.new ttl) := by
  intro id entry hEntry
  cases hEntry

/- An event without a hash leaves what an id remembers. -/
theorem Remembers.snoc
    {history : List StoreEvent}
    {store : SessionStore}
    {e : StoreEvent}
    {id : String}
    {entry : SessionEntry}
    (hRemembers : Remembers history store)
    (hEntry : store.sessions id = some entry)
    (hOther : ¬ e.Opens id)
    (hSilent : e.hashOn id = none) :
    ∃ since,
      LastAt (StoreEvent.Opens id) (history ++ [e])
          (.opened id entry.created entry.model) since ∧
        Summarises (hashesOn id since) entry := by
  rcases hRemembers id entry hEntry with
    ⟨since, hLast, hSummary⟩
  refine ⟨since ++ [e], hLast.snoc hOther, ?_⟩
  rw [hashesOn_snoc, hSilent]
  simpa using hSummary

/- Every event keeps the store true to its history. -/
theorem Remembers.apply
    {history : List StoreEvent}
    {store : SessionStore}
    (hRemembers : Remembers history store)
    (e : StoreEvent) :
    Remembers (history ++ [e]) (e.apply store) := by
  intro id entry hEntry
  cases e with
  | looked =>
      exact hRemembers.snoc hEntry
        (by intro hNo; rcases hNo with ⟨_, _, hNo⟩; cases hNo)
        rfl
  | opened id' created model =>
      by_cases hId : id = id'
      · subst hId
        have hFresh :
            SessionEntry.fresh created model = entry := by
          have hFound :=
            SessionStore.sessions_insert_self store id
              (.fresh created model)
          exact Option.some.inj (hFound.symm.trans hEntry)
        rw [← hFresh]
        exact ⟨[], lastAt_snoc_self ⟨created, model, rfl⟩ _,
          summarises_fresh created model⟩
      · have hOld : store.sessions id = some entry := by
          have hKept :=
            SessionStore.sessions_insert_of_ne store hId
              (.fresh created model)
          exact hKept.symm.trans hEntry
        apply hRemembers.snoc hOld
        · intro hOpens
          rcases hOpens with ⟨_, _, hSame⟩
          injection hSame with hEq
          exact hId hEq.symm
        · rfl
  | recorded id' hash =>
      have hOther :
          ¬ StoreEvent.Opens id (.recorded id' hash) := by
        intro hNo
        rcases hNo with ⟨_, _, hNo⟩
        cases hNo
      change (store.recordRequest id' hash).sessions id = _
        at hEntry
      rw [SessionStore.sessions_recordRequest] at hEntry
      by_cases hId : id = id'
      · subst hId
        rw [if_pos rfl] at hEntry
        rcases Option.map_eq_some_iff.mp hEntry with
          ⟨old, hOld, rfl⟩
        rcases hRemembers id old hOld with
          ⟨since, hLast, hSummary⟩
        let event := StoreEvent.recorded id hash
        have hHash : event.hashOn id = some hash :=
          if_pos rfl
        refine ⟨since ++ [event], ?_, ?_⟩
        · exact hLast.snoc hOther
        · rw [hashesOn_snoc, hHash]
          exact hSummary.record hash
      · rw [if_neg hId] at hEntry
        exact hRemembers.snoc hEntry hOther
          (if_neg (Ne.symm hId))
  | cleaned readings =>
      have hOld : store.sessions id = some entry :=
        (SessionStore.live_eq_some_iff.mp hEntry).1
      exact hRemembers.snoc hOld
        (by intro hNo; rcases hNo with ⟨_, _, hNo⟩; cases hNo)
        rfl

end Solvela
