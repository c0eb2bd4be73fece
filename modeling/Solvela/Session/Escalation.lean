import Solvela.Foundations.Transitions
import Solvela.Session.History

/-
  Escalation over sequences of session operations.

  A session is escalated exactly when three of the hashes
  recorded since it was opened are equal and lie within ten
  consecutive ones.

  Main declarations:
    * `SessionOp`, `SessionOpStep`
    * `RecordedSince`
    * `remembers_of_run`
    * `escalation_exact`
-/

------------------------------------------------------------
-- Operations
------------------------------------------------------------

namespace Solvela

/- A store, and the clock at its last operation. -/
structure TimedSessions where
  store : SessionStore
  clock : Nat

/-
  One operation.  A call of `get_or_create` comes with what
  it returned and whether it opened a session.
-/
inductive SessionOp where
  | getOrCreate
      (looked now created : Nat)
      (id model : String)
      (info : SessionInfo)
      (opened : Bool)
  | recordRequest
      (id : String)
      (hash : UInt64)
  | cleanupExpired
      (readings : String → Nat)
      (now : Nat)

namespace SessionOp

/- What an operation does to the store. -/
def storeEvent : SessionOp → StoreEvent
| .getOrCreate _ _ created id model _ true =>
    .opened id created model
| .getOrCreate _ _ _ _ _ _ false => .looked
| .recordRequest id hash => .recorded id hash
| .cleanupExpired readings _ => .cleaned readings

/- The operation opened a session under `id`. -/
def Opens
    (id : String)
    (op : SessionOp) : Prop :=
  op.storeEvent.Opens id

/- The hash that the operation records for `id`, if it does. -/
def recorded
    (id : String)
    (op : SessionOp) : Option UInt64 :=
  op.storeEvent.hashOn id

end SessionOp

/- The operations, under a clock that never goes back. -/
inductive SessionOpStep :
    TimedSessions → SessionOp → TimedSessions → Prop where
  | getOrCreate
      {s : TimedSessions}
      {looked now created : Nat}
      {id model : String}
      (hClock : s.clock ≤ looked)
      (hCheck : looked ≤ now)
      (hStamp : now ≤ created) :
      SessionOpStep s
        (.getOrCreate looked now created id model
          (s.store.getOrCreate looked now created id model).1
          (s.store.live looked id).isNone)
        { store :=
            (s.store.getOrCreate looked now created id
              model).2
          clock := created }
  | recordRequest
      {s : TimedSessions}
      {id : String}
      {hash : UInt64} :
      SessionOpStep s (.recordRequest id hash)
        { s with store := s.store.recordRequest id hash }
  | cleanupExpired
      {s : TimedSessions}
      {readings : String → Nat}
      {now : Nat}
      (hReadings :
        ∀ id, s.clock ≤ readings id ∧ readings id ≤ now) :
      SessionOpStep s (.cleanupExpired readings now)
        { store := s.store.cleanupExpired readings
          clock := now }

end Solvela

------------------------------------------------------------
-- Steps And Runs
------------------------------------------------------------

namespace Solvela

open Histories Transitions

variable {s t : TimedSessions}

/- An operation acts on the store by its store event. -/
theorem SessionOpStep.store_eq
    {op : SessionOp}
    (hStep : SessionOpStep s op t) :
    t.store = op.storeEvent.apply s.store := by
  cases hStep with
  | @getOrCreate looked now created id model _ hCheck _ =>
      cases hLive : s.store.live looked id with
      | none =>
          rw [SessionStore.getOrCreate_of_not_live hCheck
            hLive]
          rfl
      | some entry =>
          rw [SessionStore.getOrCreate_of_live hLive]
          rfl
  | recordRequest => rfl
  | cleanupExpired _ => rfl

/- A call that opens nothing returns the live session. -/
theorem SessionOpStep.info_of_live
    {looked now created : Nat}
    {id model : String}
    {info : SessionInfo}
    (hStep :
      SessionOpStep s
        (.getOrCreate looked now created id model info false)
        t) :
    ∃ entry, s.store.live looked id = some entry ∧
      info = entry.info := by
  generalize hFlag : false = flag at hStep
  cases hStep with
  | getOrCreate _ _ _ =>
      cases hLive : s.store.live looked id with
      | none =>
          rw [hLive] at hFlag
          cases hFlag
      | some entry =>
          rw [SessionStore.getOrCreate_of_live hLive]
          exact ⟨entry, rfl, rfl⟩

/- A call that opens a session returns the new one. -/
theorem SessionOpStep.info_of_opened
    {looked now created : Nat}
    {id model : String}
    {info : SessionInfo}
    (hStep :
      SessionOpStep s
        (.getOrCreate looked now created id model info true)
        t) :
    info = { model := model, escalated := false } := by
  generalize hFlag : true = flag at hStep
  cases hStep with
  | getOrCreate _ hCheck _ =>
      have hNone : s.store.live looked id = none := by
        simpa using hFlag.symm
      rw [SessionStore.getOrCreate_of_not_live hCheck hNone]

/- A new store at clock reading `start`. -/
def TimedSessions.init
    (ttl start : Nat) : TimedSessions where
  store := SessionStore.new ttl
  clock := start

/- After a run, the store remembers its history. -/
theorem remembers_of_run
    {ttl start : Nat}
    {history : List SessionOp}
    (hRun :
      LabelledRun SessionOpStep (TimedSessions.init ttl start)
        history s) :
    Remembers (history.map SessionOp.storeEvent) s.store := by
  apply hRun.invariant
    (fun past u =>
      Remembers (past.map SessionOp.storeEvent) u.store)
  · exact remembers_new ttl
  · intro past u op v _ hPast hStep
    rw [List.map_append, hStep.store_eq]
    exact hPast.apply op.storeEvent

end Solvela

------------------------------------------------------------
-- Escalation
------------------------------------------------------------

namespace Solvela

open Histories Transitions Windows

/-
  `hashes` are those recorded for `id`, in order, since the
  session under it was opened.
-/
def RecordedSince
    (id : String)
    (history : List SessionOp)
    (hashes : List UInt64) : Prop :=
  ∃ opening since,
    LastAt (SessionOp.Opens id) history opening since ∧
      hashes = since.filterMap (SessionOp.recorded id)

/- A session sums up the hashes recorded since it was opened. -/
theorem exists_recordedSince
    {history : List SessionOp}
    {store : SessionStore}
    {id : String}
    {entry : SessionEntry}
    (hRemembers :
      Remembers (history.map SessionOp.storeEvent) store)
    (hEntry : store.sessions id = some entry) :
    ∃ hashes, RecordedSince id history hashes ∧
      Summarises hashes entry := by
  rcases hRemembers id entry hEntry with
    ⟨since, hLast, hSummary⟩
  rcases (lastAt_map SessionOp.storeEvent).mp hLast with
    ⟨opening, after, hOpening, _, rfl⟩
  refine ⟨_, ⟨opening, after, hOpening, rfl⟩, ?_⟩
  unfold hashesOn at hSummary
  rw [List.filterMap_map] at hSummary
  exact hSummary

/-
  Over every sequence of operations: a live session is
  reported as escalated exactly when three equal hashes lie
  within ten consecutive ones recorded since it was opened, a
  new session is not, and the window is always the last ten
  hashes.
-/
theorem escalation_exact
    (ttl start : Nat)
    (history : List SessionOp)
    (s : TimedSessions)
    (hRun :
      LabelledRun SessionOpStep (TimedSessions.init ttl start)
        history s) :
    (∀ looked now created id model info t,
      SessionOpStep s
          (.getOrCreate looked now created id model info
            false) t →
        ∃ hashes, RecordedSince id history hashes ∧
          (info.escalated = true ↔
            ∃ i j k : Nat, i < j ∧ j < k ∧ k - i ≤ 9 ∧
              ∃ hash, hashes[i]? = some hash ∧
                hashes[j]? = some hash ∧
                  hashes[k]? = some hash)) ∧
    (∀ looked now created id model info t,
      SessionOpStep s
          (.getOrCreate looked now created id model info
            true) t →
        info.escalated = false) ∧
    (∀ id entry, s.store.sessions id = some entry →
      ∃ hashes, RecordedSince id history hashes ∧
        entry.recentHashes =
          hashes.drop (hashes.length - 10)) := by
  have hRemembers := remembers_of_run hRun
  refine ⟨?_, ?_, ?_⟩
  · intro looked now created id model info t hStep
    rcases hStep.info_of_live with ⟨entry, hLive, rfl⟩
    rcases exists_recordedSince hRemembers
        (SessionStore.live_eq_some_iff.mp hLive).1 with
      ⟨hashes, hSince, hSummary⟩
    refine ⟨hashes, hSince, ?_⟩
    rw [← clusters_three_iff]
    exact hSummary.escalated
  · intro looked now created id model info t hStep
    rw [hStep.info_of_opened]
  · intro id entry hEntry
    rcases exists_recordedSince hRemembers hEntry with
      ⟨hashes, hSince, hSummary⟩
    exact ⟨hashes, hSince, hSummary.recentHashes⟩

/- A session with the hash 7 recorded three times. -/
def strikes
    (info : SessionInfo) : List SessionOp :=
  [.getOrCreate 0 0 0 "sid" "model" info true,
    .recordRequest "sid" 7, .recordRequest "sid" 7,
    .recordRequest "sid" 7]

/- It is reported as escalated. -/
theorem escalation_after_strikes :
    ∃ info s t told,
      LabelledRun SessionOpStep (TimedSessions.init 10 0)
          (strikes info) s ∧
        SessionOpStep s
          (.getOrCreate 1 1 1 "sid" "model" told false) t ∧
          told.escalated = true := by
  have hRun :
      ∃ info s,
        LabelledRun SessionOpStep (TimedSessions.init 10 0)
            (strikes info) s ∧
          ∃ told t,
            SessionOpStep s
              (.getOrCreate 1 1 1 "sid" "model" told false)
              t := by
    refine ⟨_, _, ⟨_, .getOrCreate (Nat.le_refl 0)
        (Nat.le_refl 0) (Nat.le_refl 0), _, .recordRequest, _,
      .recordRequest, _, .recordRequest, rfl⟩, _, _,
      .getOrCreate (Nat.zero_le 1) (Nat.le_refl 1)
        (Nat.le_refl 1)⟩
  rcases hRun with ⟨info, s, hRun, told, t, hStep⟩
  refine ⟨info, s, t, told, hRun, hStep, ?_⟩
  rcases (escalation_exact 10 0 (strikes info) s hRun).1 1 1 1
      "sid" "model" told t hStep with
    ⟨hashes, ⟨opening, since, hLast, rfl⟩, hEscalated⟩
  have hOpened :
      LastAt (SessionOp.Opens "sid") (strikes info)
        (.getOrCreate 0 0 0 "sid" "model" info true)
        [.recordRequest "sid" 7, .recordRequest "sid" 7,
          .recordRequest "sid" 7] := by
    refine ⟨[], rfl, ⟨0, "model", rfl⟩, ?_⟩
    intro op hMem hOpens
    rcases hOpens with ⟨_, _, hOpens⟩
    simp only [List.mem_cons, List.not_mem_nil, or_false,
      or_self] at hMem
    rw [hMem] at hOpens
    cases hOpens
  rw [(hLast.unique hOpened).2] at hEscalated
  exact hEscalated.mpr ⟨0, 1, 2, by decide, by decide,
    by decide, 7, rfl, rfl, rfl⟩

end Solvela
