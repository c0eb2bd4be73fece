import Solvela.Session.Escalation

/-
  Removing expired sessions is unobservable.

  Two stores agree from a clock reading on when they show the
  same live sessions at every later reading.  Operations keep
  the agreement, and a cleanup only removes sessions that are
  no longer live at the readings still to come.

  Main declarations:
    * `AgreeFrom`
    * `Trails`, `Trails.visible_step`, `Trails.cleanup_step`
    * `cleanup_unobservable`
-/

------------------------------------------------------------
-- Live Sessions After Operations
------------------------------------------------------------

namespace Solvela

namespace SessionStore

/- A session just inserted is live while it is young. -/
theorem live_insert
    (store : SessionStore)
    (now : Nat)
    (id id' : String)
    (entry : SessionEntry) :
    (store.insert id entry).live now id' =
      if id' = id then
        (some entry).filter
          (fun e => decide (now - e.created < store.ttl))
      else
        store.live now id' := by
  unfold live
  by_cases hEq : id' = id
  · rw [if_pos hEq, hEq, sessions_insert_self]
    rfl
  · rw [if_neg hEq, sessions_insert_of_ne store hEq]
    rfl

/- Recording leaves the age of a session. -/
theorem live_recordRequest
    (store : SessionStore)
    (now : Nat)
    (id id' : String)
    (hash : UInt64) :
    (store.recordRequest id hash).live now id' =
      if id' = id then
        (store.live now id').map
          (fun entry => entry.recordRequest hash)
      else
        store.live now id' := by
  unfold live
  rw [sessions_recordRequest, ttl_recordRequest]
  by_cases hEq : id' = id
  · rw [if_pos hEq, if_pos hEq, hEq, Option.filter_map]
    rfl
  · rw [if_neg hEq, if_neg hEq]

/- What is live after a cleanup was not removed by it. -/
theorem live_cleanupExpired
    (store : SessionStore)
    {readings : String → Nat}
    {now : Nat}
    {id : String}
    (hLe : readings id ≤ now) :
    (store.cleanupExpired readings).live now id =
      store.live now id := by
  apply Option.ext
  intro entry
  rw [live_eq_some_iff, live_eq_some_iff]
  constructor
  · rintro ⟨hKept, hAge⟩
    exact ⟨(live_eq_some_iff.mp hKept).1, hAge⟩
  · rintro ⟨hEntry, hAge⟩
    have hKept : store.live (readings id) id = some entry :=
      live_eq_some_iff.mpr ⟨hEntry, by
        have : readings id - entry.created ≤
            now - entry.created := by omega
        omega⟩
    exact ⟨hKept, hAge⟩

end SessionStore

end Solvela

------------------------------------------------------------
-- Agreement From A Reading On
------------------------------------------------------------

namespace Solvela

/-
  The stores show the same live sessions at `clock` and at
  every later reading.
-/
structure AgreeFrom
    (clock : Nat)
    (s t : SessionStore) : Prop where
  ttl : s.ttl = t.ttl
  live : ∀ now id, clock ≤ now → s.live now id = t.live now id

namespace AgreeFrom

variable {clock : Nat}
variable {s t : SessionStore}

theorem later
    {clock' : Nat}
    (hAgree : AgreeFrom clock s t)
    (hLe : clock ≤ clock') :
    AgreeFrom clock' s t where
  ttl := hAgree.ttl
  live := by
    intro now id hNow
    exact hAgree.live now id (hLe.trans hNow)

theorem recordRequest
    (hAgree : AgreeFrom clock s t)
    (id : String)
    (hash : UInt64) :
    AgreeFrom clock (s.recordRequest id hash)
      (t.recordRequest id hash) where
  ttl := by
    rw [SessionStore.ttl_recordRequest,
      SessionStore.ttl_recordRequest, hAgree.ttl]
  live := by
    intro now id' hNow
    rw [SessionStore.live_recordRequest,
      SessionStore.live_recordRequest,
      hAgree.live now id' hNow]

theorem insert
    (hAgree : AgreeFrom clock s t)
    (id : String)
    (entry : SessionEntry) :
    AgreeFrom clock (s.insert id entry)
      (t.insert id entry) where
  ttl := hAgree.ttl
  live := by
    intro now id' hNow
    rw [SessionStore.live_insert, SessionStore.live_insert,
      hAgree.ttl, hAgree.live now id' hNow]

/- A cleanup before the readings still to come. -/
theorem cleanupExpired
    {readings : String → Nat}
    (hAgree : AgreeFrom clock s t)
    (hReadings : ∀ id, readings id ≤ clock) :
    AgreeFrom clock (s.cleanupExpired readings) t where
  ttl := hAgree.ttl
  live := by
    intro now id hNow
    rw [s.live_cleanupExpired ((hReadings id).trans hNow)]
    exact hAgree.live now id hNow

/- Stores that agree give a caller the same answer. -/
theorem getOrCreate
    {looked now : Nat}
    (hAgree : AgreeFrom clock s t)
    (hClock : clock ≤ looked)
    (hCheck : looked ≤ now)
    (created : Nat)
    (id model : String) :
    (s.getOrCreate looked now created id model).1 =
        (t.getOrCreate looked now created id model).1 ∧
      AgreeFrom clock
        (s.getOrCreate looked now created id model).2
        (t.getOrCreate looked now created id model).2 := by
  have hSame := hAgree.live looked id hClock
  cases hLive : t.live looked id with
  | some entry =>
      rw [hLive] at hSame
      rw [SessionStore.getOrCreate_of_live hSame,
        SessionStore.getOrCreate_of_live hLive]
      exact ⟨rfl, hAgree⟩
  | none =>
      rw [hLive] at hSame
      rw [SessionStore.getOrCreate_of_not_live hCheck hSame,
        SessionStore.getOrCreate_of_not_live hCheck hLive]
      exact ⟨rfl, hAgree.insert id _⟩

end AgreeFrom

end Solvela

------------------------------------------------------------
-- Calls And Results
------------------------------------------------------------

namespace Solvela

/- What a caller asks for, with the clock readings met. -/
inductive SessionCall where
  | getOrCreate
      (looked now created : Nat)
      (id model : String)
  | recordRequest
      (id : String)
      (hash : UInt64)

namespace SessionOp

/- The call of an operation; a cleanup is none. -/
def call : SessionOp → Option SessionCall
| .getOrCreate looked now created id model _ _ =>
    some (.getOrCreate looked now created id model)
| .recordRequest id hash => some (.recordRequest id hash)
| .cleanupExpired _ _ => none

/- The model and the flag that a call returned. -/
def result : SessionOp → Option SessionInfo
| .getOrCreate _ _ _ _ _ info _ => some info
| _ => none

end SessionOp

/- The calls of a sequence of operations, in order. -/
def callsOf
    (ops : List SessionOp) : List SessionCall :=
  ops.filterMap SessionOp.call

/- The results of its look-ups, in order. -/
def resultsOf
    (ops : List SessionOp) : List SessionInfo :=
  ops.filterMap SessionOp.result

/- The operations that are not cleanups. -/
def withoutCleanups
    (ops : List SessionOp) : List SessionOp :=
  ops.filter (fun op => op.call.isSome)

theorem map_call_withoutCleanups
    (ops : List SessionOp) :
    (withoutCleanups ops).map SessionOp.call =
      (callsOf ops).map some := by
  induction ops with
  | nil => rfl
  | cons op ops ih =>
      cases op with
      | getOrCreate looked now created id model info opened =>
          exact congrArg (List.cons _) ih
      | recordRequest id hash =>
          exact congrArg (List.cons _) ih
      | cleanupExpired readings now => exact ih

theorem resultsOf_withoutCleanups
    (ops : List SessionOp) :
    resultsOf (withoutCleanups ops) = resultsOf ops := by
  induction ops with
  | nil => rfl
  | cons op ops ih =>
      cases op with
      | getOrCreate looked now created id model info opened =>
          exact congrArg (List.cons info) ih
      | recordRequest id hash => exact ih
      | cleanupExpired readings now => exact ih

end Solvela

------------------------------------------------------------
-- Runs Without Cleanups
------------------------------------------------------------

namespace Solvela

open Transitions

/-
  The state `t` of a run without cleanups trails the state
  `s` of the run with them.
-/
structure Trails
    (s t : TimedSessions) : Prop where
  clock : t.clock ≤ s.clock
  agree : AgreeFrom s.clock s.store t.store

namespace Trails

variable {s t v : TimedSessions}

/- Both runs take a call together, with the same result. -/
theorem visible_step
    {op : SessionOp}
    (hTrails : Trails s t)
    (hCall : op.call.isSome = true)
    (hStep : SessionOpStep s op v) :
    ∃ w, SessionOpStep t op w ∧ Trails v w := by
  cases hStep with
  | @getOrCreate looked now created id model hClock hCheck
      hStamp =>
      rcases hTrails.agree.getOrCreate hClock hCheck created
          id model with ⟨hInfo, hAgree⟩
      have hFlag := hTrails.agree.live looked id hClock
      have hLater : s.clock ≤ created :=
        (hClock.trans hCheck).trans hStamp
      rw [hInfo, hFlag]
      refine ⟨_, .getOrCreate (hTrails.clock.trans hClock)
        hCheck hStamp, ?_⟩
      exact
        { clock := Nat.le_refl created
          agree := hAgree.later hLater }
  | @recordRequest id hash =>
      refine ⟨_, .recordRequest, ?_⟩
      exact
        { clock := hTrails.clock
          agree := hTrails.agree.recordRequest id hash }
  | cleanupExpired hReadings => cases hCall

/- The run without cleanups stands still at one. -/
theorem cleanup_step
    {op : SessionOp}
    (hTrails : Trails s t)
    (hCleanup : op.call.isSome = false)
    (hStep : SessionOpStep s op v) :
    Trails v t := by
  cases hStep with
  | getOrCreate hClock hCheck hStamp => cases hCleanup
  | recordRequest => cases hCleanup
  | @cleanupExpired readings now hReadings =>
      have hLater : s.clock ≤ now := by
        have := hReadings ""
        omega
      exact
        { clock := hTrails.clock.trans hLater
          agree :=
            (hTrails.agree.later hLater).cleanupExpired
              (fun id => (hReadings id).2) }

end Trails

/- A run without its cleanups is a run of the same calls. -/
theorem run_withoutCleanups
    {s u : TimedSessions}
    {ops : List SessionOp}
    (hRun : LabelledRun SessionOpStep s ops u) :
    ∃ v, LabelledRun SessionOpStep s
        (withoutCleanups ops) v ∧
      Trails u v := by
  apply hRun.filter Trails
  · exact
      { clock := Nat.le_refl s.clock
        agree := { ttl := rfl, live := fun _ _ _ => rfl } }
  · intro t op v t' hTrails hCall hStep
    exact hTrails.visible_step hCall hStep
  · intro t op v t' hTrails hCleanup hStep
    exact hTrails.cleanup_step hCleanup hStep

/- A call has one result and one effect. -/
theorem SessionOpStep.determined
    {s t t' : TimedSessions}
    {op op' : SessionOp}
    (hVisible : op.call.isSome = true)
    (hCall : op.call = op'.call)
    (hStep : SessionOpStep s op t)
    (hStep' : SessionOpStep s op' t') :
    op = op' ∧ t = t' := by
  cases hStep with
  | getOrCreate hClock hCheck hStamp =>
      cases hStep' with
      | getOrCreate hClock' hCheck' hStamp' =>
          injection hCall with hSame
          injection hSame with h₁ h₂ h₃ h₄ h₅
          subst h₁ h₂ h₃ h₄ h₅
          exact ⟨rfl, rfl⟩
      | recordRequest => cases hCall
      | cleanupExpired hReadings' => cases hCall
  | recordRequest =>
      cases hStep' with
      | getOrCreate hClock' hCheck' hStamp' => cases hCall
      | recordRequest =>
          injection hCall with hSame
          injection hSame with h₁ h₂
          subst h₁ h₂
          exact ⟨rfl, rfl⟩
      | cleanupExpired hReadings' => cases hCall
  | cleanupExpired hReadings => cases hVisible

/-
  Two runs from one state whose calls are the same have the
  same results, wherever and however often each of them
  cleans up.
-/
theorem cleanup_unobservable
    {s u u' : TimedSessions}
    {ops ops' : List SessionOp}
    (hRun : LabelledRun SessionOpStep s ops u)
    (hRun' : LabelledRun SessionOpStep s ops' u')
    (hCalls : callsOf ops = callsOf ops') :
    resultsOf ops = resultsOf ops' := by
  rcases run_withoutCleanups hRun with ⟨v, hBare, _⟩
  rcases run_withoutCleanups hRun' with ⟨v', hBare', _⟩
  have hInputs :
      (withoutCleanups ops).map SessionOp.call =
        (withoutCleanups ops').map SessionOp.call := by
    rw [map_call_withoutCleanups, map_call_withoutCleanups,
      hCalls]
  have hSame : withoutCleanups ops = withoutCleanups ops' := by
    apply hBare.eq_of_map_eq SessionOp.call hBare' hInputs
    intro w op op' x x' hMem hCall hStep hStep'
    have hVisible := (List.mem_filter.mp hMem).2
    exact hStep.determined hVisible hCall hStep'
  rw [← resultsOf_withoutCleanups ops, hSame,
    resultsOf_withoutCleanups]

/- An expired session that is cleaned up or not. -/
def lateCall
    (info told : SessionInfo) : List SessionOp :=
  [.getOrCreate 0 0 0 "sid" "small" info true,
    .recordRequest "sid" 7,
    .getOrCreate 10 10 10 "sid" "large" told true]

/- The same calls with a cleanup among them. -/
def lateCallCleaned
    (info told : SessionInfo) : List SessionOp :=
  [.getOrCreate 0 0 0 "sid" "small" info true,
    .cleanupExpired (fun _ => 10) 10,
    .recordRequest "sid" 7,
    .getOrCreate 10 10 10 "sid" "large" told true]

/- The late call is told the same in both runs. -/
theorem late_call_told_same :
    ∃ info told info' told' u u',
      LabelledRun SessionOpStep (TimedSessions.init 10 0)
          (lateCall info told) u ∧
        LabelledRun SessionOpStep (TimedSessions.init 10 0)
            (lateCallCleaned info' told') u' ∧
          resultsOf (lateCall info told) =
            resultsOf (lateCallCleaned info' told') := by
  have hRun :
      ∃ info told u,
        LabelledRun SessionOpStep (TimedSessions.init 10 0)
          (lateCall info told) u := by
    refine ⟨_, _, _, ⟨_, .getOrCreate (Nat.le_refl 0)
        (Nat.le_refl 0) (Nat.le_refl 0), _, .recordRequest, _,
      .getOrCreate (Nat.zero_le 10) (Nat.le_refl 10)
        (Nat.le_refl 10), rfl⟩⟩
  have hCleaned :
      ∃ info told u,
        LabelledRun SessionOpStep (TimedSessions.init 10 0)
          (lateCallCleaned info told) u := by
    refine ⟨_, _, _, ⟨_, .getOrCreate (Nat.le_refl 0)
        (Nat.le_refl 0) (Nat.le_refl 0), _,
      .cleanupExpired
        (fun _ => ⟨Nat.zero_le 10, Nat.le_refl 10⟩), _,
      .recordRequest, _,
      .getOrCreate (Nat.le_refl 10) (Nat.le_refl 10)
        (Nat.le_refl 10), rfl⟩⟩
  rcases hRun with ⟨info, told, u, hRun⟩
  rcases hCleaned with ⟨info', told', u', hCleaned⟩
  exact ⟨info, told, info', told', u, u', hRun, hCleaned,
    cleanup_unobservable hRun hCleaned rfl⟩

end Solvela
