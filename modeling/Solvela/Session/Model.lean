import Mathlib.Algebra.Group.Nat.Defs
import Solvela.Foundations.Delimited
import Solvela.Foundations.Windows
import Solvela.Protocol

/-
  The session store: the model a conversation sticks to, and
  the hashes of its recent requests.

  `getOrCreate` takes two locks in turn.  Its read-locked
  look-up and its write-locked re-check are separate steps,
  `lookup` and `recheckOrInsert`; the other operations hold
  the write lock throughout and are single steps.

  Key definitions include:
    * `SessionEntry`, `SessionStore`
    * `SessionStore.getOrCreate`
    * `SessionStore.recordRequest`
    * `SessionStore.cleanupExpired`
    * `SessionStore.deriveSessionId`

  Main declarations:
    * `SessionStore.live_eq_some_iff`
    * `SessionStore.getOrCreate_of_live`
    * `SessionStore.getOrCreate_of_not_live`
-/

------------------------------------------------------------
-- Session State
------------------------------------------------------------

namespace Solvela

/- How many hashes a session remembers. -/
def maxRecentHashes : Nat := 10

/- How many equal hashes escalate it. -/
def threeStrikeThreshold : Nat := 3

/- What a call is told of its session. -/
structure SessionInfo where
  model : String
  escalated : Bool
  deriving DecidableEq

/-
  A session.  The source counts its requests in 64 bits and
  the model in `Nat`: the two agree below `2 ^ 64` records.
-/
structure SessionEntry where
  model : String
  created : Nat
  requestCount : Nat
  recentHashes : List UInt64
  escalated : Bool
  deriving DecidableEq

namespace SessionEntry

/- What a caller is told about a session. -/
def info
    (entry : SessionEntry) : SessionInfo where
  model := entry.model
  escalated := entry.escalated

/- A session just created. -/
def fresh
    (created : Nat)
    (defaultModel : String) : SessionEntry where
  model := defaultModel
  created := created
  requestCount := 0
  recentHashes := []
  escalated := false

/-
  Record one request.  The flag is only looked for again
  while it is unset, and it is never cleared.
-/
def recordRequest
    (entry : SessionEntry)
    (requestHash : UInt64) : SessionEntry :=
  let recentHashes :=
    Windows.pushBounded maxRecentHashes entry.recentHashes
      requestHash
  { entry with
    requestCount := entry.requestCount + 1
    recentHashes := recentHashes
    escalated :=
      if entry.escalated then
        true
      else
        Windows.countLoop threeStrikeThreshold recentHashes
          (fun _ => 0) }

end SessionEntry

/- The sessions under their ids, and how long they live. -/
structure SessionStore where
  sessions : String → Option SessionEntry
  ttl : Nat

end Solvela

------------------------------------------------------------
-- Store Operations
------------------------------------------------------------

namespace Solvela

namespace SessionStore

/- No session is open yet. -/
def new
    (ttl : Nat) : SessionStore where
  sessions := fun _ => none
  ttl := ttl

/- The session under `id` if it is live at reading `now`. -/
def live
    (store : SessionStore)
    (now : Nat)
    (id : String) : Option SessionEntry :=
  (store.sessions id).filter
    (fun entry => decide (now - entry.created < store.ttl))

/- Replace the session under `id`. -/
def insert
    (store : SessionStore)
    (id : String)
    (entry : SessionEntry) : SessionStore :=
  { store with
    sessions := Function.update store.sessions id
      (some entry) }

/- The read-locked look-up. -/
def lookup
    (store : SessionStore)
    (now : Nat)
    (id : String) : Option SessionInfo :=
  (store.live now id).map SessionEntry.info

/-
  The write-locked step: look again at reading `now`, and
  create the session stamped at `created` if none is live.
-/
def recheckOrInsert
    (store : SessionStore)
    (now created : Nat)
    (id defaultModel : String) :
    SessionInfo × SessionStore :=
  match store.lookup now id with
  | some info => (info, store)
  | none =>
      ({ model := defaultModel, escalated := false },
        store.insert id (.fresh created defaultModel))

/-
  Both steps with nothing in between.  The readings are those
  of the look-up, of the re-check and of the new stamp.
-/
def getOrCreate
    (store : SessionStore)
    (looked now created : Nat)
    (id defaultModel : String) :
    SessionInfo × SessionStore :=
  match store.lookup looked id with
  | some info => (info, store)
  | none =>
      store.recheckOrInsert now created id defaultModel

/- Record a request; an absent session is left absent. -/
def recordRequest
    (store : SessionStore)
    (id : String)
    (requestHash : UInt64) : SessionStore :=
  match store.sessions id with
  | none => store
  | some entry =>
      store.insert id (entry.recordRequest requestHash)

/-
  Remove every session that is not live.  The age of each is
  read at a time of its own.
-/
def cleanupExpired
    (store : SessionStore)
    (readings : String → Nat) : SessionStore :=
  { store with
    sessions := fun id => store.live (readings id) id }

end SessionStore

end Solvela

------------------------------------------------------------
-- Look-Ups After Operations
------------------------------------------------------------

namespace Solvela

namespace SessionStore

@[simp] theorem sessions_insert_self
    (store : SessionStore)
    (id : String)
    (entry : SessionEntry) :
    (store.insert id entry).sessions id = some entry := by
  unfold insert
  exact Function.update_self id _ _

@[simp] theorem sessions_insert_of_ne
    (store : SessionStore)
    {id id' : String}
    (hNe : id' ≠ id)
    (entry : SessionEntry) :
    (store.insert id entry).sessions id' =
      store.sessions id' := by
  unfold insert
  exact Function.update_of_ne hNe _ _

/- Recording changes the one session, if it is there. -/
theorem sessions_recordRequest
    (store : SessionStore)
    (id id' : String)
    (requestHash : UInt64) :
    (store.recordRequest id requestHash).sessions id' =
      if id' = id then
        (store.sessions id).map
          (fun entry => entry.recordRequest requestHash)
      else
        store.sessions id' := by
  unfold recordRequest
  cases hEntry : store.sessions id with
  | none =>
      by_cases hEq : id' = id
      · rw [if_pos hEq, hEq, hEntry]
        rfl
      · rw [if_neg hEq]
  | some entry =>
      by_cases hEq : id' = id
      · rw [if_pos hEq, hEq]
        exact sessions_insert_self store id _
      · rw [if_neg hEq]
        exact sessions_insert_of_ne store hEq _

@[simp] theorem ttl_recordRequest
    (store : SessionStore)
    (id : String)
    (requestHash : UInt64) :
    (store.recordRequest id requestHash).ttl = store.ttl := by
  unfold recordRequest
  cases store.sessions id with
  | none => rfl
  | some entry => rfl

/- A live session is one younger than the lifetime. -/
theorem live_eq_some_iff
    {store : SessionStore}
    {now : Nat}
    {id : String}
    {entry : SessionEntry} :
    store.live now id = some entry ↔
      store.sessions id = some entry ∧
        now - entry.created < store.ttl := by
  unfold live
  rw [Option.filter_eq_some_iff, decide_eq_true_iff]

/- A session that is not live does not become live. -/
theorem live_eq_none_of_le
    {store : SessionStore}
    {looked now : Nat}
    {id : String}
    (hLe : looked ≤ now)
    (hNone : store.live looked id = none) :
    store.live now id = none := by
  apply Option.eq_none_iff_forall_ne_some.mpr
  intro entry hLive
  rcases live_eq_some_iff.mp hLive with ⟨hEntry, hAge⟩
  have hEarlier : store.live looked id = some entry :=
    live_eq_some_iff.mpr ⟨hEntry, by omega⟩
  rw [hNone] at hEarlier
  cases hEarlier

/- What is looked up is told about a live session. -/
theorem lookup_eq_some_iff
    {store : SessionStore}
    {now : Nat}
    {id : String}
    {info : SessionInfo} :
    store.lookup now id = some info ↔
      ∃ entry, store.live now id = some entry ∧
        entry.info = info := by
  unfold lookup
  exact Option.map_eq_some_iff

/- The re-check returns a live session as it is. -/
theorem recheckOrInsert_of_live
    {store : SessionStore}
    {now : Nat}
    {id : String}
    {entry : SessionEntry}
    (hLive : store.live now id = some entry)
    (created : Nat)
    (defaultModel : String) :
    store.recheckOrInsert now created id defaultModel =
      (entry.info, store) := by
  unfold recheckOrInsert lookup
  rw [hLive]
  rfl

/- Otherwise it creates one. -/
theorem recheckOrInsert_of_not_live
    {store : SessionStore}
    {now : Nat}
    {id : String}
    (hNone : store.live now id = none)
    (created : Nat)
    (defaultModel : String) :
    store.recheckOrInsert now created id defaultModel =
      ({ model := defaultModel, escalated := false },
        store.insert id
          (.fresh created defaultModel)) := by
  unfold recheckOrInsert lookup
  rw [hNone]
  rfl

/- With equal readings the look-up adds nothing. -/
theorem getOrCreate_self
    (store : SessionStore)
    (now created : Nat)
    (id defaultModel : String) :
    store.getOrCreate now now created id defaultModel =
      store.recheckOrInsert now created id defaultModel := by
  unfold getOrCreate recheckOrInsert
  cases store.lookup now id with
  | some info => rfl
  | none => rfl

/- A live session is returned as it is. -/
theorem getOrCreate_of_live
    {store : SessionStore}
    {looked : Nat}
    {id : String}
    {entry : SessionEntry}
    (hLive : store.live looked id = some entry)
    (now created : Nat)
    (defaultModel : String) :
    store.getOrCreate looked now created id defaultModel =
      (entry.info, store) := by
  unfold getOrCreate lookup
  rw [hLive]
  rfl

/- Without a live session one is created. -/
theorem getOrCreate_of_not_live
    {store : SessionStore}
    {looked now : Nat}
    {id : String}
    (hLe : looked ≤ now)
    (hNone : store.live looked id = none)
    (created : Nat)
    (defaultModel : String) :
    store.getOrCreate looked now created id defaultModel =
      ({ model := defaultModel, escalated := false },
        store.insert id
          (.fresh created defaultModel)) := by
  unfold getOrCreate lookup
  rw [hNone]
  exact recheckOrInsert_of_not_live
    (live_eq_none_of_le hLe hNone) created defaultModel

end SessionStore

end Solvela

------------------------------------------------------------
-- Session Identifiers
------------------------------------------------------------

namespace Solvela

/- One hexadecimal digit, in lower case. -/
def hexDigit
    (n : Nat) : Char :=
  if n < 10 then
    Char.ofNat ('0'.toNat + n)
  else
    Char.ofNat ('a'.toNat + (n - 10))

/- Sixteen hexadecimal digits, with leading zeros. -/
def hex16
    (n : UInt64) : String :=
  String.ofList ((List.range 16).map
    (fun i => hexDigit (n.toNat / 16 ^ (15 - i) % 16)))

namespace SessionStore

/- The hash of the first message's content names a session. -/
def deriveSessionId
    (defaultHasher : List UInt8 → UInt64)
    (messages : List ChatMessage) : String :=
  match messages with
  | [] => hex16 (defaultHasher [])
  | first :: _ =>
      hex16 (defaultHasher
        (Delimited.delimitedTexts [first.content]))

end SessionStore

end Solvela
