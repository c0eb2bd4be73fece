import Solvela.Client.Replay
import Solvela.Client.Routing
import Solvela.Session.History

/-
  Which answered calls a session counts.

  A call that misses the cache records its request when it is
  answered.  A call that is answered from the cache returns
  before that, so the session never hears of it.

  Main declarations:
    * `RecordedOnce`, `CallStep.recordedOnce_iff`
    * `answeredCalls`, `Recalls`
    * `recalls_of_run`
    * `calls_recorded`
    * `Steady.exists_unrecorded`
    * `hit_not_recorded`
-/

------------------------------------------------------------
-- One Call
------------------------------------------------------------

namespace Solvela

open Windows

variable {X : Crates}

/- The hash of what a call asked. -/
def ChatCall.contentHash
    (c : ChatCall X) : UInt64 :=
  SolvelaClient.hashRequestContent X c.request

/-
  After a call, its session counts one request more than on
  its arrival, and the hash of the call is the newest.
-/
def RecordedOnce
    (env : Env)
    (c : ChatCall X)
    (after : World X) : Prop :=
  ∃ store entry, after.sessionStore = some store ∧
    store.sessions c.sessionId = some entry ∧
      entry.requestCount =
          ((c.resumed env).elim 0
            SessionEntry.requestCount) + 1 ∧
        entry.recentHashes =
          pushBounded maxRecentHashes
            ((c.resumed env).elim []
              SessionEntry.recentHashes)
            c.contentHash

variable {client : SolvelaClient X}
variable {env : Env}
variable {before after : World X}
variable {c : ChatCall X}
variable {store looked : SessionStore}
variable {entry : SessionEntry}

/- The entry on arrival has the count and the hashes. -/
theorem ChatCall.Arrives.entry_eq
    (hArrives : c.Arrives client env store looked entry) :
    entry.requestCount =
        (c.resumed env).elim 0 SessionEntry.requestCount ∧
      entry.recentHashes =
        (c.resumed env).elim []
          SessionEntry.recentHashes := by
  rcases hArrives.resumed_or_fresh with
    ⟨hResumed, _⟩ | ⟨hNone, created, rfl⟩
  · rw [hResumed]
    exact ⟨rfl, rfl⟩
  · rw [hNone]
    exact ⟨rfl, rfl⟩

/- A chat call that missed the cache records its answer. -/
theorem CallStep.sessionStore_of_recorded
    (hStep : CallStep client env before c after)
    (hChat : c.streaming = false)
    (hMissed :
      client.cachedAnswer env c.request c.start = none)
    (hAnswer : c.answer.isSome)
    (hSid :
      (client.sessionStep env c.given c.start).1.2 =
        some c.sessionId)
    (hLooked :
      (client.sessionStep env c.given
        c.start).2.sessionStore = some looked) :
    after.sessionStore =
      some (looked.recordRequest c.sessionId
        c.contentHash) := by
  cases hStep with
  | stream _ _ _ => cases hChat
  | @chat start _ req sent r _ hRun _ =>
      cases r with
      | error err => cases hAnswer
      | ok response =>
          rw [SolvelaClient.chat_sessionStore_of_recorded hRun
            hMissed hSid hLooked]
          have hHash :
              SolvelaClient.hashRequestContent X
                  (client.effectiveRequest env req start) =
                SolvelaClient.hashRequestContent X req := by
            apply SolvelaClient.hashRequestContent_congr
            exact SolvelaClient.sessionStep_messages client env
              _ start
          rw [hHash]
          rfl

/- Any other chat call records nothing. -/
theorem CallStep.sessionStore_of_unrecorded
    (hStep : CallStep client env before c after)
    (hChat : c.streaming = false)
    (hUnrecorded :
      client.cachedAnswer env c.request c.start ≠ none ∨
        c.answer = none) :
    after.sessionStore =
      (client.sessionStep env c.given
        c.start).2.sessionStore := by
  cases hStep with
  | stream _ _ _ => cases hChat
  | @chat start _ req sent r _ hRun _ =>
      apply SolvelaClient.chat_sessionStore_of_unrecorded hRun
      apply hUnrecorded.imp_right
      intro hNone
      cases r with
      | error err => exact ⟨err, rfl⟩
      | ok response => cases hNone

/-
  An answered call is recorded once exactly when it was not
  answered from the cache.
-/
theorem CallStep.recordedOnce_iff
    (hStep : CallStep client env before c after)
    (hStore : before.sessionStore = some store)
    (hChat : c.streaming = false)
    (hAnswer : c.answer.isSome) :
    RecordedOnce env c after ↔
      client.cachedAnswer env c.request c.start = none := by
  have hStart : c.start.sessionStore = some store :=
    hStep.between.sessionStore.trans hStore
  rcases exists_arrival client hStart with
    ⟨hSid, looked, entry, hLooked, hArrives⟩
  rcases hArrives.entry_eq with ⟨hCount, hHashes⟩
  constructor
  · intro hRecorded
    by_contra hHit
    rcases hRecorded with
      ⟨store', entry', hAfter, hEntry, hMore, _⟩
    rw [hStep.sessionStore_of_unrecorded hChat (Or.inl hHit),
      hLooked] at hAfter
    cases hAfter
    rw [hArrives.found] at hEntry
    cases hEntry
    omega
  · intro hMissed
    have hAfter := hStep.sessionStore_of_recorded hChat hMissed
      hAnswer hSid hLooked
    refine ⟨_, entry.recordRequest c.contentHash, hAfter, ?_,
      ?_, ?_⟩
    · rw [SessionStore.sessions_recordRequest, if_pos rfl,
        hArrives.found]
      rfl
    · rw [← hCount]
      rfl
    · rw [← hHashes]
      rfl

end Solvela

------------------------------------------------------------
-- Runs
------------------------------------------------------------

namespace Solvela

open Effects Transitions Windows

variable {X : Crates}
variable {client : SolvelaClient X}
variable {env : Env}

/- The answered calls of the current session, in order. -/
def answeredCalls
    (env : Env)
    (sid : String)
    (calls : List (ChatCall X)) : List (ChatCall X) :=
  (currentSession env sid calls).filter
    (fun c => c.answer.isSome)

/-
  An id without a session has no calls; a session sums up its
  answered calls.
-/
def RecallsSession
    (env : Env)
    (past : List (ChatCall X))
    (sid : String)
    (found : Option SessionEntry) : Prop :=
  (found = none ∧ currentSession env sid past = []) ∨
    ∃ entry, found = some entry ∧
      Summarises
        ((answeredCalls env sid past).map
          ChatCall.contentHash)
        entry

/- All sessions sum up the calls that belong to them. -/
def Recalls
    (env : Env)
    (past : List (ChatCall X))
    (world : World X) : Prop :=
  ∃ store, world.sessionStore = some store ∧
    ∀ sid, RecallsSession env past sid (store.sessions sid)

theorem recalls_new
    {config : ClientConfig}
    (hSessions : config.enableSessions = true)
    (now : Nat) :
    Recalls env [] (World.new (X := X) config now) := by
  refine ⟨_, World.sessionStore_new hSessions now, ?_⟩
  intro sid
  exact Or.inl ⟨rfl, rfl⟩

/- On arrival the session sums up what the call joins. -/
theorem RecallsSession.arrival
    {past : List (ChatCall X)}
    {c : ChatCall X}
    {store looked : SessionStore}
    {entry : SessionEntry}
    (hRecalls :
      RecallsSession env past c.sessionId
        (store.sessions c.sessionId))
    (hArrives : c.Arrives client env store looked entry) :
    ∃ earlier : List (ChatCall X),
      currentSession env c.sessionId (past ++ [c]) =
          earlier ++ [c] ∧
        Summarises
          ((earlier.filter (fun c => c.answer.isSome)).map
            ChatCall.contentHash)
          entry := by
  rw [currentSession_snoc]
  unfold ChatCall.join
  rw [if_pos rfl]
  rcases hArrives.resumed_or_fresh with
    ⟨hResumed, hFound⟩ | ⟨hNone, created, rfl⟩
  · rw [hResumed]
    refine ⟨_, rfl, ?_⟩
    rcases hRecalls with
      ⟨hAbsent, _⟩ | ⟨old, hOld, hSummary⟩
    · rw [hAbsent] at hFound
      cases hFound
    · rw [hFound] at hOld
      cases hOld
      exact hSummary
  · rw [hNone]
    exact ⟨[], rfl, summarises_fresh created _⟩

/- A chat call that misses the cache keeps this. -/
theorem Recalls.step
    {past : List (ChatCall X)}
    {before after : World X}
    {c : ChatCall X}
    (hRecalls : Recalls env past before)
    (hStep : CallStep client env before c after)
    (hChat : c.streaming = false)
    (hMissed :
      client.cachedAnswer env c.request c.start = none) :
    Recalls env (past ++ [c]) after := by
  rcases hRecalls with ⟨store, hStore, hEntries⟩
  have hStart : c.start.sessionStore = some store :=
    hStep.between.sessionStore.trans hStore
  rcases exists_arrival client hStart with
    ⟨hSid, looked, entry, hLooked, hArrives⟩
  rcases (hEntries c.sessionId).arrival hArrives with
    ⟨earlier, hMembers, hSummary⟩
  have hOther :
      ∀ sid, sid ≠ c.sessionId →
        RecallsSession env (past ++ [c]) sid
          (looked.sessions sid) := by
    intro sid hNe
    unfold RecallsSession answeredCalls
    rw [hArrives.others sid hNe,
      currentSession_of_ne (Ne.symm hNe)]
    exact hEntries sid
  by_cases hAnswer : c.answer.isSome
  · refine ⟨_, hStep.sessionStore_of_recorded hChat hMissed
      hAnswer hSid hLooked, ?_⟩
    intro sid
    rw [SessionStore.sessions_recordRequest]
    by_cases hEq : sid = c.sessionId
    · subst hEq
      rw [if_pos rfl, hArrives.found]
      refine Or.inr ⟨_, rfl, ?_⟩
      unfold answeredCalls
      have hKept :
          [c].filter (fun c => c.answer.isSome) = [c] :=
        List.filter_cons_of_pos hAnswer
      rw [hMembers, List.filter_append, hKept,
        List.map_append]
      exact hSummary.record c.contentHash
    · rw [if_neg hEq]
      exact hOther sid hEq
  · refine ⟨looked, ?_, ?_⟩
    · rw [hStep.sessionStore_of_unrecorded hChat
        (Or.inr (by simpa using hAnswer))]
      exact hLooked
    · intro sid
      by_cases hEq : sid = c.sessionId
      · subst hEq
        refine Or.inr ⟨entry, hArrives.found, ?_⟩
        unfold answeredCalls
        have hDropped :
            [c].filter (fun c => c.answer.isSome) = [] :=
          List.filter_cons_of_neg hAnswer
        rw [hMembers, List.filter_append, hDropped,
          List.append_nil]
        exact hSummary
      · exact hOther sid hEq

/- So do runs of such calls. -/
theorem recalls_of_run
    (hSessions : client.config.enableSessions = true)
    {now : Nat}
    {calls : List (ChatCall X)}
    {world : World X}
    (hRun :
      LabelledRun (CallStep client env)
        (World.new client.config now) calls world)
    (hChat : ∀ c ∈ calls, c.streaming = false)
    (hMissed : ∀ c ∈ calls,
      client.cachedAnswer env c.request c.start = none) :
    Recalls env calls world := by
  have hKept :=
    hRun.invariant
      (fun past w =>
        (∀ c ∈ past, c.streaming = false ∧
          client.cachedAnswer env c.request c.start = none) →
            Recalls env past w)
      (fun _ => recalls_new hSessions now)
      (by
        intro past t c v _ hPast hStep hAll
        rcases List.forall_mem_append.mp hAll with
          ⟨hBefore, hLast⟩
        rcases hLast c (List.mem_singleton.mpr rfl) with
          ⟨hKind, hNone⟩
        exact (hPast hBefore).step hStep hKind hNone)
  exact hKept (fun c hMem => ⟨hChat c hMem, hMissed c hMem⟩)

/-
  In every run of chat calls that find no answer in the
  cache, each answered call is recorded once, and three
  answers to the same messages among ten consecutive answered
  calls of a session leave it escalated.
-/
theorem calls_recorded
    (client : SolvelaClient X)
    (hSessions : client.config.enableSessions = true)
    (env : Env)
    (now : Nat)
    (calls : List (ChatCall X))
    (world : World X)
    (hRun :
      LabelledRun (CallStep client env)
        (World.new client.config now) calls world)
    (hChat : ∀ c ∈ calls, c.streaming = false)
    (hMissed : ∀ c ∈ calls,
      client.cachedAnswer env c.request c.start = none) :
    (∀ past c rest, calls = past ++ c :: rest →
      c.answer.isSome →
        ∃ before after,
          LabelledRun (CallStep client env)
              (World.new client.config now) past before ∧
            CallStep client env before c after ∧
              LabelledRun (CallStep client env) after rest
                  world ∧
                RecordedOnce env c after) ∧
    ∃ store, world.sessionStore = some store ∧
      ∀ sid (i j k : Nat) a b c, i < j → j < k → k - i ≤ 9 →
        (answeredCalls env sid calls)[i]? = some a →
          (answeredCalls env sid calls)[j]? = some b →
            (answeredCalls env sid calls)[k]? = some c →
              a.request.messages = b.request.messages →
                a.request.messages = c.request.messages →
                  ∃ entry, store.sessions sid = some entry ∧
                    entry.escalated = true := by
  constructor
  · rintro past c rest rfl hAnswer
    rcases labelledRun_append.mp hRun with
      ⟨before, hPast, after, hStep, hRest⟩
    refine ⟨before, after, hPast, hStep, hRest, ?_⟩
    have hBefore : Recalls env past before :=
      recalls_of_run hSessions hPast
        (fun c hMem => hChat c (List.mem_append_left _ hMem))
        (fun c hMem => hMissed c (List.mem_append_left _ hMem))
    rcases hBefore with ⟨store, hStore, _⟩
    have hMem : c ∈ past ++ c :: rest := by
      simp
    exact (hStep.recordedOnce_iff hStore (hChat c hMem)
      hAnswer).mpr (hMissed c hMem)
  · rcases recalls_of_run hSessions hRun hChat hMissed with
      ⟨store, hStore, hEntries⟩
    refine ⟨store, hStore, ?_⟩
    intro sid i j k a b c hij hjk hSpan ha hb hc hab hac
    rcases hEntries sid with
      ⟨_, hNone⟩ | ⟨entry, hEntry, hSummary⟩
    · unfold answeredCalls at ha
      rw [hNone] at ha
      cases ha
    · refine ⟨entry, hEntry, hSummary.escalated.mpr ?_⟩
      apply clusters_three_iff.mpr
      refine ⟨i, j, k, hij, hjk, hSpan, a.contentHash, ?_, ?_,
        ?_⟩
      · rw [List.getElem?_map, ha]
        rfl
      · rw [List.getElem?_map, hb]
        exact congrArg some
          (SolvelaClient.hashRequestContent_congr hab.symm)
      · rw [List.getElem?_map, hc]
        exact congrArg some
          (SolvelaClient.hashRequestContent_congr hac.symm)

/- Sessions are on, and the cache is not. -/
def sessionsConfig : ClientConfig :=
  { ClientConfig.default with enableSessions := true }

/- A chat call, as it runs from a world. -/
def chatCallFrom
    (client : SolvelaClient X)
    (env : Env)
    (req : ChatRequest)
    (world : World X) : ChatCall X where
  streaming := false
  request := req
  start := world
  sent :=
    (final (client.chat env req) world).trace.drop
      world.trace.length
  answer := (outcome (client.chat env req) world).toOption
  ended := (final (client.chat env req) world).now

theorem callStep_chatCallFrom
    (client : SolvelaClient X)
    (env : Env)
    (req : ChatRequest)
    (world : World X) :
    CallStep client env world
      (chatCallFrom client env req world)
      (final (client.chat env req) world) := by
  have hRun := runs_outcome (client.chat env req) world
  have hSent :
      ∃ es, (final (client.chat env req) world).trace =
        world.trace ++ es := by
    rcases SolvelaClient.chat_trace hRun with
      hSame | ⟨es, hTrace, _⟩
    · exact ⟨[], by rw [hSame, List.append_nil]⟩
    · exact ⟨es, hTrace⟩
  rcases hSent with ⟨es, hTrace⟩
  apply CallStep.chat (Between.refl world) hRun
  rw [hTrace, List.drop_left]

/- The same request again and again. -/
def repeatedCalls
    (client : SolvelaClient X)
    (env : Env)
    (req : ChatRequest) :
    Nat → World X → List (ChatCall X)
| 0, _ => []
| n + 1, world =>
    chatCallFrom client env req world ::
      repeatedCalls client env req n
        (final (client.chat env req) world)

theorem request_of_mem_repeatedCalls
    {client : SolvelaClient X}
    {env : Env}
    {req : ChatRequest}
    {n : Nat}
    {world : World X}
    {c : ChatCall X}
    (hMem : c ∈ repeatedCalls client env req n world) :
    c.request = req := by
  induction n generalizing world with
  | zero => cases hMem
  | succ n ih =>
      rcases List.mem_cons.mp hMem with rfl | hLater
      · rfl
      · exact ih hLater

theorem exists_repeatedRun
    (client : SolvelaClient X)
    (env : Env)
    (req : ChatRequest)
    (n : Nat)
    (world : World X) :
    ∃ world',
      LabelledRun (CallStep client env) world
        (repeatedCalls client env req n world) world' := by
  induction n generalizing world with
  | zero => exact ⟨world, rfl⟩
  | succ n ih =>
      rcases ih (final (client.chat env req) world) with
        ⟨world', hRest⟩
      exact ⟨world', _,
        callStep_chatCallFrom client env req world, hRest⟩

/- Three answers among them are answers to one request. -/
theorem exists_three_answered
    {client : SolvelaClient X}
    {env : Env}
    {req : ChatRequest}
    {n : Nat}
    {world : World X}
    {sid : String}
    (hLength :
      (answeredCalls env sid
          (repeatedCalls client env req n world)).length =
        3) :
    ∃ a b c,
      answeredCalls env sid
            (repeatedCalls client env req n world) =
          [a, b, c] ∧
        a.request = req ∧ b.request = req ∧
          c.request = req := by
  rcases List.length_eq_three.mp hLength with
    ⟨a, b, c, hThree⟩
  have hSame : ∀ x ∈ [a, b, c], x.request = req := by
    intro x hMem
    rw [← hThree] at hMem
    exact request_of_mem_repeatedCalls
      (currentSession_subset env sid _
        (List.mem_of_mem_filter hMem))
  exact ⟨a, b, c, hThree, hSame a (by simp),
    hSame b (by simp), hSame c (by simp)⟩

/- A gateway that answers for free. -/
def answeringEnv : Env :=
  steadyEnv (.ok (responseOf 200 "answer"))

/-
  Three answers to one request are recorded, and the session
  is escalated.
-/
theorem calls_recorded_once :
    ∃ calls world store entry,
      LabelledRun
          (CallStep (sampleClient sessionsConfig) answeringEnv)
          (World.new sessionsConfig 0) calls world ∧
        calls.map (fun c => c.request) =
            [sampleRequest, sampleRequest, sampleRequest] ∧
          (∀ past c rest, calls = past ++ c :: rest →
            c.answer.isSome ∧
              ∃ before after,
                LabelledRun
                    (CallStep (sampleClient sessionsConfig)
                      answeringEnv)
                    (World.new sessionsConfig 0) past
                    before ∧
                  CallStep (sampleClient sessionsConfig)
                      answeringEnv before c after ∧
                    RecordedOnce answeringEnv c after) ∧
            world.sessionStore = some store ∧
              store.sessions
                  (SolvelaClient.sessionIdOf sampleCrates
                    sampleRequest.messages) =
                some entry ∧ entry.escalated = true := by
  have hFrom :
      ∀ (client : SolvelaClient sampleCrates) (sid : String)
        (calls : List (ChatCall sampleCrates)),
        client.config.enableSessions = true →
          calls =
              repeatedCalls client answeringEnv sampleRequest
                3 (World.new client.config 0) →
            calls.all (fun c =>
                !c.streaming && c.answer.isSome &&
                  (client.cachedAnswer answeringEnv c.request
                    c.start).isNone) = true →
              (answeredCalls answeringEnv sid calls).length =
                  3 →
                ∃ world store entry,
                  LabelledRun (CallStep client answeringEnv)
                      (World.new client.config 0) calls
                      world ∧
                    (∀ past c rest, calls = past ++ c :: rest →
                      c.answer.isSome ∧
                        ∃ before after,
                          LabelledRun
                              (CallStep client answeringEnv)
                              (World.new client.config 0) past
                              before ∧
                            CallStep client answeringEnv before
                                c after ∧
                              RecordedOnce answeringEnv c
                                after) ∧
                      world.sessionStore = some store ∧
                        store.sessions sid = some entry ∧
                          entry.escalated = true := by
    intro client sid calls hSessions hCalls hGood hLength
    rcases exists_repeatedRun client answeringEnv
        sampleRequest 3 (World.new client.config 0) with
      ⟨world, hRun⟩
    rw [← hCalls] at hRun
    simp only [List.all_eq_true, Bool.and_eq_true,
      Bool.not_eq_true', Option.isNone_iff_eq_none] at hGood
    rcases calls_recorded client hSessions answeringEnv 0
        calls world hRun (fun c hMem => (hGood c hMem).1.1)
        (fun c hMem => (hGood c hMem).2) with
      ⟨hOnce, store, hStore, hStrikes⟩
    rw [hCalls] at hLength
    rcases exists_three_answered hLength with
      ⟨a, b, c, hThree, hFirst, hSecond, hThird⟩
    rw [← hCalls] at hThree
    rcases hStrikes sid 0 1 2 a b c (by omega) (by omega)
        (by omega) (by rw [hThree]; rfl) (by rw [hThree]; rfl)
        (by rw [hThree]; rfl) (by rw [hFirst, hSecond])
        (by rw [hFirst, hThird]) with
      ⟨entry, hEntry, hEscalated⟩
    refine ⟨world, store, entry, hRun, ?_, hStore, hEntry,
      hEscalated⟩
    intro past call rest hSplit
    have hAnswered : call.answer.isSome :=
      (hGood call (by rw [hSplit]; simp)).1.2
    rcases hOnce past call rest hSplit hAnswered with
      ⟨before, after, hPast, hStep, _, hRecorded⟩
    exact ⟨hAnswered, before, after, hPast, hStep, hRecorded⟩
  rcases hFrom (sampleClient sessionsConfig)
      (SolvelaClient.sessionIdOf sampleCrates
        sampleRequest.messages) _ rfl rfl
      (by decide +kernel) (by decide +kernel) with
    ⟨world, store, entry, hRun, hEach, hFound⟩
  exact ⟨_, world, store, entry, hRun, rfl, hEach, hFound⟩

end Solvela

------------------------------------------------------------
-- A Repeated Call
------------------------------------------------------------

namespace Solvela

open Effects Transitions

variable {X : Crates}
variable {client : SolvelaClient X}
variable {env : Env}

/- An answer without an exchange was a cached one. -/
theorem CallStep.cachedAnswer_of_hit
    {before after : World X}
    {c : ChatCall X}
    {response : ChatResponse}
    (hStep : CallStep client env before c after)
    (hSent : c.sent = [])
    (hAnswer : c.answer = some response) :
    client.cachedAnswer env c.request c.start =
      some response := by
  cases hStep with
  | stream _ _ _ => cases hAnswer
  | @chat start _ req sent r _ hRun hTrace =>
      cases r with
      | error err => cases hAnswer
      | ok found =>
          cases hAnswer
          rcases SolvelaClient.runs_chat.mp hRun with
            ⟨cached, hCached, hSame, _⟩ |
              ⟨_, spoken, hSpeak, rfl⟩
          · cases hSame
            exact hCached
          · rcases SolvelaClient.converse_spec hSpeak with
              ⟨es, rfl, hTalk⟩
            rw [Demand.finish_extend_trace] at hTrace
            cases List.append_cancel_left hTrace
            rcases hTalk.gave with ⟨e, hMem, _⟩
            have hNone : sent = [] := hSent
            rw [hNone] at hMem
            cases hMem

/- A session opened for a model keeps a request for it. -/
theorem ChatCall.effective_of_kept
    (client : SolvelaClient X)
    (env : Env)
    (hFallback : client.config.freeFallbackModel = none)
    {c : ChatCall X}
    {store : SessionStore}
    (hStore : c.start.sessionStore = some store)
    (hModel : ∀ entry,
      store.sessions c.sessionId = some entry →
        entry.model = c.request.model) :
    (c.effective client env).model = c.request.model ∧
      (c.effective client env).messages =
        c.request.messages := by
  have hGuarded : c.guarded client = (c.given, false) :=
    SolvelaClient.balanceGuard_of_no_fallback hFallback _ _
  constructor
  · unfold ChatCall.effective
    cases hResumed : c.resumed env with
    | some entry =>
        have hFound :
            store.sessions c.sessionId = some entry := by
          have hLive := hResumed
          unfold ChatCall.resumed at hLive
          rw [hStore] at hLive
          exact (SessionStore.live_eq_some_iff.mp hLive).1
        rw [(sessionStep_of_resumed client hStore hResumed).1,
          hGuarded]
        exact hModel entry hFound
    | none =>
        rw [(sessionStep_of_not_resumed client hStore
          hResumed).1, hGuarded]
        exact c.given_model
  · unfold ChatCall.effective
    rw [SolvelaClient.sessionStep_messages]
    exact c.given_messages

/-
  A client with new sessions finds the first question under
  the key that it was stored under, if it is asked again.
-/
theorem CallStep.repeated_key
    {client : SolvelaClient X}
    {env : Env}
    {start mid : World X}
    {first : ChatCall X}
    {ttl : Nat}
    (hFirst : CallStep client env start first mid)
    (hFallback : client.config.freeFallbackModel = none)
    (hStart : start.sessionStore = some (SessionStore.new ttl))
    (hBegin : first.start = start)
    (hChat : first.streaming = false) :
    SolvelaClient.requestKey X
        (client.effectiveRequest env first.request mid) =
      first.cacheKey client env := by
  rcases hFirst.entry_model hStart with
    ⟨store, hStore, hModels⟩
  let again : ChatCall X := { first with start := mid }
  have hModel : ∀ entry,
      store.sessions again.sessionId = some entry →
        entry.model = again.request.model := by
    intro entry hEntry
    rcases hModels _ entry hEntry with
      ⟨hNe, _⟩ | ⟨_, old, _, hOld, _⟩ | ⟨_, _, hModel⟩
    · exact absurd rfl hNe
    · cases hOld
    · rw [hModel]
      unfold ChatCall.guarded
      rw [SolvelaClient.balanceGuard_of_no_fallback hFallback]
      exact first.given_model
  have hBefore :=
    ChatCall.effective_of_kept client env hFallback
      (c := first) (by rw [hBegin]; exact hStart)
      (by intro entry hNo; cases hNo)
  have hAgain :=
    ChatCall.effective_of_kept client env hFallback
      (c := again) hStore hModel
  have hEffective :
      client.effectiveRequest env first.request mid =
        again.effective client env := by
    unfold ChatCall.effective ChatCall.given
    rw [if_neg (by simp [again, hChat])]
    rfl
  rw [hEffective]
  unfold ChatCall.cacheKey SolvelaClient.requestKey
  rw [hBefore.1, hBefore.2, hAgain.1, hAgain.2]

/-
  With the cache on, a repeated call is answered, and its
  session does not count it.
-/
theorem Steady.exists_unrecorded
    {response : ChatResponse}
    (hSteady : Steady X env response)
    (laws : X.lru.Laws)
    (client : SolvelaClient X)
    (hCache : client.config.enableCache = true)
    (hSessions : client.config.enableSessions = true)
    (hFallback : client.config.freeFallbackModel = none)
    {limit : Nat}
    (hQuick : ∀ n, env.delay n ≤ limit)
    (hLimit :
      4 * limit ≤
        durationFromSecs ResponseCache.defaultTtlSecs)
    (now : Nat)
    (req : ChatRequest) :
    ∃ first second world,
      LabelledRun (CallStep client env)
          (World.new client.config now) [first, second]
          world ∧
        first.streaming = false ∧
          second.streaming = false ∧
            second.request = first.request ∧
              second.answer = some response ∧
                ¬ RecordedOnce env second world := by
  let start := World.new (X := X) client.config now
  have hStart :
      start.sessionStore =
        some (SessionStore.new client.config.sessionTtl) :=
    World.sessionStore_new hSessions now
  rcases hSteady.exists_step client req start
      (cachedAnswer_new laws hCache now req) with
    ⟨first, mid, hFirst, rfl, hChat, hBegin, hSent, hFound⟩
  rcases hFirst.entry_model hStart with ⟨store, hStore, _⟩
  have hKey :=
    hFirst.repeated_key hFallback hStart hBegin hChat
  rcases exists_repeatStep laws hFirst
      (World.cache_new hCache now) hSent hFound hQuick hLimit
      hKey with
    ⟨second, hSecond, hRequest, hChat', _, hNone, hAnswer⟩
  refine ⟨first, second, _, ⟨mid, hFirst, _, hSecond, rfl⟩,
    hChat, hChat', hRequest, hAnswer, ?_⟩
  intro hRecorded
  have hMissed :=
    (hSecond.recordedOnce_iff hStore hChat'
      (by rw [hAnswer]; rfl)).mp hRecorded
  rw [hSecond.cachedAnswer_of_hit hNone hAnswer] at hMissed
  cases hMissed

/- The cache and the sessions are both on. -/
def recordedConfig : ClientConfig :=
  { cachedConfig with enableSessions := true }

/- The second of two equal calls is not counted. -/
theorem hit_not_recorded :
    ∃ first second world,
      LabelledRun
          (CallStep (sampleClient recordedConfig)
            (steadyEnv (.ok (responseOf 200 "answer"))))
          (World.new recordedConfig 0) [first, second]
          world ∧
        first.streaming = false ∧
          second.streaming = false ∧
            second.answer =
              some (Sample.emptyResponse "answer") ∧
              ¬ RecordedOnce
                (steadyEnv (.ok (responseOf 200 "answer")))
                second world := by
  have hSteady :
      Steady sampleCrates
        (steadyEnv (.ok (responseOf 200 "answer")))
        (Sample.emptyResponse "answer") :=
    ⟨"answer", rfl, fun _ _ => rfl⟩
  rcases hSteady.exists_unrecorded Recency.RecencyList.laws
      (sampleClient recordedConfig) rfl rfl rfl
      (fun _ => Nat.le_refl 1) (by decide) 0 sampleRequest with
    ⟨first, second, world, hRun, hFirst, hSecond, _, hAnswer,
      hLost⟩
  exact ⟨first, second, world, hRun, hFirst, hSecond, hAnswer,
    hLost⟩

end Solvela
