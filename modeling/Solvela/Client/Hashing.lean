import Mathlib.Data.List.Forall2
import Solvela.Cache.Operations
import Solvela.Client.Model
import Solvela.Crates.Sample

/-
  What the two hashed streams determine.

  A stream is a sequence of texts, each ended by the byte
  0xFF, so the hasher is fed different bytes for different
  models, roles or contents: text cannot move from one string
  or message to the next.

  Main declarations:
    * `ResponseCache.cacheKeyStream_eq_iff`
    * `SolvelaClient.hashRequestStream_eq_iff`
    * `hashed_streams_eq_iff`
-/

------------------------------------------------------------
-- The Stream Of A Cache Key
------------------------------------------------------------

namespace Solvela

namespace ResponseCache

/- Messages alike in role and content feed the same bytes. -/
theorem cacheKeyStream_congr
    (roleToString : Role → String)
    (model : String)
    {messages messages' : List ChatMessage}
    (hSame : List.Forall₂ SameMessage messages messages') :
    cacheKeyStream roleToString model messages =
      cacheKeyStream roleToString model messages' := by
  have hTexts :
      messages.flatMap
          (fun msg => [roleToString msg.role, msg.content]) =
        messages'.flatMap
          (fun msg =>
            [roleToString msg.role, msg.content]) := by
    induction hSame with
    | nil => rfl
    | cons hMessage hRest ih =>
        rw [List.flatMap_cons, List.flatMap_cons, ih,
          hMessage.role, hMessage.content]
  unfold cacheKeyStream
  rw [hTexts]

theorem cacheKeyStream_eq_iff
    {roleToString : Role → String}
    (hRoles : Function.Injective roleToString)
    {model model' : String}
    {messages messages' : List ChatMessage} :
    cacheKeyStream roleToString model messages =
        cacheKeyStream roleToString model' messages' ↔
      model = model' ∧
        List.Forall₂ SameMessage messages messages' := by
  constructor
  · exact cacheKeyStream_injective hRoles
  · rintro ⟨rfl, hSame⟩
    exact cacheKeyStream_congr roleToString model hSame

end ResponseCache

end Solvela

------------------------------------------------------------
-- The Stream Of A Request
------------------------------------------------------------

namespace Solvela

namespace SolvelaClient

/- The bytes that `hashRequestContent` feeds to its hasher. -/
def hashRequestStream
    (req : ChatRequest) : List UInt8 :=
  Delimited.delimitedTexts
    (req.messages.map ChatMessage.content)

theorem hashRequestStream_eq_iff
    {req req' : ChatRequest} :
    hashRequestStream req = hashRequestStream req' ↔
      req.messages.map ChatMessage.content =
        req'.messages.map ChatMessage.content := by
  constructor
  · exact Delimited.delimitedTexts_injective
  · intro hContents
    unfold hashRequestStream
    rw [hContents]

end SolvelaClient

end Solvela

------------------------------------------------------------
-- Unique Decoding Of Both Streams
------------------------------------------------------------

namespace Solvela

variable {X : Crates}

/-
  Both keys are hashes of their streams.  Two streams of
  cache keys are equal for equal models and equal roles and
  contents at every index, two streams of requests for equal
  contents, and in no other case.
-/
theorem hashed_streams_eq_iff
    (hRoles : Function.Injective X.roleToString)
    (model model' : String)
    (messages messages' : List ChatMessage)
    (req req' : ChatRequest) :
    (ResponseCache.cacheKey X.aHasher X.roleToString model
        messages =
      X.aHasher
        (ResponseCache.cacheKeyStream X.roleToString model
          messages)) ∧
    (SolvelaClient.hashRequestContent X req =
      X.aHasher (SolvelaClient.hashRequestStream req)) ∧
    (ResponseCache.cacheKeyStream X.roleToString model
          messages =
        ResponseCache.cacheKeyStream X.roleToString model'
          messages' ↔
      model = model' ∧
        messages.length = messages'.length ∧
        ∀ i (h : i < messages.length)
          (h' : i < messages'.length),
            messages[i].role = messages'[i].role ∧
              messages[i].content = messages'[i].content) ∧
    (SolvelaClient.hashRequestStream req =
        SolvelaClient.hashRequestStream req' ↔
      req.messages.map ChatMessage.content =
        req'.messages.map ChatMessage.content) := by
  refine ⟨rfl, rfl, ?_,
    SolvelaClient.hashRequestStream_eq_iff⟩
  rw [ResponseCache.cacheKeyStream_eq_iff hRoles,
    List.forall₂_iff_get]
  constructor
  · rintro ⟨hModel, hLength, hEach⟩
    refine ⟨hModel, hLength, ?_⟩
    intro i h h'
    exact ⟨(hEach i h h').role, (hEach i h h').content⟩
  · rintro ⟨hModel, hLength, hEach⟩
    refine ⟨hModel, hLength, ?_⟩
    intro i h h'
    exact
      { role := (hEach i h h').1
        content := (hEach i h h').2 }

/- A message of the user, by its text. -/
def userMessage
    (content : String) : ChatMessage where
  role := .user
  content := content
  name := none
  toolCalls := none
  toolCallId := none

/- A request for the given texts. -/
def userRequest
    (contents : List String) : ChatRequest where
  model := "gpt-4o"
  messages := contents.map userMessage
  maxTokens := none
  temperature := none
  topP := none
  stream := false
  tools := none
  toolChoice := none

/- Text that moves between two messages changes the bytes. -/
theorem shifted_messages_streams :
    ResponseCache.cacheKeyStream sampleCrates.roleToString
        "gpt-4o" (userRequest ["ab", "c"]).messages ≠
      ResponseCache.cacheKeyStream sampleCrates.roleToString
        "gpt-4o" (userRequest ["a", "bc"]).messages ∧
    SolvelaClient.hashRequestStream
        (userRequest ["ab", "c"]) ≠
      SolvelaClient.hashRequestStream
        (userRequest ["a", "bc"]) := by
  have hStreams :=
    hashed_streams_eq_iff sampleCrates_roles "gpt-4o" "gpt-4o"
      (userRequest ["ab", "c"]).messages
      (userRequest ["a", "bc"]).messages
      (userRequest ["ab", "c"]) (userRequest ["a", "bc"])
  constructor
  · intro hEq
    have hFirst :=
      (hStreams.2.2.1.mp hEq).2.2 0 (by decide) (by decide)
    exact absurd hFirst.2 (by decide)
  · intro hEq
    exact absurd (hStreams.2.2.2.mp hEq) (by decide)

end Solvela
