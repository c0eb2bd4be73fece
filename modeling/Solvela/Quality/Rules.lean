import Solvela.Foundations.Choice
import Solvela.Foundations.Delimited
import Solvela.Quality.Loops

/-
  The documented rules of degraded responses, in their order,
  and the code's judgement beside them.

  The last rule speaks of more than 100 characters, and the
  code measures bytes.  The two judgements agree unless a
  short text of more than 100 bytes reaches that rule.

  Main declarations:
    * `Rule`, `documentedRules`, `DocumentedRule`
    * `firstThat_isDegraded`
    * `isDegraded_documented_iff`
    * `accented_answer_judged_truncated`
-/

------------------------------------------------------------
-- The Documented Rules
------------------------------------------------------------

namespace Solvela

open Choice

/-
  When each reason applies to a text, for a given length of
  the text in the rule of truncation.
-/
def Rule
    (unicode : UnicodeTables)
    (content : String)
    (length : Nat) : DegradedReason → Prop
  | .emptyContent =>
      ∀ c ∈ content.toList, isWhitespace c = true
  | .knownErrorPhrase =>
      ∃ phrase ∈ knownErrorPhrases,
        phrase.toList <:+:
          (unicode.toLowercase content).toList
  | .repetitiveLoop =>
      ∃ runs,
        Words.MaximalRuns isWhitespace content.toList runs ∧
          RepeatsTriple (runs.map String.ofList)
  | .truncatedMidWord =>
      100 < length ∧
        ∃ last ∈ content.toList.getLast?,
          unicode.isAlphanumeric last = true

/- The order in which the rules are checked. -/
def documentedRules : List DegradedReason :=
  [.emptyContent, .knownErrorPhrase, .repetitiveLoop,
    .truncatedMidWord]

/- The rules as documented: a length is one in characters. -/
def DocumentedRule
    (unicode : UnicodeTables)
    (content : String) : DegradedReason → Prop :=
  Rule unicode content content.toList.length

/- Trimming leaves nothing of a text of whitespace. -/
theorem trim_isEmpty_iff
    (text : List Char) :
    (trim text).isEmpty = true ↔
      ∀ c ∈ text, isWhitespace c = true := by
  unfold trim
  rw [List.isEmpty_iff, List.reverse_eq_nil_iff,
    List.dropWhile_eq_nil_iff]
  constructor
  · intro hBlank
    have hRest :
        ∀ c ∈ text.dropWhile isWhitespace,
          isWhitespace c = true := by
      intro c hMem
      exact hBlank c (List.mem_reverse.mpr hMem)
    have hNone : text.dropWhile isWhitespace = [] := by
      cases hCase : text.dropWhile isWhitespace with
      | nil => rfl
      | cons c tail =>
          have hHead :
              c ∈ (text.dropWhile isWhitespace).head? := by
            rw [hCase]
            rfl
          have hNot :=
            Words.eq_false_of_mem_head?_dropWhile hHead
          have hYes := hRest c (by
            rw [hCase]
            exact List.mem_cons_self)
          rw [hNot] at hYes
          cases hYes
    exact List.dropWhile_eq_nil_iff.mp hNone
  · intro hBlank c hMem
    apply hBlank
    exact (List.dropWhile_suffix _).subset
      (List.mem_reverse.mp hMem)

theorem rule_repetitiveLoop_iff
    (unicode : UnicodeTables)
    (content : String)
    (length : Nat) :
    Rule unicode content length .repetitiveLoop ↔
      hasRepetitiveLoop content = true := by
  rw [hasRepetitiveLoop_iff_repeatsTriple]
  constructor
  · rintro ⟨runs, hRuns, hRepeats⟩
    rw [hRuns.eq_words] at hRepeats
    exact hRepeats
  · intro hRepeats
    exact ⟨_, Words.maximalRuns_iff.mpr rfl, hRepeats⟩

/-
  The code finds the first rule that holds, where the rule of
  truncation measures the bytes of the text.
-/
theorem firstThat_isDegraded
    (unicode : UnicodeTables)
    (response : ChatResponse) :
    FirstThat
      (Rule unicode (aggregateContent response)
        (aggregateContent response).utf8ByteSize)
      documentedRules (isDegraded unicode response) := by
  unfold isDegraded documentedRules
  dsimp only
  split
  · next hEmpty =>
      exact .here ((trim_isEmpty_iff _).mp hEmpty)
  · next hEmpty =>
      have hText := mt (trim_isEmpty_iff _).mpr hEmpty
      apply FirstThat.there hText
      split
      · next hPhrase =>
          apply FirstThat.here
          rcases List.any_eq_true.mp hPhrase with
            ⟨phrase, hMem, hInfix⟩
          exact ⟨phrase, hMem, of_decide_eq_true hInfix⟩
      · next hPhrase =>
          apply FirstThat.there
          · rintro ⟨phrase, hMem, hInfix⟩
            apply hPhrase
            exact List.any_eq_true.mpr
              ⟨phrase, hMem, decide_eq_true hInfix⟩
          split
          · next hLoop =>
              apply FirstThat.here
              exact (rule_repetitiveLoop_iff _ _ _).mpr hLoop
          · next hLoop =>
              apply FirstThat.there
              · exact mt (rule_repetitiveLoop_iff _ _ _).mp
                  hLoop
              split
              · next hLong =>
                  split
                  · next last hLast =>
                      split
                      · next hAlnum =>
                          exact .here
                            ⟨hLong, last, hLast, hAlnum⟩
                      · next hAlnum =>
                          apply FirstThat.there _ .absent
                          rintro ⟨_, last', hLast', hAlnum'⟩
                          rw [hLast] at hLast'
                          rcases Option.some.inj hLast' with rfl
                          exact hAlnum hAlnum'
                  · next hNone =>
                      apply FirstThat.there _ .absent
                      rintro ⟨_, last, hLast, _⟩
                      rw [hNone] at hLast
                      cases hLast
              · next hShort =>
                  apply FirstThat.there _ .absent
                  rintro ⟨hLong, _⟩
                  exact hShort hLong

end Solvela

------------------------------------------------------------
-- Characters And Bytes
------------------------------------------------------------

namespace Solvela

open Choice

/- A text has at least as many bytes as characters. -/
theorem length_le_utf8ByteSize
    (s : String) :
    s.toList.length ≤ s.utf8ByteSize := by
  have hSize :
      (Delimited.utf8Bytes s).length = s.utf8ByteSize := by
    change s.toUTF8.data.toList.length = s.toByteArray.size
    exact Array.length_toList
  rw [← hSize, Delimited.utf8Bytes_eq_flatMap]
  induction s.toList with
  | nil => exact Nat.le_refl 0
  | cons c text ih =>
      have hByte := c.utf8Size_pos
      rw [List.flatMap_cons, List.length_append,
        List.length_cons, String.length_utf8EncodeChar]
      omega

/-
  A short text that is taken for a truncated one: it reaches
  the last rule, has at most 100 characters but more than 100
  bytes, and ends in a letter or a digit.
-/
def TakenForTruncated
    (unicode : UnicodeTables)
    (content : String) : Prop :=
  (∀ reason ∈ [DegradedReason.emptyContent,
      .knownErrorPhrase, .repetitiveLoop],
    ¬ DocumentedRule unicode content reason) ∧
  content.toList.length ≤ 100 ∧
  100 < content.utf8ByteSize ∧
  ∃ last ∈ content.toList.getLast?,
    unicode.isAlphanumeric last = true

/-
  The code returns the first documented rule that holds on
  exactly the responses that are not taken for truncated.
-/
theorem isDegraded_documented_iff
    (unicode : UnicodeTables)
    (response : ChatResponse) :
    FirstThat
        (DocumentedRule unicode (aggregateContent response))
        documentedRules (isDegraded unicode response) ↔
      ¬ TakenForTruncated unicode
        (aggregateContent response) := by
  have hCode := firstThat_isDegraded unicode response
  constructor
  · rintro hFirst ⟨hEarlier, hShort, hLong, hLast⟩
    have hTruncated :
        FirstThat
          (Rule unicode (aggregateContent response)
            (aggregateContent response).utf8ByteSize)
          documentedRules (some .truncatedMidWord) :=
      .there (hEarlier .emptyContent (by simp))
        (.there (hEarlier .knownErrorPhrase (by simp))
          (.there (hEarlier .repetitiveLoop (by simp))
            (.here ⟨hLong, hLast⟩)))
    rw [hCode.unique hTruncated] at hFirst
    have hDocumented := hFirst.holds _ rfl
    exact absurd hDocumented.1 (by omega)
  · intro hNot
    generalize isDegraded unicode response = judged
      at hCode ⊢
    unfold documentedRules at hCode ⊢
    refine hCode.cons_congr ?_ (fun hText hCode => ?_)
    · exact Iff.rfl
    refine hCode.cons_congr ?_ (fun hPhrase hCode => ?_)
    · exact Iff.rfl
    refine hCode.cons_congr ?_ (fun hLoop hCode => ?_)
    · exact Iff.rfl
    refine hCode.cons_congr ?_ (fun _ hEnd => ?_)
    · constructor
      · rintro ⟨hLong, hLast⟩
        refine ⟨?_, hLast⟩
        by_contra hShort
        apply hNot
        refine ⟨?_, by omega, hLong, hLast⟩
        simp only [List.forall_mem_cons]
        refine ⟨hText, hPhrase, hLoop, ?_⟩
        intro reason hMem
        cases hMem
      · rintro ⟨hLong, hLast⟩
        have hBytes :=
          length_le_utf8ByteSize (aggregateContent response)
        exact ⟨by omega, hLast⟩
    · cases hEnd
      exact .absent

/-
  Characters of the Latin-1 range: the letters and digits of
  ASCII, and the letters with accents.
-/
def latinUnicode : UnicodeTables where
  toLowercase text :=
    String.ofList (text.toList.map Char.toLower)
  isAlphanumeric c :=
    c.isAlphanum ||
      (0xC0 ≤ c.toNat && c.toNat ≤ 0xFF && c.toNat ≠ 0xD7 &&
        c.toNat ≠ 0xF7)

/- An answer of one word of 60 accented letters. -/
def accentedAnswer : ChatResponse where
  id := "chatcmpl-1"
  object := "chat.completion"
  created := 0
  model := "gpt-4o"
  choices :=
    [{ index := 0
       message :=
         { role := .assistant
           content := String.ofList (List.replicate 60 'é')
           name := none
           toolCalls := none
           toolCallId := none }
       finishReason := some "stop" }]
  usage := none

theorem accented_answer_judged_truncated :
    (aggregateContent accentedAnswer).toList.length = 60 ∧
      isDegraded latinUnicode accentedAnswer =
        some .truncatedMidWord ∧
      ¬ FirstThat
        (DocumentedRule latinUnicode
          (aggregateContent accentedAnswer))
        documentedRules
        (isDegraded latinUnicode accentedAnswer) := by
  have hLength :
      (aggregateContent accentedAnswer).toList.length = 60 := by
    decide +kernel
  have hJudged :
      isDegraded latinUnicode accentedAnswer =
        some .truncatedMidWord := by
    decide +kernel
  refine ⟨hLength, hJudged, ?_⟩
  intro hFirst
  have hLong := (hFirst.holds _ hJudged).1
  omega

end Solvela
