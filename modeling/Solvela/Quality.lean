import Mathlib.Data.List.Infix
import Solvela.Foundations.Windows
import Solvela.Protocol

/-
  Detection of degraded responses.

  A text is read as its list of Unicode scalar values; its
  length in the truncation rule is its length in bytes.  The
  two properties of characters that need the tables of the
  Unicode standard are parameters.

  Key definitions include:
    * `UnicodeTables`
    * `aggregateContent`
    * `hasRepetitiveLoop`
    * `isDegraded`
-/

------------------------------------------------------------
-- Characters
------------------------------------------------------------

namespace Solvela

/- Lower-casing and alphanumeric characters of Unicode. -/
structure UnicodeTables where
  toLowercase : String → String
  isAlphanumeric : Char → Bool

/- The characters with the Unicode property White_Space. -/
def isWhitespace
    (c : Char) : Bool :=
  let n := c.toNat
  (9 ≤ n && n ≤ 13) || n == 0x20 || n == 0x85 ||
    n == 0xA0 || n == 0x1680 ||
    (0x2000 ≤ n && n ≤ 0x200A) || n == 0x2028 ||
    n == 0x2029 || n == 0x202F || n == 0x205F ||
    n == 0x3000

/- Remove leading and trailing whitespace. -/
def trim
    (text : List Char) : List Char :=
  ((text.dropWhile isWhitespace).reverse.dropWhile
    isWhitespace).reverse

/- The maximal runs of characters that are not whitespace. -/
def splitWhitespace
    (text : List Char) : List (List Char) :=
  (text.splitOnP isWhitespace).filter
    (fun word => !word.isEmpty)

end Solvela

------------------------------------------------------------
-- Degraded Responses
------------------------------------------------------------

namespace Solvela

/- Why an answer is not good enough. -/
inductive DegradedReason where
  | emptyContent
  | repetitiveLoop
  | truncatedMidWord
  | knownErrorPhrase
  deriving DecidableEq

/- Phrases by which a model refuses. -/
def knownErrorPhrases : List String :=
  ["i cannot", "as an ai", "i'm sorry, but i"]

/- How many words make up a phrase. -/
def repetitionWindow : Nat := 3

/- How many repetitions of a phrase are too many. -/
def repetitionThreshold : Nat := 5

/- No text of at most this length counts as cut off. -/
def truncationMinLen : Nat := 100

/- The contents of all choices, joined by a space. -/
def aggregateContent
    (response : ChatResponse) : String :=
  " ".intercalate
    (response.choices.map (fun c => c.message.content))

/- The stretches of `n` consecutive words, in order. -/
def wordWindows
    {α : Type}
    (n : Nat)
    (words : List α) : List (List α) :=
  (List.range (words.length + 1 - n)).map
    (fun i => (words.drop i).take n)

/- Some window of words, joined by spaces, recurs too often. -/
def hasRepetitiveLoop
    (content : String) : Bool :=
  let words :=
    (splitWhitespace content.toList).map String.ofList
  if words.length < repetitionWindow then
    false
  else
    Windows.countLoop repetitionThreshold
      ((wordWindows repetitionWindow words).map
        (fun window => " ".intercalate window))
      (fun _ => 0)

/- The first rule that finds the response degraded. -/
def isDegraded
    (unicode : UnicodeTables)
    (response : ChatResponse) : Option DegradedReason :=
  let content := aggregateContent response
  if (trim content.toList).isEmpty then
    some .emptyContent
  else
    let lower := unicode.toLowercase content
    if knownErrorPhrases.any
        (fun phrase =>
          decide (phrase.toList <:+: lower.toList)) then
      some .knownErrorPhrase
    else if hasRepetitiveLoop content then
      some .repetitiveLoop
    else if content.utf8ByteSize > truncationMinLen then
      match content.toList.getLast? with
      | some lastChar =>
          if unicode.isAlphanumeric lastChar then
            some .truncatedMidWord
          else
            none
      | none => none
    else
      none

/- A response without choices has no content. -/
theorem isDegraded_of_choices_nil
    (unicode : UnicodeTables)
    {response : ChatResponse}
    (hEmpty : response.choices = []) :
    isDegraded unicode response = some .emptyContent := by
  unfold isDegraded aggregateContent
  rw [hEmpty]
  rfl

end Solvela
