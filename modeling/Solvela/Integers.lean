import Mathlib.Data.Rat.Floor

/-
  Operations of 64-bit unsigned integers.

  Key definitions include:
    * `maxU64`
    * `saturatingAdd`
    * `parseU64`
    * `castU64`
-/

------------------------------------------------------------
-- Bounds
------------------------------------------------------------

namespace Solvela

/- The largest 64-bit value. -/
def maxU64 : UInt64 := 18446744073709551615

/- Addition that stops at the largest value. -/
def saturatingAdd
    (a b : UInt64) : UInt64 :=
  if a.toNat + b.toNat < 2 ^ 64 then
    a + b
  else
    maxU64

/-
  The cast of an exact number: the fraction is cut off, and
  values out of range go to the nearest bound.
-/
def castU64
    (x : ℚ) : UInt64 :=
  UInt64.ofNat (min x.floor.toNat (2 ^ 64 - 1))

@[simp] theorem castU64_zero : castU64 0 = 0 := by
  rfl

/- Exactly the numbers below one are cast to zero. -/
theorem castU64_eq_zero_iff
    (x : ℚ) :
    castU64 x = 0 ↔ x < 1 := by
  have hSmall : min x.floor.toNat (2 ^ 64 - 1) < 2 ^ 64 := by
    omega
  have hFloor : x.floor < 1 ↔ x < 1 :=
    Rat.floor_lt_iff
  unfold castU64
  rw [← UInt64.toNat_inj, UInt64.toNat_ofNat_of_lt' hSmall,
    ← hFloor]
  change min x.floor.toNat (2 ^ 64 - 1) = 0 ↔ _
  omega

end Solvela

------------------------------------------------------------
-- Parsing
------------------------------------------------------------

namespace Solvela

/- The value of a decimal digit. -/
def digitValue
    (c : Char) : Option Nat :=
  if '0' ≤ c ∧ c ≤ '9' then
    some (c.toNat - '0'.toNat)
  else
    none

/-
  Read digits into an accumulator.  A character that is no
  digit is reported before an overflow at its place.
-/
def parseDigits : List Char → Nat → Except String Nat
| [], total => .ok total
| c :: cs, total =>
    match digitValue c with
    | none => .error "invalid digit found in string"
    | some digit =>
        if total * 10 + digit < 2 ^ 64 then
          parseDigits cs (total * 10 + digit)
        else
          .error "number too large to fit in target type"

/- Parse a decimal 64-bit value, with an optional plus sign. -/
def parseU64
    (text : String) : Except String UInt64 :=
  match text.toList with
  | [] =>
      .error "cannot parse integer from empty string"
  | ['+'] => .error "invalid digit found in string"
  | '+' :: digits =>
      (parseDigits digits 0).map UInt64.ofNat
  | digits => (parseDigits digits 0).map UInt64.ofNat

end Solvela

------------------------------------------------------------
-- Every Value Has A Text
------------------------------------------------------------

namespace Solvela

/- The character of a decimal digit. -/
def digitChar
    (n : Nat) : Char :=
  Char.ofNat (n + '0'.toNat)

theorem digitValue_digitChar
    {n : Nat}
    (hDigit : n < 10) :
    digitValue (digitChar n) = some n := by
  have hAll :
      ∀ d ∈ List.range 10,
        digitValue (digitChar d) = some d := by
    decide
  exact hAll n (List.mem_range.mpr hDigit)

theorem parseDigits_cons
    (c : Char)
    (cs : List Char)
    (total : Nat) :
    parseDigits (c :: cs) total =
      match digitValue c with
      | none => .error "invalid digit found in string"
      | some digit =>
          if total * 10 + digit < 2 ^ 64 then
            parseDigits cs (total * 10 + digit)
          else
            .error
              "number too large to fit in target type" := by
  rfl

/- Digits read in two parts continue the accumulator. -/
theorem parseDigits_append
    {front back : List Char}
    {total middle : Nat}
    (hFront : parseDigits front total = .ok middle) :
    parseDigits (front ++ back) total =
      parseDigits back middle := by
  induction front generalizing total with
  | nil =>
      cases hFront
      rfl
  | cons c front ih =>
      rw [List.cons_append, parseDigits_cons]
      rw [parseDigits_cons] at hFront
      cases hDigit : digitValue c with
      | none =>
          rw [hDigit] at hFront
          cases hFront
      | some digit =>
          rw [hDigit] at hFront
          simp only at hFront ⊢
          by_cases hFits : total * 10 + digit < 2 ^ 64
          · rw [if_pos hFits] at hFront ⊢
            exact ih hFront
          · rw [if_neg hFits] at hFront
            cases hFront

/- Every 64-bit number has a text of digits. -/
theorem exists_parseDigits
    {n : Nat}
    (hRange : n < 2 ^ 64) :
    ∃ digits, digits ≠ [] ∧
      (∀ c ∈ digits, (digitValue c).isSome) ∧
        parseDigits digits 0 = .ok n := by
  induction n using Nat.strong_induction_on with
  | _ n ih =>
      have hLast : n % 10 < 10 := Nat.mod_lt _ (by omega)
      have hDigit :
          (digitValue (digitChar (n % 10))).isSome := by
        rw [digitValue_digitChar hLast]
        rfl
      have hStep :
          ∀ total, total * 10 + n % 10 = n →
            parseDigits [digitChar (n % 10)] total =
              .ok n := by
        intro total hTotal
        rw [parseDigits_cons, digitValue_digitChar hLast]
        simp only
        rw [hTotal, if_pos hRange]
        rfl
      by_cases hSmall : n < 10
      · refine ⟨[digitChar (n % 10)], by simp, ?_, ?_⟩
        · intro c hMem
          rw [List.mem_singleton.mp hMem]
          exact hDigit
        · exact hStep 0 (by omega)
      · rcases ih (n / 10) (by omega) (by omega) with
          ⟨digits, hNonempty, hDigits, hParse⟩
        refine ⟨digits ++ [digitChar (n % 10)], by simp, ?_, ?_⟩
        · intro c hMem
          rcases List.mem_append.mp hMem with hOld | hNew
          · exact hDigits c hOld
          · rw [List.mem_singleton.mp hNew]
            exact hDigit
        · rw [parseDigits_append hParse]
          exact hStep _ (by omega)

/- Every 64-bit value is the parse of a text of digits. -/
theorem exists_parseU64
    (value : UInt64) :
    ∃ digits, (∀ c ∈ digits, (digitValue c).isSome) ∧
      parseU64 (String.ofList digits) = .ok value := by
  rcases exists_parseDigits value.toNat_lt with
    ⟨digits, hNonempty, hDigits, hParse⟩
  have hPlus : '+' ∉ digits := by
    intro hMem
    exact absurd (hDigits '+' hMem) (by decide)
  refine ⟨digits, hDigits, ?_⟩
  unfold parseU64
  rw [String.toList_ofList]
  have hValue :
      (parseDigits digits 0).map UInt64.ofNat =
        .ok value := by
    rw [hParse]
    simp [Except.map]
  split
  · exact absurd rfl hNonempty
  · exact absurd List.mem_cons_self hPlus
  · exact absurd List.mem_cons_self hPlus
  · exact hValue

end Solvela
