import Solvela.Proxy.Model
import Mathlib.Data.List.Induction
import Mathlib.Data.List.Nodup

/-
  The headers that the proxy passes back to its caller.

  The headers of a response are copied one by one into a new
  map, and setting a header drops the earlier values of its
  name.  So of a name that occurs more than once, only the
  last value is passed on.

  Main declarations:
    * `headerValues`
    * `headerValues_insertHeader_self`
    * `copyHeader`, `headerValues_buildPassthroughResponse`
    * `PassesHeaders`, `headers_passed_iff`
-/

------------------------------------------------------------
-- Values Of A Name
------------------------------------------------------------

namespace Solvela

/- The values of a header, in order. -/
def headerValues
    (name : String)
    (headers : List (String × List UInt8)) :
    List (List UInt8) :=
  (headers.filter (fun h => decide (h.1 = name))).map Prod.snd

theorem headerValues_cons_self
    (name : String)
    (value : List UInt8)
    (headers : List (String × List UInt8)) :
    headerValues name ((name, value) :: headers) =
      value :: headerValues name headers := by
  simp [headerValues]

theorem headerValues_cons_of_ne
    {name : String}
    {header : String × List UInt8}
    (hNe : header.1 ≠ name)
    (headers : List (String × List UInt8)) :
    headerValues name (header :: headers) =
      headerValues name headers := by
  simp [headerValues, hNe]

theorem headerValues_append
    (name : String)
    (first second : List (String × List UInt8)) :
    headerValues name (first ++ second) =
      headerValues name first ++ headerValues name second := by
  unfold headerValues
  rw [List.filter_append, List.map_append]

/- Dropping one name leaves no value of it. -/
theorem headerValues_drop_self
    (name : String)
    (headers : List (String × List UInt8)) :
    headerValues name
        (headers.filter
          (fun other => decide (other.1 ≠ name))) =
      [] := by
  unfold headerValues
  rw [List.filter_filter]
  simp

/- It leaves the values of the others. -/
theorem headerValues_drop_of_ne
    {name dropped : String}
    (hNe : name ≠ dropped)
    (headers : List (String × List UInt8)) :
    headerValues name
        (headers.filter
          (fun other => decide (other.1 ≠ dropped))) =
      headerValues name headers := by
  unfold headerValues
  rw [List.filter_filter]
  congr 1
  apply List.filter_congr
  intro header _
  by_cases hName : header.1 = name
  · simp [hName, hNe]
  · simp [hName]

/- Setting a header leaves one value of its name. -/
theorem headerValues_insertHeader_self
    (name : String)
    (value : List UInt8)
    (headers : List (String × List UInt8)) :
    headerValues name (insertHeader name value headers) =
      [value] := by
  induction headers with
  | nil => exact headerValues_cons_self name value []
  | cons header headers ih =>
      unfold insertHeader
      by_cases hName : header.1 = name
      · rw [if_pos hName, headerValues_cons_self,
          headerValues_drop_self]
      · rw [if_neg hName, headerValues_cons_of_ne hName]
        exact ih

/- It leaves the values of every other name. -/
theorem headerValues_insertHeader_of_ne
    {name inserted : String}
    (hNe : name ≠ inserted)
    (value : List UInt8)
    (headers : List (String × List UInt8)) :
    headerValues name (insertHeader inserted value headers) =
      headerValues name headers := by
  induction headers with
  | nil => exact headerValues_cons_of_ne (Ne.symm hNe) []
  | cons header headers ih =>
      unfold insertHeader
      by_cases hInserted : header.1 = inserted
      · have hOther : header.1 ≠ name := by
          rw [hInserted]
          exact Ne.symm hNe
        rw [if_pos hInserted,
          headerValues_cons_of_ne (Ne.symm hNe),
          headerValues_drop_of_ne hNe,
          headerValues_cons_of_ne hOther]
      · rw [if_neg hInserted]
        by_cases hName : header.1 = name
        · cases hName
          rw [headerValues_cons_self, headerValues_cons_self,
            ih]
        · rw [headerValues_cons_of_ne hName,
            headerValues_cons_of_ne hName, ih]

end Solvela

------------------------------------------------------------
-- Copied Headers
------------------------------------------------------------

namespace Solvela

/- Names that are not passed on. -/
def hopByHop : List String :=
  ["connection", "transfer-encoding"]

/- One turn of the loop that copies the headers. -/
def copyHeader
    (copied : List (String × List UInt8))
    (header : String × List UInt8) :
    List (String × List UInt8) :=
  if lowercase header.1 ∈ hopByHop then
    copied
  else
    insertHeader header.1 header.2 copied

/- The loop keeps the last value of each other name. -/
theorem headerValues_foldl_copyHeader
    {name : String}
    (hKept : lowercase name ∉ hopByHop)
    (headers : List (String × List UInt8)) :
    headerValues name (headers.foldl copyHeader []) =
      (headerValues name headers).getLast?.toList := by
  induction headers using List.reverseRecOn with
  | nil => rfl
  | append_singleton headers header ih =>
      rw [List.foldl_append, List.foldl_cons, List.foldl_nil,
        headerValues_append]
      unfold copyHeader
      by_cases hName : header.1 = name
      · cases hName
        have hLast :
            headerValues header.1 [header] = [header.2] :=
          headerValues_cons_self header.1 header.2 []
        rw [if_neg hKept, headerValues_insertHeader_self,
          hLast, List.getLast?_concat]
        rfl
      · have hNone : headerValues name [header] = [] :=
          headerValues_cons_of_ne hName []
        rw [hNone, List.append_nil, ← ih]
        by_cases hDropped : lowercase header.1 ∈ hopByHop
        · rw [if_pos hDropped]
          rfl
        · rw [if_neg hDropped]
          exact headerValues_insertHeader_of_ne
            (Ne.symm hName) _ _

/- So does the response that is passed back. -/
theorem headerValues_buildPassthroughResponse
    {name : String}
    (hKept : lowercase name ∉ hopByHop)
    (resp : HttpResponse) :
    headerValues name (buildPassthroughResponse resp).headers =
      (headerValues name resp.headers).getLast?.toList :=
  headerValues_foldl_copyHeader hKept resp.headers

/-
  The caller gets the gateway's headers: for every name that
  is passed on, the same values in the same order.
-/
def PassesHeaders
    (resp : HttpResponse) : Prop :=
  ∀ name, lowercase name ∉ hopByHop →
    headerValues name
        (buildPassthroughResponse resp).headers =
      headerValues name resp.headers

/- The names that are passed on, once for each value. -/
def passedNames
    (resp : HttpResponse) : List String :=
  (resp.headers.map Prod.fst).filter
    (fun name => decide (lowercase name ∉ hopByHop))

/- A name occurs in there once for each of its values. -/
theorem count_passedNames
    {name : String}
    (hKept : lowercase name ∉ hopByHop)
    (resp : HttpResponse) :
    (passedNames resp).count name =
      (headerValues name resp.headers).length := by
  unfold passedNames headerValues
  rw [List.count_filter (by simpa using hKept),
    List.length_map, List.count, List.countP_map,
    List.countP_eq_length_filter]
  congr 1

/- A list is its last element if it has no other. -/
theorem getLast?_toList_eq_self_iff
    {α : Type}
    (values : List α) :
    values.getLast?.toList = values ↔ values.length ≤ 1 := by
  cases values with
  | nil => simp
  | cons first rest =>
      cases rest with
      | nil => simp
      | cons second rest =>
          constructor
          · intro hSame
            rw [← hSame]
            exact Option.length_toList_le
          · intro hNo
            simp at hNo

/-
  For every response, the headers are passed on exactly when
  none of the names that are passed on occurs twice.
-/
theorem headers_passed_iff
    (resp : HttpResponse) :
    PassesHeaders resp ↔ (passedNames resp).Nodup := by
  unfold PassesHeaders
  rw [List.nodup_iff_count_le_one]
  constructor
  · intro hPassed name
    by_cases hKept : lowercase name ∉ hopByHop
    · rw [count_passedNames hKept,
        ← getLast?_toList_eq_self_iff,
        ← headerValues_buildPassthroughResponse hKept]
      exact hPassed name hKept
    · have hAbsent : name ∉ passedNames resp := by
        intro hMem
        have hTest := (List.mem_filter.mp hMem).2
        exact hKept (of_decide_eq_true hTest)
      rw [List.count_eq_zero_of_not_mem hAbsent]
      exact Nat.zero_le 1
  · intro hOnce name hKept
    rw [headerValues_buildPassthroughResponse hKept,
      getLast?_toList_eq_self_iff, ← count_passedNames hKept]
    exact hOnce name

/- A gateway that sets two cookies. -/
def cookieResponse : HttpResponse where
  status := 200
  headers :=
    [("set-cookie", Delimited.utf8Bytes "a=1"),
      ("set-cookie", Delimited.utf8Bytes "b=2")]
  body := .ok ""

/- The first cookie does not reach the caller. -/
theorem cookie_not_passed :
    cookieResponse.status ≠ 402 ∧
      ¬ PassesHeaders cookieResponse := by
  refine ⟨by decide, ?_⟩
  intro hPassed
  have hSame := hPassed "set-cookie" (by decide)
  have hLength := congrArg List.length hSame
  revert hLength
  decide

end Solvela
