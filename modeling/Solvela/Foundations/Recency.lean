import Mathlib.Data.Finset.Card
import Mathlib.Data.List.Nodup
import Mathlib.Data.List.TakeWhile

/-
  Least-recently-used retention.

  A bounded map that evicts its least recently used key is
  described by its recency list: the entries, most recently
  used first.  `LruOps` is the interface of such a map and
  `LruOps.Laws` says that its operations act on the recency
  list as documented.

  Main declarations:
    * `touch`, `dropKey`, `front`
    * `LruOps`, `LruOps.Laws`
    * `Retains`
    * `Retains.touch_of_ne`
    * `RecencyList.laws`
-/

------------------------------------------------------------
-- Recency Lists
------------------------------------------------------------

namespace Recency

variable {K V : Type} [DecidableEq K]

/- Remove a key. -/
def dropKey
    (k : K)
    (l : List (K × V)) : List (K × V) :=
  l.filter (fun entry => decide (entry.1 ≠ k))

/- Make `k` the most recent key, evicting beyond `cap`. -/
def touch
    (cap : Nat)
    (k : K)
    (v : V)
    (l : List (K × V)) : List (K × V) :=
  ((k, v) :: dropKey k l).take cap

/- The keys more recent than `k`. -/
def front
    (k : K)
    (l : List (K × V)) : List K :=
  (l.takeWhile (fun entry => decide (entry.1 ≠ k))).map
    Prod.fst

@[simp] theorem front_cons_self
    (k : K)
    (v : V)
    (l : List (K × V)) :
    front k ((k, v) :: l) = [] := by
  simp [front]

theorem front_cons_of_ne
    {k k' : K}
    (hNe : k' ≠ k)
    (v : V)
    (l : List (K × V)) :
    front k ((k', v) :: l) = k' :: front k l := by
  simp [front, hNe]

theorem lookup_cons_of_ne
    {k k' : K}
    (hNe : k' ≠ k)
    (v : V)
    (l : List (K × V)) :
    ((k', v) :: l).lookup k = l.lookup k := by
  have hBeq : (k == k') = false :=
    beq_eq_false_iff_ne.mpr hNe.symm
  rw [List.lookup_cons, hBeq]

theorem dropKey_cons_self
    (k : K)
    (v : V)
    (l : List (K × V)) :
    dropKey k ((k, v) :: l) = dropKey k l := by
  simp [dropKey]

theorem dropKey_cons_of_ne
    {k k' : K}
    (hNe : k' ≠ k)
    (v : V)
    (l : List (K × V)) :
    dropKey k ((k', v) :: l) =
      (k', v) :: dropKey k l := by
  simp [dropKey, hNe]

/- Removing another key does not change a look-up. -/
theorem lookup_dropKey_of_ne
    {k k' : K}
    (hNe : k' ≠ k)
    (l : List (K × V)) :
    (dropKey k' l).lookup k = l.lookup k := by
  induction l with
  | nil => rfl
  | cons entry l ih =>
      rcases entry with ⟨k'', v⟩
      by_cases hDrop : k'' = k'
      · subst hDrop
        rw [dropKey_cons_self, lookup_cons_of_ne hNe, ih]
      · rw [dropKey_cons_of_ne hDrop]
        by_cases hEq : k'' = k
        · subst hEq
          rw [List.lookup_cons_self, List.lookup_cons_self]
        · rw [lookup_cons_of_ne hEq,
            lookup_cons_of_ne hEq, ih]

/- A removed key is not found. -/
theorem lookup_dropKey_self
    (k : K)
    (l : List (K × V)) :
    (dropKey k l).lookup k = none := by
  induction l with
  | nil => rfl
  | cons entry l ih =>
      rcases entry with ⟨k', v⟩
      by_cases hEq : k' = k
      · subst hEq
        rw [dropKey_cons_self, ih]
      · rw [dropKey_cons_of_ne hEq,
          lookup_cons_of_ne hEq, ih]

/- Removing another key removes at most that key in front. -/
theorem front_dropKey_subset
    {k k' : K}
    (hNe : k' ≠ k)
    (l : List (K × V)) :
    front k (dropKey k' l) ⊆ front k l := by
  induction l with
  | nil => exact List.Subset.refl _
  | cons entry l ih =>
      rcases entry with ⟨k'', v⟩
      by_cases hDrop : k'' = k'
      · subst hDrop
        rw [dropKey_cons_self, front_cons_of_ne hNe]
        exact List.subset_cons_of_subset _ ih
      · rw [dropKey_cons_of_ne hDrop]
        by_cases hEq : k'' = k
        · subst hEq
          rw [front_cons_self, front_cons_self]
          exact List.Subset.refl _
        · rw [front_cons_of_ne hEq, front_cons_of_ne hEq]
          exact List.cons_subset_cons _ ih

/- Truncation keeps a key with few keys in front of it. -/
theorem take_of_front_length_lt
    {k : K}
    {cap : Nat}
    {l : List (K × V)}
    (hFront : (front k l).length < cap) :
    (l.take cap).lookup k = l.lookup k ∧
      front k (l.take cap) = front k l := by
  induction l generalizing cap with
  | nil => simp
  | cons entry l ih =>
      rcases entry with ⟨k', v⟩
      cases cap with
      | zero => exact absurd hFront (Nat.not_lt_zero _)
      | succ cap =>
          rw [List.take_succ_cons]
          by_cases hEq : k' = k
          · subst hEq
            simp
          · rw [front_cons_of_ne hEq] at hFront
            have hRest : (front k l).length < cap := by
              simpa using hFront
            rcases ih hRest with ⟨hLookup, hKept⟩
            rw [lookup_cons_of_ne hEq,
              lookup_cons_of_ne hEq,
              front_cons_of_ne hEq,
              front_cons_of_ne hEq, hLookup, hKept]
            exact ⟨rfl, rfl⟩

/- Truncation adds no entry. -/
theorem lookup_of_lookup_take
    {k : K}
    {v : V}
    {cap : Nat}
    {l : List (K × V)}
    (hLookup : (l.take cap).lookup k = some v) :
    l.lookup k = some v := by
  induction l generalizing cap with
  | nil => simp at hLookup
  | cons entry l ih =>
      rcases entry with ⟨k', v'⟩
      cases cap with
      | zero => simp at hLookup
      | succ cap =>
          rw [List.take_succ_cons] at hLookup
          by_cases hEq : k' = k
          · subst hEq
            rw [List.lookup_cons_self] at hLookup ⊢
            exact hLookup
          · rw [lookup_cons_of_ne hEq] at hLookup ⊢
            exact ih hLookup

/- The touched key is found with its new value. -/
theorem lookup_touch_self
    {cap : Nat}
    (hCap : 0 < cap)
    (k : K)
    (v : V)
    (l : List (K × V)) :
    (touch cap k v l).lookup k = some v := by
  have hFront :
      (front k ((k, v) :: dropKey k l)).length < cap := by
    simpa using hCap
  rw [touch, (take_of_front_length_lt hFront).1,
    List.lookup_cons_self]

/- Nothing else is found under the touched key. -/
theorem eq_of_lookup_touch_self
    {cap : Nat}
    {k : K}
    {v v' : V}
    {l : List (K × V)}
    (hLookup : (touch cap k v l).lookup k = some v') :
    v' = v := by
  have hWhole := lookup_of_lookup_take hLookup
  rw [List.lookup_cons_self] at hWhole
  exact (Option.some.inj hWhole).symm

/- Touching a key adds no entry under another key. -/
theorem lookup_of_lookup_touch
    {cap : Nat}
    {k k' : K}
    {v v' : V}
    {l : List (K × V)}
    (hNe : k' ≠ k)
    (hLookup : (touch cap k' v' l).lookup k = some v) :
    l.lookup k = some v := by
  have hWhole := lookup_of_lookup_take hLookup
  rw [lookup_cons_of_ne hNe,
    lookup_dropKey_of_ne hNe] at hWhole
  exact hWhole

/- The keys in front of `k` are among the keys. -/
theorem front_sublist
    (k : K)
    (l : List (K × V)) :
    (front k l).Sublist (l.map Prod.fst) :=
  (List.takeWhile_sublist _).map _

end Recency

------------------------------------------------------------
-- Retention
------------------------------------------------------------

namespace Recency

variable {K V : Type} [DecidableEq K]

/-
  `k` is held with value `v`, and every key more recent than
  it lies in `used`.
-/
def Retains
    (k : K)
    (v : V)
    (used : Finset K)
    (l : List (K × V)) : Prop :=
  l.lookup k = some v ∧ ∀ x ∈ front k l, x ∈ used

/- A key just touched is held with nothing in front. -/
theorem Retains.touch_self
    {cap : Nat}
    (hCap : 0 < cap)
    (k : K)
    (v : V)
    (l : List (K × V)) :
    Retains k v ∅ (touch cap k v l) := by
  have hFront :
      (front k ((k, v) :: dropKey k l)).length < cap := by
    simpa using hCap
  refine ⟨lookup_touch_self hCap k v l, ?_⟩
  rw [touch, (take_of_front_length_lt hFront).2,
    front_cons_self]
  intro x hx
  cases hx

/-
  Touching another key keeps `k` as long as fewer distinct
  keys than the capacity were touched after it.
-/
theorem Retains.touch_of_ne
    {cap : Nat}
    {k k' : K}
    {v v' : V}
    {used : Finset K}
    {l : List (K × V)}
    (hKept : Retains k v used l)
    (hNe : k' ≠ k)
    (hNodup : (l.map Prod.fst).Nodup)
    (hFew : (insert k' used).card < cap) :
    Retains k v (insert k' used)
      (touch cap k' v' l) := by
  let moved := (k', v') :: dropKey k' l
  have hFrontMoved :
      front k moved = k' :: front k (dropKey k' l) :=
    front_cons_of_ne hNe v' _
  have hUsed :
      ∀ x ∈ front k moved, x ∈ insert k' used := by
    intro x hx
    rw [hFrontMoved, List.mem_cons] at hx
    rcases hx with hSelf | hOld
    · exact hSelf ▸ Finset.mem_insert_self _ _
    · exact Finset.mem_insert_of_mem
        (hKept.2 x (front_dropKey_subset hNe l hOld))
  have hMovedNodup : (front k moved).Nodup := by
    rw [hFrontMoved, List.nodup_cons]
    constructor
    · intro hMem
      have hKey :
          k' ∈ (dropKey k' l).map Prod.fst :=
        (front_sublist k _).subset hMem
      rcases List.mem_map.mp hKey with
        ⟨entry, hEntry, hEq⟩
      exact (of_decide_eq_true
        (List.mem_filter.mp hEntry).2) hEq
    · exact (front_sublist k _).nodup
        ((List.filter_sublist.map Prod.fst).nodup hNodup)
  have hLength : (front k moved).length < cap := by
    have hCard :
        (front k moved).toFinset.card =
          (front k moved).length :=
      List.toFinset_card_of_nodup hMovedNodup
    have hSubset :
        (front k moved).toFinset ⊆ insert k' used := by
      intro x hx
      exact hUsed x (List.mem_toFinset.mp hx)
    have hLe := Finset.card_le_card hSubset
    omega
  rcases take_of_front_length_lt hLength with
    ⟨hLookup, hFront⟩
  constructor
  · change (moved.take cap).lookup k = some v
    rw [hLookup, lookup_cons_of_ne hNe,
      lookup_dropKey_of_ne hNe]
    exact hKept.1
  · change ∀ x ∈ front k (moved.take cap), _
    rw [hFront]
    exact hUsed

/- Removing another key keeps `k`. -/
theorem Retains.dropKey_of_ne
    {k k' : K}
    {v : V}
    {used : Finset K}
    {l : List (K × V)}
    (hKept : Retains k v used l)
    (hNe : k' ≠ k) :
    Retains k v used (dropKey k' l) := by
  constructor
  · rw [lookup_dropKey_of_ne hNe]
    exact hKept.1
  · intro x hx
    exact hKept.2 x (front_dropKey_subset hNe l hx)

end Recency

------------------------------------------------------------
-- The Interface Of A Bounded Map
------------------------------------------------------------

namespace Recency

/- The operations of an LRU map with carrier `C`. -/
structure LruOps (C K V : Type) where
  new : Nat → C
  peek : C → K → Option V
  get : C → K → Option V × C
  put : C → K → V → C
  pop : C → K → C
  len : C → Nat

namespace LruOps

variable {C K V : Type} [DecidableEq K]

/-
  The documented behavior: the operations act on a recency
  list without repeated keys and within the capacity.
-/
structure Laws (ops : LruOps C K V) where
  recency : C → List (K × V)
  capacity : C → Nat
  nodup : ∀ c, ((recency c).map Prod.fst).Nodup
  length_le : ∀ c, (recency c).length ≤ capacity c
  len_eq : ∀ c, ops.len c = (recency c).length
  recency_new : ∀ n, recency (ops.new n) = []
  capacity_new : ∀ n, capacity (ops.new n) = n
  peek_eq : ∀ c k, ops.peek c k = (recency c).lookup k
  get_eq : ∀ c k, (ops.get c k).1 = (recency c).lookup k
  recency_get_some : ∀ c k v,
    (recency c).lookup k = some v →
      recency (ops.get c k).2 =
        touch (capacity c) k v (recency c)
  recency_get_none : ∀ c k,
    (recency c).lookup k = none →
      recency (ops.get c k).2 = recency c
  recency_put : ∀ c k v,
    recency (ops.put c k v) =
      touch (capacity c) k v (recency c)
  recency_pop : ∀ c k,
    recency (ops.pop c k) = dropKey k (recency c)
  capacity_get : ∀ c k,
    capacity (ops.get c k).2 = capacity c
  capacity_put : ∀ c k v,
    capacity (ops.put c k v) = capacity c
  capacity_pop : ∀ c k,
    capacity (ops.pop c k) = capacity c

end LruOps

end Recency

------------------------------------------------------------
-- A Bounded Map As A List
------------------------------------------------------------

namespace Recency

variable {K V : Type} [DecidableEq K]

/- A recency list within its bounds. -/
structure RecencyList (K V : Type) [DecidableEq K] where
  entries : List (K × V)
  capacity : Nat
  nodup : (entries.map Prod.fst).Nodup
  length_le : entries.length ≤ capacity

theorem nodup_dropKey
    {l : List (K × V)}
    (hNodup : (l.map Prod.fst).Nodup)
    (k : K) :
    ((dropKey k l).map Prod.fst).Nodup :=
  (List.filter_sublist.map Prod.fst).nodup hNodup

theorem nodup_touch
    {l : List (K × V)}
    (hNodup : (l.map Prod.fst).Nodup)
    (cap : Nat)
    (k : K)
    (v : V) :
    ((touch cap k v l).map Prod.fst).Nodup := by
  apply ((List.take_sublist cap _).map Prod.fst).nodup
  rw [List.map_cons, List.nodup_cons]
  refine ⟨?_, nodup_dropKey hNodup k⟩
  intro hMem
  rcases List.mem_map.mp hMem with ⟨entry, hEntry, hKey⟩
  exact of_decide_eq_true (List.mem_filter.mp hEntry).2 hKey

namespace RecencyList

/- Nothing is kept yet. -/
def empty
    (capacity : Nat) : RecencyList K V where
  entries := []
  capacity := capacity
  nodup := List.nodup_nil
  length_le := Nat.zero_le capacity

/- Put a value in front; the last one may have to go. -/
def touch
    (c : RecencyList K V)
    (k : K)
    (v : V) : RecencyList K V where
  entries := Recency.touch c.capacity k v c.entries
  capacity := c.capacity
  nodup := nodup_touch c.nodup c.capacity k v
  length_le := List.length_take_le _ _

/- Remove what is under a key. -/
def dropKey
    (c : RecencyList K V)
    (k : K) : RecencyList K V where
  entries := Recency.dropKey k c.entries
  capacity := c.capacity
  nodup := nodup_dropKey c.nodup k
  length_le :=
    (List.length_filter_le _ _).trans c.length_le

/- The operations of an LRU map on its recency list. -/
def ops : LruOps (RecencyList K V) K V where
  new := empty
  peek := fun c k => c.entries.lookup k
  get := fun c k =>
    match c.entries.lookup k with
    | some v => (some v, c.touch k v)
    | none => (none, c)
  put := touch
  pop := dropKey
  len := fun c => c.entries.length

/- The list operations behave as an LRU map should. -/
def laws : LruOps.Laws (ops : LruOps (RecencyList K V) K V) where
  recency := entries
  capacity := capacity
  nodup := nodup
  length_le := length_le
  len_eq := fun _ => rfl
  recency_new := fun _ => rfl
  capacity_new := fun _ => rfl
  peek_eq := fun _ _ => rfl
  get_eq := by
    intro c k
    unfold ops
    cases hLookup : c.entries.lookup k with
    | none => simp [hLookup]
    | some v => simp [hLookup]
  recency_get_some := by
    intro c k v hLookup
    unfold ops
    simp only [hLookup]
    rfl
  recency_get_none := by
    intro c k hLookup
    unfold ops
    simp only [hLookup]
  recency_put := fun _ _ _ => rfl
  recency_pop := fun _ _ => rfl
  capacity_get := by
    intro c k
    unfold ops
    cases hLookup : c.entries.lookup k with
    | none => simp [hLookup]
    | some v =>
        simp only [hLookup]
        rfl
  capacity_put := fun _ _ _ => rfl
  capacity_pop := fun _ _ => rfl

end RecencyList

end Recency
