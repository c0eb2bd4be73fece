import Mathlib.Data.List.Basic

/-
  Streams of delimited blocks.

  Each block of a stream ends with a delimiter that occurs in
  no block, so the stream determines its blocks.  Texts are
  such blocks: their UTF-8 bytes never hold the byte 0xFF.

  Main declarations:
    * `delimited`
    * `delimited_injective`
    * `utf8Bytes`, `not_mem_utf8Bytes`
    * `delimitedTexts`, `delimitedTexts_injective`
-/

------------------------------------------------------------
-- Unique Decoding
------------------------------------------------------------

namespace Delimited

variable {α : Type}

/- The blocks in order, each followed by the delimiter. -/
def delimited
    (d : α)
    (blocks : List (List α)) : List α :=
  blocks.flatMap (fun block => block ++ [d])

@[simp] theorem delimited_cons
    (d : α)
    (block : List α)
    (blocks : List (List α)) :
    delimited d (block :: blocks) =
      block ++ d :: delimited d blocks := by
  simp [delimited]

/- The first delimiter ends the first block. -/
theorem block_eq_of_append_cons_eq
    {d : α}
    {b b' rest rest' : List α}
    (hFree : d ∉ b)
    (hFree' : d ∉ b')
    (hEq : b ++ d :: rest = b' ++ d :: rest') :
    b = b' ∧ rest = rest' := by
  induction b generalizing b' with
  | nil =>
      cases b' with
      | nil => simpa using hEq
      | cons x b' =>
          have hHead : d = x := by
            simpa using congrArg List.head? hEq
          exact absurd (hHead ▸ List.mem_cons_self) hFree'
  | cons x b ih =>
      cases b' with
      | nil =>
          have hHead : x = d := by
            simpa using congrArg List.head? hEq
          exact absurd (hHead ▸ List.mem_cons_self) hFree
      | cons y b' =>
          rw [List.cons_append, List.cons_append,
            List.cons.injEq] at hEq
          rcases ih
              (fun hMem => hFree (List.mem_cons_of_mem _ hMem))
              (fun hMem =>
                hFree' (List.mem_cons_of_mem _ hMem))
              hEq.2 with ⟨hBlock, hRest⟩
          exact ⟨by rw [hEq.1, hBlock], hRest⟩

/- A delimited stream determines its blocks. -/
theorem delimited_injective
    {d : α}
    {blocks blocks' : List (List α)}
    (hFree : ∀ b ∈ blocks, d ∉ b)
    (hFree' : ∀ b ∈ blocks', d ∉ b)
    (hEq : delimited d blocks = delimited d blocks') :
    blocks = blocks' := by
  induction blocks generalizing blocks' with
  | nil =>
      cases blocks' with
      | nil => rfl
      | cons b' rest' => simp [delimited] at hEq
  | cons b rest ih =>
      cases blocks' with
      | nil => simp [delimited] at hEq
      | cons b' rest' =>
          rw [delimited_cons, delimited_cons] at hEq
          rcases block_eq_of_append_cons_eq
              (hFree b List.mem_cons_self)
              (hFree' b' List.mem_cons_self) hEq with
            ⟨hBlock, hRest⟩
          have hTail :=
            ih (fun b hb => hFree b (List.mem_cons_of_mem _ hb))
              (fun b hb => hFree' b (List.mem_cons_of_mem _ hb))
              hRest
          rw [hBlock, hTail]

end Delimited

------------------------------------------------------------
-- Texts As Blocks
------------------------------------------------------------

namespace Delimited

/- The UTF-8 bytes of a text. -/
def utf8Bytes
    (s : String) : List UInt8 :=
  s.toUTF8.data.toList

/- Distinct texts have distinct bytes. -/
theorem utf8Bytes_injective
    {s t : String}
    (hEq : utf8Bytes s = utf8Bytes t) :
    s = t := by
  have hData : s.toUTF8.data = t.toUTF8.data :=
    Array.toList_inj.mp hEq
  have hBytes : s.toUTF8 = t.toUTF8 :=
    ByteArray.ext hData
  exact String.toByteArray_inj.mp hBytes

/- The bytes of a text are those of its characters. -/
theorem utf8Bytes_eq_flatMap
    (s : String) :
    utf8Bytes s = s.toList.flatMap String.utf8EncodeChar := by
  have hBytes : s.toUTF8 = s.toList.utf8Encode := by
    exact String.utf8Encode_toList.symm
  unfold utf8Bytes
  rw [hBytes]
  simp [List.utf8Encode]

/- A byte built from a small number is not 0xFF. -/
theorem ofNat_ne_of_lt
    {n : Nat}
    (hSmall : n < 0xff) :
    UInt8.ofNat n ≠ 0xff := by
  intro hEq
  have hNat := congrArg UInt8.toNat hEq
  rw [UInt8.toNat_ofNat'] at hNat
  have hMod : n % 2 ^ 8 = n := Nat.mod_eq_of_lt (by omega)
  rw [hMod] at hNat
  have hLast : (0xff : UInt8).toNat = 0xff := rfl
  omega

/- No leading or continuation byte of UTF-8 is 0xFF. -/
theorem mem_utf8EncodeChar_ne
    {c : Char}
    {b : UInt8}
    (hMem : b ∈ String.utf8EncodeChar c) :
    b ≠ 0xff := by
  unfold String.utf8EncodeChar at hMem
  dsimp only at hMem
  split at hMem
  · rcases List.mem_singleton.mp hMem with rfl
    exact ofNat_ne_of_lt (by omega)
  · split at hMem
    · simp only [List.mem_cons, List.not_mem_nil,
        or_false] at hMem
      rcases hMem with rfl | rfl <;>
        exact ofNat_ne_of_lt (by omega)
    · split at hMem
      · simp only [List.mem_cons, List.not_mem_nil,
          or_false] at hMem
        rcases hMem with rfl | rfl | rfl <;>
          exact ofNat_ne_of_lt (by omega)
      · simp only [List.mem_cons, List.not_mem_nil,
          or_false] at hMem
        rcases hMem with rfl | rfl | rfl | rfl <;>
          exact ofNat_ne_of_lt (by omega)

/- The byte 0xFF occurs in no text. -/
theorem not_mem_utf8Bytes
    (s : String) :
    (0xff : UInt8) ∉ utf8Bytes s := by
  intro hMem
  rw [utf8Bytes_eq_flatMap, List.mem_flatMap] at hMem
  rcases hMem with ⟨c, _, hByte⟩
  exact mem_utf8EncodeChar_ne hByte rfl

/- The bytes of texts in order, each ended by 0xFF. -/
def delimitedTexts
    (texts : List String) : List UInt8 :=
  delimited 0xff (texts.map utf8Bytes)

/- A stream of delimited texts determines the texts. -/
theorem delimitedTexts_injective
    {texts texts' : List String}
    (hEq : delimitedTexts texts = delimitedTexts texts') :
    texts = texts' := by
  have hFree :
      ∀ (ts : List String), ∀ b ∈ ts.map utf8Bytes,
        (0xff : UInt8) ∉ b := by
    intro ts b hMem
    rcases List.mem_map.mp hMem with ⟨s, _, rfl⟩
    exact not_mem_utf8Bytes s
  have hBlocks :=
    delimited_injective (hFree texts) (hFree texts') hEq
  have hInjective : Function.Injective utf8Bytes := by
    intro s t hBytes
    exact utf8Bytes_injective hBytes
  exact List.map_injective_iff.mpr hInjective hBlocks

end Delimited
