import Solvela.Foundations.Delimited
import Solvela.Foundations.Recency
import Solvela.Protocol

/-
  The response cache: an LRU map with a lifetime and a window
  in which a second store is dropped.

  Times are readings of a monotone clock, in nanoseconds.
  The mutex is held for the whole of `get` and of `put`, and
  nothing panics under it, so both are single steps.

  Key definitions include:
    * `CacheEntry`, `ResponseCache`
    * `ResponseCache.cacheKeyStream`
    * `ResponseCache.get`, `ResponseCache.put`
-/

------------------------------------------------------------
-- Durations
------------------------------------------------------------

namespace Solvela

/- A whole number of seconds, in nanoseconds. -/
def durationFromSecs
    (secs : Nat) : Nat :=
  secs * 1000000000

end Solvela

------------------------------------------------------------
-- Cache State
------------------------------------------------------------

namespace Solvela

/- A response, and the clock when it was stored. -/
structure CacheEntry where
  response : ChatResponse
  inserted : Nat

/- The cache over an LRU map with carrier `C`. -/
structure ResponseCache (C : Type) where
  inner : C
  ttl : Nat
  dedupWindow : Nat

namespace ResponseCache

open Recency

variable {C : Type}

/- How many responses are kept. -/
def defaultMaxEntries : Nat := 200

/- How many seconds a response is kept. -/
def defaultTtlSecs : Nat := 600

/- For how many seconds a second response is dropped. -/
def defaultDedupWindowSecs : Nat := 30

/- An empty cache; a capacity of zero is read as one. -/
def withConfig
    (ops : LruOps C UInt64 CacheEntry)
    (maxEntries ttl dedupWindow : Nat) :
    ResponseCache C where
  inner := ops.new (if maxEntries = 0 then 1 else maxEntries)
  ttl := ttl
  dedupWindow := dedupWindow

/- A cache with the defaults. -/
def new
    (ops : LruOps C UInt64 CacheEntry) :
    ResponseCache C :=
  withConfig ops defaultMaxEntries
    (durationFromSecs defaultTtlSecs)
    (durationFromSecs defaultDedupWindowSecs)

/- The number of entries held. -/
def len
    (ops : LruOps C UInt64 CacheEntry)
    (cache : ResponseCache C) : Nat :=
  ops.len cache.inner

end ResponseCache

end Solvela

------------------------------------------------------------
-- Keys
------------------------------------------------------------

namespace Solvela

namespace ResponseCache

/-
  The bytes that `cacheKey` feeds to its hasher: the model,
  then the role and the content of each message.  Hashing a
  text feeds its UTF-8 bytes and the byte 0xFF.
-/
def cacheKeyStream
    (roleToString : Role → String)
    (model : String)
    (messages : List ChatMessage) : List UInt8 :=
  Delimited.delimitedTexts
    (model :: messages.flatMap
      (fun msg => [roleToString msg.role, msg.content]))

/- The hash of the model and of the messages. -/
def cacheKey
    (aHasher : List UInt8 → UInt64)
    (roleToString : Role → String)
    (model : String)
    (messages : List ChatMessage) : UInt64 :=
  aHasher (cacheKeyStream roleToString model messages)

end ResponseCache

end Solvela

------------------------------------------------------------
-- Look-Up And Store
------------------------------------------------------------

namespace Solvela

namespace ResponseCache

open Recency

variable {C : Type}

/-
  Look a key up at a clock reading.  An entry older than the
  lifetime is removed; a live one becomes the most recent.
-/
def get
    (ops : LruOps C UInt64 CacheEntry)
    (cache : ResponseCache C)
    (now : Nat)
    (key : UInt64) :
    Option ChatResponse × ResponseCache C :=
  match ops.peek cache.inner key with
  | none => (none, cache)
  | some entry =>
      if now - entry.inserted > cache.ttl then
        (none, { cache with inner := ops.pop cache.inner key })
      else
        let found := ops.get cache.inner key
        (found.1.map CacheEntry.response,
          { cache with inner := found.2 })

/- A store under `key` at reading `now` would be dropped. -/
def suppresses
    (ops : LruOps C UInt64 CacheEntry)
    (cache : ResponseCache C)
    (now : Nat)
    (key : UInt64) : Bool :=
  match ops.peek cache.inner key with
  | some existing =>
      decide (now - existing.inserted < cache.dedupWindow)
  | none => false

/-
  Store a response.  The age of an existing entry is read at
  `now` and the new entry is stamped at `inserted`.
-/
def put
    (ops : LruOps C UInt64 CacheEntry)
    (cache : ResponseCache C)
    (now inserted : Nat)
    (key : UInt64)
    (response : ChatResponse) : ResponseCache C :=
  if cache.suppresses ops now key then
    cache
  else
    { cache with
      inner := ops.put cache.inner key
        { response := response, inserted := inserted } }

end ResponseCache

end Solvela
