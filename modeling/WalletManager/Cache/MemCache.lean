import WalletManager.Lock.MemLocker

/-!
# The process-local cache

`cache.MemCache`, in which the derivers keep addresses, next to the memory store and the locks.
-/

namespace WalletManager

open Interaction

/-- `cache.MemCache`; when an entry expires is left to the reading. -/
structure MemCache where
  data : Table String String := ∅

namespace MemCache

/-- The flag `expired` tells whether the clock is past the time of the entry. -/
def get (m : MemCache) (key : String) (expired : Bool) : Except Error (String × Bool) × MemCache :=
  match m.data.lookup key with
  | none => (.ok ("", false), { data := m.data.erase key })
  | some value =>
    if expired then (.ok ("", false), { data := m.data.erase key })
    else (.ok (value, true), m)

def set (m : MemCache) (key value : String) : Except Error Unit × MemCache :=
  (.ok (), { data := m.data.insert key value })

end MemCache

structure CachedWorld extends World where
  cache : MemCache := {}

/-- How calls are answered when the derivers use the cache. -/
def cachedStep (lib : Lib) (denials : Prop) (W : CachedWorld) : (c : Call) → Answer c → CachedWorld → Prop
  | .ext (.cacheGet key), r, W' =>
    (∃ expired, (r, W'.cache) = W.cache.get key expired) ∧ W'.toWorld = W.toWorld
  | .ext (.cacheSet key value), r, W' =>
    (r, W'.cache) = W.cache.set key value ∧ W'.toWorld = W.toWorld
  | c, r, W' => lockStep lib denials W.toWorld c r W'.toWorld ∧ W'.cache = W.cache

end WalletManager
