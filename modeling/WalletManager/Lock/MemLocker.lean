import WalletManager.Storage.Calls

/-!
# The process-local locker

`lock.MemLocker`, and the memory store together with it as the state that concurrent calls share.
-/

namespace WalletManager

open Interaction

/-- `lock.MemLocker`: the names that are held, with the token of the holder. -/
structure MemLocker where
  locks : Table String String := ∅
  deriving DecidableEq

namespace MemLocker

/-- The argument `token` is the new token. -/
def acquire (l : MemLocker) (name token : String) : Except Error (String × Bool) × MemLocker :=
  if name ∈ l.locks then (.ok ("", false), l)
  else (.ok (token, true), { locks := l.locks.insert name token })

def release (l : MemLocker) (name token : String) : Except Error Unit × MemLocker :=
  if l.locks.lookup name = some token then (.ok (), { locks := l.locks.erase name })
  else (.ok (), l)

end MemLocker

structure World where
  store : Store := {}
  locker : MemLocker := {}

/-- How calls are answered over the memory store and the locker. Where `denials` holds, the lock
may also be denied for other reasons than that it is held; the other parties answer anything. -/
def lockStep (lib : Lib) (denials : Prop) (w : World) : (c : Call) → Answer c → World → Prop
  | .ext (.acquire name _), r, w' =>
    (∃ token, (r, w'.locker) = w.locker.acquire name token ∧ w'.store = w.store) ∨
    denials ∧ (∃ token, r = .ok (token, false)) ∧ w' = w
  | .ext (.release name token), r, w' =>
    (r, w'.locker) = w.locker.release name token ∧ w'.store = w.store
  | c, r, w' => memStep lib w.store c r w'.store ∧ w'.locker = w.locker

end WalletManager
