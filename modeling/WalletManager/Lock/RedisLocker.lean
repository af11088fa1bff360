import WalletManager.Domain
import WalletManager.Interaction.Program

/-!
# The Redis locker

`lock.RedisLocker` as programs over single Redis commands, and the part of Redis that they use:
keys with a value and a time to live. Time passes between commands.
-/

namespace WalletManager

open Interaction

/-- The commands that the locker sends, and the passing of time. -/
inductive RedisCall
  /-- `SET key value NX PX ttl`; without a time to live for `ttl = 0`. -/
  | setNX (key value : String) (ttl : Nat)
  | get (key : String)
  | del (key : String)
  | tick (ms : Nat)
  deriving DecidableEq

/-- The reply to a command; `get` replies `none` for `redis.Nil`. -/
abbrev RedisCall.Reply : RedisCall → Type
  | setNX _ _ _ => Bool
  | get _ => Option String
  | del _ => Nat
  | tick _ => Unit

abbrev RedisAnswer (c : RedisCall) : Type := Except Error c.Reply

structure RedisEntry where
  value : String
  deadline : Option Nat
  deriving DecidableEq

structure Redis where
  now : Nat := 0
  entries : Table String RedisEntry := ∅

namespace Redis

def expiry (now ttl : Nat) : Option Nat := if ttl = 0 then none else some (now + ttl)

/-- The entry of a key, unless its time is up. -/
def live (R : Redis) (key : String) : Option RedisEntry :=
  (R.entries.lookup key).filter (fun e => e.deadline.all (R.now < ·))

def handle (R : Redis) : (c : RedisCall) → RedisAnswer c × Redis
  | .setNX key value ttl =>
    match R.live key with
    | some _ => (.ok false, R)
    | none => (.ok true, { R with entries := R.entries.insert key ⟨value, expiry R.now ttl⟩ })
  | .get key => (.ok ((R.live key).map RedisEntry.value), R)
  | .del key => (.ok (if (R.live key).isSome then 1 else 0), { R with entries := R.entries.erase key })
  | .tick ms => (.ok (), { R with now := R.now + ms })

end Redis

/-- A command is executed, or it fails: it never reached Redis, or its reply was lost. -/
def redisStep (R : Redis) (c : RedisCall) (r : RedisAnswer c) (R' : Redis) : Prop :=
  (r, R') = R.handle c ∨
    ((∀ ms, c ≠ .tick ms) ∧ (∃ err, r = .error err) ∧ (R' = R ∨ R' = (R.handle c).2))

abbrev RedisProc (α : Type) := Prog RedisCall RedisAnswer α

def redis (c : RedisCall) : RedisProc (RedisAnswer c) := .call c .ret

namespace RedisLocker

def key (name : String) : String := "lock:" ++ name

/-- `RedisLocker.Acquire`, with the new token as an argument. -/
def acquire (name : String) (ttl : Nat) (token : String) : RedisProc (Except Error (String × Bool)) := do
  match ← redis (.setNX (key name) token ttl) with
  | .error err => return .error err
  | .ok ok => return .ok (token, ok)

/-- `RedisLocker.Release` -/
def release (name token : String) : RedisProc (Except Error Unit) := do
  match ← redis (.get (key name)) with
  | .error err => return .error err
  | .ok none => return .ok ()
  | .ok (some cur) =>
    if cur ≠ token then return .error ⟨"lock token mismatch", none⟩
    else match ← redis (.del (key name)) with
      | .error err => return .error err
      | .ok _ => return .ok ()

end RedisLocker

inductive LockOp
  | acquire (name : String) (ttl : Nat) (token : String)
  | release (name token : String)
  | tick (ms : Nat)
  deriving DecidableEq

def LockOp.proc : LockOp → RedisProc (Except Error (Option (String × Bool)))
  | acquire name ttl token => do return (← RedisLocker.acquire name ttl token).map some
  | release name token => do return (← RedisLocker.release name token).map (fun _ => none)
  | tick ms => do return (← redis (.tick ms)).map (fun _ => none)

end WalletManager
