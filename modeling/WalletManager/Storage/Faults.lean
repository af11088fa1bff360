import WalletManager.Storage.Postgres

/-!
# Failing store calls

A store call may fail for reasons outside the service. It then has no effect, with two
exceptions: a failed commit rolls the transaction back, and `RecordBalanceEvent` on Postgres
is an insert followed by a separate query, so it may fail after its insert has taken effect.
-/

namespace WalletManager

open Interaction

/-- The stores that a failed call may leave. -/
def StoreCall.FailsTo (s : Store) : StoreCall → Store → Prop
  | .commitTx, s' | .rollbackTx, s' => s' = s.rollbackTx.2
  | .recordBalanceEvent e, s' => s' = s ∨ s' = (s.recordBalanceEvent e).2
  | _, s' => s' = s

/-- How calls are answered when store calls may fail, which they do only if `faulty`. A
failure wraps none of the errors that callers recognise. -/
def faultStep (lib : Lib) (faulty : Prop) (s : Store) : (c : Call) → Answer c → Store → Prop
  | .store c, r, s' => memStep lib s (.store c) r s' ∨
    faulty ∧ c.FailsTo s s' ∧ ∃ err, r = .error err ∧ err.is = none
  | .ext c, r, s' => memStep lib s (.ext c) r s'

/-- How calls are answered when any store call may fail at any time, for any reason, before
or after it has taken effect. -/
def lossyStep (lib : Lib) (s : Store) : (c : Call) → Answer c → Store → Prop
  | .store c, r, s' => memStep lib s (.store c) r s' ∨
    (∃ err, r = .error err) ∧ (s' = s ∨ s' = (s.handle lib c).2)
  | .ext c, r, s' => memStep lib s (.ext c) r s'

/-- The databases that a failed call may leave. -/
def StoreCall.PgFailsTo (s : PgStore) : StoreCall → PgStore → Prop
  | .recordBalanceEvent e, s' => s' = s ∨ ∃ rowID, s' = (s.recordBalanceEvent ⟨rowID, e⟩).2
  | _, s' => s' = s

/-- How calls are answered over Postgres, outside a transaction, when the calls that are `faulty` may
fail; `answers` are the answers of the other services. -/
def pgStep (db : Database) (faulty : StoreCall → Prop) (answers : (c : ExtCall) → c.Answer → Prop)
    (s : PgStore) : (c : Call) → Answer c → PgStore → Prop
  | .store c, r, s' => (∃ h rowID, (r, s') = s.handle db ⟨c, h, rowID⟩) ∨
    faulty c ∧ c.PgFailsTo s s' ∧ ∃ err, r = .error err ∧ err.is = none
  | .ext c, r, s' => answers c r ∧ s' = s

lemma memStep_lossyStep {lib : Lib} {s s' : Store} {c : Call} {r : Answer c}
    (h : memStep lib s c r s') : lossyStep lib s c r s' := by
  cases c with
  | store c => exact .inl h
  | ext c => exact h

lemma lossyStep_ok {lib : Lib} {s s' : Store} {c : StoreCall} {a : c.Result}
    (hs : lossyStep lib s (.store c) (.ok a) s') : s.handle lib c = (.ok a, s') := by
  rcases hs with hs | ⟨⟨err, herr⟩, -⟩
  · exact hs.symm
  · cases herr

lemma lossyStep_state {lib : Lib} {s s' : Store} {c : StoreCall} {r : Except Error c.Result}
    (hs : lossyStep lib s (.store c) r s') : s' = s ∨ s' = (s.handle lib c).2 := by
  rcases hs with hs | ⟨-, hs⟩
  · exact .inr (congrArg Prod.snd hs)
  · exact hs

lemma memStep_faultStep {lib : Lib} (faulty : Prop) {s s' : Store} {c : Call} {r : Answer c}
    (h : memStep lib s c r s') : faultStep lib faulty s c r s' := by
  cases c with
  | store c => exact .inl h
  | ext c => exact h

end WalletManager
