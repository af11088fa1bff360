import WalletManager.Storage.Calls

/-!
# The audit outbox

`audit.EmitterService`: an event is written to the outbox with a sequence number of its wallet,
and a drain hands the undelivered rows to the sink and marks them.
-/

namespace WalletManager

open Interaction

/-- `audit.Event`; the wallet may be nil. -/
structure Emission where
  eventType : String
  walletID : Option UUID
  payload : List (String × AuditValue)
  deriving DecidableEq

/-- What an emission takes from outside: the new identifiers and the reading of the clock. -/
structure OutboxFresh where
  rowID : UUID
  eventID : UUID
  unixNano : Int
  deriving DecidableEq

structure EmitterService where
  /-- `json.Marshal` -/
  marshal : List (String × AuditValue) → Except Error Bytes
  hasSink : Bool := true

namespace EmitterService

variable (svc : EmitterService)

def emit (ev : Emission) (fresh : OutboxFresh) : Proc (Except Error Unit) := do
  match svc.marshal ev.payload with
  | .error err => return .error (err.wrap "marshal audit payload")
  | .ok payload =>
    match ev.walletID with
    | none => append payload fresh.unixNano
    | some walletID =>
      match ← store (.nextAuditSeq walletID) with
      | .error err => return .error (err.wrap "next audit seq")
      | .ok seq => append payload seq
where
  append (payload : Bytes) (seq : Int) : Proc (Except Error Unit) :=
    store (.appendAuditEvent
      { id := fresh.rowID, eventID := fresh.eventID, walletID := ev.walletID,
        eventType := ev.eventType, payload := payload, seq := seq })

/-- The last loop of `Drain`. -/
def markAll : List AuditOutboxEvent → Proc (Except Error Unit)
  | [] => return .ok ()
  | ev :: events => do
    match ← store (.markAuditDelivered ev.id) with
    | .error err => return .error err
    | .ok () => markAll events

def drain : Proc (Except Error Unit) := do
  match ← store (.listUndeliveredAuditEvents 100) with
  | .error err => return .error err
  | .ok events =>
    if events.length = 0 then return .ok ()
    else if svc.hasSink then
      match ← ext (.deliver events) with
      | .error err => return .error err
      | .ok () => markAll events
    else markAll events

end EmitterService

/-- How calls are answered when the events of the services go to the outbox, each with an identifier that
is not in use; `answers` are the answers of the other parties. -/
def auditedStep (lib : Lib) (em : EmitterService) (answers : (c : ExtCall) → c.Answer → Prop) (s : Store) :
    (c : Call) → Answer c → Store → Prop
  | .ext (.emit e), r, s' => ∃ fresh tr, (∀ row ∈ s.auditOutbox, row.eventID ≠ fresh.eventID) ∧
    Exec (memStep lib) (em.emit ⟨e.eventType, some e.walletID, e.payload⟩ fresh) s tr r s'
  | .ext c, r, s' => answers c r ∧ s' = s
  | .store c, r, s' => memStep lib s (.store c) r s'

inductive OutboxOp
  | emit (ev : Emission) (fresh : OutboxFresh)
  | drain
  deriving DecidableEq

def OutboxOp.proc (svc : EmitterService) : OutboxOp → Proc (Except Error Unit)
  | emit ev fresh => svc.emit ev fresh
  | drain => svc.drain

end WalletManager
