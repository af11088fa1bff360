import WalletManager.Balance.Service
import WalletManager.Storage.Faults

/-!
# What one operation of the balance service can do

`BalanceOutcome` lists every way an operation can end, also when store calls fail: whether
its transaction committed, what it returned, and the balances and dedup records it leaves.
-/

namespace WalletManager.Proofs

open Interaction

def commitOf : Event Call Answer → Option Unit
  | ⟨.store .commitTx, .ok _⟩ => some ()
  | _ => none

def balanceRow (s : Store) (walletID : UUID) (asset : String) : Balance :=
  (s.balances.lookup (balanceKey walletID asset)).getD { walletID := walletID, asset := asset }

/-- The balances after a reorg event; a missing row stays missing. -/
def demotedTable (svc : BalanceService) (s : Store) (ev : ReorgEvent) : Table String Balance :=
  match s.balances.lookup (balanceKey ev.walletID ev.asset) with
  | none => s.balances
  | some cur => s.balances.insert (balanceKey ev.walletID ev.asset) (svc.demotedRow ev cur)

structure Books (s : Store) (balances : Table String Balance) (events : Finset String) : Prop where
  balances : s.balances = balances
  events : s.balanceEvents = events
  depth : s.depth = 0

/-- The ways an operation can end; only a fault keeps a confirmation event from being
credited or recognised as a duplicate. -/
inductive BalanceOutcome (svc : BalanceService) (faulty : Prop) (s : Store) :
    BalanceOp → List Unit → Except Error Unit → Store → Prop
  | duplicate {ev : ConfirmationEvent} {s' : Store} : ev.balanceEvent.key ∈ s.balanceEvents →
    Books s' s.balances s.balanceEvents → BalanceOutcome svc faulty s (.confirm ev) [] (.ok ()) s'
  | unrecorded {ev : ConfirmationEvent} {err : Error} {s' : Store} : faulty →
    Books s' s.balances s.balanceEvents →
    BalanceOutcome svc faulty s (.confirm ev) [] (.error err) s'
  | lost {ev : ConfirmationEvent} {err : Error} {s' : Store} : faulty →
    ev.balanceEvent.key ∉ s.balanceEvents →
    Books s' s.balances (insert ev.balanceEvent.key s.balanceEvents) →
    BalanceOutcome svc faulty s (.confirm ev) [] (.error err) s'
  | credited {ev : ConfirmationEvent} {s' : Store} : ev.balanceEvent.key ∉ s.balanceEvents →
    Books s' (s.balances.insert (balanceKey ev.walletID ev.asset)
      (svc.creditedRow ev (balanceRow s ev.walletID ev.asset)))
      (insert ev.balanceEvent.key s.balanceEvents) →
    BalanceOutcome svc faulty s (.confirm ev) [()] (.ok ()) s'
  | demoted {ev : ReorgEvent} {r : Except Error Unit} {s' : Store} :
    Books s' (demotedTable svc s ev) s.balanceEvents →
    BalanceOutcome svc faulty s (.reorg ev) [()] r s'
  | relocked {op : BalanceOp} {walletID : UUID} {asset locked : String} {cur : Balance} {s' : Store} :
    (∀ ev, op ≠ .confirm ev) → (∀ ev, op ≠ .reorg ev) →
    s.balances.lookup (balanceKey walletID asset) = some cur →
    Books s' (s.balances.insert (balanceKey walletID asset)
      { cur with walletID := walletID, asset := asset, locked := locked }) s.balanceEvents →
    BalanceOutcome svc faulty s op [()] (.ok ()) s'
  | aborted {op : BalanceOp} {err : Error} {s' : Store} : (∀ ev, op ≠ .confirm ev) →
    (∀ ev, op = .reorg ev → faulty) → Books s' s.balances s.balanceEvents →
    BalanceOutcome svc faulty s op [] (.error err) s'

section Rules

variable {α β : Type} {lib : Lib} {faulty : Prop} {s : Store} {Q : List Unit → α → Store → Prop}

abbrev Booking (lib : Lib) (faulty : Prop) (p : Proc α) (s : Store)
    (Q : List Unit → α → Store → Prop) : Prop :=
  Ends (faultStep lib faulty) commitOf p s Q

lemma booking_store {c : StoreCall} {f : Except Error c.Result → Proc α}
    (hok : Booking lib faulty (f (s.handle lib c).1) (s.handle lib c).2
      (fun l a s' => Q ((commitOf ⟨.store c, (s.handle lib c).1⟩).toList ++ l) a s'))
    (hfail : faulty → ∀ err s₁, err.is = none → c.FailsTo s s₁ →
      Booking lib faulty (f (.error err)) s₁ (fun l a s' => Q l a s')) :
    Booking lib faulty (store c >>= f) s Q := by
  refine ends_call.mpr ?_
  rintro r s₁ (hs | ⟨hf, hto, err, rfl, hplain⟩)
  · obtain rfl : s₁ = (s.handle lib c).2 := congrArg Prod.snd hs
    obtain rfl : r = (s.handle lib c).1 := congrArg Prod.fst hs
    exact hok
  · have hnone : commitOf ⟨.store c, .error err⟩ = none := by cases c <;> rfl
    rw [hnone]
    exact hfail hf err s₁ hplain hto

lemma booking_ext {c : ExtCall} {f : c.Answer → Proc α}
    (h : ∀ r, Booking lib faulty (f r) s (fun l a s' => Q l a s')) :
    Booking lib faulty (ext c >>= f) s Q := by
  refine ends_call.mpr ?_
  rintro r s₁ rfl
  exact h r

def opened (s : Store) : Store := { s with depth := 1, snapshot := s.toTables }

lemma inTx_booking {body : Proc (Except Error Unit)} (hdepth : s.depth = 0)
    {B : Except Error Unit → Store → Prop}
    (hbody : Booking lib faulty body (opened s) (fun l r s₁ => l = [] ∧ s₁.depth = 1 ∧
      s₁.snapshot = s.toTables ∧ B r s₁)) :
    Booking lib faulty (inTx body) s (fun l r s' =>
      (r = .ok () ∧ l = [()] ∧ ∃ s₁, B (.ok ()) s₁ ∧ s' = { s₁ with depth := 0 }) ∨
      (∃ err, r = .error err ∧ l = [] ∧ s'.toTables = s.toTables ∧ s'.depth = 0 ∧
        (faulty ∨ ∃ err₁ s₁, B (.error err₁) s₁))) := by
  have hrolled : ∀ s₁ : Store, s₁.depth = 1 → s₁.snapshot = s.toTables →
      s₁.rollbackTx.2.toTables = s.toTables ∧ s₁.rollbackTx.2.depth = 0 := by
    intro s₁ hd hsnap
    rw [Store.rollbackTx, if_pos (by omega)]
    exact ⟨hsnap, rfl⟩
  unfold inTx
  apply booking_store
  · dsimp only [Store.handle]
    rw [Store.beginTx, if_pos hdepth]
    refine Ends.bind hbody ?_
    rintro l (err | _) s₁ ⟨rfl, hd, hsnap, hB⟩
    · have hend := hrolled s₁ hd hsnap
      apply booking_store
      · exact ends_ret.mpr (.inr ⟨err, rfl, rfl, hend.1, hend.2, .inr ⟨err, s₁, hB⟩⟩)
      · rintro hf err' s₂ - rfl
        exact ends_ret.mpr (.inr ⟨err, rfl, rfl, hend.1, hend.2, .inl hf⟩)
    · refine ends_call.mpr ?_
      rintro r s₂ (hs | ⟨hf, rfl, err, rfl, -⟩)
      · obtain ⟨rfl, rfl⟩ := Prod.mk.inj (show (r, s₂) = s₁.commitTx from hs)
        refine ends_ret.mpr (.inl ⟨rfl, rfl, s₁, hB, ?_⟩)
        rw [hd]
      · have hend := hrolled s₁ hd hsnap
        exact ends_ret.mpr (.inr ⟨err, rfl, rfl, hend.1, hend.2, .inl hf⟩)
  · rintro hf err s₁ - rfl
    exact ends_ret.mpr (.inr ⟨err, rfl, rfl, rfl, hdepth, .inl hf⟩)

end Rules

section Bodies

variable {svc : BalanceService} {lib : Lib} {faulty : Prop} {s : Store}

lemma getBalance_booking {α : Type} {walletID : UUID} {asset : String}
    {f : Except Error Balance → Proc α} {Q : List Unit → α → Store → Prop}
    (hrow : ∀ cur, s.balances.lookup (balanceKey walletID asset) = some cur →
      Booking lib faulty (f (.ok cur)) s Q)
    (hnone : s.balances.lookup (balanceKey walletID asset) = none →
      ∀ err, err.is = some .errNoRows → Booking lib faulty (f (.error err)) s Q)
    (hfail : faulty → ∀ err, err.is = none → Booking lib faulty (f (.error err)) s Q) :
    Booking lib faulty (store (.getBalance walletID asset) >>= f) s Q := by
  apply booking_store
  · change Booking lib faulty (f (s.getBalance walletID asset)) s Q
    unfold Store.getBalance
    split
    · rename_i hlookup
      exact hnone hlookup _ rfl
    · rename_i cur hlookup
      exact hrow cur hlookup
  · rintro hf err s₁ hplain rfl
    exact hfail hf err hplain

lemma write_booking (ev : ConfirmationEvent) (cur : Balance) :
    Booking lib faulty (BalanceService.credit.write svc ev cur) s (fun l r s' => l = [] ∧
      ((r = .ok () ∧ s' = (s.upsertBalance (svc.creditedRow ev cur)).2) ∨
        (∃ err, r = .error err ∧ faulty ∧ s' = s))) := by
  apply booking_store
  · dsimp only [Store.handle, Store.upsertBalance]
    split
    · exact booking_ext (fun _ => ends_ret.mpr ⟨rfl, .inl ⟨rfl, rfl⟩⟩)
    · exact ends_ret.mpr ⟨rfl, .inl ⟨rfl, rfl⟩⟩
  · rintro hf err s₁ - rfl
    exact ends_ret.mpr ⟨rfl, .inr ⟨err, rfl, hf, rfl⟩⟩

lemma credit_booking (ev : ConfirmationEvent) :
    Booking lib faulty (svc.credit ev) s (fun l r s' => l = [] ∧
      ((r = .ok () ∧
          s' = (s.upsertBalance (svc.creditedRow ev (balanceRow s ev.walletID ev.asset))).2) ∨
        (∃ err, r = .error err ∧ faulty ∧ s' = s))) := by
  refine getBalance_booking ?_ ?_ ?_
  · intro cur hcur
    rw [show balanceRow s ev.walletID ev.asset = cur by rw [balanceRow, hcur]; rfl]
    exact write_booking ev cur
  · intro hnone err herr
    dsimp only
    rw [if_pos herr]
    rw [show balanceRow s ev.walletID ev.asset = { walletID := ev.walletID, asset := ev.asset } by
      rw [balanceRow, hnone]; rfl]
    exact write_booking ev _
  · intro hf err hplain
    dsimp only
    rw [if_neg (by simp [hplain])]
    exact ends_ret.mpr ⟨rfl, .inr ⟨err, rfl, hf, rfl⟩⟩

lemma demote_booking (ev : ReorgEvent) :
    Booking lib faulty (svc.demote ev) s (fun l r s' => l = [] ∧
      ((r = .ok () ∧ s' = { s with balances := demotedTable svc s ev }) ∨
        (∃ err, r = .error err ∧ faulty ∧ s' = s))) := by
  refine getBalance_booking ?_ ?_ ?_
  · intro cur hcur
    refine ends_call.mpr ?_
    rintro r s₁ (hs | ⟨hf, rfl, err, rfl, -⟩)
    · obtain ⟨rfl, rfl⟩ := Prod.mk.inj (show (r, s₁) = s.upsertBalance _ from hs)
      refine ends_ret.mpr ⟨rfl, .inl ⟨rfl, ?_⟩⟩
      rw [demotedTable, hcur]
      rfl
    · exact ends_ret.mpr ⟨rfl, .inr ⟨err, rfl, hf, rfl⟩⟩
  · intro hnone err herr
    dsimp only
    rw [if_pos herr]
    refine ends_ret.mpr ⟨rfl, .inl ⟨rfl, ?_⟩⟩
    rw [demotedTable, hnone]
  · intro hf err hplain
    dsimp only
    rw [if_neg (by simp [hplain])]
    exact ends_ret.mpr ⟨rfl, .inr ⟨err, rfl, hf, rfl⟩⟩

end Bodies

section Operations

variable {svc : BalanceService} {lib : Lib} {faulty : Prop} {s : Store}

lemma inTx_books {body : Proc (Except Error Unit)} (hdepth : s.depth = 0)
    {balances : Table String Balance}
    (hbody : Booking lib faulty body (opened s) (fun l r s₁ => l = [] ∧
      ((r = .ok () ∧ s₁ = { opened s with balances := balances }) ∨
        (∃ err, r = .error err ∧ faulty ∧ s₁ = opened s)))) :
    Booking lib faulty (inTx body) s (fun l r s' =>
      (r = .ok () ∧ l = [()] ∧ Books s' balances s.balanceEvents) ∨
      (∃ err, r = .error err ∧ l = [] ∧ faulty ∧ Books s' s.balances s.balanceEvents)) := by
  have hends : Booking lib faulty body (opened s) (fun l r s₁ => l = [] ∧ s₁.depth = 1 ∧
      s₁.snapshot = s.toTables ∧ ((r = .ok () ∧ s₁.balances = balances ∧
        s₁.balanceEvents = s.balanceEvents) ∨ (∃ err, r = .error err ∧ faulty))) := by
    refine hbody.mono ?_
    rintro l r s₁ ⟨rfl, ⟨rfl, rfl⟩ | ⟨err, rfl, hf, rfl⟩⟩
    · exact ⟨rfl, rfl, rfl, .inl ⟨rfl, rfl, rfl⟩⟩
    · exact ⟨rfl, rfl, rfl, .inr ⟨err, rfl, hf⟩⟩
  refine (inTx_booking hdepth hends).mono ?_
  rintro l r s' (⟨rfl, rfl, s₁, ⟨-, hbal, hev⟩ | ⟨err, ⟨⟩, -⟩, rfl⟩ | ⟨err, rfl, rfl, htab, hd, hwhy⟩)
  · exact .inl ⟨rfl, rfl, hbal, hev, rfl⟩
  · refine .inr ⟨err, rfl, rfl, ?_, congrArg Tables.balances htab, congrArg Tables.balanceEvents htab, hd⟩
    rcases hwhy with hf | ⟨err₁, s₁, ⟨⟨⟩, -⟩ | ⟨-, -, hf⟩⟩ <;> exact hf

lemma inTx_credit_booking (hdepth : s.depth = 0) (ev : ConfirmationEvent) :
    Booking lib faulty (inTx (svc.credit ev)) s (fun l r s' =>
      (r = .ok () ∧ l = [()] ∧ Books s' (s.balances.insert (balanceKey ev.walletID ev.asset)
        (svc.creditedRow ev (balanceRow s ev.walletID ev.asset))) s.balanceEvents) ∨
      (∃ err, r = .error err ∧ l = [] ∧ faulty ∧ Books s' s.balances s.balanceEvents)) :=
  inTx_books hdepth (credit_booking ev)

lemma applyConfirmationEvent_outcome (hdepth : s.depth = 0) (ev : ConfirmationEvent) :
    Booking lib faulty (svc.applyConfirmationEvent ev) s
      (fun l r s' => BalanceOutcome svc faulty s (.confirm ev) l r s') := by
  apply booking_store
  · dsimp only [Store.handle, Store.recordBalanceEvent]
    by_cases hdup : ev.balanceEvent.key ∈ s.balanceEvents
    · rw [if_pos hdup]
      exact ends_ret.mpr (.duplicate hdup ⟨rfl, rfl, hdepth⟩)
    · rw [if_neg hdup]
      -- the dedup record stays even if the transaction below is rolled back
      refine Ends.bind (inTx_credit_booking (by exact hdepth) ev) ?_
      rintro l r s₁ (⟨rfl, rfl, hbooks⟩ | ⟨err, rfl, rfl, hf, hbooks⟩)
      · dsimp only
        split
        · exact booking_ext (fun _ => ends_ret.mpr (.credited hdup hbooks))
        · exact ends_ret.mpr (.credited hdup hbooks)
      · exact ends_ret.mpr (.lost hf hdup hbooks)
  · rintro hf err s₁ hplain (rfl | rfl)
    · dsimp only
      rw [if_neg (by simp [hplain])]
      exact ends_ret.mpr (.unrecorded hf ⟨rfl, rfl, hdepth⟩)
    · dsimp only
      rw [if_neg (by simp [hplain])]
      refine ends_ret.mpr ?_
      unfold Store.recordBalanceEvent
      split
      · exact .unrecorded hf ⟨rfl, rfl, hdepth⟩
      · rename_i hdup
        exact .lost hf hdup ⟨rfl, rfl, hdepth⟩

/-- The two stores have the same rows in every table but those of the balance service, and the same
open transactions. -/
structure SameButBooks (s s' : Store) : Prop where
  wallets : s'.wallets = s.wallets
  addresses : s'.addresses = s.addresses
  withdrawals : s'.withdrawals = s.withdrawals
  fundingReq : s'.fundingReq = s.fundingReq
  depth : s'.depth = s.depth

lemma applyConfirmationEvent_others (hdepth : s.depth = 0) (ev : ConfirmationEvent) :
    Booking lib faulty (svc.applyConfirmationEvent ev) s (fun _ _ s' => SameButBooks s s') := by
  have hcredit : ∀ s₁ : Store, SameButBooks s s₁ →
      Booking lib faulty (inTx (svc.credit ev)) s₁ (fun _ _ s' => SameButBooks s s') := by
    intro s₁ hs₁
    have hdepth₁ : s₁.depth = 0 := hs₁.depth.trans hdepth
    have hbody : Booking lib faulty (svc.credit ev) (opened s₁) (fun l _ s₂ => l = [] ∧
        s₂.depth = 1 ∧ s₂.snapshot = s₁.toTables ∧ SameButBooks s { s₂ with depth := 0 }) := by
      refine (credit_booking ev).mono ?_
      rintro l r s₂ ⟨rfl, ⟨rfl, rfl⟩ | ⟨err, rfl, -, rfl⟩⟩ <;>
        exact ⟨rfl, rfl, rfl, hs₁.wallets, hs₁.addresses, hs₁.withdrawals, hs₁.fundingReq, hdepth.symm⟩
    refine (inTx_booking hdepth₁ hbody).mono ?_
    rintro l r s' (⟨-, -, s₂, hs₂, rfl⟩ | ⟨err, -, -, htables, hdepth', -⟩)
    · exact hs₂
    · exact ⟨(congrArg Tables.wallets htables).trans hs₁.wallets,
        (congrArg Tables.addresses htables).trans hs₁.addresses,
        (congrArg Tables.withdrawals htables).trans hs₁.withdrawals,
        (congrArg Tables.fundingReq htables).trans hs₁.fundingReq, hdepth'.trans hdepth.symm⟩
  have hrecord : SameButBooks s (s.recordBalanceEvent ev.balanceEvent).2 := by
    unfold Store.recordBalanceEvent
    split <;> exact ⟨rfl, rfl, rfl, rfl, rfl⟩
  apply booking_store
  · dsimp only [Store.handle]
    split
    · split <;> exact ends_ret.mpr hrecord
    · refine Ends.bind (hcredit _ hrecord) ?_
      rintro l (err | _) s₁ hs₁
      · exact ends_ret.mpr hs₁
      · dsimp only
        split
        · exact booking_ext (fun _ => ends_ret.mpr hs₁)
        · exact ends_ret.mpr hs₁
  · rintro - err s₁ hplain hto
    dsimp only
    rw [if_neg (by simp [hplain])]
    rcases hto with rfl | rfl
    · exact ends_ret.mpr ⟨rfl, rfl, rfl, rfl, rfl⟩
    · exact ends_ret.mpr hrecord

lemma inTx_demote_booking (hdepth : s.depth = 0) (ev : ReorgEvent) :
    Booking lib faulty (inTx (svc.demote ev)) s (fun l r s' =>
      (r = .ok () ∧ l = [()] ∧ Books s' (demotedTable svc s ev) s.balanceEvents) ∨
      (∃ err, r = .error err ∧ l = [] ∧ faulty ∧ Books s' s.balances s.balanceEvents)) :=
  inTx_books hdepth (demote_booking ev)

lemma audit_booking {s₁ : Store} (ev : ReorgEvent) (h : Books s₁ (demotedTable svc s ev) s.balanceEvents) :
    Booking lib faulty (BalanceService.applyReorgEvent.audit svc ev) s₁
      (fun l r s' => BalanceOutcome svc faulty s (.reorg ev) ([()] ++ l) r s') := by
  unfold BalanceService.applyReorgEvent.audit
  split
  · exact booking_ext (fun _ => ends_ret.mpr (.demoted h))
  · exact ends_ret.mpr (.demoted h)

lemma applyReorgEvent_outcome (hdepth : s.depth = 0) (ev : ReorgEvent) :
    Booking lib faulty (svc.applyReorgEvent ev) s
      (fun l r s' => BalanceOutcome svc faulty s (.reorg ev) l r s') := by
  refine Ends.bind (inTx_demote_booking hdepth ev) ?_
  rintro l r s₁ (⟨rfl, rfl, hbooks⟩ | ⟨err, rfl, rfl, hf, hbooks⟩)
  · dsimp only
    split
    · apply booking_store
      · have hrestored : Books (s₁.restoreUTXOs ev.outpoints).2 (demotedTable svc s ev)
            s.balanceEvents := ⟨hbooks.balances, hbooks.events, hbooks.depth⟩
        dsimp only [Store.handle]
        split
        · exact ends_ret.mpr (.demoted hrestored)
        · exact audit_booking ev hrestored
      · rintro hf err s₂ - rfl
        exact ends_ret.mpr (.demoted hbooks)
    · exact audit_booking ev hbooks
  · exact ends_ret.mpr (.aborted nofun (fun _ _ => hf) hbooks)

lemma relock_outcome (hdepth : s.depth = 0) (walletID : UUID) (asset : String) (locked : ℚ → ℚ)
    (op : BalanceOp) (hconfirm : ∀ ev, op ≠ .confirm ev) (hreorg : ∀ ev, op ≠ .reorg ev) :
    Booking lib faulty (inTx (svc.relock walletID asset locked)) s
      (fun l r s' => BalanceOutcome svc faulty s op l r s') := by
  have hbody : Booking lib faulty (svc.relock walletID asset locked) (opened s)
      (fun l r s₁ => l = [] ∧ s₁.depth = 1 ∧ s₁.snapshot = s.toTables ∧ (r = .ok () →
        ∃ cur text, s.balances.lookup (balanceKey walletID asset) = some cur ∧
          s₁.balances = s.balances.insert (balanceKey walletID asset)
            { cur with walletID := walletID, asset := asset, locked := text } ∧
          s₁.balanceEvents = s.balanceEvents)) := by
    refine getBalance_booking ?_ ?_ ?_
    · intro cur hcur
      refine ends_call.mpr ?_
      rintro r s₁ (hs | ⟨-, rfl, err, rfl, -⟩)
      · obtain ⟨rfl, rfl⟩ := Prod.mk.inj (show (r, s₁) = (opened s).upsertBalance _ from hs)
        exact ends_ret.mpr ⟨rfl, rfl, rfl, fun _ => ⟨cur, _, hcur, rfl, rfl⟩⟩
      · exact ends_ret.mpr ⟨rfl, rfl, rfl, nofun⟩
    · exact fun _ err _ => ends_ret.mpr ⟨rfl, rfl, rfl, nofun⟩
    · exact fun _ err _ => ends_ret.mpr ⟨rfl, rfl, rfl, nofun⟩
  refine (inTx_booking hdepth hbody).mono ?_
  rintro l r s' (⟨rfl, rfl, s₁, hB, rfl⟩ | ⟨err, rfl, rfl, htab, hd, -⟩)
  · obtain ⟨cur, text, hcur, hbal, hev⟩ := hB rfl
    exact .relocked hconfirm hreorg hcur ⟨hbal, hev, rfl⟩
  · exact .aborted hconfirm (fun ev h => absurd h (hreorg ev))
      ⟨congrArg Tables.balances htab, congrArg Tables.balanceEvents htab, hd⟩

theorem balanceOp_outcome (hdepth : s.depth = 0) (op : BalanceOp) :
    Booking lib faulty (op.proc svc) s (fun l r s' => BalanceOutcome svc faulty s op l r s') := by
  cases op with
  | confirm ev => exact applyConfirmationEvent_outcome hdepth ev
  | reorg ev => exact applyReorgEvent_outcome hdepth ev
  | addLocked walletID asset amount =>
    exact relock_outcome hdepth walletID asset _ (.addLocked walletID asset amount) (by simp) (by simp)
  | releaseLocked walletID asset amount =>
    exact relock_outcome hdepth walletID asset _ (.releaseLocked walletID asset amount) (by simp) (by simp)

end Operations

end WalletManager.Proofs
