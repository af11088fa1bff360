import WalletManager.Proofs.BalanceLaws
import Mathlib.Tactic.Linarith

/-!
# Deposits and reorgs of one account

Which part of the balance a deposit is in after several reports of it, and how much of the confirmed
part a reorg demotes.
-/

namespace WalletManager.Proofs

open Interaction Ledger

section Reports

variable {svc : BalanceService} {log : BalanceLog} {s₀ s s' : Store} {ev : ConfirmationEvent}
  {evs : List ConfirmationEvent} {ok : Store → BalanceOp → Prop}

lemma recorded_is_final (hdepth : s₀.depth = 0) (hrec : ev.balanceEvent.key ∈ s₀.balanceEvents)
    (h : Runs (BalanceOp.proc svc) (memStep svc.lib) ok s₀ log s)
    (hlog : ∀ e ∈ log, ∃ ev', e.op = .confirm ev' ∧ ev'.balanceEvent = ev.balanceEvent) :
    Books s s₀.balances s₀.balanceEvents := by
  induction h with
  | nil => exact ⟨rfl, rfl, hdepth⟩
  | snoc _ _ he ih =>
    have hbooks := ih (fun e he => hlog e (List.mem_append_left _ he))
    obtain ⟨ev', rfl, hsame⟩ := hlog _ (List.mem_append_right _ (List.mem_singleton_self _))
    have hnext := (confirm_books hbooks.depth he).2
    rw [hsame, hbooks.events, if_pos hrec, Finset.insert_eq_of_mem hrec, hbooks.balances] at hnext
    exact hnext

lemma creditedRow_amounts (hlib : LawfulDecimal svc.lib) (cur : Balance) :
    parseDec svc.lib (svc.creditedRow ev cur).confirmed = parseDec svc.lib cur.confirmed +
      (if svc.isConfirmed ev then parseDec svc.lib ev.amount else 0) ∧
    parseDec svc.lib (svc.creditedRow ev cur).pending = parseDec svc.lib cur.pending +
      (if ¬svc.isConfirmed ev then parseDec svc.lib ev.amount else 0) := by
  have hread := fun t => parseDec_isDecimal hlib t
  have hsum := fun t t' => parseDec_decimalString hlib ((hread t).add (hread t'))
  have hsame := fun t => parseDec_decimalString hlib (hread t)
  unfold BalanceService.creditedRow formatDec
  by_cases hmet : svc.isConfirmed ev = true <;> simp [hmet, hsum, hsame]

lemma deposit_amounts (hlib : LawfulDecimal svc.lib) (hdepth : s₀.depth = 0)
    (h : Runs (BalanceOp.proc svc) (memStep svc.lib) ok s₀ log s)
    (hlog : log.map Entry.op = (ev :: evs).map .confirm)
    (hsame : ∀ e ∈ evs, e.balanceEvent = ev.balanceEvent) :
    confirmedOf svc s ev.walletID ev.asset = confirmedOf svc s₀ ev.walletID ev.asset +
      (if ev.balanceEvent.key ∉ s₀.balanceEvents ∧ svc.isConfirmed ev then
        parseDec svc.lib ev.amount else 0) ∧
    pendingOf svc s ev.walletID ev.asset = pendingOf svc s₀ ev.walletID ev.asset +
      (if ev.balanceEvent.key ∉ s₀.balanceEvents ∧ ¬svc.isConfirmed ev then
        parseDec svc.lib ev.amount else 0) := by
  obtain ⟨e, rest, rfl, hop, hrest⟩ := List.map_eq_cons_iff.mp hlog
  obtain ⟨s₁, -, he, hreports⟩ := h.uncons
  rw [hop] at he
  have hfirst := (confirm_books hdepth he).2
  have hrec : ev.balanceEvent.key ∈ s₁.balanceEvents := by
    rw [hfirst.events]
    exact Finset.mem_insert_self _ _
  have hlast := recorded_is_final hfirst.depth hrec hreports (by
    intro e' he'
    obtain ⟨ev', hev', hop'⟩ := List.mem_map.mp (hrest ▸ List.mem_map_of_mem he')
    exact ⟨ev', hop'.symm, hsame ev' hev'⟩)
  unfold confirmedOf pendingOf
  by_cases hold : ev.balanceEvent.key ∈ s₀.balanceEvents
  · have hrow : balanceRow s ev.walletID ev.asset = balanceRow s₀ ev.walletID ev.asset := by
      rw [balanceRow, hlast.balances, hfirst.balances, if_pos hold, balanceRow]
    simp [hrow, hold]
  · have hrow : balanceRow s ev.walletID ev.asset =
        svc.creditedRow ev (balanceRow s₀ ev.walletID ev.asset) := by
      rw [balanceRow, hlast.balances, hfirst.balances, if_neg hold, AList.lookup_insert,
        Option.getD_some]
    rw [hrow, (creditedRow_amounts hlib _).1, (creditedRow_amounts hlib _).2]
    simp only [hold, not_false_eq_true, true_and, and_self]

/-- Whether a deposit is counted, and in the confirmed part once one of its reports met the
threshold: exactly if it is new and its first report met the threshold already, or none did. -/
theorem deposit_promotion (hlib : LawfulDecimal svc.lib) (hdepth : s₀.depth = 0)
    (h : Runs (BalanceOp.proc svc) (memStep svc.lib) ok s₀ log s)
    (hlog : log.map Entry.op = (ev :: evs).map .confirm)
    (hsame : ∀ e ∈ evs, e.balanceEvent = ev.balanceEvent)
    (hconfirmed : confirmedOf svc s₀ ev.walletID ev.asset = 0)
    (hpending : pendingOf svc s₀ ev.walletID ev.asset = 0) :
    let amount := parseDec svc.lib ev.amount
    let confirmed := confirmedOf svc s ev.walletID ev.asset
    let pending := pendingOf svc s ev.walletID ev.asset
    (confirmed + pending = amount ∧
        confirmed = if ∃ e ∈ ev :: evs, svc.isConfirmed e then amount else 0) ↔
      amount = 0 ∨ ev.balanceEvent.key ∉ s₀.balanceEvents ∧
        (svc.isConfirmed ev ∨ ∀ e ∈ evs, ¬ svc.isConfirmed e) := by
  obtain ⟨hc, hp⟩ := deposit_amounts hlib hdepth h hlog hsame
  rw [hconfirmed, zero_add] at hc
  rw [hpending, zero_add] at hp
  dsimp only
  rw [hc, hp]
  generalize parseDec svc.lib ev.amount = amount
  by_cases hold : ev.balanceEvent.key ∈ s₀.balanceEvents
  · -- Nothing is credited, so only a zero amount is accounted for.
    rw [if_neg (fun hnew => hnew.1 hold), if_neg (fun hnew => hnew.1 hold), zero_add]
    constructor
    · exact fun hcount => .inl hcount.1.symm
    · rintro (rfl | ⟨hnew, -⟩)
      · exact ⟨rfl, (ite_self 0).symm⟩
      · exact absurd hold hnew
  · by_cases hmet : svc.isConfirmed ev = true
    · rw [if_pos ⟨hold, hmet⟩, if_neg (fun hlow => hlow.2 hmet),
        if_pos ⟨ev, List.mem_cons_self, hmet⟩, add_zero]
      exact ⟨fun _ => .inr ⟨hold, .inl hmet⟩, fun _ => ⟨rfl, rfl⟩⟩
    · rw [if_neg (fun hhigh => hmet hhigh.2), if_pos ⟨hold, hmet⟩, zero_add]
      by_cases hlater : ∃ e ∈ evs, svc.isConfirmed e = true
      · obtain ⟨e, he, hconf⟩ := hlater
        rw [if_pos ⟨e, List.mem_cons_of_mem _ he, hconf⟩]
        constructor
        · exact fun hcount => .inl hcount.2.symm
        · rintro (rfl | ⟨-, hfirst | hnone⟩)
          · exact ⟨rfl, rfl⟩
          · exact absurd hfirst hmet
          · exact absurd hconf (hnone e he)
      · have hnone : ∀ e ∈ evs, ¬svc.isConfirmed e = true := fun e he hconf => hlater ⟨e, he, hconf⟩
        rw [if_neg (by simpa [hmet] using hlater)]
        exact ⟨fun _ => .inr ⟨hold, .inr hnone⟩, fun _ => ⟨rfl, rfl⟩⟩

def promotedRun := balanceRun {}
  [.confirm (evmDeposit "2" 12 7 "a"), .confirm (evmDeposit "2" 15 7 "a")]

theorem deposit_promotion_confirmed :
    confirmedOf referenceBalances promotedRun.2 evmWallet.id "ETH" = parseDec referenceLib "2" := by
  have hrun : Runs (BalanceOp.proc referenceBalances) (memStep referenceBalances.lib) (fun _ _ => True)
      {} promotedRun.1 promotedRun.2 := balanceRun_runs _ {} _ (by simp)
  have hlog : promotedRun.1.map Entry.op =
      [evmDeposit "2" 12 7 "a", evmDeposit "2" 15 7 "a"].map .confirm := by decide +kernel
  have hsame : ∀ e ∈ [evmDeposit "2" 15 7 "a"],
      e.balanceEvent = (evmDeposit "2" 12 7 "a").balanceEvent := by decide +kernel
  have hnew : (evmDeposit "2" 12 7 "a").balanceEvent.key ∉ ({} : Store).balanceEvents := by decide +kernel
  have hmet : referenceBalances.isConfirmed (evmDeposit "2" 12 7 "a") = true := by decide +kernel
  have hcount := (deposit_promotion referenceLib_lawful rfl hrun hlog hsame rfl rfl).mpr
    (.inr ⟨hnew, .inl hmet⟩)
  exact hcount.2.trans (if_pos ⟨_, List.mem_cons_self, hmet⟩)

def strandedRun := balanceRun {}
  [.confirm (evmDeposit "2" 3 7 "a"), .confirm (evmDeposit "2" 12 7 "a")]

/-- The deposit has reached the threshold, and its value is still pending. -/
theorem deposit_stays_pending :
    Runs (BalanceOp.proc referenceBalances) (memStep referenceBalances.lib) (fun _ _ => True) {}
        strandedRun.1 strandedRun.2 ∧
      strandedRun.1.map Entry.op = [evmDeposit "2" 3 7 "a", evmDeposit "2" 12 7 "a"].map .confirm ∧
      referenceBalances.isConfirmed (evmDeposit "2" 12 7 "a") = true ∧
      confirmedOf referenceBalances strandedRun.2 evmWallet.id "ETH" = 0 ∧
      pendingOf referenceBalances strandedRun.2 evmWallet.id "ETH" = 2 :=
  ⟨balanceRun_runs _ {} _ (by simp), by decide +kernel⟩

end Reports

section Reorgs

variable {svc : BalanceService} {before after : BalanceLog} {s : Store} {ok : Store → BalanceOp → Prop}
  {e : Entry BalanceOp Call Answer (Except Error Unit)} {rev : ReorgEvent} {walletID : UUID} {asset : String}

lemma valueOf_filter (svc : BalanceService) (evs : List ConfirmationEvent) (p : ConfirmationEvent → Bool) :
    valueOf svc (evs.filter p) + valueOf svc (evs.filter (fun ev => !p ev)) = valueOf svc evs := by
  induction evs with
  | nil => exact add_zero 0
  | cons ev evs ih =>
    unfold valueOf at ih ⊢
    cases hp : p ev <;> simp [hp, ← ih] <;> ring

lemma confirmedAmount_sum {evs : List ConfirmationEvent} (hmet : ∀ ev ∈ evs, svc.isConfirmed ev) :
    ((evs.map (eventChange svc)).map Change.confirmedAmount).sum = valueOf svc evs := by
  rw [List.map_map, valueOf]
  congr 1
  apply List.map_congr_left
  intro ev hev
  rw [Function.comp_apply, eventChange, if_pos (hmet ev hev)]
  rfl

lemma eventsOn_eq_self {evs : List ConfirmationEvent}
    (hon : ∀ ev ∈ evs, ev.walletID = walletID ∧ ev.asset = asset) : eventsOn walletID asset evs = evs := by
  apply List.filter_eq_self.mpr
  intro ev hev
  exact decide_eq_true (hon ev hev)

lemma confirmed_after_reorg (hlib : LawfulDecimal svc.lib)
    (h : Runs (BalanceOp.proc svc) (memStep svc.lib) ok {} (before ++ e :: after) s)
    (hreorg : e.op = .reorg rev) (hlast : Unreorged rev.walletID rev.asset after)
    (hmet : ∀ ev ∈ credited after, svc.isConfirmed ev) :
    confirmedOf svc s rev.walletID rev.asset =
      valueOf svc (eventsOn rev.walletID rev.asset (credited after)) := by
  have hinv := cleanInv_runs hlib h
  have hcommitted := hinv.reorgs e (by simp) rev hreorg
  have hdemote : changes svc rev.walletID rev.asset [e] = [.demote] := by
    simp [changes, hcommitted, hreorg, opChange]
  rw [(hinv.books.amounts hlib).1, ← List.singleton_append, changes_append, changes_append, hdemote,
    hlast.changes_eq, List.singleton_append, replay_confirmed_after_demote _ eventChange_ne_demote,
    confirmedAmount_sum]
  intro ev hev
  exact hmet ev (List.mem_of_mem_filter hev)

lemma credited_reorg (hreorg : e.op = .reorg rev) :
    credited (before ++ e :: after) = credited before ++ credited after := by
  have hnone : credited [e] = [] := by simp [credited, hreorg]
  rw [credited_append, ← List.singleton_append, credited_append, hnone, List.nil_append]

lemma reorg_amounts (hlib : LawfulDecimal svc.lib)
    (h : Runs (BalanceOp.proc svc) (memStep svc.lib) ok {} (before ++ e :: after) s)
    (hreorg : e.op = .reorg rev) (hlast : Unreorged rev.walletID rev.asset after)
    (hon : ∀ ev ∈ credited (before ++ e :: after),
      (ev.walletID = rev.walletID ∧ ev.asset = rev.asset) ∧ svc.isConfirmed ev) :
    confirmedOf svc s rev.walletID rev.asset = valueOf svc (credited after) ∧
      pendingOf svc s rev.walletID rev.asset = valueOf svc (credited before) := by
  have htotal : confirmedOf svc s rev.walletID rev.asset + pendingOf svc s rev.walletID rev.asset = _ :=
    (cleanInv_runs hlib h).books.total hlib
  rw [eventsOn_eq_self (fun ev hev => (hon ev hev).1), credited_reorg hreorg, valueOf_append] at htotal
  have hafter : ∀ ev ∈ credited after,
      (ev.walletID = rev.walletID ∧ ev.asset = rev.asset) ∧ svc.isConfirmed ev := by
    intro ev hev
    apply hon ev
    rw [credited_reorg hreorg]
    exact List.mem_append_right _ hev
  have hconfirmed := confirmed_after_reorg hlib h hreorg hlast (fun ev hev => (hafter ev hev).2)
  rw [eventsOn_eq_self (fun ev hev => (hafter ev hev).1)] at hconfirmed
  refine ⟨hconfirmed, ?_⟩
  linarith

/-- A reorg moves the value of its block, and of no other, exactly if the other blocks hold no
value at that time. The last reorg of the account is the one at `e`. -/
theorem reorg_demotes_block (hlib : LawfulDecimal svc.lib)
    (h : Runs (BalanceOp.proc svc) (memStep svc.lib) ok {} (before ++ e :: after) s)
    (hreorg : e.op = .reorg rev) (hlast : Unreorged rev.walletID rev.asset after)
    (hon : ∀ ev ∈ deliveries (before ++ e :: after),
      (ev.walletID = rev.walletID ∧ ev.asset = rev.asset) ∧ svc.isConfirmed ev)
    (hother : ∀ ev ∈ deliveries after, ev.blockHeight ≠ rev.blockHeight) :
    let evs := firsts ConfirmationEvent.balanceEvent (deliveries (before ++ e :: after))
    (confirmedOf svc s rev.walletID rev.asset =
          valueOf svc (evs.filter (fun ev => ev.blockHeight ≠ rev.blockHeight)) ∧
        pendingOf svc s rev.walletID rev.asset =
          valueOf svc (evs.filter (fun ev => ev.blockHeight = rev.blockHeight))) ↔
      valueOf svc ((firsts ConfirmationEvent.balanceEvent (deliveries before)).filter
        (fun ev => ev.blockHeight ≠ rev.blockHeight)) = 0 := by
  intro evs
  obtain ⟨s₁, -, hpre, -⟩ := h.split
  have hall : credited (before ++ e :: after) = evs :=
    (cleanInv_runs hlib h).credited_eq (eventKeys_of_asset (fun ev hev => (hon ev hev).1.2))
  have hbefore := (cleanInv_runs hlib hpre).credited_eq (eventKeys_of_asset (by
    intro ev hev
    exact (hon ev (by rw [deliveries_append]; exact List.mem_append_left _ hev)).1.2))
  obtain ⟨hconfirmed, hpending⟩ := reorg_amounts hlib h hreorg hlast
    (fun ev hev => hon ev (mem_deliveries_of_credited hev))
  -- Everything credited after the reorg is at other heights.
  have hothers : evs.filter (fun ev => ev.blockHeight ≠ rev.blockHeight) =
      (credited before).filter (fun ev => ev.blockHeight ≠ rev.blockHeight) ++ credited after := by
    rw [← hall, credited_reorg hreorg, List.filter_append]
    congr 1
    apply List.filter_eq_self.mpr
    intro ev hev
    exact decide_eq_true (hother ev (mem_deliveries_of_credited hev))
  have hparts := valueOf_filter svc evs (fun ev => ev.blockHeight ≠ rev.blockHeight)
  have hsum : valueOf svc evs = valueOf svc (credited before) + valueOf svc (credited after) := by
    rw [← hall, credited_reorg hreorg, valueOf_append]
  simp only [ne_eq, decide_not, Bool.not_not] at hparts hothers ⊢
  rw [← hbefore, hconfirmed, hpending]
  rw [hothers, valueOf_append] at hparts ⊢
  constructor
  · rintro ⟨hc, -⟩
    linarith
  · intro hzero
    constructor <;> linarith

def demotedRun := balanceRun {}
  [.confirm (evmDeposit "2" 12 7 "a"), .reorg ⟨evmWallet.id, "ETH", 7, "r", []⟩,
    .confirm (evmDeposit "5" 12 8 "b")]

theorem reorg_demotes_block_single :
    confirmedOf referenceBalances demotedRun.2 evmWallet.id "ETH" = 5 ∧
      pendingOf referenceBalances demotedRun.2 evmWallet.id "ETH" = 2 := by
  have hops : demotedRun.1.map Entry.op = [.confirm (evmDeposit "2" 12 7 "a"),
      .reorg ⟨evmWallet.id, "ETH", 7, "r", []⟩, .confirm (evmDeposit "5" 12 8 "b")] := by decide +kernel
  obtain ⟨e₁, e₂, e₃, hlog⟩ : ∃ e₁ e₂ e₃, demotedRun.1 = [e₁] ++ e₂ :: [e₃] := ⟨_, _, _, rfl⟩
  have hrun : Runs (BalanceOp.proc referenceBalances) (memStep referenceBalances.lib) (fun _ _ => True)
      {} demotedRun.1 demotedRun.2 := balanceRun_runs _ {} _ (by simp)
  rw [hlog] at hops hrun
  simp only [List.singleton_append, List.map_cons, List.map_nil, List.cons.injEq, and_true] at hops
  obtain ⟨h₁, h₂, h₃⟩ := hops
  have hbefore : deliveries [e₁] = [evmDeposit "2" 12 7 "a"] := by simp [deliveries, h₁]
  have hafter : deliveries [e₃] = [evmDeposit "5" 12 8 "b"] := by simp [deliveries, h₃]
  have hall : deliveries ([e₁] ++ e₂ :: [e₃]) = [evmDeposit "2" 12 7 "a", evmDeposit "5" 12 8 "b"] := by
    simp [deliveries, h₁, h₂, h₃]
  have hmoved := reorg_demotes_block referenceLib_lawful hrun h₂ (by simp [Unreorged, h₃, keepsConfirmed])
    (by rw [hall]; decide +kernel) (by rw [hafter]; decide +kernel)
  rw [hbefore, hall] at hmoved
  obtain ⟨hconfirmed, hpending⟩ := hmoved.mpr (by decide +kernel)
  exact ⟨hconfirmed.trans (by decide +kernel), hpending.trans (by decide +kernel)⟩

def overDemotedRun := balanceRun {}
  [.confirm (evmDeposit "2" 12 7 "a"), .confirm (evmDeposit "5" 12 8 "b"),
    .reorg ⟨evmWallet.id, "ETH", 8, "r", []⟩]

/-- The value of block 7 is demoted with that of the reorged block 8. -/
theorem reorg_demotes_other_block :
    Runs (BalanceOp.proc referenceBalances) (memStep referenceBalances.lib) (fun _ _ => True) {}
        overDemotedRun.1 overDemotedRun.2 ∧
      overDemotedRun.1.map Entry.op = [.confirm (evmDeposit "2" 12 7 "a"),
        .confirm (evmDeposit "5" 12 8 "b"), .reorg ⟨evmWallet.id, "ETH", 8, "r", []⟩] ∧
      referenceBalances.isConfirmed (evmDeposit "2" 12 7 "a") = true ∧
      referenceBalances.isConfirmed (evmDeposit "5" 12 8 "b") = true ∧
      confirmedOf referenceBalances overDemotedRun.2 evmWallet.id "ETH" = 0 ∧
      pendingOf referenceBalances overDemotedRun.2 evmWallet.id "ETH" = 7 :=
  ⟨balanceRun_runs _ {} _ (by simp), by decide +kernel⟩

end Reorgs

end WalletManager.Proofs
