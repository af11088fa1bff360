import WalletManager.Ledger.Buckets
import WalletManager.Ledger.FirstDelivery
import WalletManager.Proofs.BalanceOutcomes
import WalletManager.Proofs.Keys
import WalletManager.Proofs.Reference

/-!
# The books are the replay of the committed changes

A balance row is the text of an abstract account: the replay of the changes that the
operations on it have committed. This holds along every run, also when store calls fail,
and each confirmation event is committed at most once.
-/

namespace WalletManager.Proofs

open Interaction Ledger DecimalText

abbrev BalanceLog := List (Entry BalanceOp Call Answer (Except Error Unit))

section Views

variable (svc : BalanceService) (walletID : UUID) (asset : String)

def isCommitted (e : Entry BalanceOp Call Answer (Except Error Unit)) : Bool :=
  !(e.trace.filterMap commitOf).isEmpty

def credited (log : BalanceLog) : List ConfirmationEvent :=
  log.filterMap (fun e => match e.op with
    | .confirm ev => if isCommitted e then some ev else none
    | _ => none)

def eventsOn (evs : List ConfirmationEvent) : List ConfirmationEvent :=
  evs.filter (fun ev => ev.walletID = walletID ∧ ev.asset = asset)

def eventChange (ev : ConfirmationEvent) : Change ℚ :=
  if svc.isConfirmed ev then .confirm (parseDec svc.lib ev.amount)
  else .await (parseDec svc.lib ev.amount)

def opChange : BalanceOp → Option (Change ℚ)
  | .confirm ev => if ev.walletID = walletID ∧ ev.asset = asset then some (eventChange svc ev) else none
  | .reorg ev => if ev.walletID = walletID ∧ ev.asset = asset then some .demote else none
  | _ => none

def changes (log : BalanceLog) : List (Change ℚ) :=
  log.filterMap (fun e => if isCommitted e then opChange svc walletID asset e.op else none)

def lastBlock (evs : List ConfirmationEvent) : Int := (evs.map ConfirmationEvent.blockHeight).foldl max 0

/-- The row shows the account, and it is there exactly if events have been credited to it. -/
structure Shows (lib : Lib) (row : Option Balance) (account : Buckets ℚ)
    (evs : List ConfirmationEvent) : Prop where
  confirmed_decimal : IsDecimal account.confirmed
  pending_decimal : IsDecimal account.pending
  missing : row = none → evs = [] ∧ account = ⟨0, 0⟩
  shown : ∀ r, row = some r → evs ≠ [] ∧ r.confirmed = lib.decimalString account.confirmed ∧
    r.pending = lib.decimalString account.pending ∧ r.lastBlockSeen = lastBlock evs

structure BooksInv (log : BalanceLog) (s : Store) : Prop where
  depth : s.depth = 0
  rows : ∀ walletID asset, Shows svc.lib (s.balances.lookup (balanceKey walletID asset))
    (replay (changes svc walletID asset log))
    (eventsOn walletID asset (credited log))
  recorded : ∀ ev ∈ credited log, ev.balanceEvent.key ∈ s.balanceEvents
  once : ((credited log).map (fun ev => ev.balanceEvent.key)).Nodup

end Views

section Rows

variable {svc : BalanceService} {row : Option Balance} {account : Buckets ℚ}
  {evs : List ConfirmationEvent}

lemma max64_eq (a b : Int) : max64 a b = max a b := by
  unfold max64
  split <;> omega

lemma lastBlock_append (evs : List ConfirmationEvent) (ev : ConfirmationEvent) :
    lastBlock (evs ++ [ev]) = max (lastBlock evs) ev.blockHeight := by
  simp [lastBlock, List.foldl_append]

lemma Shows.read {lib : Lib} (hlib : LawfulDecimal lib) (h : Shows lib row account evs)
    (walletID : UUID) (asset : String) :
    parseDec lib (row.getD { walletID := walletID, asset := asset }).confirmed = account.confirmed ∧
    parseDec lib (row.getD { walletID := walletID, asset := asset }).pending = account.pending ∧
    (row.getD { walletID := walletID, asset := asset }).lastBlockSeen = lastBlock evs := by
  cases row with
  | none =>
    obtain ⟨rfl, rfl⟩ := h.missing rfl
    exact ⟨rfl, rfl, rfl⟩
  | some r =>
    obtain ⟨-, hconfirmed, hpending, hblock⟩ := h.shown r rfl
    rw [Option.getD_some, hconfirmed, hpending, parseDec_decimalString hlib h.confirmed_decimal,
      parseDec_decimalString hlib h.pending_decimal]
    exact ⟨rfl, rfl, hblock⟩

lemma Shows.credit (hlib : LawfulDecimal svc.lib) (h : Shows svc.lib row account evs)
    (ev : ConfirmationEvent) : Shows svc.lib
      (some (svc.creditedRow ev (row.getD { walletID := ev.walletID, asset := ev.asset })))
      (account.apply (eventChange svc ev)) (evs ++ [ev]) := by
  obtain ⟨hconfirmed, hpending, hblock⟩ := h.read hlib ev.walletID ev.asset
  have hamount := parseDec_isDecimal hlib ev.amount
  unfold eventChange BalanceService.creditedRow
  by_cases hmet : svc.isConfirmed ev = true
  · simp only [hmet, if_true, hconfirmed, hpending, hblock, max64_eq]
    refine ⟨h.confirmed_decimal.add hamount, h.pending_decimal, nofun, ?_⟩
    rintro r ⟨⟩
    exact ⟨by simp, rfl, rfl, (lastBlock_append evs ev).symm⟩
  · simp only [hmet, hconfirmed, hpending, hblock, max64_eq]
    refine ⟨h.confirmed_decimal, h.pending_decimal.add hamount, nofun, ?_⟩
    rintro r ⟨⟩
    exact ⟨by simp, rfl, rfl, (lastBlock_append evs ev).symm⟩

lemma Shows.demote (hlib : LawfulDecimal svc.lib) {cur : Balance}
    (h : Shows svc.lib (some cur) account evs) (ev : ReorgEvent) :
    Shows svc.lib (some (svc.demotedRow ev cur)) (account.apply .demote) evs := by
  obtain ⟨hevs, hconfirmed, hpending, hblock⟩ := h.shown cur rfl
  refine ⟨isDecimal_zero, h.pending_decimal.add h.confirmed_decimal, nofun, ?_⟩
  rintro r ⟨⟩
  refine ⟨hevs, rfl, ?_, hblock⟩
  simp only [BalanceService.demotedRow, formatDec, hconfirmed, hpending,
    parseDec_decimalString hlib h.confirmed_decimal, parseDec_decimalString hlib h.pending_decimal]
  rfl

lemma Shows.demote_missing {lib : Lib} (h : Shows lib none account evs) :
    Shows lib none (account.apply .demote) evs := by
  obtain ⟨rfl, rfl⟩ := h.missing rfl
  have hzero : (⟨0, 0⟩ : Buckets ℚ).apply .demote = ⟨0, 0⟩ := by
    simp [Buckets.apply]
  rw [hzero]
  exact h

end Rows

section Step

variable {svc : BalanceService} {faulty : Prop} {log : BalanceLog} {s s' : Store} {op : BalanceOp}
  {tr : Trace} {r : Except Error Unit}

lemma isCommitted_eq {l : List Unit} (hl : tr.filterMap commitOf = l) :
    isCommitted ⟨op, tr, r⟩ = !l.isEmpty := by
  rw [isCommitted, hl]

lemma credited_append (log log' : BalanceLog) :
    credited (log ++ log') = credited log ++ credited log' := List.filterMap_append

lemma credited_confirm (ev : ConfirmationEvent) (hl : tr.filterMap commitOf = [()]) :
    credited [⟨.confirm ev, tr, r⟩] = [ev] := by
  rw [credited, List.filterMap_cons, isCommitted_eq hl]
  rfl

lemma credited_uncommitted (hl : tr.filterMap commitOf = []) : credited [⟨op, tr, r⟩] = [] := by
  rw [credited, List.filterMap_cons, isCommitted_eq hl]
  cases op <;> rfl

lemma credited_other (hop : ∀ ev, op ≠ .confirm ev) : credited [⟨op, tr, r⟩] = [] := by
  cases op with
  | confirm ev => exact absurd rfl (hop ev)
  | _ => rfl

lemma changes_append (walletID : UUID) (asset : String) (log log' : BalanceLog) :
    changes svc walletID asset (log ++ log') =
      changes svc walletID asset log ++ changes svc walletID asset log' := List.filterMap_append

lemma changes_committed (walletID : UUID) (asset : String) (hl : tr.filterMap commitOf = [()]) :
    changes svc walletID asset [⟨op, tr, r⟩] = (opChange svc walletID asset op).toList := by
  rw [changes, List.filterMap_cons, isCommitted_eq hl]
  cases opChange svc walletID asset op <;> rfl

lemma changes_uncommitted (walletID : UUID) (asset : String) (hl : tr.filterMap commitOf = []) :
    changes svc walletID asset [⟨op, tr, r⟩] = [] := by
  rw [changes, List.filterMap_cons, isCommitted_eq hl]
  rfl

lemma eventsOn_append (walletID : UUID) (asset : String) (evs evs' : List ConfirmationEvent) :
    eventsOn walletID asset (evs ++ evs') = eventsOn walletID asset evs ++ eventsOn walletID asset evs' :=
  List.filter_append ..

lemma balances_insert_lookup (balances : Table String Balance) (walletID walletID' : UUID)
    (asset asset' : String) (b : Balance) :
    (balances.insert (balanceKey walletID asset) b).lookup (balanceKey walletID' asset') =
      if walletID = walletID' ∧ asset = asset' then some b
      else balances.lookup (balanceKey walletID' asset') := by
  split
  · rename_i h
    rw [h.1, h.2, AList.lookup_insert]
  · rename_i h
    rw [AList.lookup_insert_ne]
    intro hkey
    obtain ⟨rfl, rfl⟩ := balanceKey_inj hkey
    exact h ⟨rfl, rfl⟩

lemma BooksInv.uncredited (h : BooksInv svc log s)
    {e : Entry BalanceOp Call Answer (Except Error Unit)} (hnone : credited [e] = [])
    {balances : Table String Balance} {events : Finset String} (hbooks : Books s' balances events)
    (hevents : s.balanceEvents ⊆ events)
    (hrows : ∀ walletID asset, Shows svc.lib (balances.lookup (balanceKey walletID asset))
      (replay (changes svc walletID asset log ++ changes svc walletID asset [e]))
      (eventsOn walletID asset (credited log))) : BooksInv svc (log ++ [e]) s' := by
  have hcredited : credited (log ++ [e]) = credited log := by
    rw [credited_append, hnone, List.append_nil]
  refine ⟨hbooks.depth, ?_, ?_, ?_⟩
  · intro walletID asset
    rw [hcredited, changes_append, hbooks.balances]
    exact hrows walletID asset
  · intro ev hev
    rw [hcredited] at hev
    rw [hbooks.events]
    exact hevents (h.recorded ev hev)
  · rw [hcredited]
    exact h.once

lemma BooksInv.skip (h : BooksInv svc log s) (hl : tr.filterMap commitOf = [])
    {events : Finset String} (hbooks : Books s' s.balances events) (hevents : s.balanceEvents ⊆ events) :
    BooksInv svc (log ++ [⟨op, tr, r⟩]) s' := by
  refine h.uncredited (credited_uncommitted hl) hbooks hevents ?_
  intro walletID asset
  rw [changes_uncommitted _ _ hl, List.append_nil]
  exact h.rows walletID asset

lemma BooksInv.credit (hlib : LawfulDecimal svc.lib) (h : BooksInv svc log s) {ev : ConfirmationEvent}
    (hl : tr.filterMap commitOf = [()]) (hfresh : ev.balanceEvent.key ∉ s.balanceEvents)
    (hbooks : Books s' (s.balances.insert (balanceKey ev.walletID ev.asset)
      (svc.creditedRow ev (balanceRow s ev.walletID ev.asset)))
      (insert ev.balanceEvent.key s.balanceEvents)) :
    BooksInv svc (log ++ [⟨.confirm ev, tr, r⟩]) s' := by
  have hcredited : credited (log ++ [⟨.confirm ev, tr, r⟩]) = credited log ++ [ev] := by
    rw [credited_append, credited_confirm ev hl]
  refine ⟨hbooks.depth, ?_, ?_, ?_⟩
  · intro walletID asset
    have hrow := h.rows walletID asset
    rw [hcredited, changes_append, changes_committed _ _ hl, eventsOn_append, hbooks.balances,
      balances_insert_lookup, opChange]
    by_cases hon : ev.walletID = walletID ∧ ev.asset = asset
    · have hevent : eventsOn walletID asset [ev] = [ev] := by simp [eventsOn, hon]
      rw [if_pos hon, if_pos hon, Option.toList_some, replay_append_singleton, hevent]
      obtain ⟨rfl, rfl⟩ := hon
      exact hrow.credit hlib ev
    · have hevent : eventsOn walletID asset [ev] = [] := by simp [eventsOn, hon]
      rw [if_neg hon, if_neg hon, Option.toList_none, hevent, List.append_nil, List.append_nil]
      exact hrow
  · intro ev' hev'
    rw [hcredited] at hev'
    rw [hbooks.events]
    rcases List.mem_append.mp hev' with hev' | hev'
    · exact Finset.mem_insert_of_mem (h.recorded ev' hev')
    · rw [List.mem_singleton.mp hev']
      exact Finset.mem_insert_self _ _
  · rw [hcredited, List.map_append]
    refine List.Nodup.append h.once (List.nodup_singleton _) ?_
    rw [List.map_singleton, List.disjoint_singleton]
    intro hmem
    obtain ⟨ev', hev', heq⟩ := List.mem_map.mp hmem
    exact hfresh (heq ▸ h.recorded ev' hev')

lemma BooksInv.demote (hlib : LawfulDecimal svc.lib) (h : BooksInv svc log s) {ev : ReorgEvent}
    (hl : tr.filterMap commitOf = [()]) (hbooks : Books s' (demotedTable svc s ev) s.balanceEvents) :
    BooksInv svc (log ++ [⟨.reorg ev, tr, r⟩]) s' := by
  refine h.uncredited (credited_other (by simp)) hbooks subset_rfl ?_
  intro walletID asset
  have hrow := h.rows walletID asset
  rw [changes_committed _ _ hl, demotedTable, opChange]
  by_cases hon : ev.walletID = walletID ∧ ev.asset = asset
  · rw [if_pos hon, Option.toList_some, replay_append_singleton]
    obtain ⟨rfl, rfl⟩ := hon
    cases hcur : s.balances.lookup (balanceKey ev.walletID ev.asset) with
    | none =>
      rw [hcur] at hrow
      dsimp only
      rw [hcur]
      exact hrow.demote_missing
    | some cur =>
      rw [hcur] at hrow
      dsimp only
      rw [AList.lookup_insert]
      exact hrow.demote hlib ev
  · rw [if_neg hon, Option.toList_none, List.append_nil]
    split
    · exact hrow
    · rw [balances_insert_lookup, if_neg hon]
      exact hrow

lemma BooksInv.relock (h : BooksInv svc log s) (hl : tr.filterMap commitOf = [()])
    (hconfirm : ∀ ev, op ≠ .confirm ev) (hreorg : ∀ ev, op ≠ .reorg ev)
    {walletID : UUID} {asset locked : String} {cur : Balance}
    (hcur : s.balances.lookup (balanceKey walletID asset) = some cur)
    (hbooks : Books s' (s.balances.insert (balanceKey walletID asset)
      { cur with walletID := walletID, asset := asset, locked := locked }) s.balanceEvents) :
    BooksInv svc (log ++ [⟨op, tr, r⟩]) s' := by
  refine h.uncredited (credited_other hconfirm) hbooks subset_rfl ?_
  intro walletID' asset'
  have hrow := h.rows walletID' asset'
  have hchange : opChange svc walletID' asset' op = none := by
    cases op with
    | confirm ev => exact absurd rfl (hconfirm ev)
    | reorg ev => exact absurd rfl (hreorg ev)
    | _ => rfl
  rw [changes_committed _ _ hl, hchange, Option.toList_none, List.append_nil, balances_insert_lookup]
  split
  · rename_i hon
    obtain ⟨rfl, rfl⟩ := hon
    rw [hcur] at hrow
    refine ⟨hrow.confirmed_decimal, hrow.pending_decimal, nofun, ?_⟩
    rintro r ⟨⟩
    exact hrow.shown cur rfl
  · exact hrow

theorem BooksInv.step (hlib : LawfulDecimal svc.lib) (h : BooksInv svc log s)
    (hout : BalanceOutcome svc faulty s op (tr.filterMap commitOf) r s') :
    BooksInv svc (log ++ [⟨op, tr, r⟩]) s' := by
  generalize hl : tr.filterMap commitOf = l at hout
  cases hout with
  | duplicate hdup hbooks => exact h.skip hl hbooks subset_rfl
  | unrecorded hf hbooks => exact h.skip hl hbooks subset_rfl
  | lost hf hfresh hbooks => exact h.skip hl hbooks (Finset.subset_insert _ _)
  | credited hfresh hbooks => exact h.credit hlib hl hfresh hbooks
  | demoted hbooks => exact h.demote hlib hl hbooks
  | relocked hconfirm hreorg hcur hbooks => exact h.relock hl hconfirm hreorg hcur hbooks
  | aborted hconfirm hfault hbooks => exact h.skip hl hbooks subset_rfl

lemma BooksInv.empty : BooksInv svc [] {} where
  depth := rfl
  rows _ _ := ⟨isDecimal_zero, isDecimal_zero, fun _ => ⟨rfl, rfl⟩, nofun⟩
  recorded := nofun
  once := List.nodup_nil

theorem booksInv_runs (hlib : LawfulDecimal svc.lib) {ok : Store → BalanceOp → Prop}
    (h : Runs (BalanceOp.proc svc) (faultStep svc.lib faulty) ok {} log s) : BooksInv svc log s := by
  refine Runs.invariant (I := BooksInv svc) BooksInv.empty ?_ h
  intro log s op tr a s' hi _ he
  exact hi.step hlib (balanceOp_outcome hi.depth op tr a s' he)

end Step

end WalletManager.Proofs
