import WalletManager.Proofs.BalanceBooks

/-!
# Laws of the balance service

When no store call fails, the committed credits are the first deliveries of each event.
Conservation, independence of order and repetition, and what later confirmations and reorgs
do to a balance all follow from that and from the replay of the committed changes.
-/

namespace WalletManager.Proofs

open Interaction Ledger DecimalText

section Amounts

variable {svc : BalanceService} {log : BalanceLog} {s : Store} {walletID : UUID} {asset : String}

def valueOf (svc : BalanceService) (evs : List ConfirmationEvent) : ℚ :=
  (evs.map (fun ev => parseDec svc.lib ev.amount)).sum

lemma valueOf_append (evs evs' : List ConfirmationEvent) :
    valueOf svc (evs ++ evs') = valueOf svc evs + valueOf svc evs' := by
  simp [valueOf]

lemma eventChange_amount (ev : ConfirmationEvent) :
    (eventChange svc ev).amount = parseDec svc.lib ev.amount := by
  unfold eventChange
  split <;> rfl

lemma changes_amount (log : BalanceLog) :
    ((changes svc walletID asset log).map Change.amount).sum =
      valueOf svc (eventsOn walletID asset (credited log)) := by
  induction log using List.reverseRecOn with
  | nil => rfl
  | append_singleton log e ih =>
    have hentry : ((changes svc walletID asset [e]).map Change.amount).sum =
        valueOf svc (eventsOn walletID asset (credited [e])) := by
      cases hc : isCommitted e with
      | false => cases hop : e.op <;> simp [changes, credited, hc, hop, eventsOn, valueOf]
      | true =>
        cases hop : e.op with
        | confirm ev =>
          by_cases hon : ev.walletID = walletID ∧ ev.asset = asset <;>
            simp [changes, credited, hc, hop, opChange, eventsOn, valueOf, hon, eventChange_amount]
        | reorg ev =>
          by_cases hon : ev.walletID = walletID ∧ ev.asset = asset <;>
            simp [changes, credited, hc, hop, opChange, eventsOn, valueOf, hon, Change.amount]
        | _ => simp [changes, credited, hop, opChange, eventsOn, valueOf]
    rw [changes_append, credited_append, eventsOn_append, valueOf_append, List.map_append,
      List.sum_append, ih, hentry]

def confirmedOf (svc : BalanceService) (s : Store) (walletID : UUID) (asset : String) : ℚ :=
  parseDec svc.lib (balanceRow s walletID asset).confirmed

def pendingOf (svc : BalanceService) (s : Store) (walletID : UUID) (asset : String) : ℚ :=
  parseDec svc.lib (balanceRow s walletID asset).pending

lemma BooksInv.amounts (hlib : LawfulDecimal svc.lib) (h : BooksInv svc log s) :
    confirmedOf svc s walletID asset = (replay (changes svc walletID asset log)).confirmed ∧
      pendingOf svc s walletID asset = (replay (changes svc walletID asset log)).pending :=
  let hread := (h.rows walletID asset).read hlib walletID asset
  ⟨hread.1, hread.2.1⟩

theorem BooksInv.total (hlib : LawfulDecimal svc.lib) (h : BooksInv svc log s) :
    confirmedOf svc s walletID asset + pendingOf svc s walletID asset =
      valueOf svc (eventsOn walletID asset (credited log)) := by
  rw [(h.amounts hlib).1, (h.amounts hlib).2, replay_total, changes_amount]

end Amounts

section Clean

variable {svc : BalanceService} {log : BalanceLog} {s s' : Store}

def deliveries (log : BalanceLog) : List ConfirmationEvent :=
  log.filterMap (fun e => match e.op with
    | .confirm ev => some ev
    | _ => none)

def eventKey (ev : ConfirmationEvent) : String := ev.balanceEvent.key

structure CleanInv (svc : BalanceService) (log : BalanceLog) (s : Store) : Prop where
  books : BooksInv svc log s
  events : ∀ k ∈ s.balanceEvents, k ∈ (credited log).map eventKey
  first : credited log = firsts eventKey (deliveries log)
  reorgs : ∀ e ∈ log, ∀ ev, e.op = .reorg ev → isCommitted e

lemma deliveries_append (log log' : BalanceLog) :
    deliveries (log ++ log') = deliveries log ++ deliveries log' := List.filterMap_append

lemma CleanInv.events_skip (h : CleanInv svc log s) {events : Finset String}
    {e : Entry BalanceOp Call Answer (Except Error Unit)} (hsame : events = s.balanceEvents) :
    ∀ k ∈ events, k ∈ (credited (log ++ [e])).map eventKey := by
  intro k hk
  rw [hsame] at hk
  rw [credited_append, List.map_append]
  exact List.mem_append_left _ (h.events k hk)

theorem CleanInv.step (hlib : LawfulDecimal svc.lib) (h : CleanInv svc log s) {op : BalanceOp}
    {tr : Trace} {r : Except Error Unit}
    (hout : BalanceOutcome svc False s op (tr.filterMap commitOf) r s') :
    CleanInv svc (log ++ [⟨op, tr, r⟩]) s' := by
  have hbooks := h.books.step hlib hout
  have hreorgs : (∀ ev, op = .reorg ev → tr.filterMap commitOf ≠ []) →
      ∀ e ∈ log ++ [⟨op, tr, r⟩], ∀ ev, e.op = .reorg ev → isCommitted e := by
    intro hop e he ev hev
    rcases List.mem_append.mp he with he | he
    · exact h.reorgs e he ev hev
    · rw [List.mem_singleton.mp he] at hev ⊢
      simpa [isCommitted] using hop ev hev
  generalize hl : tr.filterMap commitOf = l at hout hreorgs
  have hother : (∀ ev, op ≠ .confirm ev) →
      credited (log ++ [⟨op, tr, r⟩]) = firsts eventKey (deliveries (log ++ [⟨op, tr, r⟩])) := by
    intro hop
    rw [credited_append, deliveries_append, h.first, credited_other hop, List.append_nil]
    cases op with
    | confirm ev => exact absurd rfl (hop ev)
    | _ => exact congrArg (firsts eventKey) (List.append_nil _).symm
  cases hout with
  | @duplicate ev _ hdup hs =>
    refine ⟨hbooks, h.events_skip hs.events, ?_, hreorgs (by simp)⟩
    have hkey := h.events _ hdup
    rw [h.first] at hkey
    rw [credited_append, credited_uncommitted hl, List.append_nil, deliveries_append, h.first]
    exact (firsts_append_of_mem eventKey hkey).symm
  | unrecorded hf => exact hf.elim
  | lost hf => exact hf.elim
  | @credited ev _ hfresh hs =>
    have hcredited : credited (log ++ [⟨.confirm ev, tr, .ok ()⟩]) = credited log ++ [ev] := by
      rw [credited_append, credited_confirm ev hl]
    refine ⟨hbooks, ?_, ?_, hreorgs (by simp)⟩
    · intro k hk
      rw [hs.events] at hk
      rw [hcredited, List.map_append]
      rcases Finset.mem_insert.mp hk with rfl | hk
      · exact List.mem_append_right _ (List.mem_singleton_self _)
      · exact List.mem_append_left _ (h.events k hk)
    · have hnew : eventKey ev ∉ (firsts eventKey (deliveries log)).map eventKey := by
        rw [← h.first]
        intro hmem
        obtain ⟨ev', hev', heq⟩ := List.mem_map.mp hmem
        have hrecorded := h.books.recorded ev' hev'
        rw [show ev'.balanceEvent.key = ev.balanceEvent.key from heq] at hrecorded
        exact hfresh hrecorded
      rw [hcredited, deliveries_append, h.first]
      exact (firsts_append_of_notMem eventKey hnew).symm
  | demoted hs => exact ⟨hbooks, h.events_skip hs.events, hother (by simp), hreorgs (by simp)⟩
  | relocked hconfirm hreorg _ hs =>
    exact ⟨hbooks, h.events_skip hs.events, hother hconfirm, hreorgs (fun ev hev => absurd hev (hreorg ev))⟩
  | aborted hconfirm hfault hs =>
    exact ⟨hbooks, h.events_skip hs.events, hother hconfirm, hreorgs (fun ev hev => (hfault ev hev).elim)⟩

theorem cleanInv_runs (hlib : LawfulDecimal svc.lib) {ok : Store → BalanceOp → Prop}
    (h : Runs (BalanceOp.proc svc) (memStep svc.lib) ok {} log s) : CleanInv svc log s := by
  refine Runs.invariant (I := CleanInv svc) ⟨BooksInv.empty, ?_, rfl, List.forall_mem_nil _⟩ ?_ h
  · intro k hk
    exact absurd hk (Finset.notMem_empty k)
  · intro log s op tr a s' hi _ he
    have he' := he.mono (fun s c r s' => memStep_faultStep False)
    exact hi.step hlib (balanceOp_outcome hi.books.depth op tr a s' he')

lemma confirm_books {lib : Lib} {ev : ConfirmationEvent} (hdepth : s.depth = 0) {tr : Trace}
    {r : Except Error Unit} (he : Exec (memStep lib) (BalanceOp.proc svc (.confirm ev)) s tr r s') :
    r = .ok () ∧ Books s' (if ev.balanceEvent.key ∈ s.balanceEvents then s.balances else
      s.balances.insert (balanceKey ev.walletID ev.asset)
        (svc.creditedRow ev (balanceRow s ev.walletID ev.asset)))
      (insert ev.balanceEvent.key s.balanceEvents) := by
  have hout := balanceOp_outcome hdepth (.confirm ev) tr r s'
    (he.mono (fun s c r s' => memStep_faultStep False))
  generalize tr.filterMap commitOf = l at hout
  cases hout with
  | duplicate hdup hs =>
    rw [if_pos hdup, Finset.insert_eq_of_mem hdup]
    exact ⟨rfl, hs⟩
  | unrecorded hf => exact hf.elim
  | lost hf => exact hf.elim
  | credited hfresh hs =>
    rw [if_neg hfresh]
    exact ⟨rfl, hs⟩
  | relocked hconfirm => exact absurd rfl (hconfirm ev)
  | aborted hconfirm => exact absurd rfl (hconfirm ev)

lemma mem_deliveries {ev : ConfirmationEvent} :
    ev ∈ deliveries log ↔ ∃ e ∈ log, e.op = .confirm ev := by
  simp only [deliveries, List.mem_filterMap]
  constructor
  · rintro ⟨e, he, hev⟩
    refine ⟨e, he, ?_⟩
    split at hev
    · rename_i ev' hop
      rw [hop, Option.some.inj hev]
    · cases hev
  · rintro ⟨e, he, hop⟩
    exact ⟨e, he, by rw [hop]⟩

lemma mem_deliveries_of_credited {ev : ConfirmationEvent} (h : ev ∈ credited log) :
    ev ∈ deliveries log := by
  simp only [credited, List.mem_filterMap] at h
  obtain ⟨e, he, hev⟩ := h
  refine mem_deliveries.mpr ⟨e, he, ?_⟩
  split at hev
  · rename_i ev' hop
    split at hev
    · rw [hop, Option.some.inj hev]
    · cases hev
  · cases hev

lemma CleanInv.credited_eq (h : CleanInv svc log s)
    (hkeys : ∀ ev ∈ deliveries log, ∀ ev' ∈ deliveries log,
      eventKey ev = eventKey ev' → ev.balanceEvent = ev'.balanceEvent) :
    credited log = firsts ConfirmationEvent.balanceEvent (deliveries log) := by
  rw [h.first]
  apply firsts_congr
  intro ev hev ev' hev'
  exact ⟨hkeys ev hev ev' hev', congrArg BalanceEvent.key⟩

lemma eventKeys_of_plain (hplain : ∀ e ∈ log, '|' ∉ e.op.asset.toList) :
    ∀ ev ∈ deliveries log, ∀ ev' ∈ deliveries log,
      eventKey ev = eventKey ev' → ev.balanceEvent = ev'.balanceEvent := by
  have hasset : ∀ ev ∈ deliveries log, '|' ∉ ev.asset.toList := by
    intro ev hev
    obtain ⟨e, he, hop⟩ := mem_deliveries.mp hev
    have hop' := hplain e he
    rwa [hop] at hop'
  intro ev hev ev' hev' heq
  exact eventKey_inj (hasset ev hev) (hasset ev' hev') heq

lemma eventKeys_of_asset {asset : String} (hasset : ∀ ev ∈ deliveries log, ev.asset = asset) :
    ∀ ev ∈ deliveries log, ∀ ev' ∈ deliveries log,
      eventKey ev = eventKey ev' → ev.balanceEvent = ev'.balanceEvent := by
  intro ev hev ev' hev' heq
  exact eventKey_inj_of_asset ((hasset ev hev).trans (hasset ev' hev').symm) heq

end Clean

section Conservation

variable {svc : BalanceService} {log log' : BalanceLog} {s s' : Store} {walletID : UUID} {asset : String}
  {ok : Store → BalanceOp → Prop}

def figures (b : Balance) : String × String × Int := (b.confirmed, b.pending, b.lastBlockSeen)

lemma Shows.figures {lib : Lib} {row : Option Balance} {account : Buckets ℚ}
    {evs : List ConfirmationEvent} (h : Shows lib row account evs) :
    row.map figures = if evs = [] then none else
      some (lib.decimalString account.confirmed, lib.decimalString account.pending, lastBlock evs) := by
  cases row with
  | none => rw [if_pos (h.missing rfl).1, Option.map_none]
  | some b =>
    obtain ⟨hevs, hconfirmed, hpending, hblock⟩ := h.shown b rfl
    rw [if_neg hevs, Option.map_some, Proofs.figures, hconfirmed, hpending, hblock]

lemma lastBlock_perm {evs evs' : List ConfirmationEvent} (h : evs.Perm evs') :
    lastBlock evs = lastBlock evs' :=
  (h.map _).foldl_eq 0

def keepsConfirmed (walletID : UUID) (asset : String) : BalanceOp → Bool
  | .reorg ev => ¬(ev.walletID = walletID ∧ ev.asset = asset)
  | _ => true

def Unreorged (walletID : UUID) (asset : String) (log : BalanceLog) : Prop :=
  ∀ e ∈ log, keepsConfirmed walletID asset e.op

lemma Unreorged.changes_eq (hlog : Unreorged walletID asset log) :
    changes svc walletID asset log = (eventsOn walletID asset (credited log)).map (eventChange svc) := by
  induction log using List.reverseRecOn with
  | nil => rfl
  | append_singleton log e ih =>
    have hentry : changes svc walletID asset [e] =
        (eventsOn walletID asset (credited [e])).map (eventChange svc) := by
      cases hc : isCommitted e with
      | false => cases hop : e.op <;> simp [changes, credited, hc, hop, eventsOn]
      | true =>
        cases hop : e.op with
        | confirm ev =>
          by_cases hon : ev.walletID = walletID ∧ ev.asset = asset <;>
            simp [changes, credited, hc, hop, opChange, eventsOn, hon]
        | reorg ev =>
          have hoff := hlog e (by simp)
          rw [hop] at hoff
          have hoff : ¬(ev.walletID = walletID ∧ ev.asset = asset) := of_decide_eq_true hoff
          simp [changes, credited, hc, hop, opChange, eventsOn, hoff]
        | _ => simp [changes, credited, hc, hop, opChange, eventsOn]
    rw [changes_append, credited_append, eventsOn_append, List.map_append, hentry,
      ih (fun e he => hlog e (List.mem_append_left _ he))]

lemma eventChange_ne_demote {evs : List ConfirmationEvent} :
    ∀ c ∈ evs.map (eventChange svc), c ≠ .demote := by
  intro c hc
  obtain ⟨ev, -, rfl⟩ := List.mem_map.mp hc
  unfold eventChange
  split <;> nofun

lemma BooksInv.figures_congr (h : BooksInv svc log s) (h' : BooksInv svc log' s')
    (hlog : Unreorged walletID asset log) (hlog' : Unreorged walletID asset log')
    (hperm : (credited log).Perm (credited log')) :
    (s.balances.lookup (balanceKey walletID asset)).map figures =
      (s'.balances.lookup (balanceKey walletID asset)).map figures := by
  have hevs : (eventsOn walletID asset (credited log)).Perm (eventsOn walletID asset (credited log')) :=
    hperm.filter _
  have haccount : replay (changes svc walletID asset log) = replay (changes svc walletID asset log') := by
    rw [hlog.changes_eq, hlog'.changes_eq]
    exact replay_perm eventChange_ne_demote (hevs.map _)
  rw [(h.rows walletID asset).figures, (h'.rows walletID asset).figures, haccount,
    lastBlock_perm hevs]
  simp only [← List.length_eq_zero_iff, hevs.length_eq]

/-- Along every history the two parts of a balance add up to the first deliveries of its events,
and the last block is the highest of theirs. Where no reorg comes in between, a balance depends
only on the set of the events. -/
theorem balance_conservation (hlib : LawfulDecimal svc.lib)
    (h : Runs (BalanceOp.proc svc) (memStep svc.lib) ok {} log s)
    (hplain : ∀ e ∈ log, '|' ∉ e.op.asset.toList) :
    (∀ walletID asset b, s.balances.lookup (balanceKey walletID asset) = some b →
      let evs := eventsOn walletID asset (firsts ConfirmationEvent.balanceEvent (deliveries log))
      parseDec svc.lib b.confirmed + parseDec svc.lib b.pending = valueOf svc evs ∧
        b.lastBlockSeen = lastBlock evs) ∧
    ∀ log' s', Runs (BalanceOp.proc svc) (memStep svc.lib) ok {} log' s' →
      (∀ e ∈ log', '|' ∉ e.op.asset.toList) →
      Consistent ConfirmationEvent.balanceEvent (deliveries log) →
      Consistent ConfirmationEvent.balanceEvent (deliveries log') →
      (deliveries log).toFinset = (deliveries log').toFinset →
      ∀ walletID asset, Unreorged walletID asset log → Unreorged walletID asset log' →
        (s.balances.lookup (balanceKey walletID asset)).map figures =
        (s'.balances.lookup (balanceKey walletID asset)).map figures := by
  have hinv := cleanInv_runs hlib h
  have hfirst := hinv.credited_eq (eventKeys_of_plain hplain)
  refine ⟨?_, ?_⟩
  · intro walletID asset b hb
    have hrow := hinv.books.rows walletID asset
    rw [hb, hfirst] at hrow
    obtain ⟨hconfirmed, hpending, hblock⟩ := hrow.read hlib walletID asset
    refine ⟨?_, hblock⟩
    rw [Option.getD_some] at hconfirmed hpending
    rw [hconfirmed, hpending, replay_total, changes_amount, hfirst]
  · intro log' s' h' hplain' hcons hcons' hset walletID asset hlog hlog'
    have hinv' := cleanInv_runs hlib h'
    refine hinv.books.figures_congr hinv'.books hlog hlog' ?_
    rw [hfirst, hinv'.credited_eq (eventKeys_of_plain hplain')]
    apply firsts_perm hcons hcons'
    intro ev
    rw [← List.mem_toFinset, hset, List.mem_toFinset]

def mixedRun := balanceRun {}
  [.confirm (evmDeposit "1.5" 12 7 "a"), .confirm (evmDeposit "0.25" 3 9 "b"),
    .confirm (evmDeposit "1.5" 12 7 "a"), .addLocked evmWallet.id "ETH" "1",
    .reorg ⟨evmWallet.id, "ETH", 7, "r", []⟩, .releaseLocked evmWallet.id "ETH" "2"]

def inOrder := balanceRun {} [.confirm (evmDeposit "1.5" 12 7 "a"), .confirm (evmDeposit "0.25" 3 9 "b")]

def outOfOrder := balanceRun {} [.confirm (evmDeposit "0.25" 3 9 "b"),
  .confirm (evmDeposit "1.5" 12 7 "a"), .confirm (evmDeposit "0.25" 3 9 "b")]

theorem balance_conservation_mixed :
    (∃ b, mixedRun.2.balances.lookup (balanceKey evmWallet.id "ETH") = some b ∧
      parseDec referenceLib b.confirmed + parseDec referenceLib b.pending = 7 / 4 ∧
      b.lastBlockSeen = 9) ∧
    (inOrder.2.balances.lookup (balanceKey evmWallet.id "ETH")).map figures =
      (outOfOrder.2.balances.lookup (balanceKey evmWallet.id "ETH")).map figures := by
  have hruns : ∀ ops, Runs (BalanceOp.proc referenceBalances) (memStep referenceBalances.lib)
      (fun _ _ => True) {} (balanceRun {} ops).1 (balanceRun {} ops).2 :=
    fun ops => balanceRun_runs _ {} ops (by simp)
  refine ⟨?_, ?_⟩
  · obtain ⟨hsome, hplain⟩ : (mixedRun.2.balances.lookup (balanceKey evmWallet.id "ETH")).isSome ∧
        ∀ e ∈ mixedRun.1, '|' ∉ e.op.asset.toList := by decide +kernel
    obtain ⟨b, hb⟩ := Option.isSome_iff_exists.mp hsome
    obtain ⟨htotal, hblock⟩ :=
      (balance_conservation referenceLib_lawful (hruns _) hplain).1 evmWallet.id "ETH" b hb
    exact ⟨b, hb, htotal.trans (by decide +kernel), hblock.trans (by decide +kernel)⟩
  · obtain ⟨hplain, hplain', hset⟩ : (∀ e ∈ inOrder.1, '|' ∉ e.op.asset.toList) ∧
        (∀ e ∈ outOfOrder.1, '|' ∉ e.op.asset.toList) ∧
        (deliveries inOrder.1).toFinset = (deliveries outOfOrder.1).toFinset := by decide +kernel
    have hconsistent : Consistent ConfirmationEvent.balanceEvent (deliveries inOrder.1) ∧
        Consistent ConfirmationEvent.balanceEvent (deliveries outOfOrder.1) := by
      unfold Consistent
      decide +kernel
    have hunreorged : Unreorged evmWallet.id "ETH" inOrder.1 ∧ Unreorged evmWallet.id "ETH" outOfOrder.1 := by
      unfold Unreorged
      decide +kernel
    exact (balance_conservation referenceLib_lawful (hruns _) hplain).2 outOfOrder.1 outOfOrder.2
      (hruns _) hplain' hconsistent.1 hconsistent.2 hset evmWallet.id "ETH" hunreorged.1 hunreorged.2

end Conservation

end WalletManager.Proofs
