import WalletManager.Proofs.BalanceBooks

/-!
# The texts of the balance columns

The Postgres store keeps the three amounts of a balance in `NUMERIC` columns, which take texts of
numbers only. A confirmation event or a reorg copies the locked part from the row it has read, and
the row that stands for a missing one has no text there.
-/

namespace WalletManager.Proofs

open Interaction DecimalText

def NumericText (t : String) : Prop := (parse t).isSome

instance (t : String) : Decidable (NumericText t) := inferInstanceAs (Decidable ((parse t).isSome))

structure NumericColumns (b : Balance) : Prop where
  confirmed : NumericText b.confirmed
  pending : NumericText b.pending
  locked : NumericText b.locked

def WritesNumbers : Call → Prop
  | .store (.upsertBalance b) => NumericColumns b
  | _ => True

/-- A confirmation event that is not a duplicate finds a row, and an event that finds a row finds
a number in its locked column. -/
def FindsLocked (s : Store) : BalanceOp → Prop
  | .confirm ev => ev.balanceEvent.key ∈ s.balanceEvents ∨
    ∃ row, s.balances.lookup (balanceKey ev.walletID ev.asset) = some row ∧ NumericText row.locked
  | .reorg ev => ∀ row, s.balances.lookup (balanceKey ev.walletID ev.asset) = some row →
    NumericText row.locked
  | _ => True

section Columns

variable {svc : BalanceService}

def FormatsNumbers (lib : Lib) : Prop := ∀ q, IsDecimal q → NumericText (lib.decimalString q)

lemma creditedRow_columns (hlib : LawfulDecimal svc.lib) (hfmt : FormatsNumbers svc.lib)
    (ev : ConfirmationEvent) {cur : Balance} :
    NumericColumns (svc.creditedRow ev cur) ↔ NumericText cur.locked := by
  constructor
  · intro h
    exact h.locked
  · intro hlocked
    have hdec := parseDec_isDecimal hlib
    unfold BalanceService.creditedRow
    dsimp only
    split
    · exact ⟨hfmt _ ((hdec _).add (hdec _)), hfmt _ (hdec _), hlocked⟩
    · exact ⟨hfmt _ (hdec _), hfmt _ ((hdec _).add (hdec _)), hlocked⟩

lemma demotedRow_columns (hlib : LawfulDecimal svc.lib) (hfmt : FormatsNumbers svc.lib)
    (ev : ReorgEvent) {cur : Balance} :
    NumericColumns (svc.demotedRow ev cur) ↔ NumericText cur.locked := by
  constructor
  · intro h
    exact h.locked
  · intro hlocked
    have hdec := parseDec_isDecimal hlib
    exact ⟨hfmt _ isDecimal_zero, hfmt _ ((hdec _).add (hdec _)), hlocked⟩

end Columns

section Operations

variable {svc : BalanceService} {lib : Lib} {faulty : Prop} {s : Store} {α : Type}

abbrev UpsertsNumbers (lib : Lib) (faulty : Prop) (p : Proc α) (s : Store) : Prop :=
  Along (faultStep lib faulty) (fun _ => WritesNumbers) p s

lemma Prog.AllCalls.numbers {p : Proc α} (hp : p.AllCalls WritesNumbers) :
    UpsertsNumbers lib faulty p s :=
  Prog.AllCalls.along (I := fun _ => True) hp trivial (fun _ _ _ _ _ _ _ => trivial)
    (fun _ _ _ hc => hc)

lemma numbers_store {c : StoreCall} {f : Except Error c.Result → Proc α} :
    UpsertsNumbers lib faulty (store c >>= f) s ↔ WritesNumbers (.store c) ∧
      UpsertsNumbers lib faulty (f (s.handle lib c).1) (s.handle lib c).2 ∧
      (faulty → ∀ err s₁, err.is = none → c.FailsTo s s₁ →
        UpsertsNumbers lib faulty (f (.error err)) s₁) := by
  constructor
  · rintro ⟨hc, h⟩
    refine ⟨hc, h _ _ (.inl rfl), ?_⟩
    intro hf err s₁ hplain hto
    exact h _ s₁ (.inr ⟨hf, hto, err, rfl, hplain⟩)
  · rintro ⟨hc, hok, hfail⟩
    refine ⟨hc, ?_⟩
    rintro r s₁ (hs | ⟨hf, hto, err, rfl, hplain⟩)
    · obtain ⟨rfl, rfl⟩ := Prod.mk.inj (show (r, s₁) = s.handle lib c from hs)
      exact hok
    · exact hfail hf err s₁ hplain hto

lemma numbers_bind {β : Type} {p : Proc β} {f : β → Proc α} :
    UpsertsNumbers lib faulty (p >>= f) s ↔ UpsertsNumbers lib faulty p s ∧
      ∀ tr b s', Exec (faultStep lib faulty) p s tr b s' → UpsertsNumbers lib faulty (f b) s' :=
  along_bind

lemma numbers_ret {a : α} : UpsertsNumbers lib faulty (.ret a) s := trivial

lemma inTx_numbers {body : Proc (Except Error Unit)} :
    UpsertsNumbers lib faulty (inTx body) s ↔ UpsertsNumbers lib faulty body s.beginTx.2 := by
  have hbegin : (s.handle lib .beginTx).1 = .ok () := by
    change s.beginTx.1 = _
    unfold Store.beginTx
    split <;> rfl
  unfold inTx
  rw [numbers_store, hbegin]
  constructor
  · rintro ⟨-, h, -⟩
    exact (numbers_bind.mp h).1
  · intro h
    refine ⟨trivial, numbers_bind.mpr ⟨h, ?_⟩, fun _ _ _ _ _ => numbers_ret⟩
    rintro tr (err | _) s' -
    · exact Prog.AllCalls.numbers ⟨trivial, fun _ => trivial⟩
    · exact Prog.AllCalls.numbers ⟨trivial, fun _ => trivial⟩

lemma beginTx_balances : s.beginTx.2.balances = s.balances := by
  unfold Store.beginTx
  split <;> rfl

lemma write_numbers (ev : ConfirmationEvent) (cur : Balance) :
    UpsertsNumbers lib faulty (BalanceService.credit.write svc ev cur) s ↔
      NumericColumns (svc.creditedRow ev cur) := by
  unfold BalanceService.credit.write
  rw [numbers_store]
  constructor
  · rintro ⟨h, -⟩
    exact h
  · intro h
    refine ⟨h, ?_, fun _ _ _ _ _ => numbers_ret⟩
    apply Prog.AllCalls.numbers
    dsimp only [Store.handle, Store.upsertBalance]
    split
    · exact ⟨trivial, fun _ => trivial⟩
    · trivial

lemma numbers_getBalance {walletID : UUID} {asset : String} {f : Except Error Balance → Proc α}
    (hfail : ∀ err s₁, err.is = none → UpsertsNumbers lib faulty (f (.error err)) s₁) :
    UpsertsNumbers lib faulty (store (.getBalance walletID asset) >>= f) s ↔
      match s.balances.lookup (balanceKey walletID asset) with
      | none => UpsertsNumbers lib faulty (f (.error (errNoRows.wrap "balance not found"))) s
      | some cur => UpsertsNumbers lib faulty (f (.ok cur)) s := by
  have hread : (match s.balances.lookup (balanceKey walletID asset) with
      | none => UpsertsNumbers lib faulty (f (.error (errNoRows.wrap "balance not found"))) s
      | some cur => UpsertsNumbers lib faulty (f (.ok cur)) s) ↔
      UpsertsNumbers lib faulty (f (s.getBalance walletID asset)) s := by
    unfold Store.getBalance
    cases s.balances.lookup (balanceKey walletID asset) <;> exact Iff.rfl
  rw [numbers_store, hread]
  constructor
  · rintro ⟨-, h, -⟩
    exact h
  · intro h
    exact ⟨trivial, h, fun _ err s₁ hplain _ => hfail err s₁ hplain⟩

lemma credit_numbers (ev : ConfirmationEvent) :
    UpsertsNumbers lib faulty (svc.credit ev) s ↔
      NumericColumns (svc.creditedRow ev (balanceRow s ev.walletID ev.asset)) := by
  refine (numbers_getBalance ?_).trans ?_
  · intro err s₁ hplain
    dsimp only
    rw [if_neg (by simp [hplain])]
    exact numbers_ret
  · unfold balanceRow
    cases s.balances.lookup (balanceKey ev.walletID ev.asset) with
    | none => exact write_numbers ev _
    | some cur => exact write_numbers ev cur

lemma demote_numbers (ev : ReorgEvent) :
    UpsertsNumbers lib faulty (svc.demote ev) s ↔
      ∀ row, s.balances.lookup (balanceKey ev.walletID ev.asset) = some row →
        NumericColumns (svc.demotedRow ev row) := by
  refine (numbers_getBalance ?_).trans ?_
  · intro err s₁ hplain
    dsimp only
    rw [if_neg (by simp [hplain])]
    exact numbers_ret
  · cases s.balances.lookup (balanceKey ev.walletID ev.asset) with
    | none => exact iff_of_true numbers_ret nofun
    | some cur =>
      constructor
      · rintro h row ⟨⟩
        exact h.1
      · intro h
        exact ⟨h cur rfl, fun _ _ _ => numbers_ret⟩

lemma relock_numbers (walletID : UUID) (asset : String) (locked : ℚ → ℚ) :
    UpsertsNumbers lib faulty (svc.relock walletID asset locked) s ↔
      ∀ row, s.balances.lookup (balanceKey walletID asset) = some row → NumericText row.confirmed ∧
        NumericText row.pending ∧
        NumericText (formatDec svc.lib (locked (parseDec svc.lib row.locked))) := by
  refine (numbers_getBalance ?_).trans ?_
  · intro err s₁ _
    exact numbers_ret
  · cases s.balances.lookup (balanceKey walletID asset) with
    | none => exact iff_of_true numbers_ret nofun
    | some cur =>
      constructor
      · rintro h row ⟨⟩
        exact ⟨h.1.confirmed, h.1.pending, h.1.locked⟩
      · intro h
        obtain ⟨hconfirmed, hpending, hlocked⟩ := h cur rfl
        exact ⟨⟨hconfirmed, hpending, hlocked⟩, fun _ _ _ => numbers_ret⟩

lemma applyConfirmationEvent_numbers (ev : ConfirmationEvent) :
    UpsertsNumbers svc.lib faulty (svc.applyConfirmationEvent ev) s ↔
      (ev.balanceEvent.key ∉ s.balanceEvents →
        NumericColumns (svc.creditedRow ev (balanceRow s ev.walletID ev.asset))) := by
  have hfail : ∀ err s₁, err.is = none → UpsertsNumbers svc.lib faulty
      (if err.is = some .errDuplicateEvent then return .ok () else return .error err :
        Proc (Except Error Unit)) s₁ := by
    intro err s₁ hplain
    rw [if_neg (by simp [hplain])]
    exact numbers_ret
  unfold BalanceService.applyConfirmationEvent
  rw [numbers_store]
  dsimp only [Store.handle, Store.recordBalanceEvent]
  by_cases hdup : ev.balanceEvent.key ∈ s.balanceEvents
  · simp only [if_pos hdup]
    refine iff_of_true ⟨trivial, numbers_ret, fun _ err s₁ hplain _ => hfail err s₁ hplain⟩ ?_
    intro hfresh
    exact absurd hdup hfresh
  · simp only [if_neg hdup]
    have hcredit : UpsertsNumbers svc.lib faulty (svc.credit ev)
        (Store.beginTx { s with balanceEvents := insert ev.balanceEvent.key s.balanceEvents }).2 ↔
        NumericColumns (svc.creditedRow ev (balanceRow s ev.walletID ev.asset)) := by
      rw [credit_numbers, balanceRow, beginTx_balances]
      exact Iff.rfl
    constructor
    · rintro ⟨-, h, -⟩ -
      exact hcredit.mp (inTx_numbers.mp (numbers_bind.mp h).1)
    · intro h
      refine ⟨trivial, numbers_bind.mpr ⟨inTx_numbers.mpr (hcredit.mpr (h hdup)), ?_⟩,
        fun _ err s₁ hplain _ => hfail err s₁ hplain⟩
      rintro tr (err | _) s' -
      · exact numbers_ret
      · apply Prog.AllCalls.numbers
        dsimp only
        split
        · exact ⟨trivial, fun _ => trivial⟩
        · trivial

lemma applyReorgEvent_numbers (ev : ReorgEvent) :
    UpsertsNumbers svc.lib faulty (svc.applyReorgEvent ev) s ↔
      ∀ row, s.balances.lookup (balanceKey ev.walletID ev.asset) = some row →
        NumericColumns (svc.demotedRow ev row) := by
  have haudit : (BalanceService.applyReorgEvent.audit svc ev).AllCalls WritesNumbers := by
    unfold BalanceService.applyReorgEvent.audit
    split
    · exact ⟨trivial, fun _ => trivial⟩
    · trivial
  refine numbers_bind.trans ?_
  rw [inTx_numbers, demote_numbers, beginTx_balances]
  constructor
  · rintro ⟨h, -⟩
    exact h
  · intro h
    refine ⟨h, ?_⟩
    rintro tr (err | _) s' -
    · exact numbers_ret
    · apply Prog.AllCalls.numbers
      dsimp only
      split
      · refine ⟨trivial, ?_⟩
        rintro (err | _)
        · trivial
        · exact haudit
      · exact haudit

end Operations

section Runs

variable {svc : BalanceService} {faulty : Prop} {ok : Store → BalanceOp → Prop} {s₀ s : Store}
  {log : BalanceLog}

lemma relock_findsLocked (hlib : LawfulDecimal svc.lib) (hfmt : FormatsNumbers svc.lib)
    (h : BooksInv svc log s) (walletID : UUID) (asset : String) {locked : ℚ → ℚ}
    (hlocked : ∀ q, IsDecimal q → IsDecimal (locked q)) :
    UpsertsNumbers svc.lib faulty (inTx (svc.relock walletID asset locked)) s := by
  rw [inTx_numbers, relock_numbers, beginTx_balances]
  intro row hrow
  have hshows := h.rows walletID asset
  obtain ⟨-, hconfirmed, hpending, -⟩ := hshows.shown row hrow
  rw [hconfirmed, hpending]
  exact ⟨hfmt _ hshows.confirmed_decimal, hfmt _ hshows.pending_decimal,
    hfmt _ (hlocked _ (parseDec_isDecimal hlib _))⟩

/-- After every run from a store without balances, store calls failing or not, an operation
upserts numeric columns exactly if it finds a number in the locked column that it copies. -/
theorem upserts_numbers_iff (hlib : LawfulDecimal svc.lib) (hfmt : FormatsNumbers svc.lib)
    (h₀ : s₀.balances = ∅) (hdepth : s₀.depth = 0)
    (h : Runs (BalanceOp.proc svc) (faultStep svc.lib faulty) ok s₀ log s) (op : BalanceOp) :
    Along (faultStep svc.lib faulty) (fun _ => WritesNumbers) (op.proc svc) s ↔ FindsLocked s op := by
  have hbooks : BooksInv svc log s := by
    refine Runs.invariant (I := BooksInv svc) ⟨hdepth, ?_, nofun, List.nodup_nil⟩ ?_ h
    · intro walletID asset
      rw [h₀]
      exact ⟨isDecimal_zero, isDecimal_zero, fun _ => ⟨rfl, rfl⟩, nofun⟩
    · intro log s op tr a s' hi _ he
      exact hi.step hlib (balanceOp_outcome hi.depth op tr a s' he)
  have hempty : ¬ NumericText "" := by decide +kernel
  cases op with
  | confirm ev =>
    refine (applyConfirmationEvent_numbers ev).trans ?_
    rw [creditedRow_columns hlib hfmt, FindsLocked, ← or_iff_not_imp_left, balanceRow]
    cases s.balances.lookup (balanceKey ev.walletID ev.asset) with
    | none => simp [hempty]
    | some row => simp
  | reorg ev =>
    refine (applyReorgEvent_numbers ev).trans ?_
    simp only [demotedRow_columns hlib hfmt, FindsLocked]
  | addLocked walletID asset amount =>
    refine iff_of_true (relock_findsLocked hlib hfmt hbooks walletID asset ?_) trivial
    intro q hq
    exact hq.add (parseDec_isDecimal hlib amount)
  | releaseLocked walletID asset amount =>
    refine iff_of_true (relock_findsLocked hlib hfmt hbooks walletID asset ?_) trivial
    intro q hq
    dsimp only
    split
    · exact isDecimal_zero
    · rw [sub_eq_add_neg]
      exact hq.add (parseDec_isDecimal hlib amount).neg

lemma referenceLib_formats : FormatsNumbers referenceLib := by
  intro q hq
  change (parse (format q)).isSome
  rw [parse_format hq]
  rfl

def relockedRun := balanceRun {} [.confirm (evmDeposit "1.5" 12 7 "a"), .addLocked evmWallet.id "ETH" "1"]

theorem upserts_numbers_iff_locked :
    FindsLocked relockedRun.2 (.confirm (evmDeposit "0.5" 12 8 "b")) ∧
      Along (faultStep referenceLib False) (fun _ => WritesNumbers)
        (BalanceOp.proc referenceBalances (.confirm (evmDeposit "0.5" 12 8 "b"))) relockedRun.2 := by
  have hrun : Runs (BalanceOp.proc referenceBalances) (faultStep referenceLib False)
      (fun _ _ => True) {} relockedRun.1 relockedRun.2 :=
    (balanceRun_runs (fun _ _ => True) {} _ (by simp)).mono
      (fun _ _ _ _ => memStep_faultStep False) (fun _ _ h => h)
  have htext : (relockedRun.2.balances.lookup (balanceKey evmWallet.id "ETH")).map Balance.locked =
      some "1" := by decide +kernel
  have hnumber : NumericText "1" := by decide +kernel
  generalize relockedRun.2 = s at hrun htext ⊢
  obtain ⟨row, hrow, hlocked⟩ := Option.map_eq_some_iff.mp htext
  have hfinds : FindsLocked s (.confirm (evmDeposit "0.5" 12 8 "b")) :=
    .inr ⟨row, hrow, hlocked ▸ hnumber⟩
  have hiff := @upserts_numbers_iff referenceBalances False (fun _ _ => True) {} s relockedRun.1
    referenceLib_lawful referenceLib_formats rfl rfl hrun (.confirm (evmDeposit "0.5" 12 8 "b"))
  exact ⟨hfinds, hiff.mpr hfinds⟩

def upsertOf : Event Call Answer → Option Balance
  | ⟨.store (.upsertBalance b), _⟩ => some b
  | _ => none

def firstRun := balanceRun {} [.confirm (evmDeposit "1.5" 12 7 "a")]

theorem first_credit_upserts_empty_text :
    Runs (BalanceOp.proc referenceBalances) (memStep referenceLib) (fun _ _ => True) {}
        firstRun.1 firstRun.2 ∧
      (firstRun.1.flatMap (fun e => e.trace.filterMap upsertOf)).map
        (fun b => (b.confirmed, b.pending, b.locked)) = [("1.5", "0", "")] ∧
      ¬ NumericText "" := by
  refine ⟨balanceRun_runs _ _ _ (by simp), ?_⟩
  decide +kernel

end Runs

end WalletManager.Proofs
