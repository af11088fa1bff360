import WalletManager.Balance.Service
import WalletManager.Proofs.SqlClients

/-!
# The transactions of the balance service

What the operations of the balance service ask the database to commit: they read the row of a balance,
write it and record the event. Procedures that are made of such transactions and of other store operations
keep to the rules of both.
-/

namespace WalletManager

open Interaction Relational

def BalanceOp.walletID : BalanceOp → UUID
  | confirm ev => ev.walletID
  | reorg ev => ev.walletID
  | addLocked walletID _ _ | releaseLocked walletID _ _ => walletID

def BalanceOp.written (svc : BalanceService) : BalanceOp → Option Balance → Option Balance
  | confirm ev, cur => some (svc.creditedRow ev (cur.getD { walletID := ev.walletID, asset := ev.asset }))
  | reorg ev, cur => cur.map (svc.demotedRow ev)
  | addLocked walletID asset amount, cur => cur.map (fun cur =>
    { cur with
      walletID := walletID
      asset := asset
      locked := formatDec svc.lib (parseDec svc.lib cur.locked + parseDec svc.lib amount) })
  | releaseLocked walletID asset amount, cur => cur.map (fun cur =>
    { cur with
      walletID := walletID
      asset := asset
      locked := formatDec svc.lib
        (let locked := parseDec svc.lib cur.locked - parseDec svc.lib amount
         if locked < 0 then 0 else locked) })

def BalanceOp.apply (svc : BalanceService) (db : Database) (op : BalanceOp) (row : Option BalanceRow) :
    Option BalanceRow :=
  match op.written svc (row.map (PgStore.scanBalance db.numeric)) with
  | none => row
  | some b =>
    match BalanceRow.ofBalance db.numeric b with
    | .error _ => row
    | .ok row => some row

namespace Proofs

variable {T : Type} {db : Database} {em : EmitterService} {svc : BalanceService} {op : BalanceOp} {t : T}
  {rules : SqlRules} {g : SqlClient} {rows rows' : (k : RowKey) → Option k.Row} {u : List SqlEvent}

/-! ## The transactions of the balance service -/

def AuditStatement (e : SqlEvent) : Prop :=
  (∃ walletID n, e = ⟨.exec (.nextAuditSeq walletID), .ok n⟩) ∨ ∃ ev, e = ⟨.exec (.insertAuditEvent ev), .ok ()⟩

def Updates (svc : BalanceService) (db : Database) (op : BalanceOp) (u : List SqlEvent) : Prop :=
  ∃ row b tail, u = ⟨.exec (.selectBalance op.walletID op.asset), .ok row⟩ ::
      ⟨.exec (.upsertBalance b), .ok ()⟩ :: tail ∧
    op.written svc (row.map (PgStore.scanBalance db.numeric)) = some b ∧ ∀ e ∈ tail, AuditStatement e

def Finds (svc : BalanceService) (op : BalanceOp) (u : List SqlEvent) : Prop :=
  u = [⟨.exec (.selectBalance op.walletID op.asset), .ok none⟩] ∧ op.written svc none = none ∧
    ∃ ev, op = .reorg ev

def BalanceUnit (svc : BalanceService) (db : Database) (op : BalanceOp) (u : List SqlEvent) : Prop :=
  Updates svc db op u ∨ Finds svc op u

lemma written_key {cur : Option Balance} {b : Balance} (h : op.written svc cur = some b) :
    b.walletID = op.walletID ∧ b.asset = op.asset := by
  cases op with
  | confirm ev =>
    cases h
    exact ⟨rfl, rfl⟩
  | reorg | addLocked | releaseLocked =>
    obtain ⟨cur, -, rfl⟩ := Option.map_eq_some_iff.mp h
    exact ⟨rfl, rfl⟩

lemma AuditStatement.locks (db : Database) {e : SqlEvent} (h : AuditStatement e) :
    ∃ k, (postgres db).key e = some k ∧ (postgres db).Locks e k ∧
      ∀ walletID asset, k ≠ .balance walletID asset := by
  rcases h with ⟨walletID, n, rfl⟩ | ⟨ev, rfl⟩
  · refine ⟨.auditSeq walletID, rfl, ⟨_, rfl, ?_⟩, by simp⟩
    rintro row eff hrun rfl
    cases congrArg Prod.snd hrun
  · refine ⟨.auditOutbox ev.id, rfl, ⟨_, rfl, ?_⟩, by simp⟩
    rintro row eff hrun rfl
    cases row with
    | some row => cases congrArg Prod.fst hrun
    | none =>
      dsimp only [insertRow] at hrun
      split at hrun
      · cases congrArg Prod.fst hrun
      · cases congrArg Prod.snd hrun

lemma upsert_effect {b : Balance} {row : Option BalanceRow} {eff : Effect BalanceRow}
    (h : upsertRow (BalanceRow.ofBalance db.numeric b) row = (.ok (), eff)) :
    ∃ new, BalanceRow.ofBalance db.numeric b = .ok new ∧ eff = .write (some new) := by
  unfold upsertRow at h
  split at h
  · cases h
  · rename_i new hnew
    cases h
    exact ⟨new, hnew, rfl⟩

lemma Updates.covered (h : Updates svc db op u) : (postgres db).Covered u := by
  obtain ⟨row, b, tail, rfl, hwritten, htail⟩ := h
  obtain ⟨hwallet, hasset⟩ := written_key hwritten
  have hupsert : (postgres db).Locks ⟨.exec (.upsertBalance b), .ok ()⟩ (.balance b.walletID b.asset) := by
    refine ⟨_, rfl, ?_⟩
    rintro row eff hrun rfl
    obtain ⟨new, -, hwrite⟩ := upsert_effect hrun
    cases hwrite
  intro k hk
  rw [Dialect.keys_cons_mem, Dialect.keys_cons_mem] at hk
  rcases hk with hk | hk | hk
  · obtain rfl : RowKey.balance op.walletID op.asset = k := Option.some.inj hk
    rw [← hwallet, ← hasset]
    exact ⟨_, List.mem_cons_of_mem _ List.mem_cons_self, hupsert⟩
  · obtain rfl : RowKey.balance b.walletID b.asset = k := Option.some.inj hk
    exact ⟨_, List.mem_cons_of_mem _ List.mem_cons_self, hupsert⟩
  · obtain ⟨e, he, hkey⟩ := List.mem_filterMap.mp hk
    obtain ⟨k', hkey', hlocks, -⟩ := (AuditStatement.locks db (htail e he))
    obtain rfl : k' = k := Option.some.inj (hkey'.symm.trans hkey)
    exact ⟨e, List.mem_cons_of_mem _ (List.mem_cons_of_mem _ he), hlocks⟩

lemma Finds.readOnly (h : Finds svc op u) : (postgres db).ReadOnly u := by
  obtain ⟨rfl, -⟩ := h
  intro e he key run row eff haction hrun
  obtain rfl := List.mem_singleton.mp he
  cases haction
  cases hrun
  rfl

lemma BalanceUnit.calls (h : BalanceUnit svc db op u) {e : SqlEvent} (he : e ∈ u) :
    (∃ walletID asset, e.call = .exec (.selectBalance walletID asset)) ∨ (∃ b, e.call = .exec (.upsertBalance b)) ∨
      (∃ walletID, e.call = .exec (.nextAuditSeq walletID)) ∨ ∃ ev, e.call = .exec (.insertAuditEvent ev) := by
  rcases h with ⟨row, b, tail, rfl, -, htail⟩ | ⟨rfl, -⟩
  · rcases List.mem_cons.mp he with rfl | he
    · exact .inl ⟨_, _, rfl⟩
    rcases List.mem_cons.mp he with rfl | he
    · exact .inr (.inl ⟨b, rfl⟩)
    rcases htail e he with ⟨walletID, n, rfl⟩ | ⟨ev, rfl⟩
    · exact .inr (.inr (.inl ⟨walletID, rfl⟩))
    · exact .inr (.inr (.inr ⟨ev, rfl⟩))
  · obtain rfl := List.mem_singleton.mp he
    exact .inl ⟨_, _, rfl⟩

lemma BalanceUnit.keys (h : BalanceUnit svc db op u) {k : RowKey} (hk : k ∈ (postgres db).keys u) :
    (∃ walletID asset, k = .balance walletID asset) ∨ (∃ walletID, k = .auditSeq walletID) ∨
      ∃ id, k = .auditOutbox id := by
  obtain ⟨⟨c, r⟩, he, hkey⟩ := List.mem_filterMap.mp hk
  rcases h.calls he with ⟨walletID, asset, hc⟩ | ⟨b, hc⟩ | ⟨walletID, hc⟩ | ⟨ev, hc⟩ <;> cases hc <;> cases hkey
  · exact .inl ⟨_, _, rfl⟩
  · exact .inl ⟨_, _, rfl⟩
  · exact .inr (.inl ⟨_, rfl⟩)
  · exact .inr (.inr ⟨_, rfl⟩)

/-! ## What they make of the rows -/

lemma Updates.replay (h : Updates svc db op u) (hreplay : (postgres db).Replay rows u rows') :
    rows' (.balance op.walletID op.asset) = op.apply svc db (rows (.balance op.walletID op.asset)) ∧
    (∀ walletID asset, (walletID, asset) ≠ (op.walletID, op.asset) →
      rows' (.balance walletID asset) = rows (.balance walletID asset)) ∧
    (postgres db).WritesIn rows u := by
  obtain ⟨row, b, tail, rfl, hwritten, htail⟩ := h
  obtain ⟨rows₁, hselect, rows₂, hupsert, htailReplay⟩ := hreplay
  obtain ⟨hwallet, hasset⟩ := written_key hwritten
  obtain ⟨eff, hrun, hrows₁⟩ := hselect.effect rfl
  cases hrun
  have hsame : rows₁ = rows := by
    rw [hrows₁]
    exact Function.update_eq_self ..
  rw [hsame] at hupsert
  obtain ⟨eff, hrun, hrows₂⟩ := hupsert.effect rfl
  obtain ⟨new, hnew, rfl⟩ := upsert_effect hrun
  have hafter : ∀ walletID asset, rows' (.balance walletID asset) = rows₂ (.balance walletID asset) := by
    intro walletID asset
    apply htailReplay.untouched
    intro hmem
    obtain ⟨e, he, hkey⟩ := List.mem_filterMap.mp hmem
    obtain ⟨k, hkey', -, hne⟩ := (AuditStatement.locks db (htail e he))
    exact hne walletID asset (Option.some.inj (hkey'.symm.trans hkey))
  refine ⟨?_, fun walletID asset hne => ?_, .inr ⟨rows, hsame ▸ hselect, .inl ⟨_, _, _, rfl, hrun, rfl⟩⟩⟩
  · rw [hafter, hrows₂, ← hwallet, ← hasset]
    rw [← hwallet, ← hasset] at hwritten
    rw [BalanceOp.apply, hwritten]
    simp only [hnew]
    exact Function.update_self ..
  · rw [hafter, hrows₂]
    apply Function.update_of_ne
    intro heq
    cases heq
    exact hne (by rw [hwallet, hasset])

/-! ## The programs of the operations -/

section Operations

lemma translate_session {α : Type} (p : Proc α) :
    (p.translate (Call.auditedSql db t em)).AllCalls (fun c => c.session = t) :=
  (Prog.allCalls_of_forall (P := fun _ => True) (fun _ => trivial) p).translate _ (fun c _ => audited_session c)

lemma inTx_translate (body : Proc (Except Error Unit)) :
    (inTx body).translate (Call.auditedSql db t em) = sqlTx t (body.translate (Call.auditedSql db t em)) := by
  refine congrArg (Prog.call _) (funext fun r => ?_)
  cases r with
  | error err => rfl
  | ok a =>
    refine (Prog.translate_bind (Call.auditedSql db t em) body _).trans ?_
    refine congrArg (fun k => body.translate (Call.auditedSql db t em) >>= k) (funext fun r => ?_)
    cases r with
    | error err => rfl
    | ok a =>
      refine congrArg (Prog.call _) (funext fun r => ?_)
      cases r <;> rfl

lemma getBalance_conforms (walletID : UUID) (asset : String) (hphase : g.phase = .running []) :
    Conforms ((postgres db).client t rules) (getBalanceSql db t walletID asset) g (fun g' r =>
      g'.attempted = g.attempted ∧ g'.finished = g.finished ∧
      ((∃ err, r = .error err ∧ err.is = none ∧ g'.phase = .failed) ∨
       (r = .error errNoRows ∧ g'.phase = .running [⟨.exec (.selectBalance walletID asset), .ok none⟩]) ∨
       ∃ row, r = .ok (PgStore.scanBalance db.numeric row) ∧
         g'.phase = .running [⟨.exec (.selectBalance walletID asset), .ok (some row)⟩])) := by
  refine Dialect.conforms_statement rfl hphase ?_ ?_
  · intro r hr
    cases r with
    | error err => cases hr
    | ok row =>
      cases row with
      | none => exact ⟨rfl, rfl, .inr (.inl ⟨rfl, rfl⟩)⟩
      | some row => exact ⟨rfl, rfl, .inr (.inr ⟨row, rfl, rfl⟩)⟩
  · rintro r ⟨err, rfl, hnone⟩
    exact ⟨rfl, rfl, .inl ⟨err, rfl, hnone, rfl⟩⟩

def Recording (u : List SqlEvent) (g g' : SqlClient) : Prop :=
  g'.phase = .unreachable ∨ g'.attempted = g.attempted ∧ g'.finished = g.finished ∧
    (g'.phase = .failed ∨ ∃ tail, g'.phase = .running (u ++ tail) ∧ ∀ e ∈ tail, AuditStatement e)

variable {g₀ : SqlClient}

lemma upsertBalance_conforms (b : Balance) (hatt : g.attempted = g₀.attempted) (hfin : g.finished = g₀.finished)
    (hphase : g.phase = .running u) :
    Conforms ((postgres db).client t rules) (exec t (.upsertBalance b)) g (fun g' r =>
      (∃ err, r = .error err) ∧ g'.attempted = g₀.attempted ∧ g'.finished = g₀.finished ∧ g'.phase = .failed ∨
        r = .ok () ∧ Recording (u ++ [⟨.exec (.upsertBalance b), .ok ()⟩]) g₀ g') := by
  refine Dialect.conforms_statement rfl hphase ?_ ?_
  · intro r hr
    cases r with
    | error err => cases hr
    | ok a => exact .inr ⟨rfl, .inr ⟨hatt, hfin, .inr ⟨[], by simp, by simp⟩⟩⟩
  · rintro r ⟨err, rfl, -⟩
    exact .inl ⟨⟨err, rfl⟩, hatt, hfin, rfl⟩

lemma exec_recording {c : Statement} {key : RowKey}
    {run : Option key.Row → Except Error c.Result × Effect key.Row} (haction : c.action db = .statement key run)
    (hc : ∀ r : c.Result, AuditStatement ⟨.exec c, .ok r⟩) (hg : Recording u g₀ g) :
    Conforms ((postgres db).client t rules) (exec t c) g (fun g' _ => Recording u g₀ g') := by
  rcases hg with hun | ⟨hatt, hfin, hfailed | ⟨tail, hphase, htail⟩⟩
  · exact Dialect.conforms_unreachable (exec_session t c) hun (fun _ _ h => .inl h)
  · exact Dialect.conforms_refused haction hfailed (fun r _ => .inl rfl) (fun r _ => .inr ⟨hatt, hfin, .inl rfl⟩)
  · refine Dialect.conforms_statement haction hphase (fun r hr => ?_) (fun r _ => .inr ⟨hatt, hfin, .inl rfl⟩)
    cases r with
    | error err => cases hr
    | ok a =>
      refine .inr ⟨hatt, hfin, .inr ⟨tail ++ [⟨.exec c, .ok a⟩], by rw [List.append_assoc], ?_⟩⟩
      intro e he
      rcases List.mem_append.mp he with he | he
      · exact htail e he
      · obtain rfl := List.mem_singleton.mp he
        exact hc a

lemma emit_recording (e : AuditEvent) (hg : Recording u g₀ g) :
    Conforms ((postgres db).client t rules) (Call.auditedSql db t em (.ext (.emit e))) g
      (fun g' _ => Recording u g₀ g') := by
  refine Dialect.conforms_other rfl (fun fresh => ?_)
  refine (emit_audits em _ fresh).conforms_translate (fun c hc g hg => ?_) hg
  cases c with
  | ext c => exact hc.elim
  | store c =>
    cases c with
    | nextAuditSeq walletID => exact exec_recording rfl (fun n => .inl ⟨walletID, n, rfl⟩) hg
    | appendAuditEvent e => exact exec_recording rfl (fun _ => .inr ⟨e, rfl⟩) hg
    | _ => exact hc.elim

lemma bodyEnds_of_recording {row : Option BalanceRow} {b : Balance} {g' : SqlClient}
    (hwritten : op.written svc (row.map (PgStore.scanBalance db.numeric)) = some b)
    (htx : ∀ u, BalanceUnit svc db op u → rules.tx g.attempted u)
    (h : Recording [⟨.exec (.selectBalance op.walletID op.asset), .ok row⟩,
      ⟨.exec (.upsertBalance b), .ok ()⟩] g g')
    (a : Except Error Unit) :
    BodyEnds rules db (fun _ => BalanceUnit svc db op) g g' a := by
  rcases h with hun | ⟨hatt, hfin, hphase⟩
  · exact .inl hun
  · refine .inr ⟨hatt, hfin, hphase.imp id ?_⟩
    rintro ⟨tail, hphase, htail⟩
    have hunit : Updates svc db op _ := ⟨row, b, tail, rfl, hwritten, htail⟩
    exact ⟨_, hphase, fun _ _ => ⟨.inr hunit.covered, htx _ (.inl hunit), .inl hunit⟩⟩

lemma write_conforms {row : Option BalanceRow} {b : Balance} {g' : SqlClient}
    (hatt : g'.attempted = g.attempted) (hfin : g'.finished = g.finished)
    (hphase : g'.phase = .running [⟨.exec (.selectBalance op.walletID op.asset), .ok row⟩])
    (hwritten : op.written svc (row.map (PgStore.scanBalance db.numeric)) = some b)
    (htx : ∀ u, BalanceUnit svc db op u → rules.tx g.attempted u) :
    Conforms ((postgres db).client t rules) ((store (.upsertBalance b)).translate (Call.auditedSql db t em)) g'
      (BodyEnds rules db (fun _ => BalanceUnit svc db op) g) := by
  refine ((upsertBalance_conforms b hatt hfin hphase).mono ?_).bind
  rintro g'' r (⟨⟨err, rfl⟩, hatt', hfin', hfailed⟩ | ⟨rfl, hrecording⟩)
  · exact .inr ⟨hatt', hfin', .inl hfailed⟩
  · exact bodyEnds_of_recording hwritten htx hrecording _

lemma credit_conforms (ev : ConfirmationEvent)
    (htx : ∀ u, BalanceUnit svc db (.confirm ev) u → rules.tx g.attempted u) :
    Conforms ((postgres db).client t rules) ((svc.credit ev).translate (Call.auditedSql db t em))
      { g with phase := .running [] } (BodyEnds rules db (fun _ => BalanceUnit svc db (.confirm ev)) g) := by
  -- A balance that is not there is written as an empty one would be.
  have hwrite : ∀ g' (row : Option BalanceRow) cur,
      (row.map (PgStore.scanBalance db.numeric)).getD { walletID := ev.walletID, asset := ev.asset } = cur →
      g'.attempted = g.attempted → g'.finished = g.finished →
      g'.phase = .running [⟨.exec (.selectBalance ev.walletID ev.asset), .ok row⟩] →
      Conforms ((postgres db).client t rules)
        ((BalanceService.credit.write svc ev cur).translate (Call.auditedSql db t em)) g'
        (BodyEnds rules db (fun _ => BalanceUnit svc db (.confirm ev)) g) := by
    intro g' row cur hcur hatt hfin hphase
    have hwritten : (BalanceOp.confirm ev).written svc (row.map (PgStore.scanBalance db.numeric)) =
        some (svc.creditedRow ev cur) := by
      rw [← hcur]
      rfl
    refine ((upsertBalance_conforms _ hatt hfin hphase).mono ?_).bind
    rintro g'' r (⟨⟨err, rfl⟩, hatt', hfin', hfailed⟩ | ⟨rfl, hrecording⟩)
    · exact .inr ⟨hatt', hfin', .inl hfailed⟩
    change Conforms _ (Prog.translate _ (if svc.hasAudit = true then _ else _)) _ _
    split
    · refine ((emit_recording _ hrecording).mono ?_).bind
      intro g₃ r hg₃
      exact bodyEnds_of_recording hwritten htx hg₃ _
    · exact bodyEnds_of_recording hwritten htx hrecording _
  refine ((getBalance_conforms ev.walletID ev.asset rfl).mono ?_).bind
  rintro g' r ⟨hatt, hfin, ⟨err, rfl, hnone, hfailed⟩ | ⟨rfl, hphase⟩ | ⟨row, rfl, hphase⟩⟩
  · change Conforms _ (Prog.translate _ (if err.is = some .errNoRows then _ else _)) _ _
    rw [if_neg (by simp [hnone])]
    exact .inr ⟨hatt, hfin, .inl hfailed⟩
  · exact hwrite g' none _ rfl hatt hfin hphase
  · exact hwrite g' (some row) _ rfl hatt hfin hphase

lemma demote_conforms (ev : ReorgEvent)
    (htx : ∀ u, BalanceUnit svc db (.reorg ev) u → rules.tx g.attempted u) :
    Conforms ((postgres db).client t rules) ((svc.demote ev).translate (Call.auditedSql db t em))
      { g with phase := .running [] } (BodyEnds rules db (fun _ => BalanceUnit svc db (.reorg ev)) g) := by
  refine ((getBalance_conforms ev.walletID ev.asset rfl).mono ?_).bind
  rintro g' r ⟨hatt, hfin, ⟨err, rfl, hnone, hfailed⟩ | ⟨rfl, hphase⟩ | ⟨row, rfl, hphase⟩⟩
  · change Conforms _ (Prog.translate _ (if err.is = some .errNoRows then _ else _)) _ _
    rw [if_neg (by simp [hnone])]
    exact .inr ⟨hatt, hfin, .inl hfailed⟩
  · have hfinds : Finds svc (.reorg ev) _ := ⟨rfl, rfl, ev, rfl⟩
    exact .inr ⟨hatt, hfin, .inr ⟨_, hphase, fun _ _ => ⟨.inl hfinds.readOnly, htx _ (.inr hfinds), .inr hfinds⟩⟩⟩
  · have hwritten : (BalanceOp.reorg ev).written svc (some (PgStore.scanBalance db.numeric row)) =
        some (svc.demotedRow ev (PgStore.scanBalance db.numeric row)) := rfl
    exact write_conforms hatt hfin hphase hwritten htx

lemma relock_conforms {walletID : UUID} {asset : String} {locked : ℚ → ℚ}
    (hkey : op.walletID = walletID ∧ op.asset = asset)
    (hwritten : ∀ cur, op.written svc (some cur) = some { cur with
      walletID := walletID
      asset := asset
      locked := formatDec svc.lib (locked (parseDec svc.lib cur.locked)) })
    (htx : ∀ u, BalanceUnit svc db op u → rules.tx g.attempted u) :
    Conforms ((postgres db).client t rules)
      ((svc.relock walletID asset locked).translate (Call.auditedSql db t em))
      { g with phase := .running [] } (BodyEnds rules db (fun _ => BalanceUnit svc db op) g) := by
  obtain ⟨rfl, rfl⟩ := hkey
  refine ((getBalance_conforms op.walletID op.asset rfl).mono ?_).bind
  rintro g' r ⟨hatt, hfin, ⟨err, rfl, -, hfailed⟩ | ⟨rfl, hphase⟩ | ⟨row, rfl, hphase⟩⟩
  · exact .inr ⟨hatt, hfin, .inl hfailed⟩
  · refine .inr ⟨hatt, hfin, .inr ⟨_, hphase, ?_⟩⟩
    intro x hx
    cases hx
  · exact write_conforms hatt hfin hphase (hwritten _) htx

def body (svc : BalanceService) : BalanceOp → Proc (Except Error Unit)
  | .confirm ev => svc.credit ev
  | .reorg ev => svc.demote ev
  | .addLocked walletID asset amount => svc.relock walletID asset (fun locked => locked + parseDec svc.lib amount)
  | .releaseLocked walletID asset amount => svc.relock walletID asset (fun locked =>
    let locked := locked - parseDec svc.lib amount
    if locked < 0 then 0 else locked)

lemma body_conforms (op : BalanceOp) (htx : ∀ u, BalanceUnit svc db op u → rules.tx g.attempted u) :
    Conforms ((postgres db).client t rules) ((body svc op).translate (Call.auditedSql db t em))
      { g with phase := .running [] } (BodyEnds rules db (fun _ => BalanceUnit svc db op) g) := by
  cases op with
  | confirm ev => exact credit_conforms ev htx
  | reorg ev => exact demote_conforms ev htx
  | addLocked walletID asset amount | releaseLocked walletID asset amount =>
    unfold body
    apply relock_conforms
    · exact ⟨rfl, rfl⟩
    · intro cur
      rfl
    · exact htx

end Operations

/-! ## Procedures with transactions of both kinds -/

inductive Composed (svc : BalanceService) : {α : Type} → Proc α → Prop
  | plain {α : Type} {p : Proc α} : p.AllCalls Plain → Composed svc p
  | tx (op : BalanceOp) : Composed svc (inTx (body svc op))
  | bind {α β : Type} {p : Proc α} {k : α → Proc β} :
    Composed svc p → (∀ a, Composed svc (k a)) → Composed svc (p >>= k)

def systemRules (svc : BalanceService) (db : Database) : SqlRules :=
  ⟨Outside, fun _ u => StoreUnit u ∨ ∃ op, BalanceUnit svc db op u⟩

lemma systemRules_permits : Permits (systemRules svc db) (fun _ => True) :=
  ⟨fun _ h => h, fun _ _ _ h => .inl h, fun _ _ _ _ => trivial⟩

theorem Composed.noTx {α : Type} {p : Proc α} (hp : Composed svc p) (hg : NoTx (fun _ => True) g) :
    Conforms ((postgres db).client t (systemRules svc db)) (p.translate (Call.auditedSql db t em)) g
      (fun g _ => NoTx (fun _ => True) g) := by
  induction hp generalizing g with
  | plain hp => exact plain_noTx systemRules_permits hp hg
  | tx op =>
    rcases hg with ⟨hidle, -⟩ | hun
    · have htx : ∀ u, BalanceUnit svc db op u → (systemRules svc db).tx g.attempted u := fun u hu => .inr ⟨op, hu⟩
      rw [inTx_translate]
      refine (sqlTx_conforms hidle (body_conforms op htx)).mono ?_
      intro g' a hends
      exact hends.noTx systemRules_permits trivial
    · exact Dialect.conforms_unreachable (translate_session _) hun (fun _ _ h => .inr h)
  | bind _ _ ihp ihk =>
    rw [Prog.translate_bind]
    exact ((ihp hg).mono (fun g' a hg' => ihk a hg')).bind

end Proofs

end WalletManager
