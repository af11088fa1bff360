import WalletManager.Proofs.SagaCalls

/-!
# Whitelisting is never bypassed

Any number of operations run at once, also on one withdrawal; store calls fail at any time, before
or after they have taken effect. The invariant survives the lost updates of the saga because no
operation writes the request of a row, and each one that writes an approved state has seen an
approved state.
-/

namespace WalletManager.Proofs

open Interaction

def IsAudit : Call → Prop
  | .ext (.emit _) => True
  | _ => False

def IsAsk : Call → Prop
  | .ext (.sign _) | .ext (.broadcastTx _) => True
  | _ => False

def isApproved : WithdrawalState → Bool
  | .whitelisted | .signed | .broadcast | .confirmed => true
  | .pending | .failed => false

/-- The operation in `t` has inserted the row of `id` for `req`, and since then has only
written to the audit log. -/
def Inserted (log : SlotLog) (t : Slot) (id : UUID) (req : CreateRequest) : Prop :=
  ∃ before after, log = before ++ (t, ⟨.store (.createWithdrawal (req.row id)), .ok ()⟩) :: after ∧
    ∀ e ∈ after, e.1 = t → IsAudit e.2.call

/-- A `Create` call has inserted the row of `id` for `req`, and the policy has then answered
its `CheckWhitelist` for `req` with an approval. -/
def Approved (log : SlotLog) (id : UUID) (req : CreateRequest) : Prop :=
  ∃ n before dec after, Inserted before (.create id req, n) id req ∧ dec.approved = true ∧
    log = before ++ ((.create id req, n), ⟨.ext (.checkWhitelist
      ⟨req.walletID.string, req.toAddress, req.asset, req.amount⟩),
      (⟨some dec, none⟩ : PolicyAnswer)⟩) :: after

section History

variable {log : SlotLog} {t : Slot} {id : UUID} {req : CreateRequest} {e : Slot × Event Call Answer}

lemma Inserted.append (h : Inserted log t id req) (he : e.1 = t → IsAudit e.2.call) :
    Inserted (log ++ [e]) t id req := by
  obtain ⟨before, after, rfl, hafter⟩ := h
  refine ⟨before, after ++ [e], by simp, ?_⟩
  intro e' he'
  rcases List.mem_append.mp he' with he' | he'
  · exact hafter e' he'
  · obtain rfl := List.mem_singleton.mp he'
    exact he

lemma Approved.append (h : Approved log id req) : Approved (log ++ [e]) id req := by
  obtain ⟨n, before, dec, after, hins, hdec, rfl⟩ := h
  exact ⟨n, before, dec, after ++ [e], hins, hdec, by simp⟩

end History

/-- How far an operation has come: it has seen nothing yet, it has inserted its row and is
about to have it checked, or its withdrawal is approved. -/
inductive Clearance
  | idle
  | created (req : CreateRequest)
  | cleared

def Clearance.Ok (log : SlotLog) (s : Store) (t : Slot) : Clearance → Prop
  | .idle => True
  | .created req => Inserted log t t.1.id req ∧
    ∃ wr, s.withdrawals.lookup t.1.id = some wr ∧ requestOf wr = req
  | .cleared => ∃ wr, s.withdrawals.lookup t.1.id = some wr ∧ Approved log t.1.id (requestOf wr)

/-- The invariant: approved states, questions to the signer and the gateway, and operations
that have been cleared are all backed by an approval of the request on the row. -/
structure Vetted (γ : Slot → Clearance) (log : SlotLog) (s : Store) : Prop where
  rows : ∀ id wr, s.withdrawals.lookup id = some wr → isApproved wr.state →
    Approved log id (requestOf wr)
  asked : ∀ before t ev after, log = before ++ (t, ev) :: after → IsAsk ev.call →
    ∃ wr, s.withdrawals.lookup t.1.id = some wr ∧ Approved before t.1.id (requestOf wr)
  stages : ∀ t, (γ t).Ok log s t

section Steps

variable {γ : Slot → Clearance} {log : SlotLog} {s s' : Store} {t : Slot} {g g' : Clearance}
  {states : List WithdrawalState} {ev : Event Call Answer}

lemma RowStep.request {id j : UUID} {wr : WithdrawalRequest} (h : RowStep s s' id states)
    (hrow : s.withdrawals.lookup j = some wr) :
    ∃ wr', s'.withdrawals.lookup j = some wr' ∧ requestOf wr' = requestOf wr := by
  by_cases hj : j = id
  · subst hj
    obtain ⟨wr', hrow', hreq, -⟩ := h.kept wr hrow
    exact ⟨wr', hrow', hreq⟩
  · exact ⟨wr, by rw [h.others j hj, hrow], rfl⟩

lemma Clearance.Ok.other {t' : Slot} (hok : g.Ok log s t') (hne : t ≠ t') {id : UUID}
    (hrow : RowStep s s' id states) : g.Ok (log ++ [(t, ev)]) s' t' := by
  cases g with
  | idle => trivial
  | created req =>
    obtain ⟨hins, wr, hlookup, hreq⟩ := hok
    obtain ⟨wr', hlookup', hreq'⟩ := hrow.request hlookup
    exact ⟨hins.append (fun h => absurd h hne), wr', hlookup', hreq'.trans hreq⟩
  | cleared =>
    obtain ⟨wr, hlookup, happr⟩ := hok
    obtain ⟨wr', hlookup', hreq'⟩ := hrow.request hlookup
    exact ⟨wr', hlookup', by rw [hreq']; exact happr.append⟩

lemma Clearance.Ok.congr (hok : g.Ok log s t) (hrows : s'.withdrawals = s.withdrawals) :
    g.Ok log s' t := by
  cases g with
  | idle => trivial
  | created req =>
    unfold Clearance.Ok
    rwa [hrows]
  | cleared =>
    unfold Clearance.Ok
    rwa [hrows]

/-- The step lemma. A call writes the own row only; it writes approved states and asks the
signer or the gateway only when the operation is cleared. -/
theorem Vetted.step (h : Vetted γ log s) (hrow : RowStep s s' t.1.id states)
    (hstates : ∀ state ∈ states, isApproved state → Clearance.cleared.Ok log s t)
    (hask : IsAsk ev.call → Clearance.cleared.Ok log s t)
    (hok : g'.Ok (log ++ [(t, ev)]) s' t) :
    Vetted (Function.update γ t g') (log ++ [(t, ev)]) s' := by
  refine ⟨?_, ?_, ?_⟩
  · intro id wr' hlookup' happr
    by_cases hid : id = t.1.id
    · subst hid
      cases hlookup : s.withdrawals.lookup t.1.id with
      | none =>
        rw [hrow.fresh wr' hlookup hlookup'] at happr
        cases happr
      | some wr =>
        obtain ⟨wr₁, hlookup₁, hreq, hstate⟩ := hrow.kept wr hlookup
        obtain rfl : wr' = wr₁ := Option.some.inj (hlookup'.symm.trans hlookup₁)
        rw [hreq]
        refine Approved.append ?_
        rcases hstate with hstate | hstate
        · exact h.rows _ wr hlookup (hstate ▸ happr)
        · obtain ⟨wr₂, hlookup₂, happr₂⟩ := hstates _ hstate happr
          obtain rfl : wr = wr₂ := Option.some.inj (hlookup.symm.trans hlookup₂)
          exact happr₂
    · rw [hrow.others id hid] at hlookup'
      exact (h.rows id wr' hlookup' happr).append
  · intro before t' ev' after hlog hask'
    obtain ⟨wr, hlookup, happr⟩ : ∃ wr, s.withdrawals.lookup t'.1.id = some wr ∧
        Approved before t'.1.id (requestOf wr) := by
      rcases List.eq_nil_or_concat after with rfl | ⟨after₁, last, rfl⟩
      · obtain ⟨rfl, hlast⟩ := List.append_inj' hlog rfl
        obtain ⟨rfl, rfl⟩ := Prod.mk.inj (List.singleton_inj.mp hlast)
        exact hask hask'
      · have hlog' : log ++ [(t, ev)] = (before ++ (t', ev') :: after₁) ++ [last] := by simp [hlog]
        exact h.asked before t' ev' after₁ (List.append_inj' hlog' rfl).1 hask'
    obtain ⟨wr', hlookup', hreq'⟩ := hrow.request hlookup
    exact ⟨wr', hlookup', by rwa [hreq']⟩
  · intro t'
    by_cases ht : t' = t
    · subst ht
      rwa [Function.update_self]
    · rw [Function.update_of_ne ht]
      exact (h.stages t').other (fun hne => ht hne.symm) hrow

end Steps

section Programs

variable {α β : Type} {svc : Service} {lib : Lib} {t : Slot} {g : Clearance}
  {Q : α → Clearance → Prop}

lemma Touches.ask {id : UUID} {states : List WithdrawalState} {party : Option Party} {c : Call}
    (hc : Touches id states party c) (hask : IsAsk c) : party ≠ none := by
  rcases c with c | c <;> cases c <;> first | exact False.elim hask | (rw [show party = _ from hc]; simp)

lemma Vetted.call {γ : Slot → Clearance} {log : SlotLog} {s s' : Store} {states : List WithdrawalState}
    {party : Option Party} {c : Call} {r : Answer c} (h : Vetted γ log s) (hc : Touches t.1.id states party c)
    (hs : lossyStep lib s c r s')
    (hcleared : (∃ state ∈ states, isApproved state) ∨ party ≠ none → Clearance.cleared.Ok log s t)
    (hok : g.Ok (log ++ [(t, ⟨c, r⟩)]) s' t) :
    Vetted (Function.update γ t g) (log ++ [(t, ⟨c, r⟩)]) s' :=
  h.step (touches_rowStep hc hs) (fun state hmem happr => hcleared (.inl ⟨state, hmem, happr⟩))
    (fun hask => hcleared (.inr (hc.ask hask))) hok

lemma Vetted.silent {γ : Slot → Clearance} {log : SlotLog} {s s' : Store} {c : Call} {r : Answer c}
    (h : Vetted γ log s) (hc : Touches t.1.id [] none c) (hs : lossyStep lib s c r s')
    (hok : g.Ok (log ++ [(t, ⟨c, r⟩)]) s' t) :
    Vetted (Function.update γ t g) (log ++ [(t, ⟨c, r⟩)]) s' := by
  refine h.call hc hs ?_ hok
  rintro (⟨_, hmem, -⟩ | hask)
  · cases hmem
  · exact absurd rfl hask

abbrev Vetting (lib : Lib) (t : Slot) (p : Proc α) (g : Clearance) (Q : α → Clearance → Prop) :
    Prop :=
  Safe (lossyStep lib) Vetted t p g Q

lemma idle_vetting {states : List WithdrawalState} {p : Proc α}
    (hp : p.AllCalls (Touches t.1.id states none))
    (hstates : ∀ state ∈ states, isApproved state = false) :
    Vetting lib t p .idle (fun _ g => g = .idle) := by
  refine hp.safe ?_
  intro γ log s c r s' hg hI hc hs
  rw [← Function.update_eq_self t γ, hg]
  refine hI.call hc hs ?_ trivial
  rintro (⟨state, hmem, happr⟩ | hask)
  · rw [hstates state hmem] at happr
    cases happr
  · exact absurd rfl hask

lemma cleared_vetting {states : List WithdrawalState} {party : Option Party} {p : Proc α}
    (hp : p.AllCalls (Touches t.1.id states party)) :
    Vetting lib t p .cleared (fun _ g => g = .cleared) := by
  refine hp.safe ?_
  intro γ log s c r s' hg hI hc hs
  have hok := hI.stages t
  rw [hg] at hok
  obtain ⟨wr, hlookup, happr⟩ := hok
  obtain ⟨wr', hlookup', hreq'⟩ := (touches_rowStep hc hs).request hlookup
  rw [← Function.update_eq_self t γ, hg]
  refine hI.call hc hs (fun _ => ⟨wr, hlookup, happr⟩) ⟨wr', hlookup', ?_⟩
  rw [hreq']
  exact happr.append

lemma writes_approved {op : Op} {state state' : WithdrawalState} (h : state' ∈ writes op state)
    (happr : isApproved state') : isApproved state := by
  cases op <;> cases state <;> simp_all [writes, isApproved]

lemma asks_approved {op : Op} {state : WithdrawalState} (h : asks op state ≠ none) :
    isApproved state := by
  cases op <;> cases state <;> simp_all [asks, isApproved]

lemma reading_vetting (hop : ∀ id req, t.1 ≠ .create id req) :
    Vetting lib t (t.1.proc svc) .idle (fun _ _ => True) := by
  obtain ⟨k, hproc, herr, hok⟩ := op_reads svc hop
  rw [hproc]
  have hread : Touches t.1.id [] none (.store (.getWithdrawal t.1.id)) := trivial
  intro γ log s r s' hg hI hs
  cases r with
  | error err =>
    refine ⟨.idle, hI.silent hread hs trivial, ?_⟩
    rw [herr]
    trivial
  | ok wr =>
    obtain ⟨hok', rfl⟩ := Prod.mk.inj (lossyStep_ok hs)
    have hlookup := getWithdrawal_ok hok'
    by_cases happr : isApproved wr.state
    · refine ⟨.cleared, hI.silent hread hs ⟨wr, hlookup, (hI.rows _ wr hlookup happr).append⟩, ?_⟩
      exact (cleared_vetting (hok wr)).mono (fun _ _ _ => trivial)
    · refine ⟨.idle, hI.silent hread hs trivial, ?_⟩
      have hasks : asks t.1 wr.state = none := by
        by_contra h
        exact happr (asks_approved h)
      have hcalls := hok wr
      rw [hasks] at hcalls
      refine (idle_vetting hcalls ?_).mono (fun _ _ _ => trivial)
      intro state hmem
      rw [← Bool.not_eq_true]
      exact fun h => happr (writes_approved hmem h)

lemma emit_audit (e : AuditEvent) : (svc.emit e).AllCalls IsAudit := by
  unfold Service.emit
  split
  · exact ⟨trivial, fun _ => trivial⟩
  · trivial

lemma IsAudit.touches {c : Call} {id : UUID} (hc : IsAudit c) : Touches id [] none c := by
  rcases c with c | c <;> cases c <;> first | exact False.elim hc | trivial

lemma created_vetting {req : CreateRequest} {p : Proc α} (hp : p.AllCalls IsAudit) :
    Vetting lib t p (.created req) (fun _ g => g = .created req) := by
  refine hp.safe ?_
  intro γ log s c r s' hg hI hc hs
  have hok := hI.stages t
  rw [hg] at hok
  obtain ⟨hins, wr, hlookup, hreq⟩ := hok
  have hcalls : Touches t.1.id [] none c := hc.touches
  obtain ⟨wr', hlookup', hreq'⟩ := (touches_rowStep hcalls hs).request hlookup
  rw [← Function.update_eq_self t γ, hg]
  exact hI.silent hcalls hs ⟨hins.append (fun _ => hc), wr', hlookup', hreq'.trans hreq⟩

lemma checked_vetting {id : UUID} {req : CreateRequest} {n : ℕ} {f : PolicyAnswer → Proc α}
    (hf : ∀ answer, (∃ dec, answer = ⟨some dec, none⟩ ∧ dec.approved = true ∧
        Vetting lib (.create id req, n) (f answer) .cleared Q) ∨
      Vetting lib (.create id req, n) (f answer) .idle Q) :
    Vetting lib (.create id req, n) (ext (.checkWhitelist
      ⟨req.walletID.string, req.toAddress, req.asset, req.amount⟩) >>= f) (.created req) Q := by
  intro γ log s answer s' hg hI hs
  have hok := hI.stages (.create id req, n)
  rw [hg] at hok
  obtain ⟨hins, wr, hlookup, hreq⟩ := hok
  have hcheck : Touches (Op.create id req).id [] none (.ext (.checkWhitelist
    ⟨req.walletID.string, req.toAddress, req.asset, req.amount⟩)) := trivial
  rcases hf answer with ⟨dec, rfl, happr, hnext⟩ | hnext
  · refine ⟨.cleared, hI.silent hcheck hs ⟨wr, ?_, ?_⟩, hnext⟩
    · obtain rfl : s' = s := hs
      exact hlookup
    rw [hreq]
    exact ⟨n, log, dec, [], hins, happr, rfl⟩
  · exact ⟨.idle, hI.silent hcheck hs trivial, hnext⟩

lemma inserted_vetting {id : UUID} {req : CreateRequest} {n : ℕ} {f : Except Error Unit → Proc α}
    (herr : ∀ err, Vetting lib (.create id req, n) (f (.error err)) .idle Q)
    (hok : Vetting lib (.create id req, n) (f (.ok ())) (.created req) Q) :
    Vetting lib (.create id req, n) (store (.createWithdrawal (req.row id)) >>= f) .idle Q := by
  intro γ log s r s' hg hI hs
  have hinsert : Touches (Op.create id req).id [] none
    (.store (.createWithdrawal (req.row id))) := ⟨rfl, rfl⟩
  cases r with
  | error err => exact ⟨.idle, hI.silent hinsert hs trivial, herr err⟩
  | ok a =>
    refine ⟨.created req, hI.silent hinsert hs ⟨?_, ?_⟩, hok⟩
    · exact ⟨log, [], rfl, fun _ h => by cases h⟩
    · obtain ⟨hcreated, rfl⟩ := Prod.mk.inj (lossyStep_ok hs)
      exact ⟨req.row id, (created_rowSet hcreated).row, rfl⟩

lemma create_vetting (id : UUID) (req : CreateRequest) (n : ℕ) :
    Vetting lib (.create id req, n) (svc.create id req) .idle (fun _ _ => True) := by
  have hread : (store (.getWallet req.walletID)).AllCalls (Touches (Op.create id req).id [] none) :=
    ⟨trivial, fun _ => trivial⟩
  refine Safe.bind ((idle_vetting hread (fun _ h => by cases h)).mono ?_)
  rintro (err | w) _ rfl
  · trivial
  dsimp only
  split
  · trivial
  split
  · trivial
  refine inserted_vetting (fun err => trivial) ?_
  refine Safe.bind ((created_vetting (emit_audit _)).mono ?_)
  rintro _ _ rfl
  refine checked_vetting (fun answer => ?_)
  rcases applyDecision_touches (req.row id) answer with ⟨dec, hdec, happr, hcalls⟩ | hcalls
  · refine .inl ⟨dec, hdec, happr, ?_⟩
    refine Safe.bind (Safe.mono (cleared_vetting ((emit_audit _).mono fun _ => IsAudit.touches)) ?_)
    rintro _ _ rfl
    exact Safe.mono (cleared_vetting hcalls) (fun _ _ _ => trivial)
  · refine .inr (Safe.bind (Safe.mono (idle_vetting ((emit_audit _).mono fun _ => IsAudit.touches)
      (fun _ h => by cases h)) ?_))
    rintro _ _ rfl
    exact Safe.mono (idle_vetting hcalls (by simp [isApproved])) (fun _ _ _ => trivial)

lemma op_vetting (t : Slot) : Vetting lib t (t.1.proc svc) .idle (fun _ _ => True) := by
  obtain ⟨op, n⟩ := t
  cases op with
  | create id req => exact Safe.bind ((create_vetting id req n).mono (fun _ _ _ => trivial))
  | _ => exact reading_vetting (by simp)

end Programs

/-- The pools in which any operations run at once, store calls may fail, and the rest of the
service changes anything but the withdrawals. -/
abbrev LossyReachable (svc : Service) (s₀ : Store) : SlotPool → Prop :=
  Pool.Reachable (lossyStep svc.lib) (fun t p => p = t.1.proc svc)
    (fun s s' => s'.withdrawals = s.withdrawals) s₀

theorem vetted_of_reachable {svc : Service} {s₀ : Store} (h₀ : s₀.withdrawals = ∅)
    {P : SlotPool} (h : LossyReachable svc s₀ P) :
    ∃ γ, Vetted γ P.log P.shared := by
  have hinit : Vetted (fun _ => .idle) [] s₀ := by
    refine ⟨?_, ?_, fun _ => trivial⟩
    · intro id wr hlookup
      rw [h₀] at hlookup
      cases hlookup
    · intro before t ev after hlog
      simp at hlog
  have henv : ∀ γ log s s', Vetted γ log s → s'.withdrawals = s.withdrawals → Vetted γ log s' := by
    intro γ log s s' hI hrows
    refine ⟨?_, ?_, fun t => (hI.stages t).congr hrows⟩
    · rw [hrows]
      exact hI.rows
    · rw [hrows]
      exact hI.asked
  have hretire : ∀ γ log s t, Vetted γ log s → True → Vetted (Function.update γ t .idle) log s := by
    intro γ log s t hI _
    refine ⟨hI.rows, hI.asked, fun t' => ?_⟩
    by_cases ht : t' = t
    · subst ht
      rw [Function.update_self]
      trivial
    · rw [Function.update_of_ne ht]
      exact hI.stages t'
  have hspawn : ∀ t p, p = t.1.proc svc → Vetting svc.lib t p .idle (fun _ _ => True) := by
    rintro t _ rfl
    exact op_vetting t
  obtain ⟨γ, hγ, -⟩ := h.invariant .idle (fun _ => True) trivial hinit henv hretire hspawn
  exact ⟨γ, hγ⟩

/-- Whitelisting is never bypassed: every row in an approved state was created by a `Create`
call that the policy has approved for exactly the request on the row, and the signer and
the gateway are only ever called for such rows. -/
theorem whitelisting_never_bypassed {svc : Service} {s₀ : Store} (h₀ : s₀.withdrawals = ∅)
    {P : SlotPool} (h : LossyReachable svc s₀ P) :
    (∀ id wr, P.shared.withdrawals.lookup id = some wr →
      wr.state ∈ [.whitelisted, .signed, .broadcast, .confirmed] →
      Approved P.log id (requestOf wr)) ∧
    (∀ before t ev after, P.log = before ++ (t, ev) :: after → IsAsk ev.call →
      ∃ wr, P.shared.withdrawals.lookup t.1.id = some wr ∧
        Approved before t.1.id (requestOf wr)) := by
  obtain ⟨γ, hγ⟩ := vetted_of_reachable h₀ h
  refine ⟨fun id wr hlookup hstate => hγ.rows id wr hlookup ?_, hγ.asked⟩
  revert hstate
  cases wr.state <;> simp [isApproved]

def doubleConstruction : SlotPool :=
  playingSlots agree (Store.initial [evmWallet] []) <|
    let first : Slot := (.constructAndSign (UUID.ofByte 10), 0)
    let second : Slot := (.constructAndSign (UUID.ofByte 10), 1)
    let create : Slot := (.create (UUID.ofByte 10) (evmTransfer "2"), 0)
    starting [create] ++ turns 4 [create] ++ starting [first, second] ++ turns 9 [first, second]

theorem whitelisting_never_bypassed_double :
    claimOf doubleConstruction.shared (UUID.ofByte 10) = some (evmWallet.id, .signed, some 1, []) ∧
      ∃ wr, doubleConstruction.shared.withdrawals.lookup (UUID.ofByte 10) = some wr ∧
        Approved doubleConstruction.log (UUID.ofByte 10) (requestOf wr) := by
  have hclaim : claimOf doubleConstruction.shared (UUID.ofByte 10) =
      some (evmWallet.id, .signed, some 1, []) := by decide +kernel
  obtain ⟨wr, hlookup, -, hstate, -⟩ := claimOf_eq hclaim
  have hreach : LossyReachable referenceService (Store.initial [evmWallet] []) doubleConstruction :=
    Pool.Reachable.init.play (fun s c => memStep_lossyStep (answering_memStep agree s c))
      (fun t p hp => (slotMoves_start hp).2)
  refine ⟨hclaim, wr, hlookup, ?_⟩
  exact (whitelisting_never_bypassed rfl hreach).1 _ wr hlookup (by simp [hstate])

end WalletManager.Proofs
