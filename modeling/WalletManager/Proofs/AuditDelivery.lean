import WalletManager.Proofs.AuditOrder
import WalletManager.Storage.Faults

/-!
# Audit events are delivered at least once

Emissions and drains that are interleaved call by call, where the sink and every store call may
fail, a store call also after it has taken effect. A row is marked only after a delivery of it has
succeeded, and it never leaves the outbox.
-/

namespace WalletManager.Proofs

open Interaction

section Rows

variable {s s' s'' : Store} {e e' e'' : AuditOutboxEvent}

/-- A row at a later time: it may have been marked, and then stays so. -/
def Continues (e e' : AuditOutboxEvent) : Prop :=
  e' = { e with delivered := e'.delivered, attempts := e'.attempts } ∧
    (e.delivered = true → e'.delivered = true)

lemma Continues.refl (e : AuditOutboxEvent) : Continues e e := ⟨rfl, fun h => h⟩

lemma Continues.trans (h : Continues e e') (h' : Continues e' e'') : Continues e e'' := by
  refine ⟨?_, fun hd => h'.2 (h.2 hd)⟩
  rw [h'.1, h.1]

/-- No row disappears or becomes undelivered again. -/
def Outlasts (s s' : Store) : Prop :=
  ∀ (i : Nat) (e : AuditOutboxEvent), s.auditOutbox[i]? = some e →
    ∃ e', s'.auditOutbox[i]? = some e' ∧ Continues e e'

lemma Outlasts.refl (s : Store) : Outlasts s s := fun _ e h => ⟨e, h, .refl e⟩

lemma Outlasts.trans (h : Outlasts s s') (h' : Outlasts s' s'') : Outlasts s s'' := by
  intro i e he
  obtain ⟨e₁, he₁, hc⟩ := h i e he
  obtain ⟨e₂, he₂, hc'⟩ := h' i e₁ he₁
  exact ⟨e₂, he₂, hc.trans hc'⟩

lemma Outlasts.mem (h : Outlasts s s') (he : e ∈ s.auditOutbox) : ∃ e' ∈ s'.auditOutbox, Continues e e' := by
  obtain ⟨i, hi, rfl⟩ := List.getElem_of_mem he
  obtain ⟨e', he', hc⟩ := h i _ (List.getElem?_eq_getElem hi)
  exact ⟨e', List.mem_of_getElem? he', hc⟩

def outboxIDs (s : Store) : List UUID := s.auditOutbox.map AuditOutboxEvent.id

def undeliveredIDs (s : Store) : List UUID :=
  (s.auditOutbox.filter (fun e => !e.delivered)).map AuditOutboxEvent.id

def Marks (id : UUID) (s s' : Store) : Prop :=
  ∃ pre e post, s.auditOutbox = pre ++ e :: post ∧ e.id = id ∧ s'.auditOutbox = pre ++ delivered e :: post

lemma markAuditDelivered_cases (s : Store) (id : UUID) :
    (∃ err, s.markAuditDelivered id = (.error err, s)) ∨
    ∃ s', s.markAuditDelivered id = (.ok (), s') ∧ Marks id s s' := by
  unfold Store.markAuditDelivered
  split
  · exact .inl ⟨_, rfl⟩
  · rename_i outbox hdeliver
    exact .inr ⟨_, rfl, deliver_split hdeliver⟩

variable {id : UUID}

lemma Marks.outlasts (h : Marks id s s') : Outlasts s s' := by
  obtain ⟨pre, row, post, hrows, -, hrows'⟩ := h
  intro i e he
  rw [hrows] at he
  rw [hrows']
  rcases Nat.lt_trichotomy i pre.length with hlt | rfl | hgt
  · rw [List.getElem?_append_left hlt] at he ⊢
    exact ⟨e, he, .refl e⟩
  · simp only [List.getElem?_append_right le_rfl, Nat.sub_self, List.getElem?_cons_zero,
      Option.some.injEq] at he ⊢
    subst he
    exact ⟨delivered row, rfl, rfl, fun _ => rfl⟩
  · obtain ⟨k, hk⟩ : ∃ k, i - pre.length = k + 1 := ⟨i - pre.length - 1, by omega⟩
    rw [List.getElem?_append_right hgt.le, hk, List.getElem?_cons_succ] at he ⊢
    exact ⟨e, he, .refl e⟩

lemma Marks.outboxIDs_eq (h : Marks id s s') : outboxIDs s' = outboxIDs s := by
  obtain ⟨pre, row, post, hrows, -, hrows'⟩ := h
  simp [outboxIDs, hrows, hrows', delivered]

lemma Marks.undelivered_eq (h : Marks id s s') (hids : (outboxIDs s).Nodup) :
    undeliveredIDs s' = (undeliveredIDs s).filter (· ≠ id) := by
  obtain ⟨pre, row, post, hrows, rfl, hrows'⟩ := h
  rw [outboxIDs, hrows, List.map_append, List.map_cons] at hids
  obtain ⟨-, hcons, hdisjoint⟩ := List.nodup_append.mp hids
  have hpost : ∀ e ∈ post, e.id ≠ row.id := by
    intro e he heq
    exact (List.nodup_cons.mp hcons).1 (heq ▸ List.mem_map_of_mem he)
  have hpre : ∀ e ∈ pre, e.id ≠ row.id := fun e he =>
    hdisjoint _ (List.mem_map_of_mem he) _ List.mem_cons_self
  have hkeep : ∀ l : List AuditOutboxEvent, (∀ e ∈ l, e.id ≠ row.id) →
      ((l.filter (fun e => !e.delivered)).map AuditOutboxEvent.id).filter (· ≠ row.id) =
        (l.filter (fun e => !e.delivered)).map AuditOutboxEvent.id := by
    intro l hl
    refine List.filter_eq_self.mpr ?_
    intro x hx
    obtain ⟨e, he, rfl⟩ := List.mem_map.mp hx
    exact decide_eq_true (hl e (List.mem_of_mem_filter he))
  unfold undeliveredIDs
  rw [hrows, hrows', List.filter_append, List.filter_append, List.map_append, List.map_append,
    List.filter_append, hkeep pre hpre]
  congr 1
  rw [List.filter_cons_of_neg (by simp [delivered])]
  cases hrow : row.delivered with
  | true => rw [List.filter_cons_of_neg (by simp [hrow]), hkeep post hpost]
  | false =>
    rw [List.filter_cons_of_pos (by simp [hrow]), List.map_cons, List.filter_cons_of_neg (by simp),
      hkeep post hpost]

end Rows

/-! ## Drains that succeed -/

section Drain

variable {lib : Lib} {svc : EmitterService} {s s' : Store} {tr : Trace}

lemma markAll_ok {evs : List AuditOutboxEvent} (hids : (outboxIDs s).Nodup)
    (h : Exec (lossyStep lib) (EmitterService.markAll evs) s tr (.ok ()) s') :
    outboxIDs s' = outboxIDs s ∧
      undeliveredIDs s' = (undeliveredIDs s).filter (fun id => id ∉ evs.map AuditOutboxEvent.id) := by
  induction evs generalizing s tr with
  | nil =>
    obtain ⟨-, -, rfl⟩ := h
    simp
  | cons e evs ih =>
    obtain ⟨r, s₁, tr₁, hs, h, -⟩ := h
    cases r with
    | error err => cases h.2.1
    | ok u =>
      rcases markAuditDelivered_cases s e.id with ⟨err, herr⟩ | ⟨s₂, hok, hmarks⟩
      · cases (Prod.mk.inj ((lossyStep_ok hs).symm.trans herr)).1
      · obtain ⟨-, rfl⟩ := Prod.mk.inj ((lossyStep_ok hs).symm.trans hok)
        obtain ⟨hsame, hrest⟩ := ih (hmarks.outboxIDs_eq ▸ hids) h
        refine ⟨hsame.trans hmarks.outboxIDs_eq, ?_⟩
        rw [hrest, hmarks.undelivered_eq hids, List.filter_filter]
        refine List.filter_congr (fun id _ => ?_)
        rw [List.map_cons, ← Bool.decide_and, decide_eq_decide, List.mem_cons, not_or, and_comm]

lemma listUndelivered_take (lib : Lib) (s : Store) : s.listUndeliveredAuditEvents lib 100 =
    (lib.sortSlice (fun a b => decide (a.seq < b.seq))
      (s.auditOutbox.filter (fun e => !e.delivered))).take 100 := by
  unfold Store.listUndeliveredAuditEvents
  dsimp only
  split
  · rfl
  · rename_i hlimit
    rw [List.take_of_length_le]
    omega

lemma length_filter_notMem {α : Type} [DecidableEq α] {l a b : List α} (hperm : (a ++ b).Perm l) (hl : l.Nodup) :
    (l.filter (fun x => x ∉ a)).length = b.length := by
  obtain ⟨-, -, hdisjoint⟩ := List.nodup_append.mp (hperm.nodup_iff.mpr hl)
  have ha : a.filter (fun x => x ∉ a) = [] := by simp
  have hb : b.filter (fun x => x ∉ a) = b := by
    refine List.filter_eq_self.mpr ?_
    intro x hx
    exact decide_eq_true (fun hxa => hdisjoint x hxa x hx rfl)
  rw [← (hperm.filter _).length_eq, List.filter_append, ha, hb, List.nil_append]

lemma drain_ok (hsort : LawfulSort lib) (hids : (outboxIDs s).Nodup)
    (h : Exec (lossyStep lib) svc.drain s tr (.ok ()) s') :
    outboxIDs s' = outboxIDs s ∧ (undeliveredIDs s').length = (undeliveredIDs s).length - 100 := by
  obtain ⟨sorted, hperm, hbatch⟩ : ∃ sorted : List AuditOutboxEvent,
      (sorted.map AuditOutboxEvent.id).Perm (undeliveredIDs s) ∧
        s.listUndeliveredAuditEvents lib 100 = sorted.take 100 :=
    ⟨_, (hsort.perm _ _).map _, listUndelivered_take lib s⟩
  have hlen : sorted.length = (undeliveredIDs s).length := by rw [← hperm.length_eq, List.length_map]
  have hmarked : ∀ tr, Exec (lossyStep lib) (EmitterService.markAll (sorted.take 100)) s tr (.ok ()) s' →
      outboxIDs s' = outboxIDs s ∧ (undeliveredIDs s').length = (undeliveredIDs s).length - 100 := by
    intro tr h
    obtain ⟨hsame, hrest⟩ := markAll_ok hids h
    have hopen : (undeliveredIDs s).Nodup := hids.sublist (List.filter_sublist.map _)
    have hsplit : ((sorted.take 100).map AuditOutboxEvent.id ++ (sorted.drop 100).map AuditOutboxEvent.id).Perm
        (undeliveredIDs s) := by rwa [← List.map_append, List.take_append_drop]
    refine ⟨hsame, ?_⟩
    rw [hrest, length_filter_notMem hsplit hopen, List.length_map, List.length_drop, hlen]
  obtain ⟨r, s₁, tr₁, hs, h, -⟩ := h
  cases r with
  | error err => cases h.2.1
  | ok evs =>
    obtain ⟨hevs, rfl⟩ : evs = s.listUndeliveredAuditEvents lib 100 ∧ s₁ = s := by
      obtain ⟨hok, hsame⟩ := Prod.mk.inj (lossyStep_ok hs)
      exact ⟨(Except.ok.inj hok).symm, hsame.symm⟩
    rw [hbatch] at hevs
    subst hevs
    dsimp only [Prog.bind] at h
    split at h
    · rename_i hempty
      obtain ⟨-, -, rfl⟩ := h
      rw [List.length_take] at hempty
      exact ⟨rfl, by omega⟩
    · split at h
      · obtain ⟨r, s₂, tr₂, hs, h, -⟩ := h
        obtain rfl : s₂ = s₁ := hs
        cases r with
        | error err => cases h.2.1
        | ok u => exact hmarked _ h
      · exact hmarked _ h

lemma drains_ok (hsort : LawfulSort lib) {log : List (Entry Unit Call Answer (Except Error Unit))}
    (hids : (outboxIDs s).Nodup)
    (h : Runs (fun _ : Unit => svc.drain) (lossyStep lib) (fun _ _ => True) s log s')
    (hok : ∀ x ∈ log, x.result = .ok ()) :
    (outboxIDs s').Nodup ∧ (undeliveredIDs s').length = (undeliveredIDs s).length - 100 * log.length := by
  induction h with
  | nil => exact ⟨hids, by simp⟩
  | snoc _ _ he ih =>
    obtain ⟨hids', hlen⟩ := ih (fun x hx => hok x (List.mem_append_left _ hx))
    obtain rfl := hok _ (List.mem_append_right _ (List.mem_singleton_self _))
    obtain ⟨hsame, hlen'⟩ := drain_ok hsort hids' he
    refine ⟨hsame ▸ hids', ?_⟩
    rw [hlen', hlen, List.length_append, List.length_singleton]
    omega

end Drain

/-! ## Interleaved emissions and drains -/

def emittedID : OutboxOp → Option UUID
  | .emit _ fresh => some fresh.rowID
  | .drain => none

/-- An operation appends at most one row, under its own identifier; the phase says whether it has. -/
def AppendsOnce (op : OutboxOp) (before : Bool) : (c : Call) → Answer c → Bool → Prop
  | .store (.appendAuditEvent e), _, after => before = false ∧ after = true ∧ emittedID op = some e.id
  | _, _, after => after = before

def emissionProtocol (op : OutboxOp) : Protocol Call Answer Bool := ⟨fun _ _ => True, AppendsOnce op⟩

section Emission

variable {svc : EmitterService}

lemma markAll_emission (op : OutboxOp) (evs : List AuditOutboxEvent) :
    Conforms (emissionProtocol op) (EmitterService.markAll evs) false (fun _ _ => True) := by
  induction evs with
  | nil => trivial
  | cons e evs ih =>
    rintro (err | _) -
    · exact ⟨false, rfl, trivial⟩
    · exact ⟨false, rfl, ih⟩

lemma outboxOp_emission (op : OutboxOp) :
    Conforms (emissionProtocol op) (op.proc svc) false (fun _ _ => True) := by
  cases op with
  | emit ev fresh =>
    have happend : ∀ payload seq, Conforms (emissionProtocol (.emit ev fresh))
        (EmitterService.emit.append ev fresh payload seq) false (fun _ _ => True) :=
      fun payload seq r _ => ⟨true, ⟨rfl, rfl, rfl⟩, trivial⟩
    change Conforms _ (svc.emit ev fresh) false _
    unfold EmitterService.emit
    split
    · trivial
    split
    · exact happend _ _
    · rintro (err | seq) -
      · exact ⟨false, rfl, trivial⟩
      · exact ⟨false, rfl, happend _ _⟩
  | drain =>
    rintro (err | evs) -
    · exact ⟨false, rfl, trivial⟩
    · refine ⟨false, rfl, ?_⟩
      dsimp only [Prog.bind]
      split
      · trivial
      split
      · rintro (err | _) -
        · exact ⟨false, rfl, trivial⟩
        · exact ⟨false, rfl, markAll_emission _ evs⟩
      · exact markAll_emission _ evs

end Emission

def outboxProtocol (op : OutboxOp) : Protocol Call Answer (DrainPhase × Bool) :=
  drainProtocol.both (emissionProtocol op)

section Pools

variable {T : Type} {lib : Lib} {svc : EmitterService} {ops : T → OutboxOp} {s₀ s s' : Store}
  {γ : T → DrainPhase × Bool} {log : List (T × Event Call Answer)}

/-- The identifiers that `uuid.NewV7` gives to the rows are not used twice. -/
structure FreshRows (ops : T → OutboxOp) (s₀ : Store) : Prop where
  start : (outboxIDs s₀).Nodup
  unused : ∀ t id, emittedID (ops t) = some id → id ∉ outboxIDs s₀
  distinct : ∀ t t' id, emittedID (ops t) = some id → emittedID (ops t') = some id → t = t'

/-- What one call does to the outbox: nothing, or it appends the row of an emission, or it marks a row that
was delivered before. -/
lemma outbox_cases {g g' : DrainPhase} {c : Call} {r : Answer c} (hm : DrainMoves g c r g')
    (hs : lossyStep lib s c r s') :
    s'.auditOutbox = s.auditOutbox ∨
    (∃ e, c = .store (.appendAuditEvent e) ∧ e.delivered = false ∧ s'.auditOutbox = s.auditOutbox ++ [e]) ∨
    ∃ evs, g = .sent evs ∧ g' = .sent evs ∧ ∃ e ∈ evs, Marks e.id s s' := by
  cases hm with
  | @number walletID =>
    rcases lossyStep_state hs with rfl | rfl
    · exact .inl rfl
    · exact .inl rfl
  | @append e _ hnew =>
    rcases lossyStep_state hs with rfl | rfl
    · exact .inl rfl
    · rcases appendAuditEvent_rows s e with hsame | hrows
      · exact .inl (congrArg (fun s : Store => s.auditOutbox) hsame)
      · exact .inr (.inl ⟨e, rfl, hnew, hrows⟩)
  | list | unlisted =>
    rcases lossyStep_state hs with rfl | rfl
    · exact .inl rfl
    · exact .inl rfl
  | deliver | undelivered =>
    obtain rfl : s' = s := hs
    exact .inl rfl
  | @mark evs e _ he =>
    rcases lossyStep_state hs with rfl | rfl
    · exact .inl rfl
    · rcases markAuditDelivered_cases s e.id with ⟨err, herr⟩ | ⟨s₁, hok, hmarks⟩
      · exact .inl (congrArg (fun x => x.2.auditOutbox) herr)
      · refine .inr (.inr ⟨evs, rfl, rfl, e, he, ?_⟩)
        rwa [show (s.handle lib (.markAuditDelivered e.id)).2 = s₁ from congrArg Prod.snd hok]

lemma outbox_outlasts {g g' : DrainPhase} {c : Call} {r : Answer c} (hm : DrainMoves g c r g')
    (hs : lossyStep lib s c r s') : Outlasts s s' := by
  rcases outbox_cases hm hs with hsame | ⟨e, -, -, hrows⟩ | ⟨-, -, -, e, -, hmarks⟩
  · intro i e he
    exact ⟨e, hsame ▸ he, .refl e⟩
  · intro i e' he'
    refine ⟨e', ?_, .refl e'⟩
    rw [hrows, List.getElem?_append_left (List.getElem?_eq_some_iff.mp he').1]
    exact he'
  · exact hmarks.outlasts

structure DeliveryInv (ops : T → OutboxOp) (s₀ : Store) (γ : T → DrainPhase × Bool)
    (log : List (T × Event Call Answer)) (s : Store) : Prop where
  marked : ∀ e ∈ s.auditOutbox, e.delivered = true → WasDelivered s₀ log e.id
  sent : ∀ t evs, (γ t).1 = .sent evs → ∀ e ∈ evs, WasDelivered s₀ log e.id
  unique : (outboxIDs s).Nodup
  owned : ∀ id ∈ outboxIDs s, id ∈ outboxIDs s₀ ∨ ∃ t, (γ t).2 = true ∧ emittedID (ops t) = some id

lemma DeliveryInv.start (hids : FreshRows ops s₀) : DeliveryInv ops s₀ (fun _ => (.idle, false)) [] s₀ where
  marked e he hdelivered := .inr ⟨e, he, rfl, hdelivered⟩
  sent _ _ h := by cases h
  unique := hids.start
  owned _ h := .inl h

lemma sent_delivered {g g' : DrainPhase} {c : Call} {r : Answer c} (hm : DrainMoves g c r g')
    {evs : List AuditOutboxEvent} (hg' : g' = .sent evs) (t : T) :
    g = .sent evs ∨ deliveredBy (t, ⟨c, r⟩) = some evs := by
  cases hm with
  | deliver =>
    cases hg'
    exact .inr rfl
  | mark => exact .inl hg'
  | _ => cases hg'

variable [DecidableEq T]

lemma DeliveryInv.step (hids : FreshRows ops s₀) (h : DeliveryInv ops s₀ γ log s) {t : T} {c : Call}
    {r : Answer c} {g' : DrainPhase × Bool} (hm : (outboxProtocol (ops t)).next (γ t) c r g')
    (hs : lossyStep lib s c r s') :
    DeliveryInv ops s₀ (Function.update γ t g') (log ++ [(t, ⟨c, r⟩)]) s' := by
  obtain ⟨hdrain, hemission⟩ := hm
  have hsent : ∀ t' evs, (Function.update γ t g' t').1 = .sent evs → ∀ e ∈ evs,
      WasDelivered s₀ (log ++ [(t, ⟨c, r⟩)]) e.id := by
    intro t' evs hg e he
    by_cases ht : t' = t
    · rw [ht, Function.update_self] at hg
      rcases sent_delivered hdrain hg t with hold | hnow
      · exact (h.sent t evs hold e he).append _
      · exact .inl ⟨_, List.mem_append_right _ (List.mem_singleton_self _), evs, hnow, e, he, rfl⟩
    · rw [Function.update_of_ne ht] at hg
      exact (h.sent t' evs hg e he).append _
  -- A slot that has appended its row stays in that phase.
  have hlasting : ∀ t' id, (γ t').2 = true ∧ emittedID (ops t') = some id →
      (Function.update γ t g' t').2 = true ∧ emittedID (ops t') = some id := by
    rintro t' id ⟨hphase, hid⟩
    refine ⟨?_, hid⟩
    by_cases ht : t' = t
    · subst ht
      rw [Function.update_self]
      change AppendsOnce (ops t') (γ t').2 c r g'.2 at hemission
      unfold AppendsOnce at hemission
      split at hemission
      · exact hemission.2.1
      · exact hemission.trans hphase
    · rwa [Function.update_of_ne ht]
  have hkept : outboxIDs s' = outboxIDs s → (outboxIDs s').Nodup ∧ ∀ id ∈ outboxIDs s', id ∈ outboxIDs s₀ ∨
      ∃ t', (Function.update γ t g' t').2 = true ∧ emittedID (ops t') = some id := by
    intro hsame
    rw [hsame]
    exact ⟨h.unique, fun id hid => (h.owned id hid).imp_right (fun ⟨t', ht'⟩ => ⟨t', hlasting t' id ht'⟩)⟩
  rcases outbox_cases hdrain hs with hsame | ⟨e, rfl, hnew, hrows⟩ | ⟨evs, hg, -, e, he, hmarks⟩
  · obtain ⟨hunique, howned⟩ := hkept (by rw [outboxIDs, hsame, outboxIDs])
    exact ⟨fun e he hd => (h.marked e (hsame ▸ he) hd).append _, hsent, hunique, howned⟩
  · obtain ⟨hbefore, hafter, hid⟩ := hemission
    have hrowIDs : outboxIDs s' = outboxIDs s ++ [e.id] := by
      rw [outboxIDs, hrows, List.map_append, outboxIDs, List.map_singleton]
    have hfresh : e.id ∉ outboxIDs s := by
      intro hmem
      rcases h.owned e.id hmem with hold | ⟨t', hphase, hid'⟩
      · exact hids.unused t e.id hid hold
      · obtain rfl := hids.distinct t' t e.id hid' hid
        rw [hbefore] at hphase
        cases hphase
    refine ⟨?_, hsent, ?_, ?_⟩
    · intro e' he' hd
      rw [hrows] at he'
      rcases List.mem_append.mp he' with he' | he'
      · exact (h.marked e' he' hd).append _
      · obtain rfl := List.mem_singleton.mp he'
        rw [hnew] at hd
        cases hd
    · rw [hrowIDs]
      exact List.nodup_append.mpr ⟨h.unique, List.nodup_singleton _, fun a ha b hb hab => by
        rw [List.mem_singleton.mp hb] at hab
        exact hfresh (hab ▸ ha)⟩
    · intro id hmem
      rw [hrowIDs] at hmem
      rcases List.mem_append.mp hmem with hmem | hmem
      · exact (h.owned id hmem).imp_right (fun ⟨t', ht'⟩ => ⟨t', hlasting t' id ht'⟩)
      · rw [List.mem_singleton.mp hmem]
        exact .inr ⟨t, by rwa [Function.update_self], hid⟩
  · obtain ⟨hunique, howned⟩ := hkept hmarks.outboxIDs_eq
    refine ⟨?_, hsent, hunique, howned⟩
    obtain ⟨pre, row, post, hrows, hid, hrows'⟩ := hmarks
    intro e' he' hd
    rw [hrows'] at he'
    have hold : e' = delivered row ∨ e' ∈ s.auditOutbox := by
      rw [hrows]
      simp only [List.mem_append, List.mem_cons] at he' ⊢
      tauto
    rcases hold with rfl | hold
    · refine WasDelivered.append ?_ _
      rw [show (delivered row).id = e.id from hid]
      exact h.sent t evs hg e he
    · exact (h.marked e' hold hd).append _

abbrev OutboxLeads (lib : Lib) (P P' : Pool T Call Answer (Except Error Unit) Store) : Prop :=
  Pool.Leads (lossyStep lib) (fun _ _ _ _ => True) P P'

/-- Every marked row was delivered, and the rows stay; drains that succeed empty the outbox a hundred rows at
a time. -/
theorem audit_delivered_at_least_once (hsort : LawfulSort lib) (hsink : svc.hasSink = true)
    (hids : FreshRows ops s₀) {P : Pool T Call Answer (Except Error Unit) Store}
    (h : OutboxLeads lib (Pool.start s₀ (fun t => (ops t).proc svc)) P) :
    (∀ e ∈ P.shared.auditOutbox, e.delivered = true → WasDelivered s₀ P.log e.id) ∧
    (∀ t e, (t, ⟨.store (.appendAuditEvent e), .ok ()⟩) ∈ P.log →
      ∃ e' ∈ P.shared.auditOutbox, Continues e e') ∧
    (∀ P', OutboxLeads lib P P' → Outlasts P.shared P'.shared) ∧
    ∀ log s', Runs (fun _ : Unit => svc.drain) (lossyStep lib) (fun _ _ => True) P.shared log s' →
      (∀ x ∈ log, x.result = .ok ()) →
      (undeliveredIDs s').length = (undeliveredIDs P.shared).length - 100 * log.length := by
  have hconf : ∀ t, Conforms (outboxProtocol (ops t)) ((ops t).proc svc) (.idle, false) (fun _ _ => True ∧ True) :=
    fun t => (outboxOp_conforms hsink (ops t)).both (outboxOp_emission (ops t))
  -- From any reached pool on, no call takes a row away.
  have hlater : ∀ Q, OutboxLeads lib (Pool.start s₀ (fun t => (ops t).proc svc)) Q →
      ∀ P', OutboxLeads lib Q P' → Outlasts Q.shared P'.shared := by
    intro Q hQ P' hP'
    obtain ⟨γ, -, hthreads⟩ := hQ.invariant (π := fun t => outboxProtocol (ops t)) (J := fun _ _ _ => True)
      hconf trivial (fun _ _ _ _ _ _ => ⟨trivial, trivial⟩) (fun _ _ _ _ _ _ _ _ _ _ _ _ => trivial)
    obtain ⟨-, hkeeps, -⟩ := hP'.keeps (J := fun _ _ s => Outlasts Q.shared s) hthreads (.refl _)
      (fun _ _ _ _ _ _ => ⟨trivial, trivial⟩)
      (fun _ _ _ _ _ _ _ _ hJ hm _ hs => hJ.trans (outbox_outlasts hm.1 hs))
    exact hkeeps
  obtain ⟨γ, hinv, -⟩ := h.invariant (π := fun t => outboxProtocol (ops t)) (J := DeliveryInv ops s₀)
    hconf (.start hids) (fun _ _ _ _ _ _ => ⟨trivial, trivial⟩)
    (fun _ _ _ _ _ _ _ _ hJ hm _ hs => hJ.step hids hm hs)
  refine ⟨hinv.marked, ?_, hlater P h, ?_⟩
  · intro t e hmem
    obtain ⟨s, pre, Q, hQ, hlead, -, hs⟩ := h.moment hmem
    have hrow : e ∈ Q.shared.auditOutbox := by
      have happend := lossyStep_ok hs
      change s.appendAuditEvent e = (.ok (), Q.shared) at happend
      unfold Store.appendAuditEvent at happend
      split at happend
      · cases happend
      · rw [← (Prod.mk.inj happend).2]
        exact List.mem_append_right _ (List.mem_singleton_self e)
    exact (hlater Q hQ P hlead).mem hrow
  · intro log s' hruns hok
    exact (drains_ok hsort hinv.unique hruns hok).2

end Pools

def cutOffPool : Pool (Fin 4) Call Answer (Except Error Unit) Store :=
  outboxStart.schedule (fun _ _ _ _ => true) (answering agree) (Pool.numbered 3 [0, 0, 1, 1, 2, 2, 2])

def nextDrain : List (Entry Unit Call Answer (Except Error Unit)) × Store :=
  runAll (fun _ : Unit => jsonEmitter.drain) (answering agree) cutOffPool.shared [()]

theorem audit_delivered_at_least_once_cut_off :
    WasDelivered {} cutOffPool.log (UUID.ofByte 30) ∧ (undeliveredIDs cutOffPool.shared).length = 1 ∧
      (undeliveredIDs nextDrain.2).length = 0 := by
  have hids : FreshRows outboxOps {} := by
    refine ⟨List.nodup_nil, fun _ _ _ => List.not_mem_nil, ?_⟩
    intro t t' id ht ht'
    have heq : emittedID (outboxOps t) = emittedID (outboxOps t') := ht.trans ht'.symm
    have hsome : (emittedID (outboxOps t)).isSome := by rw [ht]; rfl
    revert heq hsome
    clear ht ht'
    revert t t'
    decide
  have hleads : OutboxLeads referenceLib outboxStart cutOffPool :=
    Pool.Leads.schedule (fun _ _ _ _ _ => trivial)
      (fun s c => memStep_lossyStep (answering_memStep agree s c)) .refl _
  obtain ⟨hmarked, -, -, hdrains⟩ := audit_delivered_at_least_once referenceLib_sorts rfl hids hleads
  have hruns : Runs (fun _ : Unit => jsonEmitter.drain) (lossyStep referenceLib) (fun _ _ => True)
      cutOffPool.shared nextDrain.1 nextDrain.2 :=
    runs_runAll (fun s c => memStep_lossyStep (answering_memStep agree s c)) _ (fun _ _ _ => trivial)
  have hrow : delivered pausedRow ∈ cutOffPool.shared.auditOutbox := by decide +kernel
  have hopen : (undeliveredIDs cutOffPool.shared).length = 1 := by decide +kernel
  refine ⟨hmarked _ hrow rfl, hopen, ?_⟩
  have hlen : nextDrain.1.length = 1 := by decide +kernel
  have hok : ∀ x ∈ nextDrain.1, x.result = .ok () := by
    have hall : nextDrain.1.all (fun x => x.result.toBool) = true := by decide +kernel
    intro x hx
    obtain ⟨u, hu⟩ := exists_ok_of_toBool (List.all_eq_true.mp hall x hx)
    exact hu
  rw [hdrains nextDrain.1 nextDrain.2 hruns hok, hopen, hlen]

end WalletManager.Proofs
