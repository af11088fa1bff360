import WalletManager.Audit.Json
import WalletManager.Interaction.Protocol
import WalletManager.Proofs.Reference

/-!
# The order of audit events

An emission takes the wallet's next sequence number in one call and appends its row in another, so
that a drain may list a row before one with a smaller number is there. As long as that does not
happen, the events of a wallet are delivered in order.
-/

namespace WalletManager.Proofs

open Interaction

/-- Where an operation stands: it has listed no rows, or it still has to deliver the rows that it has
listed, or they are delivered and it marks them. -/
inductive DrainPhase
  | idle
  | listed (evs : List AuditOutboxEvent)
  | sent (evs : List AuditOutboxEvent)

inductive DrainMoves : DrainPhase → (c : Call) → Answer c → DrainPhase → Prop
  | number {walletID : UUID} {r : Except Error Int} :
    DrainMoves .idle (.store (.nextAuditSeq walletID)) r .idle
  | append {e : AuditOutboxEvent} {r : Except Error Unit} : e.delivered = false →
    DrainMoves .idle (.store (.appendAuditEvent e)) r .idle
  | list {limit : Int} {evs : List AuditOutboxEvent} :
    DrainMoves .idle (.store (.listUndeliveredAuditEvents limit)) (.ok evs) (.listed evs)
  | unlisted {limit : Int} {err : Error} :
    DrainMoves .idle (.store (.listUndeliveredAuditEvents limit)) (.error err) .idle
  | deliver {evs : List AuditOutboxEvent} :
    DrainMoves (.listed evs) (.ext (.deliver evs)) (.ok ()) (.sent evs)
  | undelivered {evs : List AuditOutboxEvent} {err : Error} :
    DrainMoves (.listed evs) (.ext (.deliver evs)) (.error err) .idle
  | mark {evs : List AuditOutboxEvent} {e : AuditOutboxEvent} {r : Except Error Unit} : e ∈ evs →
    DrainMoves (.sent evs) (.store (.markAuditDelivered e.id)) r (.sent evs)

def drainProtocol : Protocol Call Answer DrainPhase := ⟨fun _ _ => True, DrainMoves⟩

section Conformance

variable {svc : EmitterService}

lemma emit_conforms (ev : Emission) (fresh : OutboxFresh) :
    Conforms drainProtocol (svc.emit ev fresh) .idle (fun _ _ => True) := by
  have happend : ∀ payload seq, Conforms drainProtocol
      (EmitterService.emit.append ev fresh payload seq) .idle (fun _ _ => True) :=
    fun payload seq r _ => ⟨.idle, .append rfl, trivial⟩
  unfold EmitterService.emit
  split
  · trivial
  split
  · exact happend _ _
  · rintro (err | seq) -
    · exact ⟨.idle, .number, trivial⟩
    · exact ⟨.idle, .number, happend _ _⟩

lemma markAll_conforms {evs rest : List AuditOutboxEvent} (hrest : rest ⊆ evs) :
    Conforms drainProtocol (EmitterService.markAll rest) (.sent evs) (fun _ _ => True) := by
  induction rest with
  | nil => trivial
  | cons e rest ih =>
    obtain ⟨he, hrest⟩ := List.cons_subset.mp hrest
    rintro (err | _) -
    · exact ⟨.sent evs, .mark he, trivial⟩
    · exact ⟨.sent evs, .mark he, ih hrest⟩

lemma outboxOp_conforms (hsink : svc.hasSink = true) (op : OutboxOp) :
    Conforms drainProtocol (op.proc svc) .idle (fun _ _ => True) := by
  cases op with
  | emit ev fresh => exact emit_conforms ev fresh
  | drain =>
    rintro (err | evs) -
    · exact ⟨.idle, .unlisted, trivial⟩
    · refine ⟨.listed evs, .list, ?_⟩
      dsimp only [Prog.bind]
      split
      · trivial
      rintro (err | _) -
      · exact ⟨.idle, .undelivered, trivial⟩
      · exact ⟨.sent evs, .deliver, markAll_conforms (List.Subset.refl _)⟩

end Conformance

section Outbox

variable {lib : Lib} {s s' : Store}

lemma listUndelivered_closed (hsort : LawfulSort lib) (limit : Int) {e e' : AuditOutboxEvent}
    (he : e ∈ s.listUndeliveredAuditEvents lib limit) (he' : e' ∈ s.auditOutbox)
    (hnew : e'.delivered = false) (hlt : e'.seq < e.seq) : e' ∈ s.listUndeliveredAuditEvents lib limit := by
  have hsorted := hsort.sorted AuditOutboxEvent.seq (s.auditOutbox.filter (fun e => !e.delivered))
  have hmem : e' ∈ lib.sortSlice (fun a b => decide (a.seq < b.seq))
      (s.auditOutbox.filter (fun e => !e.delivered)) :=
    (hsort.perm _ _).mem_iff.mpr (List.mem_filter.mpr ⟨he', by simp [hnew]⟩)
  unfold Store.listUndeliveredAuditEvents at he ⊢
  dsimp only at he ⊢
  generalize lib.sortSlice _ _ = out at he hsorted hmem ⊢
  split at he
  · rename_i hlimit
    rw [if_pos hlimit]
    by_contra hnot
    rw [← List.take_append_drop limit.toNat out] at hsorted hmem
    have hdrop : e' ∈ out.drop limit.toNat := (List.mem_append.mp hmem).resolve_left hnot
    have hle := (List.pairwise_append.mp hsorted).2.2 e he e' hdrop
    omega
  · rename_i hlimit
    rwa [if_neg hlimit]

lemma listUndelivered_mem (hsort : LawfulSort lib) (limit : Int) {e : AuditOutboxEvent}
    (he : e ∈ s.listUndeliveredAuditEvents lib limit) : e ∈ s.auditOutbox := by
  have hmem : e ∈ lib.sortSlice (fun a b => decide (a.seq < b.seq))
      (s.auditOutbox.filter (fun e => !e.delivered)) := by
    unfold Store.listUndeliveredAuditEvents at he
    dsimp only at he
    split at he
    · exact List.mem_of_mem_take he
    · exact he
  exact List.mem_of_mem_filter ((hsort.perm _ _).mem_iff.mp hmem)

structure Tag where
  id : UUID
  walletID : Option UUID
  seq : Int
  deriving DecidableEq

def tagOf (e : AuditOutboxEvent) : Tag := ⟨e.id, e.walletID, e.seq⟩

def tags (s : Store) : List Tag := s.auditOutbox.map tagOf

def delivered (e : AuditOutboxEvent) : AuditOutboxEvent := { e with delivered := true, attempts := e.attempts + 1 }

lemma deliver_split {id : UUID} {l l' : List AuditOutboxEvent} (h : Store.deliver id l = some l') :
    ∃ pre e post, l = pre ++ e :: post ∧ e.id = id ∧ l' = pre ++ delivered e :: post := by
  induction l generalizing l' with
  | nil => cases h
  | cons a l ih =>
    unfold Store.deliver at h
    split at h
    · rename_i hid
      cases h
      exact ⟨[], a, l, rfl, hid, rfl⟩
    · obtain ⟨l₁, hl₁, rfl⟩ := Option.map_eq_some_iff.mp h
      obtain ⟨pre, e, post, rfl, hid, rfl⟩ := ih hl₁
      exact ⟨a :: pre, e, post, rfl, hid, rfl⟩

lemma deliver_rows {id : UUID} {l l' : List AuditOutboxEvent} (h : Store.deliver id l = some l') :
    l'.map tagOf = l.map tagOf ∧ ∀ e ∈ l', e ∈ l ∨ e.id = id := by
  obtain ⟨pre, e, post, rfl, hid, rfl⟩ := deliver_split h
  refine ⟨by simp [tagOf, delivered], ?_⟩
  intro e' he'
  rcases List.mem_append.mp he' with hpre | htail
  · exact .inl (List.mem_append_left _ hpre)
  · rcases List.mem_cons.mp htail with rfl | hpost
    · exact .inr hid
    · exact .inl (List.mem_append_right _ (List.mem_cons_of_mem _ hpost))

lemma markAuditDelivered_rows (s : Store) (id : UUID) :
    tags (s.markAuditDelivered id).2 = tags s ∧
      ∀ e ∈ (s.markAuditDelivered id).2.auditOutbox, e ∈ s.auditOutbox ∨ e.id = id := by
  unfold Store.markAuditDelivered
  split
  · exact ⟨rfl, fun e he => .inl he⟩
  · rename_i outbox hdeliver
    exact deliver_rows hdeliver

lemma appendAuditEvent_rows (s : Store) (e : AuditOutboxEvent) :
    (s.appendAuditEvent e).2 = s ∨ (s.appendAuditEvent e).2.auditOutbox = s.auditOutbox ++ [e] := by
  unfold Store.appendAuditEvent
  split
  · exact .inl rfl
  · exact .inr rfl

end Outbox

section Order

variable {T : Type} {lib : Lib} {s₀ s s' : Store} {γ : T → DrainPhase}
  {log log' : List (T × Event Call Answer)} {evs : List AuditOutboxEvent}

def deliveredBy : T × Event Call Answer → Option (List AuditOutboxEvent)
  | (_, ⟨.ext (.deliver evs), .ok _⟩) => some evs
  | _ => none

def listedBy : T × Event Call Answer → Option (List AuditOutboxEvent)
  | (_, ⟨.store (.listUndeliveredAuditEvents _), .ok evs⟩) => some evs
  | _ => none

def WasDelivered (s₀ : Store) (log : List (T × Event Call Answer)) (id : UUID) : Prop :=
  (∃ x ∈ log, ∃ evs, deliveredBy x = some evs ∧ ∃ e ∈ evs, e.id = id) ∨
    ∃ e ∈ s₀.auditOutbox, e.id = id ∧ e.delivered = true

lemma WasDelivered.append {id : UUID} (h : WasDelivered s₀ log id) (l : List (T × Event Call Answer)) :
    WasDelivered s₀ (log ++ l) id := by
  rcases h with ⟨x, hx, hsent⟩ | h
  · exact .inl ⟨x, List.mem_append_left _ hx, hsent⟩
  · exact .inr h

/-- The rows of the same wallets with smaller numbers are in the batch or were delivered before. -/
def Covered (s₀ : Store) (log : List (T × Event Call Answer)) (s : Store)
    (evs : List AuditOutboxEvent) : Prop :=
  ∀ e ∈ evs, ∀ k ∈ tags s, ∀ w, e.walletID = some w → k.walletID = some w → k.seq < e.seq →
    WasDelivered s₀ log k.id ∨ ∃ e' ∈ evs, e'.id = k.id

/-- A row is appended only while no row of its wallet with a larger number has been listed. -/
def AppendsInOrder (log : List (T × Event Call Answer)) (_ : Store) (_ : T) : Call → Prop
  | .store (.appendAuditEvent e) => ∀ x ∈ log, ∀ evs ∈ listedBy x, ∀ e' ∈ evs, ∀ w ∈ e.walletID,
    e'.walletID = some w → e'.seq ≤ e.seq
  | _ => True

instance (log : List (T × Event Call Answer)) (s : Store) (t : T) (c : Call) :
    Decidable (AppendsInOrder log s t c) := by
  unfold AppendsInOrder
  split <;> infer_instance

def GrowsBehind (log : List (T × Event Call Answer)) (s s' : Store) : Prop :=
  ∀ k ∈ tags s', k ∈ tags s ∨ ∀ x ∈ log, ∀ evs, listedBy x = some evs →
    ∀ e ∈ evs, ∀ w, k.walletID = some w → e.walletID = some w → e.seq ≤ k.seq

lemma growsBehind_of_tags (h : tags s' = tags s) : GrowsBehind log s s' := by
  intro k hk
  exact .inl (h ▸ hk)

lemma Covered.grow {x : T × Event Call Answer} (h : Covered s₀ log s evs) (hx : x ∈ log')
    (hlisted : listedBy x = some evs) (hgrow : GrowsBehind log' s s') : Covered s₀ log s' evs := by
  intro e he k hk w hw hkw hlt
  rcases hgrow k hk with hold | hbehind
  · exact h e he k hold w hw hkw hlt
  · have hle := hbehind x hx evs hlisted e he w hkw hw
    omega

lemma Covered.append (h : Covered s₀ log s evs) (l : List (T × Event Call Answer)) :
    Covered s₀ (log ++ l) s evs := by
  intro e he k hk w hw hkw hlt
  exact (h e he k hk w hw hkw hlt).imp_left (fun hsent => hsent.append l)

structure DrainInv (s₀ : Store) (γ : T → DrainPhase) (log : List (T × Event Call Answer)) (s : Store) :
    Prop where
  marked : ∀ e ∈ s.auditOutbox, e.delivered = true → WasDelivered s₀ log e.id
  listed : ∀ t evs, γ t = .listed evs → (∃ x ∈ log, listedBy x = some evs) ∧ Covered s₀ log s evs ∧
    ∀ e ∈ evs, tagOf e ∈ tags s
  sent : ∀ t evs, γ t = .sent evs → ∀ e ∈ evs, WasDelivered s₀ log e.id
  covered : Throughout (fun pre x => ∀ evs, deliveredBy x = some evs →
    (∃ y ∈ pre, listedBy y = some evs) ∧ Covered s₀ pre s evs) log
  ordered : Throughout (fun pre x' => ∀ evs', deliveredBy x' = some evs' → Throughout (fun pre₁ x =>
    ∀ evs, deliveredBy x = some evs → ∀ e ∈ evs, ∀ e' ∈ evs', ∀ w, e.walletID = some w →
      e'.walletID = some w → e'.seq < e.seq → WasDelivered s₀ (pre₁ ++ [x]) e'.id) pre) log

lemma DrainInv.start (s : Store) : DrainInv s (fun _ : T => .idle) [] s where
  marked e he hdelivered := .inr ⟨e, he, rfl, hdelivered⟩
  listed _ _ h := by cases h
  sent _ _ h := by cases h
  covered := throughout_nil
  ordered := throughout_nil

variable [DecidableEq T]

/-- One call of a slot. Only listed rows are delivered; a delivery then finds all of its rows in the
outbox, where the earlier deliveries cover them. -/
lemma DrainInv.move (h : DrainInv s₀ γ log s) {t : T} {ev : Event Call Answer} {g' : DrainPhase}
    (hmarked : ∀ e ∈ s'.auditOutbox, e.delivered = true → WasDelivered s₀ log e.id)
    (hkeep : tags s ⊆ tags s') (hgrow : GrowsBehind log s s')
    (hlisted : ∀ evs, g' = .listed evs → (∃ x ∈ log ++ [(t, ev)], listedBy x = some evs) ∧
      Covered s₀ log s' evs ∧ ∀ e ∈ evs, tagOf e ∈ tags s')
    (hsent : ∀ evs, g' = .sent evs → ∀ e ∈ evs, WasDelivered s₀ (log ++ [(t, ev)]) e.id)
    (hdeliver : ∀ evs, deliveredBy (t, ev) = some evs → γ t = .listed evs) :
    DrainInv s₀ (Function.update γ t g') (log ++ [(t, ev)]) s' := by
  have hcovered : Throughout (fun pre x => ∀ evs, deliveredBy x = some evs →
      (∃ y ∈ pre, listedBy y = some evs) ∧ Covered s₀ pre s' evs) log := by
    refine h.covered.imp ?_
    intro pre x post hsplit hx evs hevs
    obtain ⟨⟨y, hy, hyevs⟩, hcov⟩ := hx evs hevs
    have hylog : y ∈ log := hsplit ▸ List.mem_append_left _ hy
    exact ⟨⟨y, hy, hyevs⟩, hcov.grow hylog hyevs hgrow⟩
  refine ⟨?_, ?_, ?_, hcovered.concat ?_, h.ordered.concat ?_⟩
  · intro e he hdelivered
    exact (hmarked e he hdelivered).append _
  · intro t' evs hg
    by_cases ht : t' = t
    · rw [ht, Function.update_self] at hg
      obtain ⟨hx, hcov, hknown⟩ := hlisted evs hg
      exact ⟨hx, hcov.append _, hknown⟩
    · rw [Function.update_of_ne ht] at hg
      obtain ⟨⟨x, hx, hxevs⟩, hcov, hknown⟩ := h.listed t' evs hg
      exact ⟨⟨x, List.mem_append_left _ hx, hxevs⟩, (hcov.grow hx hxevs hgrow).append _,
        fun e he => hkeep (hknown e he)⟩
  · intro t' evs hg e he
    by_cases ht : t' = t
    · rw [ht, Function.update_self] at hg
      exact hsent evs hg e he
    · rw [Function.update_of_ne ht] at hg
      exact (h.sent t' evs hg e he).append _
  · intro evs hevs
    obtain ⟨⟨x, hx, hxevs⟩, hcov, -⟩ := h.listed t evs (hdeliver evs hevs)
    exact ⟨⟨x, hx, hxevs⟩, hcov.grow hx hxevs hgrow⟩
  · intro evs' hevs' pre₁ x post hsplit evs hevs e he e' he' w hw hw' hlt
    obtain ⟨-, -, hknown⟩ := h.listed t evs' (hdeliver evs' hevs')
    obtain ⟨-, hcov⟩ := h.covered pre₁ x post hsplit evs hevs
    rcases hcov e he (tagOf e') (hknown e' he') w hw hw' hlt with hsent | ⟨e₂, he₂, hid⟩
    · exact hsent.append _
    · exact .inl ⟨x, List.mem_append_right _ (List.mem_singleton_self x), evs, hevs, e₂, he₂, hid⟩

lemma DrainInv.pass (h : DrainInv s₀ γ log s) {t : T} {ev : Event Call Answer} {g' : DrainPhase}
    (houtbox : s'.auditOutbox = s.auditOutbox) (hg' : g' = .idle)
    (hdeliver : deliveredBy (t, ev) = none) :
    DrainInv s₀ (Function.update γ t g') (log ++ [(t, ev)]) s' := by
  have htags : tags s' = tags s := by rw [tags, houtbox, tags]
  subst hg'
  refine h.move (houtbox ▸ h.marked) (by rw [htags]; exact List.Subset.refl _)
    (growsBehind_of_tags htags) nofun nofun ?_
  intro evs hevs
  rw [hdeliver] at hevs
  cases hevs

lemma DrainInv.step (hsort : LawfulSort lib) (h : DrainInv s₀ γ log s) {t : T} {c : Call} {r : Answer c}
    {g' : DrainPhase} (hm : DrainMoves (γ t) c r g') (hok : AppendsInOrder log s t c)
    (hs : memStep lib s c r s') :
    DrainInv s₀ (Function.update γ t g') (log ++ [(t, ⟨c, r⟩)]) s' := by
  generalize hgt : γ t = g at hm
  cases hm with
  | number =>
    obtain rfl : s' = (s.nextAuditSeq _).2 := congrArg Prod.snd hs
    exact h.pass rfl rfl rfl
  | @append e r hnew =>
    obtain rfl : s' = (s.appendAuditEvent e).2 := congrArg Prod.snd hs
    rcases appendAuditEvent_rows s e with hsame | hrows
    · rw [hsame]
      exact h.pass rfl rfl rfl
    · refine h.move ?_ ?_ ?_ nofun nofun nofun
      · intro e' he' hdelivered
        rw [hrows] at he'
        rcases List.mem_append.mp he' with he' | he'
        · exact h.marked e' he' hdelivered
        · obtain rfl := List.mem_singleton.mp he'
          rw [hnew] at hdelivered
          cases hdelivered
      · rw [tags, tags, hrows, List.map_append]
        exact List.subset_append_left _ _
      · intro k hk
        rw [tags, hrows, List.map_append] at hk
        rcases List.mem_append.mp hk with hk | hk
        · exact .inl hk
        · obtain rfl := List.mem_singleton.mp hk
          exact .inr hok
  | @list limit evs =>
    obtain ⟨hevs, rfl⟩ : Except.ok evs = Except.ok (s.listUndeliveredAuditEvents lib limit) ∧ s' = s :=
      Prod.mk.inj hs
    cases hevs
    refine h.move h.marked (List.Subset.refl _) (growsBehind_of_tags rfl) ?_ nofun nofun
    rintro evs ⟨rfl⟩
    refine ⟨⟨_, List.mem_append_right _ (List.mem_singleton_self _), rfl⟩, ?_, ?_⟩
    · intro e he k hk w hw hkw hlt
      obtain ⟨e', he', rfl⟩ := List.mem_map.mp hk
      cases hdelivered : e'.delivered with
      | true => exact .inl (h.marked e' he' hdelivered)
      | false => exact .inr ⟨e', listUndelivered_closed hsort limit he he' hdelivered hlt, rfl⟩
    · intro e he
      exact List.mem_map.mpr ⟨e, listUndelivered_mem hsort limit he, rfl⟩
  | unlisted =>
    obtain rfl : s' = s := congrArg Prod.snd hs
    exact h.pass rfl rfl rfl
  | @deliver evs =>
    obtain rfl : s' = s := hs
    refine h.move h.marked (List.Subset.refl _) (growsBehind_of_tags rfl) nofun ?_ ?_
    · rintro evs' ⟨rfl⟩ e he
      exact .inl ⟨_, List.mem_append_right _ (List.mem_singleton_self _), evs, rfl, e, he, rfl⟩
    · rintro evs' ⟨rfl⟩
      exact hgt
  | undelivered =>
    obtain rfl : s' = s := hs
    exact h.pass rfl rfl rfl
  | @mark evs e r he =>
    obtain rfl : s' = (s.markAuditDelivered e.id).2 := congrArg Prod.snd hs
    obtain ⟨htags, hrows⟩ := markAuditDelivered_rows s e.id
    refine h.move ?_ (by rw [htags]; exact List.Subset.refl _) (growsBehind_of_tags htags) nofun ?_ nofun
    · intro e' he' hdelivered
      rcases hrows e' he' with hold | hid
      · exact h.marked e' hold hdelivered
      · rw [hid]
        exact h.sent t evs hgt e he
    · rintro evs' ⟨rfl⟩ e' he'
      exact (h.sent t evs hgt e' he').append _

theorem wallet_events_delivered_in_order (hsort : LawfulSort lib) {svc : EmitterService}
    (hsink : svc.hasSink = true) {ops : T → OutboxOp} {P : Pool T Call Answer (Except Error Unit) Store}
    (h : Pool.Leads (memStep lib) AppendsInOrder (Pool.start s₀ (fun t => (ops t).proc svc)) P)
    {pre mid post : List (T × Event Call Answer)} {x x' : T × Event Call Answer}
    (hlog : P.log = pre ++ x :: (mid ++ x' :: post)) {evs evs' : List AuditOutboxEvent}
    (hx : deliveredBy x = some evs) (hx' : deliveredBy x' = some evs')
    {e e' : AuditOutboxEvent} (he : e ∈ evs) (he' : e' ∈ evs') {w : UUID} (hw : e.walletID = some w)
    (hw' : e'.walletID = some w) (hlt : e'.seq < e.seq) : WasDelivered s₀ (pre ++ [x]) e'.id := by
  obtain ⟨γ, hinv, -⟩ := h.invariant (π := fun _ => drainProtocol) (J := DrainInv s₀)
    (fun t => outboxOp_conforms hsink (ops t)) (.start s₀) (fun _ _ _ _ _ _ => trivial)
    (fun _ _ _ _ _ _ _ _ hJ hm hok hs => hJ.step hsort hm hok hs)
  have hsplit : P.log = (pre ++ x :: mid) ++ x' :: post := by
    rw [hlog, List.append_assoc, List.cons_append]
  exact hinv.ordered _ x' post hsplit evs' hx' pre x mid rfl evs hx e he e' he' w hw hw' hlt

def outboxOps : Fin 4 → OutboxOp
  | 0 => .emit ⟨"wallet.state_changed", some evmWallet.id, [("from", .text "ACTIVE"), ("to", .text "PAUSED")]⟩
    ⟨UUID.ofByte 30, UUID.ofByte 40, 0⟩
  | 1 => .emit ⟨"wallet.state_changed", some evmWallet.id, [("from", .text "PAUSED"), ("to", .text "RETIRED")]⟩
    ⟨UUID.ofByte 31, UUID.ofByte 41, 0⟩
  | _ => .drain

def outboxStart : Pool (Fin 4) Call Answer (Except Error Unit) Store :=
  Pool.start {} (fun t => (outboxOps t).proc jsonEmitter)

def batchedPool : Pool (Fin 4) Call Answer (Except Error Unit) Store :=
  outboxStart.schedule (fun log s t c => decide (AppendsInOrder log s t c)) (answering agree)
    [0, 0, 1, 1, 2, 3, 2, 3]

def pausedRow : AuditOutboxEvent :=
  { id := UUID.ofByte 30, eventID := UUID.ofByte 40, walletID := some evmWallet.id,
    eventType := "wallet.state_changed",
    payload := utf8 "\x7b\"from\":\"ACTIVE\",\"to\":\"PAUSED\"\x7d", seq := 1 }

def retiredRow : AuditOutboxEvent :=
  { id := UUID.ofByte 31, eventID := UUID.ofByte 41, walletID := some evmWallet.id,
    eventType := "wallet.state_changed",
    payload := utf8 "\x7b\"from\":\"PAUSED\",\"to\":\"RETIRED\"\x7d", seq := 2 }

theorem wallet_events_delivered_in_order_batched :
    batchedPool.log.filterMap (fun x => (deliveredBy x).map (List.map AuditOutboxEvent.seq)) =
        [[1, 2], [1, 2]] ∧
      WasDelivered {} (batchedPool.log.take 7) (UUID.ofByte 30) := by
  have hleads : Pool.Leads (memStep referenceLib) AppendsInOrder outboxStart batchedPool :=
    Pool.Leads.schedule (fun _ _ _ _ => of_decide_eq_true) (answering_memStep agree) .refl _
  have hlen : batchedPool.log.length = 8 := by decide +kernel
  have hlog : batchedPool.log =
      batchedPool.log.take 6 ++ batchedPool.log[6] :: ([] ++ batchedPool.log[7] :: []) := by
    conv_lhs => rw [← List.take_append_drop 6 batchedPool.log]
    rw [List.drop_eq_getElem_cons (by omega), List.drop_eq_getElem_cons (by omega),
      List.drop_eq_nil_of_le (by omega)]
    rfl
  have hfirst : batchedPool.log[6]?.bind deliveredBy = some [pausedRow, retiredRow] := by decide +kernel
  have hsecond : batchedPool.log[7]?.bind deliveredBy = some [pausedRow, retiredRow] := by decide +kernel
  rw [List.getElem?_eq_getElem (by omega)] at hfirst hsecond
  have hearlier := wallet_events_delivered_in_order referenceLib_sorts rfl hleads hlog hfirst hsecond
    (show retiredRow ∈ _ by simp) (show pausedRow ∈ _ by simp) rfl rfl (by decide)
  refine ⟨by decide +kernel, ?_⟩
  rwa [List.take_append_getElem (by omega)] at hearlier

def overtakenPool : Pool (Fin 4) Call Answer (Except Error Unit) Store :=
  outboxStart.schedule (fun _ _ _ _ => true) (answering agree) [0, 1, 1, 2, 2, 2, 0, 3, 3, 3]

theorem drain_overtakes_emission :
    Pool.Leads (memStep referenceLib) (fun _ _ _ _ => True) outboxStart overtakenPool ∧
      overtakenPool.log.filterMap (fun x => (deliveredBy x).map (List.map tagOf)) =
        [[⟨UUID.ofByte 31, some evmWallet.id, 2⟩], [⟨UUID.ofByte 30, some evmWallet.id, 1⟩]] := by
  refine ⟨?_, by decide +kernel⟩
  exact Pool.Leads.schedule (fun _ _ _ _ _ => trivial) (answering_memStep agree) .refl _

end Order

end WalletManager.Proofs
