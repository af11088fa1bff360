import WalletManager.Audit.Emitter
import WalletManager.Ledger.Journal
import WalletManager.Proofs.AddressTable
import WalletManager.Proofs.Keys
import WalletManager.Proofs.SagaCalls

/-!
# What the audit log says

The persisted states that operations change, and what a row of the outbox says about them: which
wallet it is about and, by its type and its fields, which state of which entity. A call of a service
writes one state or none, and an emission appends one row.
-/

namespace WalletManager.Proofs

open Interaction Journal

inductive Entity
  | withdrawal (id : UUID)
  | funding (id : UUID)
  | wallet (id : UUID)
  | address (id : UUID)
  | keys (walletID : UUID)
  deriving DecidableEq

inductive Standing
  | withdrawal (id : UUID) (state : WithdrawalState)
  | funding (id : UUID) (state : FundingState)
  | wallet (state : WalletState)
  | address (id : UUID) (text : String) (state : AddressState)
  | keys (mappings : List KeyMapping)
  deriving DecidableEq

/-- The standing of an entity, with the wallet that it belongs to. -/
def standing (s : Store) : Entity → Option (UUID × Standing)
  | .withdrawal id => (s.withdrawals.lookup id).map (fun wr => (wr.walletID, .withdrawal id wr.state))
  | .funding id => (s.fundingReq.lookup id).map (fun f => (f.walletID, .funding id f.state))
  | .wallet id => (s.wallets.lookup id).map (fun w => (w.id, .wallet w.state))
  | .address id => (s.addresses.lookup id).map (fun a => (a.walletID, .address a.id a.address a.state))
  | .keys walletID => (s.keyMappings.lookup walletID).map (fun ms => (walletID, .keys ms))

def Tracked : Entity → Prop
  | .withdrawal _ | .funding _ => True
  | _ => False

lemma tracked_update {v : Entity → Option (UUID × Standing)} {x x' : Entity} {y : Option (UUID × Standing)}
    (hx : ¬Tracked x) (hx' : Tracked x') : Function.update v x y x' = v x' := by
  refine Function.update_of_ne ?_ _ _
  rintro rfl
  exact hx hx'

/-! ## The reading of a row -/

structure Note where
  eventType : String
  walletID : UUID
  field : String → Option AuditValue

/-- The note of a row; `field` reads a field of a payload. -/
def rowNote (field : Bytes → String → Option AuditValue) (row : AuditOutboxEvent) : Option Note :=
  row.walletID.map (fun walletID => ⟨row.eventType, walletID, field row.payload⟩)

def notes (field : Bytes → String → Option AuditValue) (s : Store) : List Note :=
  s.auditOutbox.filterMap (rowNote field)

def noteOf (e : AuditEvent) : Note := ⟨e.eventType, e.walletID, fun k => e.payload.lookup k⟩

/-- The check of the whitelist is taken for its success: no other row of a new withdrawal tells it. -/
def withdrawalEvents : List (String × WithdrawalState) :=
  [("withdrawal.created", .pending), ("withdrawal.whitelist_checked", .whitelisted),
    ("withdrawal.signed", .signed), ("withdrawal.broadcast", .broadcast),
    ("withdrawal.confirmed", .confirmed), ("withdrawal.failed", .failed)]

def fundingEvents : List (String × FundingState) :=
  [("wallet.funding.requested", .requested), ("wallet.funding.settled", .settled)]

/-- The standing of a withdrawal or a funding request that a note reports. -/
def told : Entity → Note → Option (UUID × Standing)
  | .withdrawal id, n =>
    if n.field "id" = some (.text id.string) then
      (withdrawalEvents.lookup n.eventType).map (fun state => (n.walletID, .withdrawal id state))
    else none
  | .funding id, n =>
    if n.field "id" = some (.text id.string) then
      (fundingEvents.lookup n.eventType).map (fun state => (n.walletID, .funding id state))
    else none
  | _, _ => none

def Tells (n : Note) : UUID × Standing → Prop
  | (w, .withdrawal id state) => told (.withdrawal id) n = some (w, .withdrawal id state)
  | (w, .funding id state) => told (.funding id) n = some (w, .funding id state)
  | (w, .wallet state) => n.walletID = w ∧ (n.eventType = "wallet.created" ∧ state = .active ∨
    n.eventType = "wallet.state_changed" ∧ n.field "to" = some (.text state.string))
  | (w, .address _ text .active) => n.walletID = w ∧ n.eventType = "wallet.address.derived" ∧
    n.field "address" = some (.text text)
  | (w, .address _ text .deprecated) => n.walletID = w ∧ n.eventType = "wallet.address.rotated" ∧
    n.field "old_address" = some (.text text)
  | (w, .keys mappings) => n.walletID = w ∧ n.eventType = "key.rotated" ∧
    ∃ m ∈ mappings, m.rotationState = .current ∧ n.field "new_key_id" = some (.text m.keyID)

/-- `json.Marshal` succeeds on the payloads of the services, and their fields can be read. -/
structure Readable (em : EmitterService) (field : Bytes → String → Option AuditValue) : Prop where
  total : ∀ p, ∃ b, em.marshal p = .ok b
  reads : ∀ p b, em.marshal p = .ok b → (p.map Prod.fst).Nodup → ∀ k, field b k = p.lookup k

section Told

variable {n : Note} {id : UUID} {x : Entity}

lemma told_unnamed (htype : withdrawalEvents.lookup n.eventType = none)
    (htype' : fundingEvents.lookup n.eventType = none) : told x n = none := by
  cases x with
  | withdrawal j => simp [told, htype]
  | funding j => simp [told, htype']
  | _ => rfl

lemma text_ne {j : UUID} (hid : n.field "id" = some (.text id.string)) (hj : j ≠ id) :
    n.field "id" ≠ some (.text j.string) := by
  rw [hid]
  intro hstring
  exact hj (uuid_string_inj (AuditValue.text.inj (Option.some.inj hstring))).symm

lemma told_withdrawal_other (hid : n.field "id" = some (.text id.string))
    (htype : fundingEvents.lookup n.eventType = none) (hx : x ≠ .withdrawal id) : told x n = none := by
  cases x with
  | withdrawal j => exact if_neg (text_ne hid (fun hj => hx (congrArg _ hj)))
  | funding j => simp [told, htype]
  | _ => rfl

lemma told_funding_other (hid : n.field "id" = some (.text id.string))
    (htype : withdrawalEvents.lookup n.eventType = none) (hx : x ≠ .funding id) : told x n = none := by
  cases x with
  | withdrawal j => simp [told, htype]
  | funding j => exact if_neg (text_ne hid (fun hj => hx (congrArg _ hj)))
  | _ => rfl

end Told

/-! ## The tables in order -/

/-- The wallets and the addresses are kept under their identifiers, and a wallet has at most one
active address. -/
structure InOrder (v : Entity → Option (UUID × Standing)) : Prop where
  wallets : ∀ id w st, v (.wallet id) = some (w, st) → w = id
  addresses : ∀ id w j text state, v (.address id) = some (w, .address j text state) → j = id
  active : ∀ i j w a b text text', v (.address i) = some (w, .address a text .active) →
    v (.address j) = some (w, .address b text' .active) → i = j

def NoActive (v : Entity → Option (UUID × Standing)) (w : UUID) : Prop :=
  ∀ i j text, v (.address i) ≠ some (w, .address j text .active)

section InOrder

variable {v : Entity → Option (UUID × Standing)} {x : Entity} {y : UUID × Standing} {id w : UUID} {text : String}

lemma InOrder.other (h : InOrder v) (hwallet : ∀ id, Entity.wallet id ≠ x)
    (haddress : ∀ id, Entity.address id ≠ x) :
    InOrder (Function.update v x (some y)) := by
  refine ⟨?_, ?_, ?_⟩
  · intro id w st hv
    rw [Function.update_of_ne (hwallet id)] at hv
    exact h.wallets id w st hv
  · intro id w j text state hv
    rw [Function.update_of_ne (haddress id)] at hv
    exact h.addresses id w j text state hv
  · intro i j w a b text text' hi hj
    rw [Function.update_of_ne (haddress i)] at hi
    rw [Function.update_of_ne (haddress j)] at hj
    exact h.active i j w a b text text' hi hj

lemma InOrder.wallet (h : InOrder v) {state : WalletState} :
    InOrder (Function.update v (.wallet id) (some (id, .wallet state))) := by
  refine ⟨?_, ?_, ?_⟩
  · intro j w st hv
    by_cases hj : j = id
    · subst hj
      rw [Function.update_self] at hv
      exact (Prod.mk.inj (Option.some.inj hv)).1.symm
    · rw [Function.update_of_ne (by simpa using hj)] at hv
      exact h.wallets j w st hv
  · intro i w j text state hv
    rw [Function.update_of_ne (by simp)] at hv
    exact h.addresses i w j text state hv
  · intro i j w a b text text' hi hj
    rw [Function.update_of_ne (by simp)] at hi hj
    exact h.active i j w a b text text' hi hj

lemma InOrder.retire (h : InOrder v) :
    InOrder (Function.update v (.address id) (some (w, .address id text .deprecated))) := by
  have hactive : ∀ {i w' a text'}, Function.update v (.address id) (some (w, .address id text .deprecated))
      (.address i) = some (w', .address a text' .active) →
        v (.address i) = some (w', .address a text' .active) := by
    intro i w' a text' hi
    by_cases hid : i = id
    · subst hid
      rw [Function.update_self] at hi
      cases hi
    · rwa [Function.update_of_ne (by simpa using hid)] at hi
  refine ⟨?_, ?_, ?_⟩
  · intro j w' st hv
    rw [Function.update_of_ne (by simp)] at hv
    exact h.wallets j w' st hv
  · intro i w' j text' state hv
    by_cases hi : i = id
    · subst hi
      rw [Function.update_self] at hv
      cases hv
      rfl
    · rw [Function.update_of_ne (by simpa using hi)] at hv
      exact h.addresses i w' j text' state hv
  · intro i j w' a b text' text'' hi hj
    exact h.active i j w' a b text' text'' (hactive hi) (hactive hj)

lemma InOrder.place (h : InOrder v) (hvacant : NoActive v w) :
    InOrder (Function.update v (.address id) (some (w, .address id text .active))) := by
  refine ⟨?_, ?_, ?_⟩
  · intro j w' st hv
    rw [Function.update_of_ne (by simp)] at hv
    exact h.wallets j w' st hv
  · intro i w' j text' state hv
    by_cases hi : i = id
    · subst hi
      rw [Function.update_self] at hv
      cases hv
      rfl
    · rw [Function.update_of_ne (by simpa using hi)] at hv
      exact h.addresses i w' j text' state hv
  · intro i j w' a b text' text'' hi hj
    by_cases hi' : i = id <;> by_cases hj' : j = id
    · rw [hi', hj']
    · subst hi'
      rw [Function.update_self] at hi
      rw [Function.update_of_ne (by simpa using hj')] at hj
      cases hi
      exact absurd hj (hvacant _ _ _)
    · subst hj'
      rw [Function.update_self] at hj
      rw [Function.update_of_ne (by simpa using hi')] at hi
      cases hj
      exact absurd hi (hvacant _ _ _)
    · rw [Function.update_of_ne (by simpa using hi')] at hi
      rw [Function.update_of_ne (by simpa using hj')] at hj
      exact h.active i j w' a b text' text'' hi hj

lemma InOrder.noActive_retire (h : InOrder v) {j : UUID}
    (hactive : v (.address id) = some (w, .address j text .active)) :
    NoActive (Function.update v (.address id) (some (w, .address id text .deprecated))) w := by
  intro i k text' hi
  by_cases hid : i = id
  · subst hid
    rw [Function.update_self] at hi
    cases hi
  · rw [Function.update_of_ne (by simpa using hid)] at hi
    exact hid (h.active i id w k j text' text hi hactive)

end InOrder

/-! ## The calls -/

/-- After some calls from `s` on: the standing of the entities, and the notes that were taken. -/
structure Noted (field : Bytes → String → Option AuditValue) (s : Store) (v : Entity → Option (UUID × Standing))
    (ns : List Note) (s₁ : Store) : Prop where
  standing : standing s₁ = v
  rows : ∃ rows, s₁.auditOutbox = s.auditOutbox ++ rows ∧ rows.filterMap (rowNote field) = ns

structure Recorded (field : Bytes → String → Option AuditValue) (s s₁ : Store)
    (rows : List AuditOutboxEvent) : Prop where
  outbox : s₁.auditOutbox = s.auditOutbox ++ rows
  covers : Covers Tells (standing s) (standing s₁) (rows.filterMap (rowNote field))
  tracks : Journal.Tracks told Tracked (standing s) (standing s₁) (rows.filterMap (rowNote field))
  inOrder : InOrder (standing s₁)

section Calls

variable {field : Bytes → String → Option AuditValue} {lib : Lib} {em : EmitterService}
  {answers : (c : ExtCall) → c.Answer → Prop} {s s₁ s₂ : Store} {v : Entity → Option (UUID × Standing)}
  {ns : List Note} {id : UUID}

lemma Noted.refl (s : Store) : Noted field s (Proofs.standing s) [] s :=
  ⟨rfl, [], (List.append_nil _).symm, rfl⟩

lemma Noted.write (h : Noted field s v ns s₁) {x : Entity} {y : UUID × Standing}
    (hstanding : Proofs.standing s₂ = Function.update (Proofs.standing s₁) x (some y))
    (houtbox : s₂.auditOutbox = s₁.auditOutbox) : Noted field s (Function.update v x (some y)) ns s₂ := by
  refine ⟨?_, ?_⟩
  · rw [hstanding, h.standing]
  · rw [houtbox]
    exact h.rows

lemma Noted.idle (h : Noted field s v ns s₁) (hstanding : Proofs.standing s₂ = Proofs.standing s₁)
    (houtbox : s₂.auditOutbox = s₁.auditOutbox) : Noted field s v ns s₂ := by
  refine ⟨hstanding.trans h.standing, ?_⟩
  rw [houtbox]
  exact h.rows

lemma updateWithdrawal_standing {f : WithdrawalRequest → WithdrawalRequest}
    (hf : ∀ wr, (f wr).walletID = wr.walletID)
    (hstate : ∀ wr, (f wr).state = wr.state) :
    Proofs.standing (s.updateWithdrawal id f).2 = Proofs.standing s ∧
      (s.updateWithdrawal id f).2.auditOutbox = s.auditOutbox := by
  unfold Store.updateWithdrawal
  cases hrow : s.withdrawals.lookup id with
  | none => exact ⟨rfl, rfl⟩
  | some wr =>
    refine ⟨?_, rfl⟩
    funext x
    cases x with
    | withdrawal j =>
      by_cases hj : j = id
      · subst hj
        simp [Proofs.standing, hrow, hf, hstate]
      · simp [Proofs.standing, AList.lookup_insert_ne hj]
    | _ => rfl

lemma still_frame {c : StoreCall} (hc : Still id (.store c)) :
    Proofs.standing (s.handle lib c).2 = Proofs.standing s ∧
      (s.handle lib c).2.auditOutbox = s.auditOutbox := by
  cases c with
  | updateWithdrawalNonce j n => exact updateWithdrawal_standing (fun _ => rfl) (fun _ => rfl)
  | updateWithdrawalOutpoints j ops => exact updateWithdrawal_standing (fun _ => rfl) (fun _ => rfl)
  | updateWithdrawalSignedTx j txBytes => exact updateWithdrawal_standing (fun _ => rfl) (fun _ => rfl)
  | lockUTXOs ops =>
    change Proofs.standing (s.lockUTXOs ops).2 = _ ∧ (s.lockUTXOs ops).2.auditOutbox = _
    unfold Store.lockUTXOs
    split <;> exact ⟨rfl, rfl⟩
  | rollbackPendingNonce walletID chain n =>
    change Proofs.standing (s.rollbackPendingNonce walletID chain n).2 = _ ∧
      (s.rollbackPendingNonce walletID chain n).2.auditOutbox = _
    unfold Store.rollbackPendingNonce
    split
    · exact ⟨rfl, rfl⟩
    · split <;> exact ⟨rfl, rfl⟩
  | _ => first | exact False.elim hc | exact ⟨rfl, rfl⟩

lemma Noted.still (h : Noted field s v ns s₁) {c : Call} {r : Answer c} (hc : Still id c)
    (hs : auditedStep lib em answers s₁ c r s₂) : Noted field s v ns s₂ := by
  cases c with
  | store c =>
    obtain rfl : s₂ = (s₁.handle lib c).2 := congrArg Prod.snd hs
    obtain ⟨hstanding, houtbox⟩ : Proofs.standing (s₁.handle lib c).2 = Proofs.standing s₁ ∧
      (s₁.handle lib c).2.auditOutbox = s₁.auditOutbox := still_frame hc
    exact h.idle hstanding houtbox
  | ext c =>
    have hsame : s₂ = s₁ := by cases c <;> first | exact hs.2 | exact False.elim hc
    rw [hsame]
    exact h

lemma emit_row (hread : Readable em field) {e : AuditEvent} (hkeys : (e.payload.map Prod.fst).Nodup)
    {r : Except Error Unit} (hs : auditedStep lib em answers s₁ (.ext (.emit e)) r s₂) :
    Proofs.standing s₂ = Proofs.standing s₁ ∧
      ∃ row, s₂.auditOutbox = s₁.auditOutbox ++ [row] ∧ rowNote field row = some (noteOf e) := by
  obtain ⟨fresh, tr, hfresh, hexec⟩ := hs
  obtain ⟨b, hb⟩ := hread.total e.payload
  unfold EmitterService.emit at hexec
  simp only [hb] at hexec
  obtain ⟨seq, s₃, tr₁, hseq, hexec, -⟩ := hexec
  obtain ⟨rfl, rfl⟩ := Prod.mk.inj (show (seq, s₃) = s₁.nextAuditSeq e.walletID from hseq)
  obtain ⟨r₁, s₄, tr₂, happend, ⟨-, -, rfl⟩, -⟩ := hexec
  have hnew : ¬(s₁.nextAuditSeq e.walletID).2.auditOutbox.any (fun ex => ex.eventID = fresh.eventID) := by
    simp only [List.any_eq_true, decide_eq_true_eq, not_exists, not_and]
    exact hfresh
  have happended : (r₁, s₂) = (.ok (), _) := happend.trans (if_neg hnew)
  obtain ⟨-, rfl⟩ := Prod.mk.inj happended
  have hfield : field b = fun k => e.payload.lookup k := funext (hread.reads e.payload b hb hkeys)
  refine ⟨rfl, _, rfl, ?_⟩
  simp only [rowNote, Option.map_some, hfield, noteOf]

lemma Noted.emit (h : Noted field s v ns s₁) (hread : Readable em field) {e : AuditEvent}
    (hkeys : (e.payload.map Prod.fst).Nodup) {r : Except Error Unit}
    (hs : auditedStep lib em answers s₁ (.ext (.emit e)) r s₂) :
    Noted field s v (ns ++ [noteOf e]) s₂ := by
  obtain ⟨hstanding, row, hrow, hnote⟩ := emit_row hread hkeys hs
  obtain ⟨rows, hrows, hnotes⟩ := h.rows
  refine ⟨hstanding.trans h.standing, rows ++ [row], ?_, ?_⟩
  · rw [hrow, hrows, List.append_assoc]
  · rw [List.filterMap_append, hnotes]
    simp [hnote]

/-! ## The writes -/

section Writes

lemma standing_insert_withdrawal (wr : WithdrawalRequest) (inflight : Finset String) :
    Proofs.standing { s₁ with inflightWithdrawals := inflight, withdrawals := s₁.withdrawals.insert id wr } =
      Function.update (Proofs.standing s₁) (.withdrawal id) (some (wr.walletID, .withdrawal id wr.state)) := by
  rw [Function.eq_update_iff]
  refine ⟨by simp [Proofs.standing], ?_⟩
  rintro (j | j | j | j | j) hj
  · simp [Proofs.standing, AList.lookup_insert_ne (show j ≠ id by simpa using hj)]
  all_goals rfl

lemma standing_insert_funding (f : FundingRequest) :
    Proofs.standing { s₁ with fundingReq := s₁.fundingReq.insert id f } =
      Function.update (Proofs.standing s₁) (.funding id) (some (f.walletID, .funding id f.state)) := by
  rw [Function.eq_update_iff]
  refine ⟨by simp [Proofs.standing], ?_⟩
  rintro (j | j | j | j | j) hj
  · rfl
  · simp [Proofs.standing, AList.lookup_insert_ne (show j ≠ id by simpa using hj)]
  all_goals rfl

lemma standing_insert_wallet (w : Wallet) :
    Proofs.standing { s₁ with wallets := s₁.wallets.insert id w } =
      Function.update (Proofs.standing s₁) (.wallet id) (some (w.id, .wallet w.state)) := by
  rw [Function.eq_update_iff]
  refine ⟨by simp [Proofs.standing], ?_⟩
  rintro (j | j | j | j | j) hj
  · rfl
  · rfl
  · simp [Proofs.standing, AList.lookup_insert_ne (show j ≠ id by simpa using hj)]
  all_goals rfl

lemma standing_insert_address (a : Address) :
    Proofs.standing { s₁ with addresses := s₁.addresses.insert id a } =
      Function.update (Proofs.standing s₁) (.address id) (some (a.walletID, .address a.id a.address a.state)) := by
  rw [Function.eq_update_iff]
  refine ⟨by simp [Proofs.standing], ?_⟩
  rintro (j | j | j | j | j) hj
  · rfl
  · rfl
  · rfl
  · simp [Proofs.standing, AList.lookup_insert_ne (show j ≠ id by simpa using hj)]
  · rfl

lemma standing_insert_keys (ms : List KeyMapping) :
    Proofs.standing { s₁ with keyMappings := s₁.keyMappings.insert id ms } =
      Function.update (Proofs.standing s₁) (.keys id) (some (id, .keys ms)) := by
  rw [Function.eq_update_iff]
  refine ⟨by simp [Proofs.standing], ?_⟩
  rintro (j | j | j | j | j) hj
  · rfl
  · rfl
  · rfl
  · rfl
  · simp [Proofs.standing, AList.lookup_insert_ne (show j ≠ id by simpa using hj)]

end Writes

lemma rotated_current (ms : List KeyMapping) {walletID : UUID} {keyID : String} {now : Int} :
    ∃ m ∈ (Store.promote keyID now ms).getD (ms ++ [⟨walletID, keyID, now, none, .current⟩]),
      m.rotationState = .current ∧ m.keyID = keyID := by
  cases hpromote : Store.promote keyID now ms with
  | none => exact ⟨_, List.mem_append_right _ List.mem_cons_self, rfl, rfl⟩
  | some ms' =>
    rw [Option.getD_some]
    induction ms generalizing ms' with
    | nil => cases hpromote
    | cons m ms ih =>
      rw [Store.promote] at hpromote
      split_ifs at hpromote with hkey
      · cases hpromote
        exact ⟨_, List.mem_cons_self, rfl, hkey⟩
      · obtain ⟨ms'', hrest, rfl⟩ := Option.map_eq_some_iff.mp hpromote
        obtain ⟨m', hm', hcurrent⟩ := ih _ hrest
        exact ⟨m', List.mem_cons_of_mem _ hm', hcurrent⟩

/-! ## The rules -/

/-- Run alone with its events going to the outbox, the procedure can only end with `Q`. -/
abbrev Logs {α : Type} (lib : Lib) (em : EmitterService) (answers : (c : ExtCall) → c.Answer → Prop)
    (prog : Proc α) (s : Store) (Q : α → Store → Prop) : Prop :=
  Ends (auditedStep lib em answers) (fun _ => (none : Option Unit)) prog s (fun _ => Q)

section Rules

variable {α β : Type} {Q : β → Store → Prop}

lemma logs_store {c : StoreCall} {f : Except Error c.Result → Proc β}
    (h : Logs lib em answers (f (s₁.handle lib c).1) (s₁.handle lib c).2 Q) :
    Logs lib em answers (store c >>= f) s₁ Q := by
  refine ends_call.mpr ?_
  intro r s₂ hs
  obtain ⟨rfl, rfl⟩ := Prod.mk.inj (show (r, s₂) = s₁.handle lib c from hs)
  exact h

lemma logs_ext {c : ExtCall} {f : c.Answer → Proc β} (hc : ∀ e, c ≠ .emit e)
    (h : ∀ r, answers c r → Logs lib em answers (f r) s₁ Q) : Logs lib em answers (ext c >>= f) s₁ Q := by
  refine ends_call.mpr ?_
  intro r s₂ hs
  have hanswer : answers c r ∧ s₂ = s₁ := by cases c <;> first | exact hs | exact absurd rfl (hc _)
  rw [hanswer.2]
  exact h r hanswer.1

lemma logs_emit {e : AuditEvent} {f : Except Error Unit → Proc β} (h : Noted field s v ns s₁)
    (hread : Readable em field) (hkeys : (e.payload.map Prod.fst).Nodup)
    (hf : ∀ r s₂, Noted field s v (ns ++ [noteOf e]) s₂ → Logs lib em answers (f r) s₂ Q) :
    Logs lib em answers (ext (.emit e) >>= f) s₁ Q := by
  refine ends_call.mpr ?_
  intro r s₂ hs
  exact hf r s₂ (h.emit hread hkeys hs)

lemma logs_saga_emit {svc : Service} {e : AuditEvent} {f : Unit → Proc β} (h : Noted field s v ns s₁)
    (haudit : svc.hasAudit = true) (hread : Readable em field) (hkeys : (e.payload.map Prod.fst).Nodup)
    (hf : ∀ s₂, Noted field s v (ns ++ [noteOf e]) s₂ → Logs lib em answers (f ()) s₂ Q) :
    Logs lib em answers (svc.emit e >>= f) s₁ Q := by
  unfold Service.emit
  rw [if_pos haudit]
  exact logs_emit h hread hkeys (fun _ => hf)

lemma logs_still (id : UUID) {p : Proc α} {f : α → Proc β} (h : Noted field s v ns s₁) (hp : p.AllCalls (Still id))
    (hf : ∀ a s₂, p.MayReturn a → Noted field s v ns s₂ → Logs lib em answers (f a) s₂ Q) :
    Logs lib em answers (p >>= f) s₁ Q := by
  refine ends_bind.mpr ?_
  intro tr a s₂ hexec
  have hends : Logs lib em answers p s₁ (fun _ s₂ => Noted field s v ns s₂) :=
    hp.ends h (fun _ _ _ _ h hc hs => h.still hc hs)
  exact hf a s₂ hexec.mayReturn (hends tr a s₂ hexec)

lemma logs_setState {f : Except Error Unit → Proc β} {w : UUID} {st : Standing} {state : WithdrawalState}
    {reason txHash decisionID : String} (h : Noted field s v ns s₁) (hrow : v (.withdrawal id) = some (w, st))
    (hf : ∀ s₂, Noted field s (Function.update v (.withdrawal id) (some (w, .withdrawal id state))) ns s₂ →
      Logs lib em answers (f (.ok ())) s₂ Q) :
    Logs lib em answers (store (.updateWithdrawalState id state reason txHash decisionID) >>= f) s₁ Q := by
  rw [← h.standing] at hrow
  obtain ⟨wr, hwr, hw⟩ := Option.map_eq_some_iff.mp hrow
  obtain rfl : wr.walletID = w := (Prod.mk.inj hw).1
  refine logs_store ?_
  change Logs lib em answers (f (s₁.updateWithdrawalState id state reason txHash decisionID).1)
    (s₁.updateWithdrawalState id state reason txHash decisionID).2 Q
  unfold Store.updateWithdrawalState
  simp only [hwr]
  exact hf _ (h.write (standing_insert_withdrawal _ _) rfl)

lemma logs_createWithdrawal {f : Except Error Unit → Proc β} {wr : WithdrawalRequest} (h : Noted field s v ns s₁)
    (herr : ∀ err, Logs lib em answers (f (.error err)) s₁ Q)
    (hf : ∀ s₂, Noted field s (Function.update v (.withdrawal wr.id)
      (some (wr.walletID, .withdrawal wr.id wr.state)))
      ns s₂ → Logs lib em answers (f (.ok ())) s₂ Q) :
    Logs lib em answers (store (.createWithdrawal wr) >>= f) s₁ Q := by
  refine logs_store ?_
  change Logs lib em answers (f (s₁.createWithdrawal wr).1) (s₁.createWithdrawal wr).2 Q
  unfold Store.createWithdrawal
  dsimp only
  split_ifs
  · exact herr _
  · exact herr _
  · exact hf _ (h.write (standing_insert_withdrawal _ _) rfl)

lemma logs_createFundingRequest {f : Except Error Unit → Proc β} {req : FundingRequest} (h : Noted field s v ns s₁)
    (herr : ∀ err, Logs lib em answers (f (.error err)) s₁ Q)
    (hf : ∀ s₂, Noted field s (Function.update v (.funding req.id)
      (some (req.walletID, .funding req.id req.state)))
      ns s₂ → Logs lib em answers (f (.ok ())) s₂ Q) :
    Logs lib em answers (store (.createFundingRequest req) >>= f) s₁ Q := by
  refine logs_store ?_
  change Logs lib em answers (f (s₁.createFundingRequest req).1) (s₁.createFundingRequest req).2 Q
  unfold Store.createFundingRequest
  split_ifs
  · exact herr _
  · exact hf _ (h.write (standing_insert_funding _) rfl)

lemma logs_createWallet {f : Except Error Unit → Proc β} {w : Wallet} (h : Noted field s v ns s₁)
    (herr : ∀ err, Logs lib em answers (f (.error err)) s₁ Q)
    (hf : ∀ s₂, Noted field s (Function.update v (.wallet w.id) (some (w.id, .wallet w.state))) ns s₂ →
      Logs lib em answers (f (.ok ())) s₂ Q) :
    Logs lib em answers (store (.createWallet w) >>= f) s₁ Q := by
  refine logs_store ?_
  change Logs lib em answers (f (s₁.createWallet w).1) (s₁.createWallet w).2 Q
  unfold Store.createWallet
  split_ifs
  · exact herr _
  · exact hf _ (h.write (standing_insert_wallet _) rfl)

lemma logs_updateWalletState {f : Except Error Unit → Proc β} {state : WalletState} (h : Noted field s v ns s₁)
    (horder : InOrder v) (herr : ∀ err, Logs lib em answers (f (.error err)) s₁ Q)
    (hf : ∀ s₂, Noted field s (Function.update v (.wallet id) (some (id, .wallet state))) ns s₂ →
      Logs lib em answers (f (.ok ())) s₂ Q) :
    Logs lib em answers (store (.updateWalletState id state) >>= f) s₁ Q := by
  refine logs_store ?_
  change Logs lib em answers (f (s₁.updateWalletState id state).1) (s₁.updateWalletState id state).2 Q
  unfold Store.updateWalletState
  cases hrow : s₁.wallets.lookup id with
  | none => exact herr _
  | some w =>
    obtain rfl : w.id = id := by
      refine horder.wallets id w.id (.wallet w.state) ?_
      rw [← h.standing]
      simp [Proofs.standing, hrow]
    exact hf _ (h.write (standing_insert_wallet _) rfl)

lemma logs_rotateKeyMapping {f : Except Error Unit → Proc β} {keyID : String} {cooling now : Int}
    (h : Noted field s v ns s₁)
    (hf : ∀ ms s₂, (∃ m ∈ ms, m.rotationState = .current ∧ m.keyID = keyID) →
      Noted field s (Function.update v (.keys id) (some (id, .keys ms))) ns s₂ →
      Logs lib em answers (f (.ok ())) s₂ Q) :
    Logs lib em answers (store (.rotateKeyMapping id keyID cooling now) >>= f) s₁ Q := by
  refine logs_store ?_
  refine hf _ _ ?_ (h.write (standing_insert_keys _) rfl)
  exact rotated_current _

lemma logs_deprecateAddress {f : Except Error Unit → Proc β} {w : UUID} {text : String} {state : AddressState}
    (h : Noted field s v ns s₁) (hrow : v (.address id) = some (w, .address id text state))
    (hf : Noted field s (Function.update v (.address id) (some (w, .address id text .deprecated))) ns
        (s₁.deprecateAddress id).2 → Logs lib em answers (f (.ok ())) (s₁.deprecateAddress id).2 Q) :
    Logs lib em answers (store (.deprecateAddress id) >>= f) s₁ Q := by
  rw [← h.standing] at hrow
  obtain ⟨a, ha, heq⟩ := Option.map_eq_some_iff.mp hrow
  cases heq
  have hstore : s₁.deprecateAddress a.id =
      (.ok (), { s₁ with addresses := s₁.addresses.insert a.id { a with state := .deprecated } }) := by
    unfold Store.deprecateAddress Store.updateAddress
    rw [ha]
  rw [hstore] at hf
  refine logs_store ?_
  change Logs lib em answers (f (s₁.deprecateAddress a.id).1) (s₁.deprecateAddress a.id).2 Q
  rw [hstore]
  exact hf (h.write (standing_insert_address _) rfl)

lemma logs_insertAddress {f : Except Error Unit → Proc β} {a : Address} {now : Int} (h : Noted field s v ns s₁)
    (hnow : a.createdAt = now) (hactive : a.state = .active) (hnone : NoActive v a.walletID)
    (herr : ∀ err, v (.address a.id) ≠ none → Logs lib em answers (f (.error err)) s₁ Q)
    (hf : ∀ s₂, v (.address a.id) = none →
      Noted field s (Function.update v (.address a.id)
        (some (a.walletID, .address a.id a.address .active))) ns s₂ →
      Logs lib em answers (f (.ok ())) s₂ Q) :
    Logs lib em answers (store (.insertAddress a now) >>= f) s₁ Q := by
  have hlookup : ∀ j, v (.address j) = (s₁.addresses.lookup j).map
      (fun a => (a.walletID, .address a.id a.address a.state)) := by
    intro j
    rw [← h.standing]
    rfl
  refine ends_call.mpr ?_
  rintro (err | _) s₂ hs
  · obtain ⟨rfl, hused | ⟨j, b, hb, hw, hstate⟩⟩ := insertAddress_error hs
    · refine herr err ?_
      obtain ⟨b, hb⟩ := Table.mem_iff.mp hused
      simp [hlookup, hb]
    · refine absurd ?_ (hnone j b.id b.address)
      simp [hlookup, hb, hw, hstate]
  · obtain ⟨hnew, -, rfl⟩ := insertAddress_ok hnow hs
    refine hf _ (by simp [hlookup, hnew]) ?_
    refine h.write ?_ rfl
    rw [← hactive]
    exact standing_insert_address a

end Rules

/-! ## The end of an operation -/

/-- The rows that were appended since `s` tell every standing that has changed. -/
def Audited (field : Bytes → String → Option AuditValue) (s s₁ : Store) : Prop := ∃ rows, Recorded field s s₁ rows

section Audited

lemma Noted.audited (h : Noted field s v ns s₁) (hcovers : Covers Tells (Proofs.standing s) v ns)
    (htracks : Journal.Tracks told Tracked (Proofs.standing s) v ns) (horder : InOrder v) :
    Audited field s s₁ := by
  obtain ⟨rfl, rows, hrows, rfl⟩ := h
  exact ⟨rows, hrows, hcovers, htracks, horder⟩

lemma Noted.unchanged (h : Noted field s (Proofs.standing s) [] s₁) (horder : InOrder (Proofs.standing s)) :
    Audited field s s₁ :=
  h.audited (.self _ _) (.self _) horder

lemma Noted.withdrawal {w : UUID} {state : WithdrawalState} {n : Note}
    (h : Noted field s (Function.update (Proofs.standing s) (.withdrawal id) (some (w, .withdrawal id state)))
      (ns ++ [n]) s₁)
    (horder : InOrder (Proofs.standing s)) (hn : told (.withdrawal id) n = some (w, .withdrawal id state))
    (hns : ∀ m ∈ ns ++ [n], m.field "id" = some (.text id.string) ∧ fundingEvents.lookup m.eventType = none) :
    Audited field s s₁ := by
  refine h.audited (.update (List.mem_append_right _ List.mem_cons_self) hn) (.update hn ?_)
    (horder.other (by simp) (by simp))
  intro m hm x hx _
  exact told_withdrawal_other (hns m hm).1 (hns m hm).2 hx

lemma Noted.funding {w : UUID} {state : FundingState} {n : Note}
    (h : Noted field s (Function.update (Proofs.standing s) (.funding id) (some (w, .funding id state)))
      (ns ++ [n]) s₁)
    (horder : InOrder (Proofs.standing s)) (hn : told (.funding id) n = some (w, .funding id state))
    (hns : ∀ m ∈ ns ++ [n], m.field "id" = some (.text id.string) ∧ withdrawalEvents.lookup m.eventType = none) :
    Audited field s s₁ := by
  refine h.audited (.update (List.mem_append_right _ List.mem_cons_self) hn) (.update hn ?_)
    (horder.other (by simp) (by simp))
  intro m hm x hx _
  exact told_funding_other (hns m hm).1 (hns m hm).2 hx

lemma Noted.untracked (h : Noted field s v ns s₁) (hcovers : Covers Tells (Proofs.standing s) v ns)
    (hsame : ∀ x, Tracked x → v x = Proofs.standing s x)
    (htypes : ∀ n ∈ ns, withdrawalEvents.lookup n.eventType = none ∧ fundingEvents.lookup n.eventType = none)
    (horder : InOrder v) : Audited field s s₁ :=
  h.audited hcovers (.untold hsame (fun n hn _ _ => told_unnamed (htypes n hn).1 (htypes n hn).2)) horder

end Audited

end Calls

end WalletManager.Proofs
