import WalletManager.Proofs.Custody
import WalletManager.Proofs.KeyVectors
import WalletManager.Proofs.RotationProtocol

/-!
# Rotation, one operation at a time

The index of a new address is one above all those of its chain, and the memory store accepts it
only where its wallet has no active address. Both facts together order the rows of a wallet.
-/

namespace WalletManager.Proofs

open Interaction

section Invariant

variable {s s' : Store} {a : Address} {w : Wallet}

structure SameWallets (s s' : Store) : Prop where
  kept : ∀ id w, s.wallets.lookup id = some w → ∃ w', s'.wallets.lookup id = some w' ∧ w'.chain = w.chain
  only : ∀ id w', s'.wallets.lookup id = some w' →
    ∃ w, s.wallets.lookup id = some w ∧ w'.id = w.id ∧ w'.chain = w.chain

lemma SameWallets.of_wallets (h : s'.wallets = s.wallets) : SameWallets s s' :=
  ⟨fun _ w hw => ⟨w, h ▸ hw, rfl⟩, fun _ w hw => ⟨w, h ▸ hw, rfl, rfl⟩⟩

lemma SameWallets.setState {id : UUID} (hw : s.wallets.lookup id = some w) (state : WalletState) :
    SameWallets s { s with wallets := s.wallets.insert id { w with state := state } } := by
  constructor
  · intro j v hv
    dsimp only
    rw [lookup_insert_eq]
    split
    · rename_i hj
      rw [hj, hw] at hv
      cases hv
      exact ⟨_, rfl, rfl⟩
    · exact ⟨v, hv, rfl⟩
  · intro j v hv
    dsimp only at hv
    rw [lookup_insert_eq] at hv
    split at hv
    · rename_i hj
      cases hv
      exact ⟨w, hj ▸ hw, rfl, rfl⟩
    · exact ⟨v, hv, rfl, rfl⟩

/-- The rows belong to wallets of EVM chains and of Bitcoin, and an active row is the one with the
largest index of its wallet. -/
structure AddressInv (s : Store) : Prop where
  wallets : ∀ id w, s.wallets.lookup id = some w → w.id = id ∧ Indexed w.chain
  keyed : ∀ id a, s.addresses.lookup id = some a → a.id = id
  owner : ∀ id a, s.addresses.lookup id = some a →
    ∃ w, s.wallets.lookup a.walletID = some w ∧ a.chain = w.chain ∧ a.change = 0
  latest : ∀ i j a b, s.addresses.lookup i = some a → s.addresses.lookup j = some b →
    b.walletID = a.walletID → a.state = .active → j = i ∨ b.state = .deprecated ∧ b.index < a.index

lemma AddressInv.rewrites (h : AddressInv s) (hrows : Rewrites s s') (hwallets : SameWallets s s') :
    AddressInv s' := by
  refine ⟨?_, hrows.keyed h.keyed, ?_, ?_⟩
  · intro id w' hw'
    obtain ⟨w, hw, hid, hchain⟩ := hwallets.only id w' hw'
    rw [hid, hchain]
    exact h.wallets id w hw
  · intro id b hb
    obtain ⟨a, ha, hab⟩ := hrows.only id b hb
    obtain ⟨w, hw, hchain, hchange⟩ := h.owner id a ha
    obtain ⟨w', hw', hsame⟩ := hwallets.kept _ w hw
    refine ⟨w', hab.walletID ▸ hw', ?_, hab.change.trans hchange⟩
    rw [hab.chain, hchain, hsame]
  · intro i j a' b' ha' hb' hsame hactive
    obtain ⟨a, ha, haa⟩ := hrows.only i a' ha'
    obtain ⟨b, hb, hbb⟩ := hrows.only j b' hb'
    rw [haa.walletID, hbb.walletID] at hsame
    rcases h.latest i j a b ha hb hsame (haa.active hactive) with hij | ⟨hdep, hlt⟩
    · exact .inl hij
    · rw [hbb.index, haa.index]
      exact .inr ⟨hbb.deprecated hdep, hlt⟩

/-- A row that may be inserted: it belongs to a wallet without an active row, and its index is the
next one of the chain. -/
structure Admissible (s : Store) (a : Address) : Prop where
  new : s.addresses.lookup a.id = none
  owner : ∃ w, s.wallets.lookup a.walletID = some w ∧ a.chain = w.chain ∧ a.change = 0
  index : a.index = s.nextAddressIndex a.chain.string 0
  alone : ∀ id b, s.addresses.lookup id = some b → b.walletID = a.walletID → b.state ≠ .active

lemma AddressInv.index_lt (h : AddressInv s) (ha : Admissible s a) {id : UUID} {b : Address}
    (hb : s.addresses.lookup id = some b) (hchain : b.chain = a.chain) : b.index < a.index := by
  obtain ⟨w, -, -, hchange⟩ := h.owner id b hb
  rw [ha.index]
  exact lt_nextAddressIndex hb ⟨by rw [hchain], hchange⟩

lemma AddressInv.insert (h : AddressInv s) (ha : Admissible s a) : AddressInv (inserted s a) := by
  refine ⟨h.wallets, keyed_inserted h.keyed a, ?_, ?_⟩
  · intro id b hb
    rcases inserted_row hb with ⟨rfl, rfl⟩ | hb
    · exact ha.owner
    · exact h.owner id b hb
  · intro i j b c hb hc hsame hactive
    rcases inserted_row hb with ⟨rfl, rfl⟩ | hb₀
    · rcases inserted_row hc with ⟨rfl, rfl⟩ | hc
      · exact .inl rfl
      · -- the rows of the wallet share its chain
        obtain ⟨w, hw, hchain, -⟩ := ha.owner
        obtain ⟨v, hv, hchain', -⟩ := h.owner j c hc
        rw [hsame, hw] at hv
        cases hv
        have hdep : c.state = .deprecated := by
          cases hstate : c.state with
          | active => exact absurd hstate (ha.alone j c hc hsame)
          | deprecated => rfl
        exact .inr ⟨hdep, h.index_lt ha hc (hchain'.trans hchain.symm)⟩
    · rcases inserted_row hc with ⟨rfl, rfl⟩ | hc
      · exact absurd hactive (ha.alone i b hb₀ hsame.symm)
      · exact h.latest i j b c hb₀ hc hsame hactive

end Invariant

section Creation

variable {s s' : Store} {a : Address} {created : List Address}

def createdOf : Event Call Answer → Option Address
  | ⟨.store (.insertAddress a _), .ok _⟩ => some a
  | _ => none

/-- The rows created so far, in the order of their creation: they make up the table, and the
indices of a chain increase. -/
structure Created (created : List Address) (s : Store) : Prop where
  kept : ∀ a ∈ created, ∃ b, s.addresses.lookup a.id = some b ∧ Outlives a b
  all : ∀ id b, s.addresses.lookup id = some b → ∃ a ∈ created, a.id = id ∧ Outlives a b
  increasing : created.Pairwise (fun a b => a.chain = b.chain → a.index < b.index)

lemma Created.rewrites (h : Created created s) (hrows : Rewrites s s') : Created created s' := by
  refine ⟨?_, ?_, h.increasing⟩
  · intro a ha
    obtain ⟨b, hb, hab⟩ := h.kept a ha
    obtain ⟨c, hc, hbc⟩ := hrows.retains a.id b hb
    exact ⟨c, hc, hab.trans hbc⟩
  · intro id c hc
    obtain ⟨b, hb, hbc⟩ := hrows.only id c hc
    obtain ⟨a, ha, hid, hab⟩ := h.all id b hb
    exact ⟨a, ha, hid, hab.trans hbc⟩

lemma Created.insert (h : Created created s) (hinv : AddressInv s) (ha : Admissible s a) :
    Created (created ++ [a]) (inserted s a) := by
  refine ⟨?_, ?_, ?_⟩
  · intro b hb
    rw [inserted_lookup]
    rcases List.mem_append.mp hb with hb | hb
    · obtain ⟨c, hc, hbc⟩ := h.kept b hb
      refine ⟨c, ?_, hbc⟩
      rw [if_neg, hc]
      intro hid
      rw [hid, ha.new] at hc
      cases hc
    · rw [List.mem_singleton.mp hb, if_pos rfl]
      exact ⟨a, rfl, .refl a⟩
  · intro id b hb
    rcases inserted_row hb with ⟨rfl, rfl⟩ | hb
    · exact ⟨b, List.mem_append_right _ (List.mem_singleton_self b), rfl, .refl b⟩
    · obtain ⟨c, hc, hid, hcb⟩ := h.all id b hb
      exact ⟨c, List.mem_append_left _ hc, hid, hcb⟩
  · refine List.pairwise_append.mpr ⟨h.increasing, List.pairwise_singleton _ _, ?_⟩
    intro b hb c hc hchain
    rw [List.mem_singleton.mp hc] at hchain ⊢
    obtain ⟨d, hd, hbd⟩ := h.kept b hb
    rw [← hbd.index]
    exact hinv.index_lt ha hd (hbd.chain.trans hchain)

end Creation

section Derivation

variable {lib : Lib} {p : RotationPolicy} {q : Request} {s s' : Store} {created : List Address}
  {g g' : Phase} {tr : Trace} {c : Call} {r : Answer c}

def Knows (q : Request) (s : Store) : Phase → Prop
  | .loaded w | .vacant w _ | .stuck w _ => s.wallets.lookup q.walletID = some w
  | .seen w active _ | .denied w active _ | .locked w active _ =>
    s.wallets.lookup q.walletID = some w ∧ (s.getActiveAddress q.walletID).toOption = active
  | .kept w a _ =>
    s.wallets.lookup q.walletID = some w ∧ (s.getActiveAddress q.walletID).toOption = some a
  | .indexed w n _ | .missed w n _ | .derived w n _ _ =>
    s.wallets.lookup q.walletID = some w ∧ n = s.nextAddressIndex w.chain.string 0
  | .placed _ a _ | .returned a =>
    s.addresses.lookup a.id = some a ∧ a.walletID = q.walletID ∧ a.state = .active
  | .started | .failed => True
  | .counted _ _ _ | .listed _ _ _ _ | .foreign => False

structure Sofar (s₀ : Store) (created : List Address) (q : Request) (g : Phase) (tr : Trace) (s : Store) :
    Prop where
  inv : AddressInv s
  created : Created (created ++ tr.filterMap createdOf) s
  retains : Retains s₀ s
  knows : Knows q s g

lemma Sofar.idle {s₀ : Store} (h : Sofar s₀ created q g tr s) (hnone : createdOf ⟨c, r⟩ = none)
    (hknows : Knows q s g') : Sofar s₀ created q g' (tr ++ [⟨c, r⟩]) s := by
  refine ⟨h.inv, ?_, h.retains, hknows⟩
  rw [List.filterMap_append, List.filterMap_cons_none hnone, List.filterMap_nil, List.append_nil]
  exact h.created

lemma toOption_eq_some {α ε : Type} {r : Except ε α} {a : α} (h : r.toOption = some a) : r = .ok a := by
  cases r with
  | error _ => cases h
  | ok b => exact congrArg Except.ok (Option.some.inj h)

lemma AddressInv.counted (h : AddressInv s) {w : Wallet} (hw : s.wallets.lookup q.walletID = some w)
    {n : Int} (hn : n = s.nextAddressIndex w.chain.string 0) (token : String) :
    Knows q s (countedAt w n token) := by
  rw [countedAt, if_neg (h.wallets _ w hw).2.ne_solana]
  exact ⟨hw, hn⟩

lemma Sofar.place {s₀ : Store} {w : Wallet} {n : Int} {addr token : String}
    (h : Sofar s₀ created q (.derived w n addr token) tr s)
    (hs : memStep lib s (.store (.insertAddress (rowAt w q.fresh n addr) q.fresh.now)) (.ok ()) s') :
    Sofar s₀ created q (.placed w (rowAt w q.fresh n addr) token)
      (tr ++ [⟨.store (.insertAddress (rowAt w q.fresh n addr) q.fresh.now), .ok ()⟩]) s' := by
  obtain ⟨hnew, halone, rfl⟩ := insertAddress_ok rfl hs
  obtain ⟨hw, hn⟩ := h.knows
  obtain ⟨hid, hchain⟩ := h.inv.wallets _ w hw
  have hw' : s.wallets.lookup w.id = some w := by rw [hid, hw]
  have hadm : Admissible s (rowAt w q.fresh n addr) :=
    ⟨hnew, ⟨w, hw', rfl, rowAt_change w _ n addr⟩, (rowAt_index hchain _ n addr).trans hn, halone rfl⟩
  refine ⟨h.inv.insert hadm, ?_, h.retains.trans (retains_inserted hnew), ?_⟩
  · rw [List.filterMap_append, ← List.append_assoc]
    exact h.created.insert h.inv hadm
  · refine ⟨?_, hid, rfl⟩
    exact (inserted_lookup s _ _).trans (if_pos rfl)

lemma Sofar.retire {s₀ : Store} {w : Wallet} {a : Address} {token : String}
    (h : Sofar s₀ created q (.locked w (some a) token) tr s)
    (hs : memStep lib s (.store (.deprecateAddress a.id)) (.ok ()) s') :
    Sofar s₀ created q (.vacant w token) (tr ++ [⟨.store (.deprecateAddress a.id), .ok ()⟩]) s' := by
  obtain rfl : s' = (s.deprecateAddress a.id).2 := congrArg Prod.snd hs
  have hrows := deprecateAddress_rewrites s a.id
  have hwallets : (s.deprecateAddress a.id).2.wallets = s.wallets := updateAddress_wallets a.id
  refine ⟨h.inv.rewrites hrows (.of_wallets hwallets), ?_, h.retains.trans hrows.retains, ?_⟩
  · rw [List.filterMap_append]
    exact (List.append_nil (tr.filterMap createdOf)).symm ▸ h.created.rewrites hrows
  · rw [Knows, hwallets]
    exact h.knows.1

theorem Sofar.step {s₀ : Store} (h : Sofar s₀ created q g tr s) (hm : Moves p q g c r g')
    (hs : memStep lib s c r s') : Sofar s₀ created q g' (tr ++ [⟨c, r⟩]) s' := by
  have hread : ∀ {r' : Except Error Address}, (r', s') = (s.getActiveAddress q.walletID, s) →
      s' = s ∧ s.getActiveAddress q.walletID = r' := fun heq =>
    ⟨congrArg Prod.snd heq, (congrArg Prod.fst heq).symm⟩
  cases hm with
  | load hw =>
    obtain ⟨hr, rfl⟩ := Prod.mk.inj hs
    exact h.idle rfl (getWallet_ok hr.symm)
  | leave hw =>
    obtain ⟨hr, rfl⟩ := Prod.mk.inj hs
    exact absurd (.inl (h.inv.wallets _ _ (getWallet_ok hr.symm)).2) hw
  | unknown =>
    obtain ⟨-, rfl⟩ := Prod.mk.inj hs
    exact h.idle rfl trivial
  | wander => exact h.knows.elim
  | look =>
    obtain ⟨rfl, hr⟩ := hread hs
    exact h.idle rfl ⟨h.knows, congrArg Except.toOption hr⟩
  | grant | deny =>
    obtain rfl : s' = s := hs
    exact h.idle rfl h.knows
  | unlockable =>
    obtain rfl : s' = s := hs
    exact h.idle rfl trivial
  | @lookAgain w =>
    have hid : w.id = q.walletID := (h.inv.wallets _ w h.knows.1).1
    obtain ⟨rfl, hr⟩ := hread (hid ▸ hs)
    exact h.idle rfl ⟨h.knows.1, congrArg Except.toOption hr⟩
  | @keep w =>
    have hid : w.id = q.walletID := (h.inv.wallets _ w h.knows.1).1
    obtain ⟨rfl, hr⟩ := hread (hid ▸ hs)
    exact h.idle rfl ⟨h.knows.1, congrArg Except.toOption hr⟩
  | find =>
    obtain ⟨-, rfl⟩ := Prod.mk.inj hs
    exact h.idle rfl h.knows.1
  | retire => exact h.retire hs
  | cling =>
    obtain ⟨rfl, -⟩ := updateAddress_error hs
    exact h.idle rfl h.knows.1
  | assume =>
    obtain ⟨hr, rfl⟩ := Prod.mk.inj hs
    exact h.idle rfl (h.inv.counted h.knows.1 (Except.ok.inj hr) _)
  | count =>
    obtain ⟨hr, rfl⟩ := Prod.mk.inj hs
    exact h.idle rfl (h.inv.counted h.knows (Except.ok.inj hr) _)
  | listNone | listSome | clear | clash => exact h.knows.elim
  | hit | miss | fill =>
    obtain rfl : s' = s := hs
    exact h.idle rfl h.knows
  | abandon | giveUp =>
    obtain rfl : s' = s := hs
    exact h.idle rfl trivial
  | place => exact h.place hs
  | collide =>
    obtain ⟨rfl, -⟩ := insertAddress_error hs
    exact h.idle rfl h.knows.1
  | announce | finish =>
    obtain rfl : s' = s := hs
    exact h.idle rfl h.knows
  | settle =>
    obtain rfl : s' = s := hs
    exact h.idle rfl (getActiveAddress_row h.inv.keyed (toOption_eq_some h.knows.2))

lemma AddressInv.returned (hinv : AddressInv s) (hknows : Knows q s g) {a : Address}
    (hret : Returned p q g (.ok a)) :
    s.addresses.lookup a.id = some a ∧ a.walletID = q.walletID ∧ a.state = .active := by
  cases g with
  | seen w active denials =>
    cases active with
    | none => cases hret.1
    | some b =>
      cases hret.1
      exact getActiveAddress_row hinv.keyed (toOption_eq_some hknows.2)
  | returned b =>
    cases hret
    exact hknows
  | loaded w => cases hret.2
  | denied w active denials => cases hret.1
  | failed =>
    obtain ⟨err, herr⟩ := hret
    cases herr
  | foreign => exact hknows.elim
  | _ => exact hret.elim

theorem derive_alone (hinv : AddressInv s) (hcreated : Created created s) {res : Except Error Address}
    (he : Exec (memStep lib) (q.proc p) s tr res s') :
    AddressInv s' ∧ Created (created ++ tr.filterMap createdOf) s' ∧ Retains s s' ∧
      ∀ a, res = .ok a → s'.addresses.lookup a.id = some a ∧ a.walletID = q.walletID ∧ a.state = .active := by
  have h₀ : Sofar s created q .started [] s :=
    ⟨hinv, (List.append_nil created).symm ▸ hcreated, .refl s, trivial⟩
  obtain ⟨g, hg, hret⟩ := (request_follows lib p q).exec (J := Sofar s created q)
    (fun _ _ _ _ => memStep_possible) (fun _ _ _ _ _ _ _ h hm hs => h.step hm hs) h₀ he
  refine ⟨hg.inv, hg.created, hg.retains, ?_⟩
  intro a ha
  exact hg.inv.returned hg.knows (ha ▸ hret)

end Derivation

section Runs

variable {lib : Lib} {svc : Addressing} {s₀ s s' : Store}
  {log : List (Entry AddressOp Call Answer (Except Error (Option Address)))}

abbrev AddressEntry := Entry AddressOp Call Answer (Except Error (Option Address))

abbrev AddressRuns (svc : Addressing) (lib : Lib) (s₀ : Store) (log : List AddressEntry) (s : Store) : Prop :=
  Runs (AddressOp.proc svc) (memStep lib) (fun _ _ => True) s₀ log s

def createdRows (log : List AddressEntry) : List Address :=
  (log.flatMap Entry.trace).filterMap createdOf

lemma createdRows_concat (log : List AddressEntry) (e : AddressEntry) :
    createdRows (log ++ [e]) = createdRows log ++ e.trace.filterMap createdOf := by
  simp [createdRows]

lemma exec_mapped {α β : Type} {p : Proc (Except Error α)} {f : α → β} {tr : Trace} {r : Except Error β}
    (he : Exec (memStep lib) (do return (← p).map f) s tr r s') :
    ∃ res, Exec (memStep lib) p s tr res s' ∧ r = res.map f := by
  obtain ⟨res, s₁, tr₁, tr₂, hp, ⟨rfl, rfl, rfl⟩, rfl⟩ := exec_bind.mp he
  rw [List.append_nil]
  exact ⟨res, hp, rfl⟩

lemma setState_created {wallets : WalletService} {id : UUID} {state : String} {tr : Trace}
    {res : Except Error Unit} (he : Exec (memStep lib) (wallets.setState id state) s tr res s') :
    tr.filterMap createdOf = [] := by
  rw [List.filterMap_eq_nil_iff]
  intro e hmem
  obtain ⟨c, r⟩ := e
  rcases he.allCalls (setState_calls wallets id state) _ hmem with rfl | ⟨next, rfl⟩ | ⟨e, rfl⟩ <;> rfl

theorem AddressInv.step {created : List Address} (hinv : AddressInv s) (hcreated : Created created s)
    {op : AddressOp} {tr : Trace} {r : Except Error (Option Address)}
    (he : Exec (memStep lib) (op.proc svc) s tr r s') :
    AddressInv s' ∧ Created (created ++ tr.filterMap createdOf) s' ∧ Retains s s' := by
  cases op with
  | derive walletID force fresh =>
    obtain ⟨res, hres, -⟩ := exec_mapped he
    have hproc : Exec (memStep lib) ((⟨walletID, force, fresh⟩ : Request).proc svc.rotation) s tr res s' := hres
    obtain ⟨hinv', hcreated', hretains, -⟩ := derive_alone hinv hcreated hproc
    exact ⟨hinv', hcreated', hretains⟩
  | receive id =>
    obtain ⟨res, ⟨r', s₁, tr₁, hs, ⟨rfl, -, rfl⟩, rfl⟩, -⟩ := exec_mapped he
    obtain rfl : s' = (s.incrementReceiveCount id).2 := congrArg Prod.snd hs
    have hrows := incrementReceiveCount_rewrites s id
    refine ⟨hinv.rewrites hrows (.of_wallets (updateAddress_wallets id)), ?_, hrows.retains⟩
    exact (List.append_nil created).symm ▸ hcreated.rewrites hrows
  | setState walletID state =>
    obtain ⟨res, hres, -⟩ := exec_mapped he
    rw [setState_created hres, List.append_nil]
    rcases setState_saga svc.wallets walletID state tr res s' hres with rfl | ⟨next, w, -, hw, -, rfl⟩
    · exact ⟨hinv, hcreated, .refl s'⟩
    · have hrows : Rewrites s { s with wallets := s.wallets.insert walletID { w with state := next } } :=
        .of_addresses rfl
      exact ⟨hinv.rewrites hrows (.setState hw next), hcreated.rewrites hrows, hrows.retains⟩

theorem addressInv_runs (hinv : AddressInv s₀) (hcreated : Created [] s₀) (h : AddressRuns svc lib s₀ log s) :
    AddressInv s ∧ Created (createdRows log) s := by
  refine Runs.invariant (I := fun log s => AddressInv s ∧ Created (createdRows log) s) ⟨hinv, hcreated⟩ ?_ h
  intro log s op tr r s' hi _ he
  obtain ⟨hinv', hcreated', -⟩ := hi.1.step hi.2 he
  rw [createdRows_concat]
  exact ⟨hinv', hcreated'⟩

theorem retains_runs (hinv : AddressInv s₀) {created : List Address} (hcreated : Created created s₀)
    (h : AddressRuns svc lib s₀ log s) : Retains s₀ s := by
  refine (Runs.invariant (I := fun log s => (AddressInv s ∧ ∃ created, Created created s) ∧ Retains s₀ s)
    ⟨⟨hinv, created, hcreated⟩, .refl s₀⟩ ?_ h).2
  rintro log s op tr r s' ⟨⟨hinv, created, hcreated⟩, hretains⟩ _ he
  obtain ⟨hinv', hcreated', hstep⟩ := hinv.step hcreated he
  exact ⟨⟨hinv', _, hcreated'⟩, hretains.trans hstep⟩

/-- In every run of derivations, receive counts and state changes, other parties failing at any
time: a wallet has at most one active address, a deprecated one stays so, the rows are created
with increasing indices on each chain, and a derivation that succeeds returns its wallet's active
row, which has the wallet's largest index. The cache may answer anything, so a derivation can fail
at one time and succeed at another. -/
theorem addresses_rotate_in_order
    (hwallets : ∀ id w, s₀.wallets.lookup id = some w → w.id = id ∧ Indexed w.chain)
    (h₀ : s₀.addresses = ∅) (h : AddressRuns svc lib s₀ log s) :
    (∀ i j a b, s.addresses.lookup i = some a → s.addresses.lookup j = some b →
      a.walletID = b.walletID → a.state = .active → b.state = .active → i = j) ∧
    (∀ log' s', AddressRuns svc lib s log' s' → ∀ id a, s.addresses.lookup id = some a →
      a.state = .deprecated → ∃ b, s'.addresses.lookup id = some b ∧ b.state = .deprecated) ∧
    (createdRows log).Pairwise (fun a b => a.chain = b.chain → a.index < b.index) ∧
    (∀ id b, s.addresses.lookup id = some b →
      ∃ a ∈ createdRows log, a.id = id ∧ b.chain = a.chain ∧ b.index = a.index) ∧
    ∀ walletID force fresh tr a s',
      Exec (memStep lib) (AddressOp.proc svc (.derive walletID force fresh)) s tr (.ok (some a)) s' →
      s'.addresses.lookup a.id = some a ∧ a.walletID = walletID ∧ a.state = .active ∧
        ∀ id b, s'.addresses.lookup id = some b → b.walletID = walletID → id = a.id ∨ b.index < a.index := by
  have hempty : ∀ (id : UUID) (a : Address), s₀.addresses.lookup id ≠ some a := by
    intro id a ha
    rw [h₀] at ha
    cases ha
  have hinv₀ : AddressInv s₀ :=
    ⟨hwallets, fun id a ha => absurd ha (hempty id a), fun id a ha => absurd ha (hempty id a),
      fun i j a b ha => absurd ha (hempty i a)⟩
  have hcreated₀ : Created [] s₀ :=
    ⟨nofun, fun id a ha => absurd ha (hempty id a), List.Pairwise.nil⟩
  obtain ⟨hinv, hcreated⟩ := addressInv_runs hinv₀ hcreated₀ h
  refine ⟨?_, ?_, hcreated.increasing, ?_, ?_⟩
  · intro i j a b ha hb hsame hactive hactive'
    rcases hinv.latest i j a b ha hb hsame.symm hactive with hij | ⟨hdep, -⟩
    · exact hij.symm
    · rw [hdep] at hactive'
      cases hactive'
  · intro log' s' h' id a ha hdep
    obtain ⟨b, hb, hab⟩ := retains_runs hinv hcreated h' id a ha
    exact ⟨b, hb, hab.deprecated hdep⟩
  · intro id b hb
    obtain ⟨a, ha, hid, hab⟩ := hcreated.all id b hb
    exact ⟨a, ha, hid, hab.chain, hab.index⟩
  · intro walletID force fresh tr a s' he
    obtain ⟨res, hres, hr⟩ := exec_mapped he
    have hproc : Exec (memStep lib) ((⟨walletID, force, fresh⟩ : Request).proc svc.rotation) s tr res s' := hres
    obtain ⟨hinv', -, -, hreturned⟩ := derive_alone hinv hcreated hproc
    obtain rfl : res = .ok a := by
      cases res with
      | error err => cases hr
      | ok b => exact congrArg Except.ok (Option.some.inj (Except.ok.inj hr)).symm
    obtain ⟨hrow, hw, hactive⟩ := hreturned a rfl
    refine ⟨hrow, hw, hactive, ?_⟩
    intro id b hb hbw
    rcases hinv'.latest _ _ a b hrow hb (hbw.trans hw.symm) hactive with hid | ⟨-, hlt⟩
    · exact .inl hid
    · exact .inr hlt

def referencePolicy : RotationPolicy where
  derivers := referenceRegistry
  config := ⟨12, 6, 7⟩

def referenceAddressing : Addressing := ⟨{ lib := referenceLib }, referencePolicy⟩

def addressRun (s₀ : Store) (ops : List AddressOp) : List AddressEntry × Store :=
  runAll (AddressOp.proc referenceAddressing) (answering agree) s₀ ops

lemma addressRun_runs (s₀ : Store) (ops : List AddressOp) :
    AddressRuns referenceAddressing referenceLib s₀ (addressRun s₀ ops).1 (addressRun s₀ ops).2 :=
  runs_runAll (answering_memStep agree) ops (by simp)

def renewedRun := addressRun (Store.initial [evmWallet, btcWallet] [])
  [.derive evmWallet.id false ⟨UUID.ofByte 20, 0, 100⟩, .derive btcWallet.id true ⟨UUID.ofByte 21, 0, 200⟩,
    .receive (UUID.ofByte 20), .setState btcWallet.id "PAUSED",
    .derive evmWallet.id true ⟨UUID.ofByte 22, 0, 300⟩]

theorem addresses_rotate_in_order_renewed :
    AddressRuns referenceAddressing referenceLib (Store.initial [evmWallet, btcWallet] [])
        renewedRun.1 renewedRun.2 ∧
      (createdRows renewedRun.1).map (fun a => (a.walletID, a.chain, a.index)) =
        [(evmWallet.id, .ethereum, 0), (btcWallet.id, .bitcoin, 0), (evmWallet.id, .ethereum, 1)] ∧
      (createdRows renewedRun.1).Pairwise (fun a b => a.chain = b.chain → a.index < b.index) := by
  refine ⟨addressRun_runs _ _, by decide +kernel, ?_⟩
  refine (addresses_rotate_in_order ?_ rfl (addressRun_runs _ _)).2.2.1
  intro id w hw
  obtain ⟨hmem, hid⟩ := initial_wallets hw
  refine ⟨hid, ?_⟩
  rcases List.mem_cons.mp hmem with rfl | hmem
  · exact .inl rfl
  · rw [List.mem_singleton.mp hmem]
    exact .inr rfl

end Runs

end WalletManager.Proofs
