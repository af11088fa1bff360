import WalletManager.Proofs.KeyResolution

/-!
# The two records of a wallet's key

The key of a wallet is on the wallet itself, where only its creation writes it, and in the key
mappings, which creation does not touch.
-/

namespace WalletManager.Proofs

open Interaction Rotation

def results (log : ProvisionLog) : List (ProvisionOp × Except Error Unit) :=
  log.map (fun e => (e.op, e.result))

def KeepsCreated (log : ProvisionLog) (s : Store) : Prop :=
  ∀ id fresh req, (.createWallet id fresh req, .ok ()) ∈ results log →
    ∃ w, s.wallets.lookup id = some w ∧ w.keyID = req.boundKeyID fresh

section Steps

variable {svc : Provisioning} {log : ProvisionLog} {s s' : Store} {op : ProvisionOp} {tr : Trace}
  {a : Except Error Unit}

lemma ProvisionStep.wallet (h : ProvisionStep svc s op a s') {id : UUID} {w : Wallet}
    (hw : s.wallets.lookup id = some w) : s'.wallets.lookup id = some w := by
  cases h with
  | @created id' fresh req w' hnone hkey =>
    dsimp only
    rw [lookup_insert_eq, if_neg, hw]
    rintro rfl
    rw [hnone] at hw
    cases hw
  | _ => exact hw

lemma ProvisionStep.created_wallet {id fresh : UUID} {req : CreateWalletRequest}
    (h : ProvisionStep svc s (.createWallet id fresh req) (.ok ()) s') :
    ∃ w, s'.wallets.lookup id = some w ∧ w.keyID = req.boundKeyID fresh := by
  cases h with
  | created hnone hkey => exact ⟨_, AList.lookup_insert _, hkey⟩

lemma KeepsCreated.step (hi : KeepsCreated log s) (h : ProvisionStep svc s op a s') :
    KeepsCreated (log ++ [⟨op, tr, a⟩]) s' := by
  intro id fresh req hmem
  rw [results, List.map_append, ← results] at hmem
  rcases List.mem_append.mp hmem with hmem | hmem
  · obtain ⟨w, hw, hkey⟩ := hi id fresh req hmem
    exact ⟨w, h.wallet hw, hkey⟩
  · cases List.mem_singleton.mp hmem
    exact h.created_wallet

lemma keepsCreated_of_runs
    (h : Runs (ProvisionOp.proc svc) (memStep svc.wallets.lib) (fun _ _ => True) {} log s) :
    KeepsCreated log s := by
  refine Runs.invariant (I := KeepsCreated) ?_ ?_ h
  · intro id fresh req hmem
    cases hmem
  · intro log s op tr a s' hi _ he
    exact hi.step (provision_step he)

lemma get_yields (lib : Lib) {id : UUID} {w : Wallet} (hw : s.wallets.lookup id = some w) :
    Yields (memStep lib) (WalletService.get id) s (.ok w) := by
  have hget : (s.handle lib (.getWallet id)).1 = .ok w := by
    change s.getWallet id = _
    rw [Store.getWallet, hw]
  refine yields_read (f := .ret) rfl ?_
  rw [hget]
  exact yields_ret _

end Steps

/-- A created wallet has a current mapping for the key that `Get` reports exactly if the wallet
was bound or rotated, and the last time to the key of its creation. -/
theorem wallet_key_agrees_iff {svc : Provisioning} {log : ProvisionLog} {s : Store}
    (h : Runs (ProvisionOp.proc svc) (memStep svc.wallets.lib) (fun _ _ => True) {} log s)
    {id fresh : UUID} {req : CreateWalletRequest}
    (hcreate : (.createWallet id fresh req, .ok ()) ∈ results log) :
    (∃ w m, Yields (memStep svc.wallets.lib) (WalletService.get id) s (.ok w) ∧
      m ∈ s.mappings id ∧ m.rotationState = .current ∧ w.keyID = m.keyID) ↔
      latest (keyHistory svc id log) = some (req.boundKeyID fresh) := by
  have hmirror := mirrors_of_runs h id
  obtain ⟨w, hw, hkey⟩ := keepsCreated_of_runs h id fresh req hcreate
  have hget := get_yields svc.wallets.lib hw
  constructor
  · rintro ⟨w', m, hget', hm, hcurrent, hagree⟩
    cases Except.ok.inj (hget.unique hget')
    rw [(hmirror.current_iff hm).mp hcurrent, ← hagree, hkey]
  · intro hlatest
    obtain ⟨m, hm, hmkey, hcurrent⟩ := hmirror.of_latest hlatest
    exact ⟨w, m, hget, hm, hcurrent, hkey.trans hmkey.symm⟩

def walletRequest : CreateWalletRequest := ⟨.ethereum, "HOT", "treasury", "a"⟩

def boundRun : ProvisionLog × Store :=
  provisionRun [.createWallet evmWallet.id (UUID.ofByte 9) walletRequest, .bind evmWallet.id "a" 1]

lemma boundRun_runs : Runs (ProvisionOp.proc referenceProvisioning)
    (memStep referenceProvisioning.wallets.lib) (fun _ _ => True) {} boundRun.1 boundRun.2 :=
  provisionRun_runs _

theorem wallet_key_agrees_iff_bound :
    latest (keyHistory referenceProvisioning evmWallet.id boundRun.1) = some "a" ∧
      ∃ w m, Yields (memStep referenceLib) (WalletService.get evmWallet.id) boundRun.2 (.ok w) ∧
        m ∈ boundRun.2.mappings evmWallet.id ∧ m.rotationState = .current ∧ w.keyID = m.keyID := by
  have hcreate : (.createWallet evmWallet.id (UUID.ofByte 9) walletRequest, .ok ()) ∈
      results boundRun.1 := by decide +kernel
  have hlatest : latest (keyHistory referenceProvisioning evmWallet.id boundRun.1) = some "a" := by
    decide +kernel
  exact ⟨hlatest, (wallet_key_agrees_iff boundRun_runs hcreate).mpr hlatest⟩

def unboundRun : ProvisionLog × Store :=
  provisionRun [.createWallet evmWallet.id (UUID.ofByte 9) walletRequest]

def outdatedRun : ProvisionLog × Store :=
  provisionRun [.createWallet evmWallet.id (UUID.ofByte 9) walletRequest, .bind evmWallet.id "a" 1,
    .rotate evmWallet.id "b" 2]

theorem wallet_key_disagrees :
    (Runs (ProvisionOp.proc referenceProvisioning) (memStep referenceLib) (fun _ _ => True) {}
        unboundRun.1 unboundRun.2 ∧
      (.createWallet evmWallet.id (UUID.ofByte 9) walletRequest, .ok ()) ∈ results unboundRun.1 ∧
      unboundRun.2.mappings evmWallet.id = []) ∧
    (Runs (ProvisionOp.proc referenceProvisioning) (memStep referenceLib) (fun _ _ => True) {}
        outdatedRun.1 outdatedRun.2 ∧
      (.createWallet evmWallet.id (UUID.ofByte 9) walletRequest, .ok ()) ∈ results outdatedRun.1 ∧
      (outdatedRun.2.wallets.lookup evmWallet.id).map Wallet.keyID = some "a" ∧
      outdatedRun.2.mappings evmWallet.id =
        [⟨evmWallet.id, "a", 1, some 12, .cooling⟩, ⟨evmWallet.id, "b", 2, none, .current⟩]) := by
  constructor
  · exact ⟨provisionRun_runs _, by decide +kernel⟩
  · exact ⟨provisionRun_runs _, by decide +kernel⟩

end WalletManager.Proofs
