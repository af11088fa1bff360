import WalletManager.Proofs.AddressRotation
import WalletManager.Proofs.SagaCalls
import WalletManager.Withdrawal.Resolver

/-!
# The key material of a signed payload

`ConstructAndSign` signs a payload that is built from the answer of the key resolver. The answer is no
placeholder where the wallet has an active address with key material at the moment of the question;
nothing else in the path from the store to the signer looks at it.
-/

namespace WalletManager.Proofs

open Interaction

/-- The active address that was read has a derivation path, which does not lead to the zero hash. -/
def BTCKeysIn (derivers : Registry) (read : Except Error Address) : Prop :=
  ∃ addr, read = .ok addr ∧ addr.derivationPath ≠ "" ∧
    ∀ keys, derivers.btcPubKeyHashFor addr.derivationPath = .ok keys → keys.pubKeyHash ≠ Vector.replicate 20 0

/-- The active address that was read has a text, which does not stand for 32 zero bytes. -/
def SolanaKeysIn (lib : Lib) (read : Except Error Address) : Prop :=
  ∃ addr, read = .ok addr ∧ addr.address ≠ "" ∧ lib.base58Decode addr.address ≠ List.replicate 32 0

/-- The step of a service with the resolver of production. Every store call may fail, and other requests
may have changed the store since the last call in any way. -/
def amidOthers (lib : Lib) (derivers : Registry) (_ : Store) (c : Call) (a : Answer c) (s' : Store) : Prop :=
  ∃ s, wiredStep lib (lossyStep lib) ⟨some derivers⟩ s c a s'

/-- A procedure that asks for the wallet's active address, gets `read` and returns `a`. -/
def Reads {α : Type} (lib : Lib) (p : Proc α) (walletID : UUID) (read : Except Error Address) (a : α) : Prop :=
  ∃ s s', Exec (lossyStep lib) p s [⟨.store (.getActiveAddress walletID), read⟩] a s'

/-- The options hold what the resolver gave for the wallet. Whatever it has read, it gave no placeholder
exactly if the address that it read leads to key material. -/
structure ResolvedKeys (lib : Lib) (derivers : Registry) (tr : Trace) (w : Wallet) (opts : BuildOpts) :
    Prop where
  btc : w.chain = .bitcoin → ⟨.ext (.btcPubKeyHash w.id), .ok opts.btc⟩ ∈ tr ∧
    (∃ read, Reads lib (DeriverKeyResolver.btcPubKeyHash ⟨some derivers⟩ w.id) w.id read (.ok opts.btc)) ∧
    ∀ read, Reads lib (DeriverKeyResolver.btcPubKeyHash ⟨some derivers⟩ w.id) w.id read (.ok opts.btc) →
      (opts.btc.pubKeyHash ≠ Vector.replicate 20 0 ↔ BTCKeysIn derivers read)
  solana : w.chain = .solana → ⟨.ext (.solanaFrom w.id), .ok opts.solana⟩ ∈ tr ∧
    (∃ read, Reads lib (DeriverKeyResolver.solanaFrom ⟨some derivers⟩ lib w.id) w.id read (.ok opts.solana)) ∧
    ∀ read, Reads lib (DeriverKeyResolver.solanaFrom ⟨some derivers⟩ lib w.id) w.id read (.ok opts.solana) →
      (opts.solana.sender ≠ Vector.replicate 32 0 ↔ SolanaKeysIn lib read)

def Builds (svc : Service) (w : Wallet) (wr : WithdrawalRequest) (n : Int) (ops : List String)
    (opts : BuildOpts) (payload : Bytes) : Prop :=
  ∃ s tr unsigned s', Exec (fun (_ : Store) _ _ _ => True) (buildUnsignedTx svc.lib svc.evm w wr n ops opts) s
    tr (.ok unsigned) s' ∧ unsigned.payload = payload

section Resolver

variable {lib : Lib} {derivers : Registry} {s s' : Store} {walletID : UUID}

lemma wiredStep.mono {step step' : Store → (c : Call) → Answer c → Store → Prop} {r : DeriverKeyResolver}
    {c : Call} {a : Answer c} (hs : wiredStep lib step r s c a s')
    (hstep : ∀ s c a s', step s c a s' → step' s c a s') : wiredStep lib step' r s c a s' := by
  rcases c with c | c
  · exact hstep _ _ _ _ hs
  · cases c with
    | btcPubKeyHash walletID => exact hs.imp (fun _ he => he.mono hstep)
    | solanaFrom walletID => exact hs.imp (fun _ he => he.mono hstep)
    | _ => exact hstep _ _ _ _ hs

lemma Reads.of_exec {α : Type} {k : Except Error Address → Proc α} {tr : Trace} {a : α}
    (hk : ∀ read, (k read).AllCalls (fun _ => False))
    (he : Exec (lossyStep lib) (.call (.store (.getActiveAddress walletID)) k) s tr a s') :
    ∃ read, Reads lib (.call (.store (.getActiveAddress walletID)) k) walletID read a := by
  have hrun := he
  obtain ⟨read, s₁, tr₁, -, hend, rfl⟩ := he
  obtain rfl : tr₁ = [] := List.eq_nil_iff_forall_not_mem.mpr (hend.allCalls (hk read))
  exact ⟨read, s, s', hrun⟩

lemma Reads.rest {α : Type} {k : Except Error Address → Proc α} {read : Except Error Address} {a : α}
    (h : Reads lib (.call (.store (.getActiveAddress walletID)) k) walletID read a) :
    ∃ s s', Exec (lossyStep lib) (k read) s [] a s' := by
  obtain ⟨_, s', read', s₁, tr₁, -, he, htr⟩ := h
  obtain ⟨hevent, rfl⟩ := List.cons.inj htr
  cases hevent
  exact ⟨s₁, s', he⟩

lemma Reads.btc_iff {keys : BTCKeys} {read : Except Error Address}
    (h : Reads lib (DeriverKeyResolver.btcPubKeyHash ⟨some derivers⟩ walletID) walletID read (.ok keys)) :
    keys.pubKeyHash ≠ Vector.replicate 20 0 ↔ BTCKeysIn derivers read := by
  obtain ⟨s, s', he⟩ := Reads.rest h
  cases read with
  | error err =>
    obtain ⟨-, hanswer, -⟩ := he
    obtain rfl := Except.ok.inj hanswer
    exact ⟨fun h => absurd rfl h, fun h => nomatch h.choose_spec.1⟩
  | ok addr =>
    dsimp only [Prog.bind] at he
    split at he
    · rename_i hpath
      obtain ⟨-, hanswer, -⟩ := he
      obtain rfl := Except.ok.inj hanswer
      refine ⟨fun h => absurd rfl h, ?_⟩
      rintro ⟨_, ⟨⟩, hne, -⟩
      exact absurd hpath hne
    · rename_i hpath
      obtain ⟨-, hanswer, -⟩ := he
      have hderive : derivers.btcPubKeyHashFor addr.derivationPath = .ok keys := by
        cases hd : derivers.btcPubKeyHashFor addr.derivationPath with
        | error err =>
          rw [hd] at hanswer
          cases hanswer
        | ok keys' =>
          rw [hd] at hanswer
          exact hanswer.symm
      refine ⟨fun h => ⟨addr, rfl, hpath, fun keys' hkeys' => ?_⟩, ?_⟩
      · rwa [← Except.ok.inj (hderive.symm.trans hkeys')]
      · rintro ⟨_, ⟨⟩, -, hne⟩
        exact hne keys hderive

lemma Reads.solana_iff {keys : SolanaKeys} {read : Except Error Address}
    (h : Reads lib (DeriverKeyResolver.solanaFrom ⟨some derivers⟩ lib walletID) walletID read (.ok keys)) :
    keys.sender ≠ Vector.replicate 32 0 ↔ SolanaKeysIn lib read := by
  obtain ⟨s, s', he⟩ := Reads.rest h
  cases read with
  | error err =>
    obtain ⟨-, hanswer, -⟩ := he
    obtain rfl := Except.ok.inj hanswer
    exact ⟨fun h => absurd rfl h, fun h => nomatch h.choose_spec.1⟩
  | ok addr =>
    dsimp only [Prog.bind] at he
    split at he
    · rename_i htext
      obtain ⟨-, hanswer, -⟩ := he
      obtain rfl := Except.ok.inj hanswer
      refine ⟨fun h => absurd rfl h, ?_⟩
      rintro ⟨_, ⟨⟩, hne, -⟩
      exact absurd htext hne
    split at he
    · obtain ⟨-, hanswer, -⟩ := he
      cases hanswer
    · rename_i htext hlen
      obtain ⟨-, hanswer, -⟩ := he
      obtain rfl := Except.ok.inj hanswer
      have hzero : copyArray 32 (lib.base58Decode addr.address) = Vector.replicate 32 0 ↔
          lib.base58Decode addr.address = List.replicate 32 0 := by
        rw [← Vector.toList_inj, toList_copyArray (not_not.mp hlen), Vector.toList_replicate]
      refine ⟨fun h => ⟨addr, rfl, htext, hzero.not.mp h⟩, ?_⟩
      rintro ⟨_, ⟨⟩, -, hne⟩
      exact hzero.not.mpr hne

lemma wiredStep.reads_btc {keys : BTCKeys}
    (hs : wiredStep lib (lossyStep lib) ⟨some derivers⟩ s (.ext (.btcPubKeyHash walletID)) (.ok keys) s') :
    ∃ read, Reads lib (DeriverKeyResolver.btcPubKeyHash ⟨some derivers⟩ walletID) walletID read (.ok keys) := by
  obtain ⟨tr, hexec⟩ := hs
  refine Reads.of_exec ?_ hexec
  rintro (err | addr)
  · trivial
  · dsimp only [Prog.bind]
    split <;> trivial

lemma wiredStep.reads_solana {keys : SolanaKeys}
    (hs : wiredStep lib (lossyStep lib) ⟨some derivers⟩ s (.ext (.solanaFrom walletID)) (.ok keys) s') :
    ∃ read, Reads lib (DeriverKeyResolver.solanaFrom ⟨some derivers⟩ lib walletID) walletID read (.ok keys) := by
  obtain ⟨tr, hexec⟩ := hs
  refine Reads.of_exec ?_ hexec
  rintro (err | addr)
  · trivial
  · dsimp only [Prog.bind]
    split
    · trivial
    · split <;> trivial

end Resolver

section Trace

variable {tr tr' : Trace} {w : Wallet} {opts : BuildOpts} {α : Type}

lemma ResolvedKeys.mono {lib : Lib} {derivers : Registry} (h : ResolvedKeys lib derivers tr w opts)
    (hsub : tr ⊆ tr') : ResolvedKeys lib derivers tr' w opts where
  btc hbtc := ⟨hsub (h.btc hbtc).1, (h.btc hbtc).2⟩
  solana hsolana := ⟨hsub (h.solana hsolana).1, (h.solana hsolana).2⟩

def Unsigned (tr : Trace) : Prop := ∀ req resp, (⟨.ext (.sign req), resp⟩ : Event Call Answer) ∉ tr

variable {step : Store → (c : Call) → Answer c → Store → Prop} {p : Proc α} {s s' : Store} {a : α}

lemma Exec.unsigned_of_touches {j : UUID} {S : List WithdrawalState} (he : Exec step p s tr a s')
    (hp : p.AllCalls (Touches j S none)) : Unsigned tr :=
  fun _ _ hmem => nomatch (he.allCalls hp _ hmem : none = some Party.signer)

lemma Exec.unsigned (he : Exec step p s tr a s') (hp : p.AllCalls Silent) : Unsigned tr :=
  fun _ _ hmem => he.allCalls hp _ hmem

end Trace

section Service

variable {svc : Service} {derivers : Registry} {s s' : Store} {tr : Trace} {w : Wallet}

lemma resolveBuildOpts_resolved (hbtc : svc.hasBTCKeys = true) (hsolana : svc.hasSolanaKeys = true)
    {opts : BuildOpts} (he : Exec (amidOthers svc.lib derivers)
      (svc.resolveBuildOpts w) s tr (.ok opts) s') : ResolvedKeys svc.lib derivers tr w opts := by
  unfold Service.resolveBuildOpts at he
  split at he
  · rename_i hchain
    obtain ⟨r, s₁, tr₁, ⟨s₂, hs⟩, he, rfl⟩ := he
    cases r with
    | error err =>
      obtain ⟨-, hret, -⟩ := he
      cases hret
    | ok keys =>
      obtain ⟨rfl, hret, -⟩ := he
      obtain rfl := Except.ok.inj hret
      refine ⟨fun _ => ⟨List.mem_cons_self, wiredStep.reads_btc hs, fun _ => Reads.btc_iff⟩, fun hsol => ?_⟩
      rw [hchain.2] at hsol
      cases hsol
  split at he
  · rename_i hother hchain
    obtain ⟨r, s₁, tr₁, ⟨s₂, hs⟩, he, rfl⟩ := he
    cases r with
    | error err =>
      obtain ⟨-, hret, -⟩ := he
      cases hret
    | ok keys =>
      obtain ⟨rfl, hret, -⟩ := he
      obtain rfl := Except.ok.inj hret
      refine ⟨fun hb => absurd ⟨hbtc, hb⟩ hother, fun _ => ?_⟩
      exact ⟨List.mem_cons_self, wiredStep.reads_solana hs, fun _ => Reads.solana_iff⟩
  · rename_i hother hother'
    exact ⟨fun hb => absurd ⟨hbtc, hb⟩ hother, fun hs => absurd ⟨hsolana, hs⟩ hother'⟩

def SignsResolved (svc : Service) (derivers : Registry) (w : Wallet) (wr : WithdrawalRequest)
    (tr : Trace) : Prop :=
  ∀ req resp, ⟨.ext (.sign req), resp⟩ ∈ tr → ∃ n ops opts,
    ResolvedKeys svc.lib derivers tr w opts ∧ Builds svc w wr n ops opts req.txBytes

lemma SignsResolved.append_left {tr₀ : Trace} {wr : WithdrawalRequest} (h : SignsResolved svc derivers w wr tr)
    (h₀ : Unsigned tr₀) : SignsResolved svc derivers w wr (tr₀ ++ tr) := by
  intro req resp hmem
  rcases List.mem_append.mp hmem with hmem | hmem
  · exact absurd hmem (h₀ req resp)
  · obtain ⟨n, ops, opts, hkeys, hbuilds⟩ := h req resp hmem
    exact ⟨n, ops, opts, hkeys.mono (List.subset_append_right _ _), hbuilds⟩

lemma Unsigned.signsResolved {wr : WithdrawalRequest} (h : Unsigned tr) : SignsResolved svc derivers w wr tr :=
  fun req resp hmem => absurd hmem (h req resp)

lemma signReserved_resolved (hbtc : svc.hasBTCKeys = true) (hsolana : svc.hasSolanaKeys = true) {id : UUID}
    {wr : WithdrawalRequest} {keyID : String} {n : Int} {ops : List String} {res : Except Error Unit}
    (he : Exec (amidOthers svc.lib derivers)
      (svc.signReserved id wr w keyID n ops) s tr res s') : SignsResolved svc derivers w wr tr := by
  unfold Service.signReserved at he
  obtain ⟨ropts, s₁, tr₁, tr₂, hopts, he, rfl⟩ := exec_bind.mp he
  have hquiet₁ := Exec.unsigned hopts (resolveBuildOpts_silent w)
  rcases ropts with err | opts
  · have hrest := Exec.unsigned_of_touches (j := id) (S := []) he (rollback_bind_touches trivial)
    exact (Unsigned.signsResolved hrest).append_left hquiet₁
  have hkeys := resolveBuildOpts_resolved hbtc hsolana hopts
  obtain ⟨runsigned, s₂, tr₃, tr₄, hbuild, hsign, rfl⟩ := exec_bind.mp he
  have hquiet₃ := Exec.unsigned hbuild (buildUnsignedTx_silent _ _ _ _ _ _ _)
  rcases runsigned with err | unsigned
  · have hrest := Exec.unsigned_of_touches (j := id) (S := []) hsign (rollback_bind_touches trivial)
    exact ((Unsigned.signsResolved hrest).append_left hquiet₃).append_left hquiet₁
  have hbuilds : Builds svc w wr n ops opts unsigned.payload :=
    ⟨s₁, tr₃, unsigned, s₂, hbuild.mono (fun _ _ _ _ _ => trivial), rfl⟩
  obtain ⟨resp, s₃, tr₅, -, htail, rfl⟩ := hsign
  have hquiet₅ : Unsigned tr₅ := by
    refine Exec.unsigned_of_touches (j := id) (S := [.failed, .signed]) htail ?_
    rcases resp with err | resp
    · exact rollback_bind_touches ⟨⟨rfl, by simp⟩, fun _ => trivial⟩
    dsimp only [Prog.bind]
    split
    · exact rollback_bind_touches ⟨⟨rfl, by simp⟩, fun _ => trivial⟩
    refine ⟨rfl, ?_⟩
    rintro (err | _)
    · exact rollback_bind_touches trivial
    refine ⟨⟨rfl, by simp⟩, ?_⟩
    rintro (err | _)
    · trivial
    · exact emit_ok_touches _
  -- The one question to the signer is about the payload that has been built.
  intro req resp' hmem
  rcases List.mem_append.mp hmem with hmem | hmem
  · exact absurd hmem (hquiet₁ req resp')
  rcases List.mem_append.mp hmem with hmem | hmem
  · exact absurd hmem (hquiet₃ req resp')
  rcases List.mem_cons.mp hmem with heq | hmem
  · have hreq : req = ⟨keyID, unsigned.payload, wr.walletID⟩ := by
      have hcall := congrArg Event.call heq
      exact ExtCall.sign.inj (Call.ext.inj hcall)
    rw [hreq]
    exact ⟨n, ops, opts, hkeys.mono (List.subset_append_left _ _), hbuilds⟩
  · exact absurd hmem (hquiet₅ req resp')

/-- Every payload that `ConstructAndSign` passes to the signer is built from what the resolver gave for
the withdrawal's wallet, which is no placeholder exactly if the resolver has read an active address that
leads to key material. -/
theorem signs_with_wallet_keys (svc : Service) (derivers : Registry) (hbtc : svc.hasBTCKeys = true)
    (hsolana : svc.hasSolanaKeys = true) {id : UUID} {s s' : Store} {tr : Trace} {res : Except Error Unit}
    (he : Exec (amidOthers svc.lib derivers) (svc.constructAndSign id) s tr
      res s') : ∀ req resp, ⟨.ext (.sign req), resp⟩ ∈ tr → ∃ wr w n ops opts,
        ⟨.store (.getWithdrawal id), .ok wr⟩ ∈ tr ∧ ⟨.store (.getWallet wr.walletID), .ok w⟩ ∈ tr ∧
        ResolvedKeys svc.lib derivers tr w opts ∧ Builds svc w wr n ops opts req.txBytes := by
  obtain ⟨row, s₁, tr₁, -, hrow, rfl⟩ := he
  rcases row with err | wr
  · obtain ⟨rfl, -, -⟩ := hrow
    exact fun req resp hmem => nomatch List.mem_singleton.mp hmem
  dsimp only [Prog.bind] at hrow
  split at hrow
  · obtain ⟨rfl, -, -⟩ := hrow
    exact fun req resp hmem => nomatch List.mem_singleton.mp hmem
  obtain ⟨wallet, s₂, tr₂, -, hwallet, rfl⟩ := hrow
  have hreads : ∀ a, Unsigned [⟨.store (.getWithdrawal id), .ok wr⟩, ⟨.store (.getWallet wr.walletID), a⟩] := by
    intro a req resp hmem
    rcases List.mem_cons.mp hmem with heq | hmem
    · cases heq
    · cases List.mem_singleton.mp hmem
  rcases wallet with err | w
  · obtain ⟨rfl, -, -⟩ := hwallet
    exact fun req resp hmem => absurd hmem (hreads _ req resp)
  change Exec _ (svc.resolveKeyID wr.walletID >>= _) _ _ _ _ at hwallet
  obtain ⟨rkey, s₃, tr₃, tr₄, hkey, hrest, rfl⟩ := exec_bind.mp hwallet
  have hquiet₃ := Exec.unsigned hkey (resolveKeyID_silent wr.walletID)
  -- After the two reads, the run signs at most at its end.
  have hreal : SignsResolved svc derivers w wr (tr₃ ++ tr₄) := by
    refine SignsResolved.append_left ?_ hquiet₃
    rcases rkey with err | keyID
    · obtain ⟨rfl, -, -⟩ := hrest
      exact Unsigned.signsResolved nofun
    obtain ⟨rres, s₄, tr₅, tr₆, hreserve, hsign, rfl⟩ := exec_bind.mp hrest
    have hquiet₅ := Exec.unsigned_of_touches (j := id) (S := []) hreserve (reserve_touches wr w)
    refine SignsResolved.append_left ?_ hquiet₅
    rcases rres with err | ⟨n, ops⟩
    · obtain ⟨rfl, -, -⟩ := hsign
      exact Unsigned.signsResolved nofun
    · exact signReserved_resolved hbtc hsolana hsign
  intro req resp hmem
  obtain ⟨n, ops, opts, hkeys, hbuilds⟩ := (hreal.append_left (hreads (.ok w))) req resp hmem
  exact ⟨wr, w, n, ops, opts, List.mem_cons_self, List.mem_cons_of_mem _ List.mem_cons_self, hkeys, hbuilds⟩

end Service

def wired (derivers : Registry) (s : Store) : (c : Call) → Answer c × Store
  | .ext (.btcPubKeyHash walletID) =>
    ((DeriverKeyResolver.btcPubKeyHash ⟨some derivers⟩ walletID).run (answering agree) s).2
  | .ext (.solanaFrom walletID) =>
    ((DeriverKeyResolver.solanaFrom ⟨some derivers⟩ referenceLib walletID).run (answering agree) s).2
  | c => answering agree s c

lemma wired_step (derivers : Registry) (s : Store) (c : Call) :
    wiredStep referenceLib (memStep referenceLib) ⟨some derivers⟩ s c (wired derivers s c).1
      (wired derivers s c).2 := by
  rcases c with c | c
  · exact answering_memStep agree s (.store c)
  · cases c with
    | btcPubKeyHash walletID => exact ⟨_, Prog.run_exec (answering_memStep agree) _ s⟩
    | solanaFrom walletID => exact ⟨_, Prog.run_exec (answering_memStep agree) _ s⟩
    | _ => rfl

def keyedService : Service := { lib := referenceLib, hasBTCKeys := true, hasSolanaKeys := true }

def referenceDerivers : Registry := referencePolicy.derivers

def unaddressed : Store :=
  (referenceRun agree (Store.initial [btcWallet] [btcOutput outpointA "1000"])
    [.create (UUID.ofByte 3) (btcTransfer "1000")]).2

def btcAddress : Address where
  id := UUID.ofByte 4
  walletID := btcWallet.id
  chain := .bitcoin
  address := "bc1qxhvckq94yfex3wufzxhxjpvpc8z3hrpst5xl98"
  derivationPath := "m/84'/0'/0'/0/5"
  index := 5
  change := 0
  state := .active
  createdAt := 1

def addressed : Store := (unaddressed.insertAddress btcAddress 1).2

def signingRun (s : Store) : Trace × Except Error Unit × Store :=
  (keyedService.constructAndSign (UUID.ofByte 3)).run (wired referenceDerivers) s

def signRequests (tr : Trace) : List SignRequest :=
  tr.filterMap (fun e => match e.call with
    | .ext (.sign req) => some req
    | _ => none)

def btcAnswers (tr : Trace) : List (Except Error BTCKeys) :=
  tr.filterMap (fun
    | ⟨.ext (.btcPubKeyHash _), keys⟩ => some keys
    | _ => none)

theorem signs_with_wallet_keys_addressed :
    (signRequests (signingRun addressed).1).length = 1 ∧
      (btcAnswers (signingRun addressed).1).map (·.toOption.map (·.pubKeyHash.toList)) =
        [some (programBytes 0x35d98b00b5227268bb8911ae690581c1c51b8c30)] ∧
      ∀ req resp, ⟨.ext (.sign req), resp⟩ ∈ (signingRun addressed).1 → ∃ wr w n ops opts,
        ⟨.store (.getWithdrawal (UUID.ofByte 3)), .ok wr⟩ ∈ (signingRun addressed).1 ∧
        ⟨.store (.getWallet wr.walletID), .ok w⟩ ∈ (signingRun addressed).1 ∧
        ResolvedKeys referenceLib referenceDerivers (signingRun addressed).1 w opts ∧
        Builds keyedService w wr n ops opts req.txBytes := by
  obtain ⟨hone, hkeys⟩ : (signRequests (signingRun addressed).1).length = 1 ∧
      (btcAnswers (signingRun addressed).1).map (·.toOption.map (·.pubKeyHash.toList)) =
        [some (programBytes 0x35d98b00b5227268bb8911ae690581c1c51b8c30)] := by decide +kernel
  have hstep : ∀ s c, amidOthers referenceLib referenceDerivers s c (wired referenceDerivers s c).1
      (wired referenceDerivers s c).2 :=
    fun s c => ⟨s, wiredStep.mono (wired_step _ s c) (fun _ _ _ _ => memStep_lossyStep)⟩
  exact ⟨hone, hkeys, signs_with_wallet_keys keyedService referenceDerivers rfl rfl (Prog.run_exec hstep _ _)⟩

/-- The resolver answers with the zero hash, and the payload that is built from it is signed. -/
theorem placeholder_signed :
    Exec (wiredStep referenceLib (memStep referenceLib) ⟨some referenceDerivers⟩)
        (keyedService.constructAndSign (UUID.ofByte 3)) unaddressed (signingRun unaddressed).1
          (signingRun unaddressed).2.1 (signingRun unaddressed).2.2 ∧
      (signingRun unaddressed).2.1 = .ok () ∧
      btcAnswers (signingRun unaddressed).1 = [.ok ⟨Vector.replicate 20 0, none⟩] ∧
      ∃ payload, (signRequests (signingRun unaddressed).1).map SignRequest.txBytes = [payload] ∧
        (buildBTCUnsignedTx referenceLib ((btcTransfer "1000").row (UUID.ofByte 3)) [outpointA]
          { btc := ⟨Vector.replicate 20 0, none⟩ }).toOption.map UnsignedTx.payload = some payload := by
  obtain ⟨hok, hanswers, hbuilt⟩ : (signingRun unaddressed).2.1 = .ok () ∧
      btcAnswers (signingRun unaddressed).1 = [.ok ⟨Vector.replicate 20 0, none⟩] ∧
      ((signRequests (signingRun unaddressed).1).map SignRequest.txBytes).map some =
        [(buildBTCUnsignedTx referenceLib ((btcTransfer "1000").row (UUID.ofByte 3)) [outpointA]
          { btc := ⟨Vector.replicate 20 0, none⟩ }).toOption.map UnsignedTx.payload] := by decide +kernel
  obtain ⟨payload, hsigned, hpayload⟩ := List.map_eq_singleton_iff.mp hbuilt
  exact ⟨Prog.run_exec (wired_step _) _ _, hok, hanswers, payload, hsigned, hpayload.symm⟩

end WalletManager.Proofs
