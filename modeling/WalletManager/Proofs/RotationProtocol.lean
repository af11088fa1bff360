import WalletManager.Interaction.Protocol
import WalletManager.Lock.MemLocker
import WalletManager.Proofs.AddressTable
import WalletManager.Wallet.Rotation

/-!
# The protocol of a derivation

The calls that `DeriveAddress` makes for a wallet of a chain that has a deriver, as transitions
between phases. The program is read once, here; the results on rotation are proved over the
transitions.
-/

namespace WalletManager.Proofs

open Interaction

structure Request where
  walletID : UUID
  force : Bool
  fresh : Fresh
  deriving DecidableEq

def Request.proc (p : RotationPolicy) (q : Request) : Proc (Except Error Address) :=
  p.deriveAddress q.walletID q.force q.fresh

inductive Phase
  | started
  | loaded (w : Wallet)
  /-- The last reading of the wallet's active address, and how often the lock was denied. -/
  | seen (w : Wallet) (active : Option Address) (denials : Nat)
  | denied (w : Wallet) (active : Option Address) (denials : Nat)
  | locked (w : Wallet) (active : Option Address) (token : String)
  /-- Under the lock the wallet turned out to have an active address. -/
  | kept (w : Wallet) (a : Address) (token : String)
  | vacant (w : Wallet) (token : String)
  /-- The index of a Solana wallet has been read; its rows are still to be listed. -/
  | counted (w : Wallet) (n : Int) (token : String)
  | listed (w : Wallet) (n : Int) (a : Address) (token : String)
  | indexed (w : Wallet) (n : Int) (token : String)
  | missed (w : Wallet) (n : Int) (token : String)
  | derived (w : Wallet) (n : Int) (addr : String) (token : String)
  | placed (w : Wallet) (a : Address) (token : String)
  | stuck (w : Wallet) (token : String)
  | returned (a : Address)
  | failed
  /-- The wallet is of another chain. -/
  | foreign

def Phase.token : Phase → Option String
  | locked _ _ token | kept _ _ token | vacant _ token | counted _ _ token | listed _ _ _ token
  | indexed _ _ token | missed _ _ token | derived _ _ _ token | placed _ _ token
  | stuck _ token => some token
  | _ => none

def Phase.wallet : Phase → Option Wallet
  | loaded w | seen w _ _ | denied w _ _ | locked w _ _ | kept w _ _ | vacant w _ | counted w _ _
  | listed w _ _ _ | indexed w _ _ | missed w _ _ | derived w _ _ _ | placed w _ _ | stuck w _ => some w
  | _ => none

def Indexed (chain : Chain) : Prop := chain.isEVM ∨ chain = .bitcoin

def Served (chain : Chain) : Prop := Indexed chain ∨ chain = .solana

lemma Indexed.ne_solana {chain : Chain} (h : Indexed chain) : chain ≠ .solana := by
  rintro rfl
  rcases h with h | h <;> cases h

section Derivers

variable (p : RotationPolicy)

def uncachedAt (chain : Chain) (n : Int) : Except Error String :=
  if chain.isEVM then p.derivers.evm.deriveUncached p.derivers.lib p.derivers.keys n
  else if chain = .bitcoin then p.derivers.btc.deriveUncached p.derivers.keys n 0
  else .ok p.derivers.solana.pubkeyBase58

def cacheKeyAt (chain : Chain) (n : Int) : String :=
  if chain.isEVM then p.derivers.evm.cacheKey n
  else if chain = .bitcoin then p.derivers.btc.cacheKey n 0
  else "deriv:sol:" ++ p.derivers.solana.pubkeyBase58

def resultAt (chain : Chain) (n : Int) (addr : String) : DeriveResult :=
  if chain.isEVM then ⟨addr, "m/44'/60'/0'/0/" ++ toString n, n, 0⟩
  else if chain = .bitcoin then ⟨addr, "m/84'/0'/0'/" ++ toString (0 : Int) ++ "/" ++ toString n, n, 0⟩
  else ⟨addr, "m/44'/501'/0'/0'", 0, 0⟩

def rowAt (w : Wallet) (fresh : Fresh) (n : Int) (addr : String) : Address :=
  RotationPolicy.newAddress w fresh (resultAt w.chain n addr)

variable {p}

lemma forChain_served {chain : Chain} (h : Served chain) :
    ∃ d, p.derivers.forChain chain = .ok d ∧ ∀ id n, 0 ≤ n → d id chain n 0 =
      deriveCached (cacheKeyAt p chain n) (uncachedAt p chain n) (resultAt chain n) := by
  unfold Registry.forChain cacheKeyAt uncachedAt resultAt
  by_cases hevm : chain.isEVM = true
  · refine ⟨_, if_pos hevm, ?_⟩
    intro id n hn
    unfold EVMDeriver.deriveAt
    rw [if_neg (by simp [hevm]), if_neg (by simp), if_neg (by omega)]
    simp only [hevm, if_true]
  · rcases h with (h | rfl) | rfl
    · exact absurd h hevm
    · refine ⟨p.derivers.btc.deriveAt p.derivers.lib p.derivers.keys, rfl, ?_⟩
      intro id n hn
      unfold BTCDeriver.deriveAt
      rw [if_neg (by simp), if_neg (by simp), if_neg (by omega)]
      rfl
    · exact ⟨p.derivers.solana.deriveAt p.derivers.lib, rfl, fun id n hn => rfl⟩

lemma rowAt_index {w : Wallet} (h : Indexed w.chain) (fresh : Fresh) (n : Int) (addr : String) :
    (rowAt w fresh n addr).index = n := by
  change (resultAt w.chain n addr).index = n
  unfold resultAt
  split
  · rfl
  · rename_i hevm
    rw [if_pos (h.resolve_left hevm)]

lemma rowAt_change (w : Wallet) (fresh : Fresh) (n : Int) (addr : String) :
    (rowAt w fresh n addr).change = 0 := by
  change (resultAt w.chain n addr).change = 0
  unfold resultAt
  split
  · rfl
  · split <;> rfl

lemma rowAt_address (w : Wallet) (fresh : Fresh) (n : Int) (addr : String) :
    (rowAt w fresh n addr).address = addr := by
  change (resultAt w.chain n addr).address = addr
  unfold resultAt
  split
  · rfl
  · split <;> rfl

end Derivers

def possible (lib : Lib) (c : Call) (r : Answer c) : Prop := ∃ s s', memStep lib s c r s'

lemma memStep_possible {lib : Lib} {s s' : Store} {c : Call} {r : Answer c} (h : memStep lib s c r s') :
    possible lib c r := ⟨s, s', h⟩

lemma possible_nextAddressIndex {lib : Lib} {chain : String} {change : Int} {r : Except Error Int}
    (h : possible lib (.store (.nextAddressIndex chain change)) r) : ∃ n, r = .ok n ∧ 0 ≤ n := by
  obtain ⟨s, s', hs⟩ := h
  obtain ⟨rfl, -⟩ := Prod.mk.inj (show (r, s') = (.ok (s.nextAddressIndex chain change), s) from hs)
  exact ⟨_, rfl, nextAddressIndex_nonneg s chain change⟩

lemma possible_getActiveAddress {lib : Lib} {walletID : UUID} {err : Error}
    (h : possible lib (.store (.getActiveAddress walletID)) (.error err)) : err.is = some .errNoRows := by
  obtain ⟨s, s', hs⟩ := h
  obtain ⟨hr, -⟩ := Prod.mk.inj (show (Except.error err, s') = (s.getActiveAddress walletID, s) from hs)
  unfold Store.getActiveAddress at hr
  split at hr
  · cases hr
    rfl
  · cases hr

lemma possible_listAddresses {lib : Lib} {walletID : UUID} {r : Except Error (List Address)}
    (h : possible lib (.store (.listAddresses walletID)) r) : ∃ addrs, r = .ok addrs := by
  obtain ⟨s, s', hs⟩ := h
  exact ⟨s.listAddresses lib walletID, congrArg Prod.fst hs⟩

def countedAt (w : Wallet) (n : Int) (token : String) : Phase :=
  if w.chain = .solana then .counted w n token else .indexed w n token

inductive Moves (p : RotationPolicy) (q : Request) : Phase → (c : Call) → Answer c → Phase → Prop
  | load {w : Wallet} : Served w.chain →
    Moves p q .started (.store (.getWallet q.walletID)) (.ok w) (.loaded w)
  | leave {w : Wallet} : ¬Served w.chain →
    Moves p q .started (.store (.getWallet q.walletID)) (.ok w) .foreign
  | unknown {err : Error} : Moves p q .started (.store (.getWallet q.walletID)) (.error err) .failed
  | wander {c : Call} {r : Answer c} : Moves p q .foreign c r .foreign
  | look {w : Wallet} {r : Except Error Address} : w.state ≠ .retired →
    Moves p q (.loaded w) (.store (.getActiveAddress q.walletID)) r (.seen w r.toOption 0)
  | grant {w : Wallet} {active : Option Address} {denials : Nat} {token : String} :
    (∀ a, active = some a → denials = 0 ∧ (q.force ∨ p.shouldRotate w a q.fresh.since)) →
    Moves p q (.seen w active denials) (.ext (.acquire (RotationPolicy.lockName w) 10)) (.ok (token, true))
      (.locked w active token)
  | deny {w : Wallet} {active : Option Address} {denials : Nat} {token : String} :
    (∀ a, active = some a → denials = 0 ∧ (q.force ∨ p.shouldRotate w a q.fresh.since)) →
    Moves p q (.seen w active denials) (.ext (.acquire (RotationPolicy.lockName w) 10)) (.ok (token, false))
      (.denied w active (denials + 1))
  | unlockable {w : Wallet} {active : Option Address} {denials : Nat} {err : Error} :
    Moves p q (.seen w active denials) (.ext (.acquire (RotationPolicy.lockName w) 10)) (.error err) .failed
  | lookAgain {w : Wallet} {denials : Nat} {r : Except Error Address} : q.force = false →
    Moves p q (.denied w none denials) (.store (.getActiveAddress w.id)) r (.seen w r.toOption denials)
  | keep {w : Wallet} {token : String} {a : Address} : q.force = false →
    Moves p q (.locked w none token) (.store (.getActiveAddress w.id)) (.ok a) (.kept w a token)
  | find {w : Wallet} {token : String} {err : Error} : q.force = false →
    Moves p q (.locked w none token) (.store (.getActiveAddress w.id)) (.error err) (.vacant w token)
  | retire {w : Wallet} {a : Address} {token : String} :
    Moves p q (.locked w (some a) token) (.store (.deprecateAddress a.id)) (.ok ()) (.vacant w token)
  | cling {w : Wallet} {a : Address} {token : String} {err : Error} :
    Moves p q (.locked w (some a) token) (.store (.deprecateAddress a.id)) (.error err) (.stuck w token)
  | assume {w : Wallet} {token : String} {n : Int} : q.force →
    Moves p q (.locked w none token) (.store (.nextAddressIndex w.chain.string 0)) (.ok n)
      (countedAt w n token)
  | count {w : Wallet} {token : String} {n : Int} :
    Moves p q (.vacant w token) (.store (.nextAddressIndex w.chain.string 0)) (.ok n) (countedAt w n token)
  | listNone {w : Wallet} {n : Int} {token : String} :
    Moves p q (.counted w n token) (.store (.listAddresses w.id)) (.ok []) (.indexed w n token)
  | listSome {w : Wallet} {n : Int} {token : String} {a : Address} {addrs : List Address} :
    Moves p q (.counted w n token) (.store (.listAddresses w.id)) (.ok (a :: addrs)) (.listed w n a token)
  | clear {w : Wallet} {n : Int} {token : String} {a : Address} :
    Moves p q (.listed w n a token) (.store (.deprecateAddress a.id)) (.ok ()) (.indexed w n token)
  | clash {w : Wallet} {n : Int} {token : String} {a : Address} {err : Error} :
    Moves p q (.listed w n a token) (.store (.deprecateAddress a.id)) (.error err) (.stuck w token)
  | hit {w : Wallet} {n : Int} {token addr : String} {r : Except Error (String × Bool)} :
    cacheHit r = some addr →
    Moves p q (.indexed w n token) (.ext (.cacheGet (cacheKeyAt p w.chain n))) r (.derived w n addr token)
  | miss {w : Wallet} {n : Int} {token : String} {r : Except Error (String × Bool)} :
    Moves p q (.indexed w n token) (.ext (.cacheGet (cacheKeyAt p w.chain n))) r (.missed w n token)
  | fill {w : Wallet} {n : Int} {token addr : String} {r : Except Error Unit} :
    uncachedAt p w.chain n = .ok addr →
    Moves p q (.missed w n token) (.ext (.cacheSet (cacheKeyAt p w.chain n) addr)) r (.derived w n addr token)
  | abandon {w : Wallet} {n : Int} {token : String} {err : Error} {r : Except Error Unit} :
    uncachedAt p w.chain n = .error err →
    Moves p q (.missed w n token) (.ext (.release (RotationPolicy.lockName w) token)) r .failed
  | place {w : Wallet} {n : Int} {token addr : String} :
    Moves p q (.derived w n addr token) (.store (.insertAddress (rowAt w q.fresh n addr) q.fresh.now)) (.ok ())
      (.placed w (rowAt w q.fresh n addr) token)
  | collide {w : Wallet} {n : Int} {token addr : String} {err : Error} :
    Moves p q (.derived w n addr token) (.store (.insertAddress (rowAt w q.fresh n addr) q.fresh.now))
      (.error err) (.stuck w token)
  | announce {w : Wallet} {a : Address} {token : String} {e : AuditEvent} {r : Except Error Unit} :
    Moves p q (.placed w a token) (.ext (.emit e)) r (.placed w a token)
  | finish {w : Wallet} {a : Address} {token : String} {r : Except Error Unit} :
    Moves p q (.placed w a token) (.ext (.release (RotationPolicy.lockName w) token)) r (.returned a)
  | settle {w : Wallet} {a : Address} {token : String} {r : Except Error Unit} :
    Moves p q (.kept w a token) (.ext (.release (RotationPolicy.lockName w) token)) r (.returned a)
  | giveUp {w : Wallet} {token : String} {r : Except Error Unit} :
    Moves p q (.stuck w token) (.ext (.release (RotationPolicy.lockName w) token)) r .failed

def Returned (p : RotationPolicy) (q : Request) : Phase → Except Error Address → Prop
  | .loaded w, r => w.state = .retired ∧ r = .error errWalletRetired
  | .seen w (some a) denials, r => r = .ok a ∧ q.force = false ∧
    (0 < denials ∨ ¬p.shouldRotate w a q.fresh.since)
  | .seen _ none denials, r => r = .error errRotationInProgress ∧ q.force = false ∧ denials = 20
  | .denied _ active _, r => r = .error errRotationInProgress ∧ (q.force ∨ active ≠ none)
  | .returned a, r => r = .ok a
  | .failed, r => ∃ err, r = .error err
  | .foreign, _ => True
  | _, _ => False

def rotationProtocol (lib : Lib) (p : RotationPolicy) (q : Request) : Protocol Call Answer Phase :=
  ⟨possible lib, Moves p q⟩

section Program

variable {lib : Lib} {p : RotationPolicy} {q : Request} {w : Wallet} {token : String}

abbrev Follows (lib : Lib) (p : RotationPolicy) (q : Request) {α : Type} (prog : Proc α) (g : Phase)
    (Q : Phase → α → Prop) : Prop :=
  Conforms (rotationProtocol lib p q) prog g Q

lemma foreign_follows {α : Type} (prog : Proc α) :
    Follows lib p q prog .foreign (fun g _ => g = .foreign) := by
  induction prog with
  | ret a => rfl
  | call c k ih => exact fun r _ => ⟨.foreign, .wander, ih r⟩

lemma follows_store {α : Type} {c : StoreCall} {f : Except Error c.Result → Proc α} {g : Phase}
    {Q : Phase → α → Prop}
    (h : ∀ r, possible lib (.store c) r → ∃ g', Moves p q g (.store c) r g' ∧ Follows lib p q (f r) g' Q) :
    Follows lib p q (store c >>= f) g Q := h

lemma follows_ext {α : Type} {c : ExtCall} {f : c.Answer → Proc α} {g : Phase} {Q : Phase → α → Prop}
    (h : ∀ r, ∃ g', Moves p q g (.ext c) r g' ∧ Follows lib p q (f r) g' Q) :
    Follows lib p q (ext c >>= f) g Q := fun r _ => h r

lemma deriveCached_follows {n : Int} {make : String → DeriveResult} :
    Follows lib p q (deriveCached (cacheKeyAt p w.chain n) (uncachedAt p w.chain n) make)
      (.indexed w n token) (fun g r =>
        (∃ addr, r = .ok (make addr) ∧ g = .derived w n addr token) ∨
        (∃ err, r = .error err ∧ uncachedAt p w.chain n = .error err ∧ g = .missed w n token)) := by
  apply follows_ext
  intro r
  cases hr : cacheHit r with
  | some addr => exact ⟨.derived w n addr token, .hit hr, .inl ⟨addr, rfl, rfl⟩⟩
  | none =>
    refine ⟨.missed w n token, .miss, ?_⟩
    dsimp only
    cases hu : uncachedAt p w.chain n with
    | error err => exact .inr ⟨err, rfl, rfl, rfl⟩
    | ok addr => exact fun _ _ => ⟨.derived w n addr token, .fill hu, .inl ⟨addr, rfl, rfl⟩⟩

def Derived (p : RotationPolicy) (w : Wallet) (token : String) (g : Phase) (r : Except Error Address) :
    Prop :=
  (∃ a, r = .ok a ∧ g = .placed w a token) ∨
  ∃ err, r = .error err ∧ (g = .stuck w token ∨
    ∃ n err', uncachedAt p w.chain n = .error err' ∧ g = .missed w n token)

lemma emit_follows {a b : Address} (hasAudit : Bool) (e : AuditEvent)
    {Q : Phase → Except Error Address → Prop} (h : Q (.placed w a token) (.ok b)) :
    Follows lib p q (do
      if hasAudit then
        let _ ← ext (.emit e)
      return .ok b) (.placed w a token) Q := by
  cases hasAudit with
  | false => exact h
  | true => exact follows_ext (fun _ => ⟨.placed w a token, .announce, h⟩)

lemma insert_follows {d : Deriver} {n : Int} (hat : d w.id w.chain n 0 =
      deriveCached (cacheKeyAt p w.chain n) (uncachedAt p w.chain n) (resultAt w.chain n)) :
    Follows lib p q (RotationPolicy.deriveNew.insert p w q.fresh d n) (.indexed w n token)
      (Derived p w token) := by
  unfold RotationPolicy.deriveNew.insert
  rw [hat]
  refine Conforms.bind (deriveCached_follows.mono ?_)
  rintro g r (⟨addr, rfl, rfl⟩ | ⟨err, rfl, hu, rfl⟩)
  · apply follows_store
    rintro (err | _) -
    · exact ⟨.stuck w token, .collide, .inr ⟨_, rfl, .inl rfl⟩⟩
    · refine ⟨.placed w (rowAt w q.fresh n addr) token, .place, ?_⟩
      exact emit_follows _ _ (.inl ⟨_, rfl, rfl⟩)
  · exact .inr ⟨_, rfl, .inr ⟨n, err, hu, rfl⟩⟩

lemma deriveNew_follows (hw : Served w.chain) {g : Phase}
    (hcount : ∀ n, Moves p q g (.store (.nextAddressIndex w.chain.string 0)) (.ok n) (countedAt w n token)) :
    Follows lib p q (p.deriveNew w q.fresh) g (Derived p w token) := by
  obtain ⟨d, hd, hat⟩ := @forChain_served p _ hw
  unfold RotationPolicy.deriveNew
  rw [hd]
  apply follows_store
  intro r hr
  obtain ⟨n, rfl, hn⟩ := possible_nextAddressIndex hr
  refine ⟨countedAt w n token, hcount n, ?_⟩
  have hinsert := @insert_follows lib p q w token d n (hat w.id n hn)
  dsimp only
  unfold countedAt
  split
  · apply follows_store
    intro r hr
    obtain ⟨addrs, rfl⟩ := possible_listAddresses hr
    cases addrs with
    | nil => exact ⟨.indexed w n token, .listNone, hinsert⟩
    | cons a addrs =>
      refine ⟨.listed w n a token, .listSome, ?_⟩
      apply follows_store
      rintro (err | _) -
      · exact ⟨.stuck w token, .clash, .inr ⟨_, rfl, .inl rfl⟩⟩
      · exact ⟨.indexed w n token, .clear, hinsert⟩
  · exact hinsert

lemma release_follows {g : Phase} {r : Except Error Address} (h : Derived p w token g r) :
    Follows lib p q (do
      let _ ← ext (.release (RotationPolicy.lockName w) token)
      return r) g (Returned p q) := by
  apply follows_ext
  intro ans
  rcases h with ⟨a, rfl, rfl⟩ | ⟨err, rfl, rfl | ⟨n, err', hu, rfl⟩⟩
  · exact ⟨.returned a, .finish, rfl⟩
  · exact ⟨.failed, .giveUp, err, rfl⟩
  · exact ⟨.failed, .abandon hu, err, rfl⟩

lemma underLock_follows {active : Option Address} {body : Proc (Except Error Address)}
    (hdue : ∀ a, active = some a → q.force ∨ p.shouldRotate w a q.fresh.since)
    (hforce : q.force ∨ active ≠ none)
    (hbody : ∀ token, Follows lib p q body (.locked w active token) (Derived p w token)) :
    Follows lib p q (RotationPolicy.underLock w body) (.seen w active 0) (Returned p q) := by
  apply follows_ext
  rintro (err | ⟨token, _ | _⟩)
  · exact ⟨.failed, .unlockable, _, rfl⟩
  · exact ⟨.denied w active 1, .deny (fun a ha => ⟨rfl, hdue a ha⟩), rfl, hforce⟩
  · refine ⟨.locked w active token, .grant (fun a ha => ⟨rfl, hdue a ha⟩), ?_⟩
    exact Conforms.bind ((hbody token).mono (fun g r h => release_follows h))

lemma rotate_follows (hw : Served w.chain) {old : Address}
    (hdue : q.force ∨ p.shouldRotate w old q.fresh.since) :
    Follows lib p q (p.rotate w old q.fresh) (.seen w (some old) 0) (Returned p q) := by
  refine underLock_follows ?_ (.inr nofun) ?_
  · rintro _ ⟨⟩
    exact hdue
  · intro token
    apply follows_store
    rintro (err | _) -
    · exact ⟨.stuck w token, .cling, .inr ⟨_, rfl, .inl rfl⟩⟩
    · refine ⟨.vacant w token, .retire, ?_⟩
      refine Conforms.bind ((deriveNew_follows hw (fun n => .count)).mono ?_)
      rintro g r (⟨a, rfl, rfl⟩ | ⟨err, rfl, hg⟩)
      · exact emit_follows _ _ (.inl ⟨a, rfl, rfl⟩)
      · exact .inr ⟨err, rfl, hg⟩

lemma deriveNewLoop_follows (hw : Served w.chain) (hforce : q.force = false) (retries denials : Nat)
    (hsum : denials + retries = 20) :
    Follows lib p q (p.deriveNewLoop w q.fresh retries) (.seen w none denials) (Returned p q) := by
  induction retries generalizing denials with
  | zero => exact ⟨rfl, hforce, hsum⟩
  | succ retries ih =>
    apply follows_ext
    rintro (err | ⟨token, _ | _⟩)
    · exact ⟨.failed, .unlockable, _, rfl⟩
    · refine ⟨.denied w none (denials + 1), .deny nofun, ?_⟩
      apply follows_store
      intro r hr
      refine ⟨.seen w r.toOption (denials + 1), .lookAgain hforce, ?_⟩
      cases r with
      | ok a => exact ⟨rfl, hforce, .inl (Nat.succ_pos denials)⟩
      | error err =>
        dsimp only
        rw [if_pos (possible_getActiveAddress hr)]
        exact ih (denials + 1) (by omega)
    · refine ⟨.locked w none token, .grant nofun, ?_⟩
      apply follows_store
      intro r hr
      cases r with
      | ok a =>
        refine ⟨.kept w a token, .keep hforce, ?_⟩
        exact follows_ext (fun _ => ⟨.returned a, .settle, rfl⟩)
      | error err =>
        refine ⟨.vacant w token, .find hforce, ?_⟩
        dsimp only
        rw [if_pos (possible_getActiveAddress hr)]
        exact Conforms.bind ((deriveNew_follows hw (fun n => .count)).mono (fun g r h => release_follows h))

lemma getWallet_follows {f : Except Error Wallet → Proc (Except Error Address)}
    (hmissing : ∀ err, f (.error err) = .ret (.error err))
    (hretired : ∀ w, w.state = .retired → f (.ok w) = .ret (.error errWalletRetired))
    (hok : ∀ w, Served w.chain → w.state ≠ .retired →
      Follows lib p q (f (.ok w)) (.loaded w) (Returned p q)) :
    Follows lib p q (store (.getWallet q.walletID) >>= f) .started (Returned p q) := by
  apply follows_store
  rintro (err | w) -
  · rw [hmissing]
    exact ⟨.failed, .unknown, err, rfl⟩
  · by_cases hw : Served w.chain
    · refine ⟨.loaded w, .load hw, ?_⟩
      by_cases hstate : w.state = .retired
      · rw [hretired w hstate]
        exact ⟨hstate, rfl⟩
      · exact hok w hw hstate
    · refine ⟨.foreign, .leave hw, ?_⟩
      refine (foreign_follows _).mono ?_
      rintro _ r rfl
      trivial

lemma getActiveAddress_follows {f : Except Error Address → Proc (Except Error Address)}
    (hlive : w.state ≠ .retired)
    (hnone : ∀ err : Error, err.is = some .errNoRows →
      Follows lib p q (f (.error err)) (.seen w none 0) (Returned p q))
    (hsome : ∀ a, Follows lib p q (f (.ok a)) (.seen w (some a) 0) (Returned p q)) :
    Follows lib p q (store (.getActiveAddress q.walletID) >>= f) (.loaded w) (Returned p q) := by
  apply follows_store
  intro r hr
  refine ⟨.seen w r.toOption 0, .look hlive, ?_⟩
  cases r with
  | error err => exact hnone err (possible_getActiveAddress hr)
  | ok a => exact hsome a

lemma currentOrRotate_follows (hforce : q.force = false) :
    Follows lib p q (p.currentOrRotate q.walletID q.fresh) .started (Returned p q) := by
  refine getWallet_follows (fun err => rfl) (fun w hw => if_pos hw) ?_
  intro w hw hstate
  dsimp only
  rw [if_neg hstate]
  apply getActiveAddress_follows hstate
  · intro err herr
    dsimp only
    rw [if_pos herr]
    exact deriveNewLoop_follows hw hforce 20 0 rfl
  · intro active
    dsimp only
    split
    · rename_i hdue
      exact rotate_follows hw (.inr hdue)
    · rename_i hdue
      exact ⟨rfl, hforce, .inr hdue⟩

lemma forceRotate_follows (hforce : q.force) :
    Follows lib p q (p.forceRotate q.walletID q.fresh) .started (Returned p q) := by
  refine getWallet_follows (fun err => rfl) (fun w hw => if_pos hw) ?_
  intro w hw hstate
  dsimp only
  rw [if_neg hstate]
  apply getActiveAddress_follows hstate
  · intro err herr
    dsimp only
    rw [if_pos herr]
    refine underLock_follows nofun (.inl hforce) ?_
    intro token
    exact deriveNew_follows hw (fun n => .assume hforce)
  · intro active
    exact rotate_follows hw (.inl hforce)

theorem request_follows (lib : Lib) (p : RotationPolicy) (q : Request) :
    Follows lib p q (q.proc p) .started (Returned p q) := by
  unfold Request.proc RotationPolicy.deriveAddress
  split
  · rename_i hforce
    exact forceRotate_follows hforce
  · rename_i hforce
    exact currentOrRotate_follows (by simpa using hforce)

/-- The pool rule for calls of `DeriveAddress`, over any steps that answer like the memory store. -/
theorem requests_lead {T σ : Type} [DecidableEq T] {q : T → Request}
    {step : σ → (c : Call) → Answer c → σ → Prop} {ok : List (T × Event Call Answer) → σ → T → Call → Prop}
    {J : (T → Phase) → List (T × Event Call Answer) → σ → Prop} {s₀ : σ}
    (hpossible : ∀ s c r s', step s c r s' → possible lib c r) (h₀ : J (fun _ => .started) [] s₀)
    (hstep : ∀ γ log s t c r s' g', J γ log s → Moves p (q t) (γ t) c r g' → ok log s t c →
      step s c r s' → J (Function.update γ t g') (log ++ [(t, ⟨c, r⟩)]) s')
    {P : Pool T Call Answer (Except Error Address) σ}
    (h : Pool.Leads step ok (Pool.start s₀ (fun t => (q t).proc p)) P) :
    ∃ γ, J γ P.log P.shared ∧ ∀ t r, P.threads t = some (.ret r) → Returned p (q t) (γ t) r := by
  obtain ⟨γ, hJ, hconf⟩ := h.invariant (J := J) (π := fun t => rotationProtocol lib p (q t))
    (fun t => request_follows lib p (q t)) h₀ (fun _ => hpossible) hstep
  refine ⟨γ, hJ, ?_⟩
  intro t r hr
  obtain ⟨prog, hprog, ht⟩ := hconf t
  rw [hr] at hprog
  cases hprog
  exact ht

end Program

section Locks

variable {T : Type} [DecidableEq T] {lib : Lib} {p : RotationPolicy} {q : Request} {denials : Prop}
  {W W' : World} {c : Call} {r : Answer c}

lemma lockStep_memStep (h : lockStep lib denials W c r W') : memStep lib W.store c r W'.store := by
  cases c with
  | store c => exact h.1
  | ext c =>
    cases c with
    | acquire name ttl =>
      rcases h with ⟨token, -, hstore⟩ | ⟨-, -, rfl⟩
      · exact hstore
      · rfl
    | release name token => exact h.2
    | _ => exact h.1

lemma acquire_granted {l l' : MemLocker} {name token token' : String}
    (h : (.ok (token, true), l') = l.acquire name token') :
    name ∉ l.locks ∧ l'.locks = l.locks.insert name token := by
  unfold MemLocker.acquire at h
  split at h
  · cases h
  · rename_i hfree
    cases h
    exact ⟨hfree, rfl⟩

lemma acquire_ne_error {l l' : MemLocker} {name token : String} {err : Error} :
    (.error err, l') ≠ l.acquire name token := by
  intro h
  unfold MemLocker.acquire at h
  split at h <;> cases h

lemma acquire_denied {l l' : MemLocker} {name token token' : String}
    (h : (.ok (token, false), l') = l.acquire name token') : name ∈ l.locks ∧ l' = l := by
  unfold MemLocker.acquire at h
  split at h
  · rename_i hheld
    exact ⟨hheld, congrArg Prod.snd h⟩
  · cases h

lemma countedAt_token (w : Wallet) (n : Int) (token : String) :
    Phase.token (countedAt w n token) = some token := by
  unfold countedAt
  split <;> rfl

theorem Moves.mutex {w : Wallet} {γ : T → Phase} {t : T} {g' : Phase} (hm : Moves p q (γ t) c r g')
    (hs : lockStep lib denials W c r W') (hw : ∀ w', Phase.wallet (γ t) = some w' → w' = w)
    (hforeign : γ t ≠ .foreign)
    (h : Mutex Phase.token γ (W.locker.locks.lookup (RotationPolicy.lockName w))) :
    Mutex Phase.token (Function.update γ t g') (W'.locker.locks.lookup (RotationPolicy.lockName w)) := by
  have hkeep : W'.locker = W.locker → Phase.token g' = Phase.token (γ t) →
      Mutex Phase.token (Function.update γ t g')
        (W'.locker.locks.lookup (RotationPolicy.lockName w)) := by
    intro hlocks htoken
    rw [hlocks]
    exact h.keep htoken
  have hrelease : ∀ {w' token} {ans : Except Error Unit}, Phase.wallet (γ t) = some w' →
      Phase.token (γ t) = some token → Phase.token g' = none →
      (ans, W'.locker) = W.locker.release (RotationPolicy.lockName w') token →
      Mutex Phase.token (Function.update γ t g')
        (W'.locker.locks.lookup (RotationPolicy.lockName w)) := by
    intro w' token ans hw' htoken hnone hlocker
    rw [hw w' hw', MemLocker.release, if_pos (h.held t token htoken)] at hlocker
    have hlocks := congrArg (fun x => x.2.locks) hlocker
    dsimp only at hlocks
    rw [hlocks, AList.lookup_erase]
    exact h.release htoken hnone
  generalize hg : γ t = g at hm hw hforeign hkeep hrelease
  cases hm with
  | wander => exact absurd rfl hforeign
  | @grant w' active n token =>
    rcases hs with ⟨token', hlocker, -⟩ | ⟨-, ⟨token', hr⟩, -⟩
    · obtain ⟨hfree, hlocks⟩ := acquire_granted hlocker
      rw [hw w' rfl] at hfree hlocks
      rw [hlocks, AList.lookup_insert]
      rw [AList.lookup_eq_none.mpr hfree] at h
      exact h.acquire rfl
    · cases hr
  | deny =>
    rcases hs with ⟨token', hlocker, -⟩ | ⟨-, -, rfl⟩
    · exact hkeep (acquire_denied hlocker).2 rfl
    · exact hkeep rfl rfl
  | unlockable =>
    rcases hs with ⟨token', hlocker, -⟩ | ⟨-, ⟨token', hr⟩, -⟩
    · exact absurd hlocker acquire_ne_error
    · cases hr
  | abandon => exact hrelease rfl rfl rfl hs.1
  | finish | settle | giveUp => exact hrelease rfl rfl rfl hs.1
  | assume | count => exact hkeep hs.2 (countedAt_token _ _ _)
  | _ => exact hkeep hs.2 rfl

end Locks

end WalletManager.Proofs
