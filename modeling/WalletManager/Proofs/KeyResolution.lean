import WalletManager.Proofs.AuthGate
import WalletManager.Proofs.KeyRotation
import WalletManager.Storage.Rules

/-!
# Resolution of a wallet's keys

What the signing path and the lookup service read from the mappings of a wallet. Both see the
current mapping and the cooling ones in the order of their activation, and neither looks at
the end of a cooling one.
-/

namespace WalletManager.Proofs

open Interaction Rotation

def activeMappings (s : Store) (walletID : UUID) : List KeyMapping :=
  (s.mappings walletID).filter (fun m => m.rotationState = .current ∨ m.rotationState = .cooling)

def resolvedMappings (lib : Lib) (s : Store) (walletID : UUID) : List KeyMapping :=
  lib.sortSlice (fun a b => decide (a.activeFrom < b.activeFrom)) (activeMappings s walletID)

section Reads

variable {lib : Lib} {s : Store} {walletID : UUID} {α : Type}

lemma resolveActive_yields (lib : Lib) (hne : activeMappings s walletID ≠ []) :
    Yields (memStep lib) (resolveActive walletID) s (.ok (resolvedMappings lib s walletID)) := by
  refine yields_read rfl ?_
  rw [show (s.handle lib (.resolveActiveKey walletID)).1 = _ from if_neg hne]
  exact yields_ret _

lemma resolveActive_fails (lib : Lib) (hnil : activeMappings s walletID = []) :
    Yields (memStep lib) (resolveActive walletID) s (.error
      ((errNoRows.wrap "no active key mapping").wrap ("no active key for wallet " ++ walletID.string))) := by
  refine yields_read rfl ?_
  rw [show (s.handle lib (.resolveActiveKey walletID)).1 = _ from if_pos hnil]
  exact yields_ret _

lemma resolveActiveKeyID_fails (lib : Lib) (hnil : activeMappings s walletID = []) :
    Yields (memStep lib) (resolveActiveKeyID walletID) s (.error
      ((errNoRows.wrap "no active key mapping").wrap ("no active key for wallet " ++ walletID.string))) :=
  (resolveActive_fails lib hnil).bind (yields_ret _)

variable (hsort : LawfulSort lib)
include hsort

lemma mem_resolvedMappings {m : KeyMapping} : m ∈ resolvedMappings lib s walletID ↔
    m ∈ s.mappings walletID ∧ (m.rotationState = .current ∨ m.rotationState = .cooling) := by
  rw [resolvedMappings, (hsort.perm _ _).mem_iff, activeMappings, List.mem_filter, decide_eq_true_iff]

lemma resolvedMappings_eq_nil :
    resolvedMappings lib s walletID = [] ↔ activeMappings s walletID = [] := by
  rw [← List.length_eq_zero_iff, resolvedMappings, (hsort.perm _ _).length_eq,
    List.length_eq_zero_iff]

lemma resolveActiveKeyID_yields (hne : activeMappings s walletID ≠ []) :
    ∃ m ∈ resolvedMappings lib s walletID,
      (∀ m' ∈ resolvedMappings lib s walletID, m.activeFrom ≤ m'.activeFrom) ∧
      Yields (memStep lib) (resolveActiveKeyID walletID) s (.ok m.keyID) := by
  have hresolve := resolveActive_yields lib hne
  have hsorted : (resolvedMappings lib s walletID).Pairwise (fun a b => a.activeFrom ≤ b.activeFrom) :=
    hsort.sorted KeyMapping.activeFrom _
  rw [ne_eq, ← resolvedMappings_eq_nil hsort] at hne
  cases hms : resolvedMappings lib s walletID with
  | nil => exact absurd hms hne
  | cons m ms =>
    rw [hms] at hresolve hsorted
    refine ⟨m, List.mem_cons_self, ?_, hresolve.bind (yields_ret _)⟩
    intro m' hm'
    rcases List.mem_cons.mp hm' with rfl | hm'
    · exact le_rfl
    · exact List.rel_of_pairwise_cons hsorted hm'

end Reads

lemma foldl_current {k : String} {ms : List KeyMapping}
    (hkey : ∀ m ∈ ms, m.rotationState = .current → m.keyID = k)
    (hex : ∃ m ∈ ms, m.rotationState = .current) :
    ms.foldl (fun current m => if m.rotationState = .current then m.keyID else current) "" = k := by
  induction ms using List.reverseRecOn with
  | nil =>
    obtain ⟨m, hm, -⟩ := hex
    cases hm
  | append_singleton ms m ih =>
    rw [List.foldl_append, List.foldl_cons, List.foldl_nil]
    split
    · rename_i hcurrent
      exact hkey m (by simp) hcurrent
    · rename_i hcurrent
      refine ih (fun m' hm' => hkey m' (by simp [hm'])) ?_
      obtain ⟨m', hm', hcurrent'⟩ := hex
      rcases List.mem_append.mp hm' with hm' | hm'
      · exact ⟨m', hm', hcurrent'⟩
      · rw [List.mem_singleton.mp hm'] at hcurrent'
        exact absurd hcurrent' hcurrent

section Handlers

variable {lib : Lib} {s : Store} {walletID : UUID} {history : List (Change String Int)}

lemma resolveKeyIDHandler_yields (lib : Lib) (srv : Server) (ctx : CallContext)
    (req : ResolveKeyIDRequest) (interceptor : UnaryServerInterceptor)
    (hreq : srv.lib.parseUUID req.walletID = .ok walletID)
    (hne : activeMappings s walletID ≠ []) :
    Yields (memStep lib) (srv.resolveKeyIDHandler ctx (.ok req) interceptor) s
      (.ok (.resolved ((resolvedMappings lib s walletID).map KeyMapping.keyID)
        ((resolvedMappings lib s walletID).foldl
          (fun current m => if m.rotationState = .current then m.keyID else current) ""))) := by
  unfold Server.resolveKeyIDHandler
  dsimp only
  rw [hreq]
  exact (resolveActive_yields lib hne).bind (yields_ret _)

lemma Mirrors.active_ne_nil (h : Mirrors (s.mappings walletID) history)
    (hne : s.mappings walletID ≠ []) : activeMappings s walletID ≠ [] := by
  obtain ⟨m, hm, hcurrent⟩ := h.exists_current hne
  apply List.ne_nil_of_mem (a := m)
  rw [activeMappings, List.mem_filter, decide_eq_true_iff]
  exact ⟨hm, .inl hcurrent⟩

lemma Mirrors.reported (h : Mirrors (s.mappings walletID) history) (hsort : LawfulSort lib)
    {cur : KeyMapping} (hcur : cur ∈ s.mappings walletID) (hcurrent : cur.rotationState = .current) :
    (resolvedMappings lib s walletID).foldl
      (fun current m => if m.rotationState = .current then m.keyID else current) "" = cur.keyID := by
  apply foldl_current
  · intro m hm hm'
    rw [mem_resolvedMappings hsort] at hm
    rw [h.current_iff hm.1] at hm'
    rw [h.current_iff hcur, hm', Option.some.injEq] at hcurrent
    exact hcurrent
  · exact ⟨cur, (mem_resolvedMappings hsort).mpr ⟨hcur, .inl hcurrent⟩, hcurrent⟩

lemma Mirrors.mem_resolved_keys (h : Mirrors (s.mappings walletID) history) (hsort : LawfulSort lib)
    (k : String) : k ∈ (resolvedMappings lib s walletID).map KeyMapping.keyID ↔
      latest history = some k ∨ ∃ till, CoolingTill k till history := by
  constructor
  · intro hk
    obtain ⟨m, hm, rfl⟩ := List.mem_map.mp hk
    rw [mem_resolvedMappings hsort] at hm
    rcases hm with ⟨hm, hcurrent | hcooling⟩
    · exact .inl ((h.current_iff hm).mp hcurrent)
    · have hend := (keyPhase_ends (h.shown m hm)).2 hcooling
      obtain ⟨till, htill⟩ := Option.ne_none_iff_exists'.mp hend
      exact .inr ⟨till, (h.cooling_iff hm).mp ⟨hcooling, htill⟩⟩
  · rintro (hk | ⟨till, hk⟩)
    · obtain ⟨m, hm, rfl, hcurrent⟩ := h.of_latest hk
      exact List.mem_map_of_mem ((mem_resolvedMappings hsort).mpr ⟨hm, .inl hcurrent⟩)
    · obtain ⟨m, hm, rfl, hcooling, -⟩ := h.of_cooling hk
      exact List.mem_map_of_mem ((mem_resolvedMappings hsort).mpr ⟨hm, .inr hcooling⟩)

lemma Mirrors.cooling_of_resolved (h : Mirrors (s.mappings walletID) history)
    (hsort : LawfulSort lib) {m : KeyMapping} (hm : m ∈ resolvedMappings lib s walletID) {till : Int}
    (htill : m.activeTo = some till) : CoolingTill m.keyID till history := by
  rw [mem_resolvedMappings hsort] at hm
  rcases hm with ⟨hm, hcurrent | hcooling⟩
  · rw [(keyPhase_ends (h.shown m hm)).1 hcurrent] at htill
    cases htill
  · exact (h.cooling_iff hm).mp ⟨hcooling, htill⟩

lemma eq_resolvedMappings {ms : List KeyMapping}
    (h : Yields (memStep lib) (resolveActive walletID) s (.ok ms)) :
    ms = resolvedMappings lib s walletID := by
  by_cases hne : activeMappings s walletID = []
  · cases (resolveActive_fails lib hne).unique h
  · exact Except.ok.inj ((resolveActive_yields lib hne).unique h)

lemma exists_resolved_key (hsort : LawfulSort lib) {k : String}
    (h : Yields (memStep lib) (resolveActiveKeyID walletID) s (.ok k)) :
    ∃ m ∈ resolvedMappings lib s walletID, m.keyID = k := by
  by_cases hne : activeMappings s walletID = []
  · cases (resolveActiveKeyID_fails lib hne).unique h
  · obtain ⟨m, hm, -, hyields⟩ := resolveActiveKeyID_yields hsort hne
    exact ⟨m, hm, (Except.ok.inj (hyields.unique h)).symm⟩

end Handlers

/-- The lookup service reports the current key of a wallet, and the signing path gets the key
of the active mapping that was activated first. They agree if no mapping is cooling, and
differ if a cooling one was activated before the current one. -/
theorem signing_key_is_first_active {svc : Provisioning} {log : ProvisionLog} {s : Store}
    (hsort : LawfulSort svc.wallets.lib)
    (h : Runs (ProvisionOp.proc svc) (memStep svc.wallets.lib) (fun _ _ => True) {} log s)
    (walletID : UUID) (hne : s.mappings walletID ≠ []) (srv : Server) (ctx : CallContext)
    (req : ResolveKeyIDRequest) (interceptor : UnaryServerInterceptor)
    (hreq : srv.lib.parseUUID req.walletID = .ok walletID) :
    ∃ cur ∈ s.mappings walletID, ∃ m ∈ s.mappings walletID, ∃ keyIDs,
      cur.rotationState = .current ∧
      Yields (memStep svc.wallets.lib) (srv.resolveKeyIDHandler ctx (.ok req) interceptor) s
        (.ok (.resolved keyIDs cur.keyID)) ∧
      Yields (memStep svc.wallets.lib) (resolveActiveKeyID walletID) s (.ok m.keyID) ∧
      (m.rotationState = .current ∨ m.rotationState = .cooling) ∧
      (∀ m' ∈ s.mappings walletID, m'.rotationState = .current ∨ m'.rotationState = .cooling →
        m.activeFrom ≤ m'.activeFrom) ∧
      ((∀ m' ∈ s.mappings walletID, m'.rotationState ≠ .cooling) → m.keyID = cur.keyID) ∧
      ∀ m' ∈ s.mappings walletID, m'.rotationState = .cooling → m'.activeFrom < cur.activeFrom →
        m.keyID ≠ cur.keyID := by
  have hmirror := mirrors_of_runs h walletID
  have hactive := hmirror.active_ne_nil hne
  obtain ⟨cur, hcur, hcurrent⟩ := hmirror.exists_current hne
  obtain ⟨m, hm, hfirst, hyields⟩ := resolveActiveKeyID_yields hsort hactive
  rw [mem_resolvedMappings hsort] at hm
  have hfirst' : ∀ m' ∈ s.mappings walletID,
      m'.rotationState = .current ∨ m'.rotationState = .cooling → m.activeFrom ≤ m'.activeFrom :=
    fun m' hm' hstate => hfirst m' ((mem_resolvedMappings hsort).mpr ⟨hm', hstate⟩)
  have hhandler := resolveKeyIDHandler_yields svc.wallets.lib srv ctx req interceptor hreq hactive
  rw [hmirror.reported hsort hcur hcurrent] at hhandler
  refine ⟨cur, hcur, m, hm.1, _, hcurrent, hhandler, hyields, hm.2, hfirst', ?_, ?_⟩
  · intro hnone
    have hm' : m.rotationState = .current := hm.2.resolve_right (hnone m hm.1)
    rw [hmirror.current_iff hm.1] at hm'
    rw [hmirror.current_iff hcur, hm', Option.some.injEq] at hcurrent
    exact hcurrent
  · intro m' hm' hcooling hlt hkey
    have hle := hfirst' m' hm' (.inr hcooling)
    rw [hmirror.eq_of_keyID hm.1 hcur hkey] at hle
    omega

def sweptRun : ProvisionLog × Store :=
  provisionRun [.bind evmWallet.id "a" 1, .rotate evmWallet.id "b" 2, .expireCooling 13]

lemma sweptRun_runs : Runs (ProvisionOp.proc referenceProvisioning)
    (memStep referenceProvisioning.wallets.lib) (fun _ _ => True) {} sweptRun.1 sweptRun.2 :=
  provisionRun_runs _

def keyRequest : ResolveKeyIDRequest := ⟨"00000000-0000-0000-0000-000000000001"⟩

theorem signing_key_is_first_active_swept :
    sweptRun.2.mappings evmWallet.id =
        [⟨evmWallet.id, "a", 1, some 12, .retired⟩, ⟨evmWallet.id, "b", 2, none, .current⟩] ∧
      ∃ k keyIDs,
        Yields (memStep referenceLib)
          (guardedServer.resolveKeyIDHandler anonymous (.ok keyRequest) guardedServer.interceptor)
          sweptRun.2 (.ok (.resolved keyIDs k)) ∧
        Yields (memStep referenceLib) (resolveActiveKeyID evmWallet.id) sweptRun.2 (.ok k) := by
  have hmappings : sweptRun.2.mappings evmWallet.id =
      [⟨evmWallet.id, "a", 1, some 12, .retired⟩, ⟨evmWallet.id, "b", 2, none, .current⟩] := by
    decide +kernel
  have hne : sweptRun.2.mappings evmWallet.id ≠ [] := by simp [hmappings]
  obtain ⟨cur, -, m, -, keyIDs, -, hhandler, hyields, -, -, hagree, -⟩ :=
    signing_key_is_first_active referenceLib_sorts sweptRun_runs evmWallet.id hne
      guardedServer anonymous keyRequest guardedServer.interceptor rfl
  have hcool : ∀ m' ∈ sweptRun.2.mappings evmWallet.id, m'.rotationState ≠ .cooling := by
    simp [hmappings]
  rw [hagree hcool] at hyields
  exact ⟨hmappings, cur.keyID, keyIDs, hhandler, hyields⟩

def rotatedRun : ProvisionLog × Store :=
  provisionRun [.bind evmWallet.id "a" 1, .rotate evmWallet.id "b" 2]

lemma rotatedRun_resolved : resolvedMappings referenceLib rotatedRun.2 evmWallet.id =
    [⟨evmWallet.id, "a", 1, some 12, .cooling⟩, ⟨evmWallet.id, "b", 2, none, .current⟩] := by
  decide +kernel

lemma rotatedRun_active : activeMappings rotatedRun.2 evmWallet.id ≠ [] := by
  decide +kernel

theorem signing_key_differs_from_current :
    Runs (ProvisionOp.proc referenceProvisioning) (memStep referenceLib) (fun _ _ => True) {}
        rotatedRun.1 rotatedRun.2 ∧
      Yields (memStep referenceLib) (resolveActiveKeyID evmWallet.id) rotatedRun.2 (.ok "a") ∧
      Yields (memStep referenceLib)
        (guardedServer.resolveKeyIDHandler anonymous (.ok keyRequest) guardedServer.interceptor)
        rotatedRun.2 (.ok (.resolved ["a", "b"] "b")) := by
  have hresolve := resolveActive_yields referenceLib rotatedRun_active
  have hhandler := resolveKeyIDHandler_yields referenceLib guardedServer anonymous keyRequest
    guardedServer.interceptor rfl rotatedRun_active
  rw [rotatedRun_resolved] at hresolve hhandler
  exact ⟨provisionRun_runs _, hresolve.bind (yields_ret _), hhandler⟩

/-- `ResolveActive` returns the mappings of the latest key and of the keys that are cooling and
have not been swept. It and `ResolveActiveKeyID` return no mapping that ended before `t`
exactly if every key whose cooling period ended before `t` was swept after that end, or was
made current again. -/
theorem unexpired_iff_swept {svc : Provisioning} {log : ProvisionLog} {s : Store}
    (hsort : LawfulSort svc.wallets.lib)
    (h : Runs (ProvisionOp.proc svc) (memStep svc.wallets.lib) (fun _ _ => True) {} log s)
    (walletID : UUID) (t : Int) :
    (∀ ms, Yields (memStep svc.wallets.lib) (resolveActive walletID) s (.ok ms) →
      ∀ k, k ∈ ms.map KeyMapping.keyID ↔ latest (keyHistory svc walletID log) = some k ∨
        ∃ till, CoolingTill k till (keyHistory svc walletID log)) ∧
    ((∀ ms, Yields (memStep svc.wallets.lib) (resolveActive walletID) s (.ok ms) →
        ∀ m ∈ ms, ∀ till, m.activeTo = some till → t ≤ till) ∧
      (∀ k, Yields (memStep svc.wallets.lib) (resolveActiveKeyID walletID) s (.ok k) →
        ∀ m ∈ s.mappings walletID, m.keyID = k → ∀ till, m.activeTo = some till → t ≤ till) ↔
      ∀ k till, CoolingTill k till (keyHistory svc walletID log) → t ≤ till) := by
  have hmirror := mirrors_of_runs h walletID
  constructor
  · intro ms hms
    rw [eq_resolvedMappings hms]
    exact hmirror.mem_resolved_keys hsort
  constructor
  · rintro ⟨hactive, -⟩ k till hk
    obtain ⟨m, hm, -, hcooling, htill⟩ := hmirror.of_cooling hk
    have hne := hmirror.active_ne_nil (List.ne_nil_of_mem hm)
    have hmem := (mem_resolvedMappings hsort).mpr ⟨hm, .inr hcooling⟩
    exact hactive _ (resolveActive_yields svc.wallets.lib hne) m hmem till htill
  · intro hswept
    constructor
    · intro ms hms m hm till htill
      rw [eq_resolvedMappings hms] at hm
      exact hswept m.keyID till (hmirror.cooling_of_resolved hsort hm htill)
    · intro k hk m hm hkey till htill
      obtain ⟨m', hm', hkey'⟩ := exists_resolved_key hsort hk
      have hmem := ((mem_resolvedMappings hsort).mp hm').1
      rw [← hmirror.eq_of_keyID hmem hm (hkey'.trans hkey.symm)] at htill
      exact hswept m'.keyID till (hmirror.cooling_of_resolved hsort hm' htill)

theorem unexpired_iff_swept_later :
    (∀ k till, CoolingTill k till
        (keyHistory referenceProvisioning evmWallet.id sweptRun.1) → 100 ≤ till) ∧
      ∀ ms, Yields (memStep referenceLib) (resolveActive evmWallet.id) sweptRun.2 (.ok ms) →
        ∀ m ∈ ms, ∀ till, m.activeTo = some till → 100 ≤ till := by
  have hhistory : keyHistory referenceProvisioning evmWallet.id sweptRun.1 =
      [.promote "a" 11, .promote "b" 12, .sweep 13] := by decide +kernel
  have hswept : ∀ k till, CoolingTill k till
      (keyHistory referenceProvisioning evmWallet.id sweptRun.1) → 100 ≤ till := by
    intro k till hk
    rw [hhistory, ← phase_eq_cooling_iff] at hk
    by_cases ha : "a" = k <;> by_cases hb : "b" = k <;>
      simp [phase, Phase.next, Phase.replaced, Phase.swept, ha, hb] at hk
  have hiff := (unexpired_iff_swept referenceLib_sorts sweptRun_runs evmWallet.id 100).2
  exact ⟨hswept, (hiff.mpr hswept).1⟩

theorem expired_key_resolves :
    Runs (ProvisionOp.proc referenceProvisioning) (memStep referenceLib) (fun _ _ => True) {}
        rotatedRun.1 rotatedRun.2 ∧
      Yields (memStep referenceLib) (resolveActive evmWallet.id) rotatedRun.2
        (.ok [⟨evmWallet.id, "a", 1, some 12, .cooling⟩, ⟨evmWallet.id, "b", 2, none, .current⟩]) ∧
      Yields (memStep referenceLib) (resolveActiveKeyID evmWallet.id) rotatedRun.2 (.ok "a") ∧
      (12 : Int) < 100 := by
  have hresolve := resolveActive_yields referenceLib rotatedRun_active
  rw [rotatedRun_resolved] at hresolve
  exact ⟨provisionRun_runs _, hresolve, hresolve.bind (yields_ret _), by decide⟩

end WalletManager.Proofs
