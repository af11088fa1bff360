import WalletManager.Proofs.Reference
import WalletManager.Proofs.Views
import WalletManager.Rotation.KeyRing

/-!
# Rotation of a wallet's keys

The mappings of a wallet mirror the history of its bindings, rotations and sweeps: every
mapping has the phase that the history gives its key. So a wallet with a mapping has exactly
one current key, the one it was bound or rotated to last.
-/

namespace WalletManager.Proofs

open Interaction Rotation

abbrev ProvisionLog := List (Entry ProvisionOp Call Answer (Except Error Unit))

def keyChange (svc : Provisioning) (walletID : UUID) :
    ProvisionOp → Except Error Unit → Option (Change String Int)
  | .bind id keyID now, .ok () | .rotate id keyID now, .ok () =>
    if id = walletID then some (.promote keyID (now + svc.keys.keyCoolingPeriod)) else none
  | .expireCooling now, .ok () => some (.sweep now)
  | _, _ => none

def keyHistory (svc : Provisioning) (walletID : UUID) (log : ProvisionLog) :
    List (Change String Int) :=
  log.filterMap (fun e => keyChange svc walletID e.op e.result)

/-- The phase that a mapping shows. A current mapping with an end and a cooling one without
show none. -/
def keyPhase (m : KeyMapping) : Option (Phase Int) :=
  match m.rotationState, m.activeTo with
  | .current, none => some .current
  | .cooling, some till => some (.cooling till)
  | .retired, _ => some .retired
  | _, _ => none

structure Mirrors (ms : List KeyMapping) (history : List (Change String Int)) : Prop where
  distinct : (ms.map KeyMapping.keyID).Nodup
  shown : ∀ m ∈ ms, keyPhase m = some (phase history m.keyID)
  complete : ∀ k, phase history k ≠ .absent → ∃ m ∈ ms, m.keyID = k

section Mappings

variable {m : KeyMapping} {ms ms' : List KeyMapping} {history : List (Change String Int)}
  {st : Phase Int} {k : String} {till now : Int}

lemma keyPhase_ne_absent : keyPhase m ≠ some .absent := by
  unfold keyPhase
  split <;> simp

lemma keyPhase_eq_current :
    keyPhase m = some .current ↔ m.rotationState = .current ∧ m.activeTo = none := by
  unfold keyPhase
  split <;> simp_all

lemma keyPhase_eq_cooling : keyPhase m = some (.cooling till) ↔
    m.rotationState = .cooling ∧ m.activeTo = some till := by
  unfold keyPhase
  split <;> simp_all

lemma keyPhase_ends (h : keyPhase m = some st) :
    (m.rotationState = .current → m.activeTo = none) ∧
      (m.rotationState = .cooling → m.activeTo ≠ none) := by
  unfold keyPhase at h
  split at h <;> simp_all

@[simp] lemma demote_keyID : (Store.demote till m).keyID = m.keyID := by
  unfold Store.demote
  split <;> rfl

@[simp] lemma retire_keyID : (Store.retire now m).keyID = m.keyID := by
  unfold Store.retire
  split <;> rfl

lemma keyPhase_demote (h : keyPhase m = some st) :
    keyPhase (Store.demote till m) = some (st.replaced till) := by
  obtain ⟨walletID, keyID, activeFrom, activeTo, rotationState⟩ := m
  cases rotationState <;> cases activeTo <;> cases h <;> rfl

lemma keyPhase_retire (h : keyPhase m = some st) :
    keyPhase (Store.retire now m) = some (st.swept now) := by
  obtain ⟨walletID, keyID, activeFrom, activeTo, rotationState⟩ := m
  cases rotationState with
  | current =>
    cases activeTo <;> cases h
    rfl
  | retired =>
    cases h
    rfl
  | cooling =>
    cases activeTo with
    | none => cases h
    | some till =>
      cases h
      by_cases hlt : till < now <;> simp [Store.retire, keyPhase, Phase.swept, hlt]

lemma promote_eq_none : Store.promote k now ms = none ↔ ∀ m ∈ ms, m.keyID ≠ k := by
  induction ms with
  | nil => simp [Store.promote]
  | cons m ms ih =>
    unfold Store.promote
    split
    · simp_all
    · simp_all

/-- What the second loop of a rotation to `k` makes of the mappings `ms`: the mapping of `k` is
current, and the others are as they were. -/
structure Promoted (k : String) (ms ms' : List KeyMapping) : Prop where
  distinct : (ms'.map KeyMapping.keyID).Nodup
  cases : ∀ m ∈ ms', m.keyID = k ∧ keyPhase m = some .current ∨ m.keyID ≠ k ∧ m ∈ ms
  keys : ∀ k', k' ∈ ms'.map KeyMapping.keyID ↔ k' = k ∨ k' ∈ ms.map KeyMapping.keyID

lemma promoted_of_none (hnodup : (ms.map KeyMapping.keyID).Nodup)
    (h : Store.promote k now ms = none) (hk : m.keyID = k) (hm : keyPhase m = some .current) :
    Promoted k ms (ms ++ [m]) := by
  have hfresh := promote_eq_none.mp h
  refine ⟨?_, ?_, ?_⟩
  · rw [List.map_append, List.nodup_append_comm, List.map_singleton, List.singleton_append,
      List.nodup_cons, hk]
    refine ⟨?_, hnodup⟩
    intro hmem
    obtain ⟨m', hm', hk'⟩ := List.mem_map.mp hmem
    exact hfresh m' hm' hk'
  · intro m' hm'
    rcases List.mem_append.mp hm' with hm' | hm'
    · exact .inr ⟨hfresh m' hm', hm'⟩
    · rw [List.mem_singleton.mp hm']
      exact .inl ⟨hk, hm⟩
  · intro k'
    simp [hk, or_comm]

lemma promoted_of_some (hnodup : (ms.map KeyMapping.keyID).Nodup)
    (h : Store.promote k now ms = some ms') : Promoted k ms ms' := by
  induction ms generalizing ms' with
  | nil => cases h
  | cons m ms ih =>
    rw [List.map_cons, List.nodup_cons] at hnodup
    unfold Store.promote at h
    split at h
    · rename_i hk
      cases h
      refine ⟨by simpa using hnodup, ?_, by simp [hk]⟩
      intro m' hm'
      rcases List.mem_cons.mp hm' with rfl | hm'
      · exact .inl ⟨hk, rfl⟩
      · refine .inr ⟨?_, List.mem_cons_of_mem _ hm'⟩
        rintro rfl
        exact hnodup.1 (hk ▸ List.mem_map_of_mem hm')
    · rename_i hk
      obtain ⟨rest, hrest, rfl⟩ := Option.map_eq_some_iff.mp h
      have hp := ih hnodup.2 hrest
      refine ⟨?_, ?_, ?_⟩
      · rw [List.map_cons, List.nodup_cons]
        refine ⟨?_, hp.distinct⟩
        rw [hp.keys]
        exact not_or_intro hk hnodup.1
      · intro m' hm'
        rcases List.mem_cons.mp hm' with rfl | hm'
        · exact .inr ⟨hk, List.mem_cons_self⟩
        · exact (hp.cases m' hm').imp_right (fun hold => ⟨hold.1, List.mem_cons_of_mem _ hold.2⟩)
      · intro k'
        rw [List.map_cons, List.mem_cons, hp.keys, List.map_cons, List.mem_cons]
        exact or_left_comm

lemma mirrors_nil : Mirrors [] [] := by
  refine ⟨List.nodup_nil, by simp, ?_⟩
  intro k hk
  exact absurd (phase_nil k) hk

lemma Mirrors.phase_eq_iff (h : Mirrors ms history) (hm : m ∈ ms) :
    phase history m.keyID = st ↔ keyPhase m = some st := by
  rw [h.shown m hm, Option.some.injEq]

lemma Mirrors.of_latest (h : Mirrors ms history) (hk : latest history = some k) :
    ∃ m ∈ ms, m.keyID = k ∧ m.rotationState = .current := by
  rw [← phase_eq_current_iff] at hk
  obtain ⟨m, hm, rfl⟩ := h.complete k (by rw [hk]; simp)
  rw [h.phase_eq_iff hm, keyPhase_eq_current] at hk
  exact ⟨m, hm, rfl, hk.1⟩

lemma Mirrors.of_cooling (h : Mirrors ms history) (hk : CoolingTill k till history) :
    ∃ m ∈ ms, m.keyID = k ∧ m.rotationState = .cooling ∧ m.activeTo = some till := by
  rw [← phase_eq_cooling_iff] at hk
  obtain ⟨m, hm, rfl⟩ := h.complete k (by rw [hk]; simp)
  rw [h.phase_eq_iff hm, keyPhase_eq_cooling] at hk
  exact ⟨m, hm, rfl, hk⟩

lemma Mirrors.exists_current (h : Mirrors ms history) (hne : ms ≠ []) :
    ∃ m ∈ ms, m.rotationState = .current := by
  obtain ⟨m, hm⟩ := List.exists_mem_of_ne_nil ms hne
  have hpresent : phase history m.keyID ≠ .absent := by
    rw [Ne, h.phase_eq_iff hm]
    exact keyPhase_ne_absent
  obtain ⟨k, hk⟩ := exists_latest hpresent
  obtain ⟨m', hm', -, hcurrent⟩ := h.of_latest hk
  exact ⟨m', hm', hcurrent⟩

lemma Mirrors.bind (h : Mirrors [] history) (hm : keyPhase m = some .current) :
    Mirrors [m] (history ++ [.promote m.keyID till]) := by
  have habsent : ∀ k, phase history k = .absent := by
    intro k
    by_contra hk
    obtain ⟨m', hm', -⟩ := h.complete k hk
    cases hm'
  refine ⟨by simp, by simpa using hm, ?_⟩
  intro k hk
  rw [phase_append_promote, habsent] at hk
  refine ⟨m, by simp, ?_⟩
  by_contra hne
  rw [if_neg hne] at hk
  exact hk rfl

theorem Mirrors.rotate (h : Mirrors ms history)
    (hp : Promoted k (ms.map (Store.demote till)) ms') :
    Mirrors ms' (history ++ [.promote k till]) := by
  refine ⟨hp.distinct, ?_, ?_⟩
  · intro m hm
    rcases hp.cases m hm with ⟨hk, hcurrent⟩ | ⟨hne, hm⟩
    · rw [hk, phase_append_promote, if_pos rfl]
      exact hcurrent
    · obtain ⟨m₀, hm₀, rfl⟩ := List.mem_map.mp hm
      rw [demote_keyID] at hne ⊢
      rw [phase_append_promote, if_neg hne.symm]
      exact keyPhase_demote (h.shown m₀ hm₀)
  · intro k' hk'
    suffices hmem : k' ∈ ms'.map KeyMapping.keyID from List.mem_map.mp hmem
    rw [hp.keys]
    by_cases hkk : k = k'
    · exact .inl hkk.symm
    · have hbefore : phase history k' ≠ .absent := by
        intro habsent
        rw [phase_append_promote, if_neg hkk, habsent] at hk'
        exact hk' rfl
      obtain ⟨m, hm, rfl⟩ := h.complete k' hbefore
      exact .inr (List.mem_map.mpr ⟨_, List.mem_map_of_mem hm, demote_keyID⟩)

theorem Mirrors.sweep (h : Mirrors ms history) :
    Mirrors (ms.map (Store.retire now)) (history ++ [.sweep now]) := by
  refine ⟨?_, ?_, ?_⟩
  · simpa [Function.comp_def] using h.distinct
  · intro m hm
    obtain ⟨m₀, hm₀, rfl⟩ := List.mem_map.mp hm
    rw [retire_keyID, phase_append_sweep]
    exact keyPhase_retire (h.shown m₀ hm₀)
  · intro k hk
    have hbefore : phase history k ≠ .absent := by
      intro habsent
      rw [phase_append_sweep, habsent] at hk
      exact hk rfl
    obtain ⟨m, hm, rfl⟩ := h.complete k hbefore
    exact ⟨_, List.mem_map_of_mem hm, retire_keyID⟩

lemma Mirrors.eq_of_keyID (h : Mirrors ms history) {m' : KeyMapping} (hm : m ∈ ms) (hm' : m' ∈ ms)
    (hkey : m.keyID = m'.keyID) : m = m' :=
  List.inj_on_of_nodup_map h.distinct hm hm' hkey

lemma Mirrors.current_iff (h : Mirrors ms history) (hm : m ∈ ms) :
    m.rotationState = .current ↔ latest history = some m.keyID := by
  rw [← phase_eq_current_iff, h.phase_eq_iff hm, keyPhase_eq_current]
  exact ⟨fun hcur => ⟨hcur, (keyPhase_ends (h.shown m hm)).1 hcur⟩, And.left⟩

lemma Mirrors.cooling_iff (h : Mirrors ms history) (hm : m ∈ ms) :
    m.rotationState = .cooling ∧ m.activeTo = some till ↔ CoolingTill m.keyID till history := by
  rw [← phase_eq_cooling_iff, h.phase_eq_iff hm, keyPhase_eq_cooling]

end Mappings

section Steps

variable {svc : Provisioning} {s s' : Store} {op : ProvisionOp} {a : Except Error Unit}
  {tr : Trace} {log : ProvisionLog} {walletID : UUID}

inductive ProvisionStep (svc : Provisioning) (s : Store) :
    ProvisionOp → Except Error Unit → Store → Prop
  | refused {op : ProvisionOp} {err : Error} : ProvisionStep svc s op (.error err) s
  | created {id fresh : UUID} {req : CreateWalletRequest} {w : Wallet} :
    s.wallets.lookup id = none → w.keyID = req.boundKeyID fresh →
    ProvisionStep svc s (.createWallet id fresh req) (.ok ())
      { s with wallets := s.wallets.insert id w }
  | bound {walletID : UUID} {keyID : String} {now : Int} {m : KeyMapping} :
    (∀ m ∈ s.mappings walletID, m.rotationState ≠ .current) → m.keyID = keyID →
    keyPhase m = some .current →
    ProvisionStep svc s (.bind walletID keyID now) (.ok ())
      { s with keyMappings := s.keyMappings.insert walletID (s.mappings walletID ++ [m]) }
  | rotated {walletID : UUID} {keyID : String} {now : Int} :
    ProvisionStep svc s (.rotate walletID keyID now) (.ok ())
      (s.rotateKeyMapping walletID keyID svc.keys.keyCoolingPeriod now).2
  | swept {now : Int} : ProvisionStep svc s (.expireCooling now) (.ok ()) (s.expireCooling now).2

lemma createWallet_cases (s : Store) (w : Wallet) :
    (∃ err, s.createWallet w = (.error err, s)) ∨
    (s.wallets.lookup w.id = none ∧
      s.createWallet w = (.ok (), { s with wallets := s.wallets.insert w.id w })) := by
  unfold Store.createWallet
  split
  · exact .inl ⟨_, rfl⟩
  · rename_i hid
    exact .inr ⟨AList.lookup_eq_none.mpr hid, rfl⟩

lemma create_saga {lib : Lib} (wallets : WalletService) (id fresh : UUID) (req : CreateWalletRequest) :
    Saga lib (wallets.create id fresh req) s (fun _ r s' =>
      (∃ err, r = .error err ∧ s' = s) ∨
      ∃ w, r = .ok w ∧ s.wallets.lookup id = none ∧ w.id = id ∧ w.keyID = req.boundKeyID fresh ∧
        s' = { s with wallets := s.wallets.insert id w }) := by
  unfold WalletService.create
  split
  · exact ends_ret.mpr (.inl ⟨_, rfl, rfl⟩)
  split
  · exact ends_ret.mpr (.inl ⟨_, rfl, rfl⟩)
  rename_i type _
  split
  · exact ends_ret.mpr (.inl ⟨_, rfl, rfl⟩)
  rcases createWallet_cases s ⟨id, req.chain, type, .active, req.boundKeyID fresh, none, none,
    req.label, "mpc"⟩ with ⟨err, herr⟩ | ⟨hnone, hok⟩
  · refine ends_store ?_
    rw [show s.handle lib (.createWallet _) = _ from herr]
    exact ends_ret.mpr (.inl ⟨_, rfl, rfl⟩)
  · refine ends_store ?_
    rw [show s.handle lib (.createWallet _) = _ from hok]
    change Saga _ (if _ then _ else _) _ _
    split
    · exact ends_ext (fun r => ends_ret.mpr (.inr ⟨_, rfl, hnone, rfl, rfl, rfl⟩))
    · exact ends_ret.mpr (.inr ⟨_, rfl, hnone, rfl, rfl, rfl⟩)

lemma create_step (id fresh : UUID) (req : CreateWalletRequest) :
    Saga svc.wallets.lib (ProvisionOp.proc svc (.createWallet id fresh req)) s
      (fun _ a s' => ProvisionStep svc s (.createWallet id fresh req) a s') := by
  refine Ends.bind (create_saga svc.wallets id fresh req) ?_
  rintro l r s₁ (⟨err, rfl, rfl⟩ | ⟨w, rfl, hnone, -, hkey, rfl⟩)
  · exact ends_ret.mpr .refused
  · exact ends_ret.mpr (.created hnone hkey)

lemma bindKeyMapping_step (walletID : UUID) (keyID : String) (now : Int) :
    ProvisionStep svc s (.bind walletID keyID now)
      (s.bindKeyMapping ⟨walletID, keyID, now, none, .current⟩ now).1
      (s.bindKeyMapping ⟨walletID, keyID, now, none, .current⟩ now).2 := by
  unfold Store.bindKeyMapping
  split
  · exact .refused
  · rename_i hno
    have hnone : ∀ m ∈ s.mappings walletID, m.rotationState ≠ .current := by simpa using hno
    dsimp only
    split
    · exact .bound hnone rfl rfl
    · exact .bound hnone rfl rfl

lemma rotate_step (walletID : UUID) (keyID : String) (now : Int) :
    Saga svc.wallets.lib (ProvisionOp.proc svc (.rotate walletID keyID now)) s
      (fun _ a s' => ProvisionStep svc s (.rotate walletID keyID now) a s') := by
  refine ends_store ?_
  change Saga _ (if _ then _ else _) _ _
  split
  · exact ends_ext (fun r => ends_ret.mpr .rotated)
  · exact ends_ret.mpr .rotated

theorem provision_step (he : Exec (memStep svc.wallets.lib) (op.proc svc) s tr a s') :
    ProvisionStep svc s op a s' := by
  cases op with
  | createWallet id fresh req => exact create_step id fresh req tr a s' he
  | bind walletID keyID now =>
    obtain ⟨r, s₁, tr₁, hs, ⟨-, rfl, rfl⟩, -⟩ := he
    obtain ⟨rfl, rfl⟩ := Prod.mk.inj hs
    exact bindKeyMapping_step walletID keyID now
  | rotate walletID keyID now =>
    exact rotate_step walletID keyID now tr a s' he
  | expireCooling now =>
    obtain ⟨r, s₁, tr₁, hs, ⟨-, rfl, rfl⟩, -⟩ := he
    obtain ⟨rfl, rfl⟩ := Prod.mk.inj hs
    exact .swept

lemma keyHistory_append (walletID : UUID) (log : ProvisionLog) :
    keyHistory svc walletID (log ++ [⟨op, tr, a⟩]) =
      keyHistory svc walletID log ++ (keyChange svc walletID op a).toList := by
  rw [keyHistory, List.filterMap_append, ← keyHistory]
  cases h : keyChange svc walletID op a <;> simp [h]

lemma mappings_insert (s : Store) (id : UUID) (ms : List KeyMapping) :
    Store.mappings { s with keyMappings := s.keyMappings.insert id ms } walletID =
      if walletID = id then ms else s.mappings walletID := by
  unfold Store.mappings
  dsimp only
  rw [lookup_insert_eq]
  split <;> rfl

lemma mappings_expireCooling (s : Store) (now : Int) :
    (s.expireCooling now).2.mappings walletID = (s.mappings walletID).map (Store.retire now) := by
  have hlookup : (s.keyMappings.mapValues (List.map (Store.retire now))).lookup walletID =
      (s.keyMappings.lookup walletID).map (List.map (Store.retire now)) :=
    List.dlookup_map₂ walletID
  unfold Store.expireCooling Store.mappings
  dsimp only
  rw [hlookup]
  cases s.keyMappings.lookup walletID <;> rfl

lemma rotateKeyMapping_promoted (hnodup : ((s.mappings walletID).map KeyMapping.keyID).Nodup)
    (k : String) (cooling now : Int) :
    Promoted k ((s.mappings walletID).map (Store.demote (now + cooling)))
      ((s.rotateKeyMapping walletID k cooling now).2.mappings walletID) := by
  have hkeys : (((s.mappings walletID).map (Store.demote (now + cooling))).map
      KeyMapping.keyID).Nodup := by
    simpa [Function.comp_def] using hnodup
  unfold Store.rotateKeyMapping
  dsimp only
  rw [mappings_insert, if_pos rfl]
  cases hp : Store.promote k now ((s.mappings walletID).map (Store.demote (now + cooling))) with
  | none => exact promoted_of_none hkeys hp rfl rfl
  | some ms => exact promoted_of_some hkeys hp

theorem mirrors_step (hstep : ProvisionStep svc s op a s') {history : List (Change String Int)}
    (h : Mirrors (s.mappings walletID) history) :
    Mirrors (s'.mappings walletID) (history ++ (keyChange svc walletID op a).toList) := by
  cases hstep with
  | refused => cases op <;> simpa [keyChange] using h
  | created =>
    simp only [keyChange, Option.toList_none, List.append_nil]
    exact h
  | @bound id keyID now m hno hkey hcurrent =>
    rw [mappings_insert, keyChange]
    by_cases hid : walletID = id
    · subst hid
      have hnil : s.mappings walletID = [] := by
        by_contra hne
        obtain ⟨m', hm', hcurrent'⟩ := h.exists_current hne
        exact hno m' hm' hcurrent'
      rw [hnil] at h
      rw [if_pos rfl, if_pos rfl, hnil, ← hkey]
      exact h.bind hcurrent
    · rw [if_neg hid, if_neg (Ne.symm hid), Option.toList_none, List.append_nil]
      exact h
  | @rotated id keyID now =>
    rw [keyChange]
    by_cases hid : id = walletID
    · subst hid
      rw [if_pos rfl]
      exact h.rotate (rotateKeyMapping_promoted h.distinct keyID _ now)
    · rw [if_neg hid, Option.toList_none, List.append_nil]
      unfold Store.rotateKeyMapping
      dsimp only
      rw [mappings_insert, if_neg (Ne.symm hid)]
      exact h
  | @swept now =>
    rw [mappings_expireCooling]
    exact h.sweep

theorem mirrors_of_runs
    (h : Runs (ProvisionOp.proc svc) (memStep svc.wallets.lib) (fun _ _ => True) {} log s)
    (walletID : UUID) : Mirrors (s.mappings walletID) (keyHistory svc walletID log) := by
  refine Runs.invariant (I := fun log s => Mirrors (s.mappings walletID) (keyHistory svc walletID log))
    mirrors_nil ?_ h
  intro log s op tr a s' hi _ he
  rw [keyHistory_append]
  exact mirrors_step (provision_step he) hi

end Steps

/-- A wallet with a mapping has exactly one current one. It has no end and is for the key that
the wallet was bound or rotated to last; the keys are distinct, and cooling ones have an end. -/
theorem one_current_key {svc : Provisioning} {log : ProvisionLog} {s : Store}
    (h : Runs (ProvisionOp.proc svc) (memStep svc.wallets.lib) (fun _ _ => True) {} log s)
    (walletID : UUID) (hne : s.mappings walletID ≠ []) :
    (∃ m, (s.mappings walletID).filter (fun m => m.rotationState = .current) = [m] ∧
      m.activeTo = none ∧ latest (keyHistory svc walletID log) = some m.keyID) ∧
    ((s.mappings walletID).map KeyMapping.keyID).Nodup ∧
    ∀ m ∈ s.mappings walletID, m.rotationState = .cooling → m.activeTo ≠ none := by
  have hmirror := mirrors_of_runs h walletID
  obtain ⟨m, hm, hcurrent⟩ := hmirror.exists_current hne
  have hlatest := (hmirror.current_iff hm).mp hcurrent
  have honly : ∀ m' ∈ s.mappings walletID, m'.rotationState = .current → m' = m := by
    intro m' hm' hcurrent'
    rw [hmirror.current_iff hm', hlatest, Option.some.injEq] at hcurrent'
    exact hmirror.eq_of_keyID hm' hm hcurrent'.symm
  refine ⟨⟨m, ?_, (keyPhase_ends (hmirror.shown m hm)).1 hcurrent, hlatest⟩, hmirror.distinct, ?_⟩
  · have hnodup := (List.Nodup.of_map _ hmirror.distinct).filter
      (fun m => decide (m.rotationState = .current))
    refine List.perm_singleton.mp ((List.perm_ext_iff_of_nodup hnodup (List.nodup_singleton m)).mpr ?_)
    intro m'
    rw [List.mem_filter, List.mem_singleton, decide_eq_true_iff]
    constructor
    · rintro ⟨hm', hcurrent'⟩
      exact honly m' hm' hcurrent'
    · rintro rfl
      exact ⟨hm, hcurrent⟩
  · intro m' hm'
    exact (keyPhase_ends (hmirror.shown m' hm')).2

def rotatedBack : ProvisionLog × Store :=
  provisionRun [.bind evmWallet.id "a" 1, .rotate evmWallet.id "b" 2, .expireCooling 13,
    .rotate evmWallet.id "a" 14]

theorem one_current_key_back :
    rotatedBack.2.mappings evmWallet.id =
        [⟨evmWallet.id, "a", 14, none, .current⟩, ⟨evmWallet.id, "b", 2, some 24, .cooling⟩] ∧
      ∃ m, (rotatedBack.2.mappings evmWallet.id).filter (fun m => m.rotationState = .current) =
          [m] ∧ m.activeTo = none ∧
        latest (keyHistory referenceProvisioning evmWallet.id rotatedBack.1) = some m.keyID := by
  have hmappings : rotatedBack.2.mappings evmWallet.id =
      [⟨evmWallet.id, "a", 14, none, .current⟩, ⟨evmWallet.id, "b", 2, some 24, .cooling⟩] := by
    decide +kernel
  have hne : rotatedBack.2.mappings evmWallet.id ≠ [] := by simp [hmappings]
  exact ⟨hmappings, (one_current_key (provisionRun_runs _) _ hne).1⟩

end WalletManager.Proofs
