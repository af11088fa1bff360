import WalletManager.Interaction.Pool

/-!
# Protocols of concurrent calls

A protocol says which calls a party may make in each of its phases, and where each answer takes
it. Whether a program conforms is a matter of that program alone. What holds while conforming
programs run, one after the other or interleaved call by call, is then proved over the
transitions of the protocol.
-/

namespace Interaction

variable {C : Type} {R : C → Type} {α β σ T G K : Type}

/-- The transitions of a party, for the answers it may get. -/
structure Protocol (C : Type) (R : C → Type) (G : Type) where
  possible : (c : C) → R c → Prop
  next : G → (c : C) → R c → G → Prop

section Conforms

variable (π : Protocol C R G)

/-- From the phase on, the program makes only calls of the protocol, and it returns with `Q`. -/
def Conforms : Prog C R α → G → (G → α → Prop) → Prop
  | .ret a, g, Q => Q g a
  | .call c k, g, Q => ∀ r, π.possible c r → ∃ g', π.next g c r g' ∧ Conforms (k r) g' Q

variable {π}

lemma Conforms.mono {p : Prog C R α} {g : G} {Q Q' : G → α → Prop} (h : Conforms π p g Q)
    (hQ : ∀ g a, Q g a → Q' g a) : Conforms π p g Q' := by
  induction p generalizing g with
  | ret a => exact hQ g a h
  | call c k ih =>
    intro r hr
    obtain ⟨g', hnext, h'⟩ := h r hr
    exact ⟨g', hnext, ih r h'⟩

lemma Conforms.bind {p : Prog C R α} {f : α → Prog C R β} {g : G} {Q : G → β → Prop}
    (h : Conforms π p g (fun g' a => Conforms π (f a) g' Q)) : Conforms π (p >>= f) g Q := by
  induction p generalizing g with
  | ret a => exact h
  | call c k ih =>
    intro r hr
    obtain ⟨g', hnext, h'⟩ := h r hr
    exact ⟨g', hnext, ih r h'⟩

def Protocol.both {G' : Type} (π : Protocol C R G) (π' : Protocol C R G') : Protocol C R (G × G') :=
  ⟨fun c r => π.possible c r ∧ π'.possible c r,
    fun g c r g' => π.next g.1 c r g'.1 ∧ π'.next g.2 c r g'.2⟩

lemma Conforms.both {G' : Type} {π' : Protocol C R G'} {p : Prog C R α} {g : G} {g' : G'}
    {Q : G → α → Prop} {Q' : G' → α → Prop} (h : Conforms π p g Q) (h' : Conforms π' p g' Q') :
    Conforms (π.both π') p (g, g') (fun g a => Q g.1 a ∧ Q' g.2 a) := by
  induction p generalizing g g' with
  | ret a => exact ⟨h, h'⟩
  | call c k ih =>
    rintro r ⟨hr, hr'⟩
    obtain ⟨g₁, hnext, hk⟩ := h r hr
    obtain ⟨g₁', hnext', hk'⟩ := h' r hr'
    exact ⟨(g₁, g₁'), ⟨hnext, hnext'⟩, ih r hk hk'⟩

/-- An execution of a conforming program keeps what every transition keeps. -/
theorem Conforms.exec {step : σ → (c : C) → R c → σ → Prop} {J : G → List (Event C R) → σ → Prop}
    (hpossible : ∀ s c r s', step s c r s' → π.possible c r)
    (hstep : ∀ g tr s c r s' g', J g tr s → π.next g c r g' → step s c r s' →
      J g' (tr ++ [⟨c, r⟩]) s')
    {p : Prog C R α} {g : G} {Q : G → α → Prop} (h : Conforms π p g Q) {pre tr : List (Event C R)}
    {s s' : σ} {a : α} (hJ : J g pre s) (he : Exec step p s tr a s') :
    ∃ g', J g' (pre ++ tr) s' ∧ Q g' a := by
  induction p generalizing g pre tr s with
  | ret b =>
    obtain ⟨rfl, rfl, rfl⟩ := he
    rw [List.append_nil]
    exact ⟨g, hJ, h⟩
  | call c k ih =>
    obtain ⟨r, s₁, tr₁, hs, he', rfl⟩ := he
    obtain ⟨g', hnext, h'⟩ := h r (hpossible _ _ _ _ hs)
    have hsplit : pre ++ ⟨c, r⟩ :: tr₁ = (pre ++ [⟨c, r⟩]) ++ tr₁ := by simp
    rw [hsplit]
    exact ih r h' (hstep _ _ _ _ _ _ _ hJ hnext hs) he'

end Conforms

section Throughout

variable {A : Type} {P : List A → A → Prop} {l : List A} {a : A}

/-- At each of its entries, what came before in the history satisfies `P`. -/
def Throughout (P : List A → A → Prop) (l : List A) : Prop := ∀ pre a post, l = pre ++ a :: post → P pre a

lemma throughout_nil : Throughout P [] := by
  rintro pre a post h
  simp at h

lemma Throughout.imp {P' : List A → A → Prop} (h : Throughout P l)
    (hP : ∀ pre a post, l = pre ++ a :: post → P pre a → P' pre a) : Throughout P' l :=
  fun pre a post hsplit => hP pre a post hsplit (h pre a post hsplit)

lemma concat_split {b : A} {pre post : List A} (h : l ++ [b] = pre ++ a :: post) :
    pre = l ∧ a = b ∧ post = [] ∨ ∃ post', post = post' ++ [b] ∧ l = pre ++ a :: post' := by
  rcases List.eq_nil_or_concat post with rfl | ⟨post', c, rfl⟩
  · obtain ⟨rfl, rfl⟩ := List.append_singleton_inj.mp h
    exact .inl ⟨rfl, rfl, rfl⟩
  · rw [List.concat_eq_append, ← List.cons_append, ← List.append_assoc] at h
    obtain ⟨rfl, rfl⟩ := List.append_singleton_inj.mp h
    exact .inr ⟨post', List.concat_eq_append, rfl⟩

lemma Throughout.concat (h : Throughout P l) (ha : P l a) : Throughout P (l ++ [a]) := by
  intro pre b post hsplit
  rcases concat_split hsplit with ⟨rfl, rfl, -⟩ | ⟨post', -, hpost'⟩
  · exact ha
  · exact h pre b post' hpost'

end Throughout

section Leads

variable [DecidableEq T]

def Pool.start (s₀ : σ) (progs : T → Prog C R α) : Pool T C R α σ :=
  ⟨s₀, fun t => some (progs t), []⟩

variable (step : σ → (c : C) → R c → σ → Prop) (ok : List (T × Event C R) → σ → T → C → Prop)

/-- The pools that calls of the running programs lead to, one call at a time, where every call
meets a condition on the calls made so far, the shared state, the slot and the call. -/
inductive Pool.Leads (P : Pool T C R α σ) : Pool T C R α σ → Prop
  | refl : Leads P P
  | call {Q : Pool T C R α σ} {t : T} {c : C} {k : R c → Prog C R α} {r : R c} {s : σ} :
    Leads P Q → Q.threads t = some (.call c k) → ok Q.log Q.shared t c → step Q.shared c r s →
    Leads P ⟨s, Function.update Q.threads t (some (k r)), Q.log ++ [(t, ⟨c, r⟩)]⟩

variable {step ok} {s₀ : σ} {progs : T → Prog C R α}

/-- What every transition keeps holds in all later pools, if each slot conforms to its protocol. -/
theorem Pool.Leads.keeps {π : T → Protocol C R G} {Q : T → G → α → Prop}
    {J : (T → G) → List (T × Event C R) → σ → Prop} {γ : T → G} {P P' : Pool T C R α σ}
    (h : Pool.Leads step ok P P')
    (hconf : ∀ t, ∃ p, P.threads t = some p ∧ Conforms (π t) p (γ t) (Q t)) (hJ : J γ P.log P.shared)
    (hpossible : ∀ t s c r s', step s c r s' → (π t).possible c r)
    (hstep : ∀ γ log s t c r s' g', J γ log s → (π t).next (γ t) c r g' → ok log s t c →
      step s c r s' → J (Function.update γ t g') (log ++ [(t, ⟨c, r⟩)]) s') :
    ∃ γ, J γ P'.log P'.shared ∧ ∀ t, ∃ p, P'.threads t = some p ∧ Conforms (π t) p (γ t) (Q t) := by
  induction h with
  | refl => exact ⟨γ, hJ, hconf⟩
  | @call P t c k r s _ ht hok hs ih =>
    obtain ⟨γ, hJ, hconf⟩ := ih
    obtain ⟨p, hp, hpt⟩ := hconf t
    obtain rfl : p = .call c k := Option.some.inj (hp.symm.trans ht)
    obtain ⟨g', hnext, h'⟩ := hpt r (hpossible t _ _ _ _ hs)
    refine ⟨Function.update γ t g', hstep _ _ _ _ _ _ _ _ hJ hnext hok hs, fun t' => ?_⟩
    by_cases htt : t' = t
    · subst htt
      exact ⟨k r, Function.update_self .., by simpa using h'⟩
    · obtain ⟨p', hp', hpt'⟩ := hconf t'
      exact ⟨p', by simpa [htt] using hp', by simpa [htt] using hpt'⟩

/-- The pool rule for protocols, one for each slot. -/
theorem Pool.Leads.invariant {π : T → Protocol C R G} {Q : T → G → α → Prop}
    {J : (T → G) → List (T × Event C R) → σ → Prop} {γ₀ : T → G}
    (hprogs : ∀ t, Conforms (π t) (progs t) (γ₀ t) (Q t)) (h₀ : J γ₀ [] s₀)
    (hpossible : ∀ t s c r s', step s c r s' → (π t).possible c r)
    (hstep : ∀ γ log s t c r s' g', J γ log s → (π t).next (γ t) c r g' → ok log s t c →
      step s c r s' → J (Function.update γ t g') (log ++ [(t, ⟨c, r⟩)]) s')
    {P : Pool T C R α σ} (h : Pool.Leads step ok (Pool.start s₀ progs) P) :
    ∃ γ, J γ P.log P.shared ∧ ∀ t, ∃ p, P.threads t = some p ∧ Conforms (π t) p (γ t) (Q t) :=
  h.keeps (fun t => ⟨progs t, rfl, hprogs t⟩) h₀ hpossible hstep

/-- The pool rule for what depends only on the calls that the programs can make. -/
theorem Pool.Leads.calls {P : C → Prop} {J : σ → Prop} (hprogs : ∀ t, (progs t).AllCalls P) (h₀ : J s₀)
    (hstep : ∀ s c r s', J s → P c → step s c r s' → J s') {Q : Pool T C R α σ}
    (h : Pool.Leads step ok (Pool.start s₀ progs) Q) : J Q.shared := by
  let π : Protocol C R Unit := ⟨fun _ _ => True, fun _ c _ _ => P c⟩
  have hconforms : ∀ p : Prog C R α, p.AllCalls P → Conforms π p () (fun _ _ => True) := by
    intro p hp
    induction p with
    | ret a => trivial
    | call c k ih => exact fun r _ => ⟨(), hp.1, ih r (hp.2 r)⟩
  obtain ⟨-, hJ, -⟩ := Pool.Leads.invariant (π := fun _ => π) (J := fun _ _ s => J s)
    (fun t => hconforms _ (hprogs t)) h₀ (fun _ _ _ _ _ _ => trivial)
    (fun _ _ s _ c r s' _ hJ hc _ hs => hstep s c r s' hJ hc hs) h
  exact hJ

/-- A call in the log was made in a pool on the way. -/
theorem Pool.Leads.moment {P : Pool T C R α σ} (h : Pool.Leads step ok (Pool.start s₀ progs) P) {t : T}
    {e : Event C R} (hmem : (t, e) ∈ P.log) :
    ∃ s pre Q, Pool.Leads step ok (Pool.start s₀ progs) Q ∧ Pool.Leads step ok Q P ∧
      Q.log = pre ++ [(t, e)] ∧ step s e.call e.answer Q.shared := by
  induction h with
  | refl => cases hmem
  | @call P t' c k r s hP ht hok hs ih =>
    rcases List.mem_append.mp hmem with hmem | hmem
    · obtain ⟨s₁, pre, Q, hQ, hlead, hlog, hevent⟩ := ih hmem
      exact ⟨s₁, pre, Q, hQ, hlead.call ht hok hs, hlog, hevent⟩
    · obtain ⟨rfl, rfl⟩ := Prod.mk.inj (List.mem_singleton.mp hmem)
      exact ⟨P.shared, P.log, _, hP.call ht hok hs, .refl, rfl, hs⟩

/-- Lets slots make their next calls, in the given order; a call that is not allowed is left out. -/
def Pool.schedule (ok : List (T × Event C R) → σ → T → C → Bool) (answer : σ → (c : C) → R c × σ)
    (P : Pool T C R α σ) (slots : List T) : Pool T C R α σ :=
  slots.foldl (fun P t => Pool.playIf ok answer P (.next t)) P

def Pool.numbered (n : ℕ) (slots : List ℕ) : List (Fin (n + 1)) := slots.map (Fin.ofNat (n + 1))

theorem Pool.Leads.schedule {allowed : List (T × Event C R) → σ → T → C → Bool}
    {answer : σ → (c : C) → R c × σ} (hok : ∀ log s t c, allowed log s t c = true → ok log s t c)
    (hanswer : ∀ s c, step s c (answer s c).1 (answer s c).2) {P Q : Pool T C R α σ}
    (h : Pool.Leads step ok P Q) (slots : List T) :
    Pool.Leads step ok P (Q.schedule allowed answer slots) := by
  induction slots generalizing Q with
  | nil => exact h
  | cons t slots ih =>
    refine ih ?_
    unfold Pool.playIf
    dsimp only
    split
    · rename_i c k hrun
      split
      · rename_i hallowed
        unfold Pool.play
        simp only [hrun]
        exact h.call hrun (hok _ _ _ _ hallowed) (hanswer _ _)
      · exact h
    · exact h

end Leads

section Mutex

variable {holds : G → Option K} {γ : T → G} {lock : Option K} {t : T} {g : G}

/-- A lock is held by exactly one slot, or free and held by none; a phase says which token its
slot holds. -/
structure Mutex (holds : G → Option K) (γ : T → G) (lock : Option K) : Prop where
  held : ∀ t k, holds (γ t) = some k → lock = some k
  unique : ∀ t t' k k', holds (γ t) = some k → holds (γ t') = some k' → t = t'
  owned : ∀ k, lock = some k → ∃ t, holds (γ t) = some k

lemma Mutex.free (h : ∀ t, holds (γ t) = none) : Mutex holds γ none := by
  refine ⟨fun t k hk => ?_, fun t t' k k' hk => ?_, nofun⟩
  · rw [h t] at hk
    cases hk
  · rw [h t] at hk
    cases hk

lemma Mutex.none_of_free (h : Mutex holds γ none) (t : T) : holds (γ t) = none := by
  cases hk : holds (γ t) with
  | none => rfl
  | some k => cases h.held t k hk

lemma Mutex.others (h : Mutex holds γ lock) {k : K} (ht : holds (γ t) = some k) {t' : T}
    (hne : t' ≠ t) : holds (γ t') = none := by
  cases hk : holds (γ t') with
  | none => rfl
  | some k' => exact absurd (h.unique t' t k' k hk ht) hne

variable [DecidableEq T]

lemma Mutex.keep (h : Mutex holds γ lock) (hg : holds g = holds (γ t)) :
    Mutex holds (Function.update γ t g) lock := by
  have hsame : ∀ t', holds (Function.update γ t g t') = holds (γ t') :=
    (Function.forall_update_iff γ (fun t' g => holds g = holds (γ t'))).mpr ⟨hg, fun _ _ => rfl⟩
  refine ⟨fun t' k hk => h.held t' k (hsame t' ▸ hk),
    fun t₁ t₂ k k' hk hk' => h.unique t₁ t₂ k k' (hsame t₁ ▸ hk) (hsame t₂ ▸ hk'), fun k hk => ?_⟩
  obtain ⟨t', ht'⟩ := h.owned k hk
  exact ⟨t', (hsame t').trans ht'⟩

lemma Mutex.acquire (h : Mutex holds γ none) {k : K} (hg : holds g = some k) :
    Mutex holds (Function.update γ t g) (some k) := by
  have honly : ∀ t' k', holds (Function.update γ t g t') = some k' → t' = t ∧ k' = k := by
    apply (Function.forall_update_iff γ (fun t' g => ∀ k', holds g = some k' → t' = t ∧ k' = k)).mpr
    constructor
    · intro k' hk'
      rw [hg] at hk'
      exact ⟨rfl, (Option.some.inj hk').symm⟩
    · intro t' _ k' hk'
      rw [h.none_of_free t'] at hk'
      cases hk'
  refine ⟨fun t' k' hk' => by rw [(honly t' k' hk').2],
    fun t₁ t₂ k₁ k₂ h₁ h₂ => (honly t₁ k₁ h₁).1.trans (honly t₂ k₂ h₂).1.symm, fun k' hk' => ?_⟩
  cases hk'
  exact ⟨t, by rw [Function.update_self, hg]⟩

lemma Mutex.release (h : Mutex holds γ lock) {k : K} (ht : holds (γ t) = some k)
    (hg : holds g = none) : Mutex holds (Function.update γ t g) none := by
  apply Mutex.free
  apply (Function.forall_update_iff γ (fun _ g => holds g = none)).mpr
  exact ⟨hg, fun t' hne => h.others ht hne⟩

end Mutex

end Interaction
