import WalletManager.Interaction.Protocol
import WalletManager.Storage.Postgres

/-!
# Concurrent records of a balance event

`RecordBalanceEvent` of the Postgres store inserts its row unless an index forbids it, and then asks
whether the event has a row with another identity. Whatever other calls do between the two statements,
the row of an event that is there after the insert stays the only one, so that exactly one of the calls
for the event finds no other row.
-/

namespace WalletManager.Proofs

open Interaction Relational

inductive RecordPhase
  | idle
  | inserted
  /-- The event has a row with another identity, or not. -/
  | answered (other : Bool)

inductive RecordMoves (row : BalanceEventRow) :
    RecordPhase → (c : EventCall) → EventAnswer c → RecordPhase → Prop
  | insert : RecordMoves row .idle (.insertOrIgnore row) (.ok ()) .inserted
  | look {other : Bool} : RecordMoves row .inserted (.existsOther row) (.ok other) (.answered other)

def Executed : (c : EventCall) → EventAnswer c → Prop
  | .insertOrIgnore _, r => ∃ a, r = .ok a
  | .existsOther _, r => ∃ other, r = .ok other

def recordProtocol (row : BalanceEventRow) : Protocol EventCall EventAnswer RecordPhase :=
  ⟨Executed, RecordMoves row⟩

def eventStep (t : EventTable) (c : EventCall) (r : EventAnswer c) (t' : EventTable) : Prop :=
  (r, t') = EventTable.handle t c

def RecordPhase.Returns : RecordPhase → Except Error Unit → Prop
  | answered other, a => a = if other then .error errDuplicateEvent else .ok ()
  | _, _ => False

lemma recordBalanceEvent_conforms (row : BalanceEventRow) :
    Conforms (recordProtocol row) (recordBalanceEvent row) .idle RecordPhase.Returns := by
  rintro r ⟨⟨⟩, rfl⟩
  refine ⟨.inserted, .insert, ?_⟩
  rintro r ⟨_ | _, rfl⟩
  · exact ⟨.answered false, .look, rfl⟩
  · exact ⟨.answered true, .look, rfl⟩

lemma eventStep_executed {t t' : EventTable} {c : EventCall} {r : EventAnswer c}
    (h : eventStep t c r t') : Executed c r := by
  cases c with
  | insertOrIgnore row => exact ⟨_, congrArg Prod.fst h⟩
  | existsOther row => exact ⟨_, congrArg Prod.fst h⟩

lemma event_row_unique (t : EventTable) {r r' : BalanceEventRow} (hr : r ∈ t.rows) (hr' : r' ∈ t.rows)
    (h : r.event = r'.event) : r = r' :=
  (t.unique _ (List.mem_cons_of_mem _ List.mem_cons_self)).eq_of_collide hr hr' ⟨nofun, congrArg some h⟩

section Races

variable {T : Type} {row : T → BalanceEventRow} {t₀ t t' : EventTable} {γ : T → RecordPhase}

structure RecordInv (row : T → BalanceEventRow) (t₀ : EventTable) (γ : T → RecordPhase) (t : EventTable) :
    Prop where
  kept : ∀ r ∈ t₀.rows, r ∈ t.rows
  origin : ∀ r ∈ t.rows, r ∈ t₀.rows ∨ ∃ u, r = row u
  inserted : ∀ u, γ u ≠ .idle → ∃ r ∈ t.rows, r.event = (row u).event
  lost : ∀ u, γ u = .answered true → ∃ r ∈ t.rows, r.event = (row u).event ∧ r.id ≠ (row u).id
  won : ∀ u, γ u = .answered false → row u ∈ t.rows

lemma RecordInv.start : RecordInv row t₀ (fun _ => .idle) t₀ where
  kept _ h := h
  origin _ h := .inl h
  inserted _ h := absurd rfl h
  lost _ h := by cases h
  won _ h := by cases h

variable [DecidableEq T] {u : T}

lemma RecordInv.move (h : RecordInv row t₀ γ t) {g : RecordPhase} (hkeep : ∀ r ∈ t.rows, r ∈ t'.rows)
    (horigin : ∀ r ∈ t'.rows, r ∈ t.rows ∨ r = row u)
    (hinserted : ∃ r ∈ t'.rows, r.event = (row u).event)
    (hlost : g = .answered true → ∃ r ∈ t'.rows, r.event = (row u).event ∧ r.id ≠ (row u).id)
    (hwon : g = .answered false → row u ∈ t'.rows) : RecordInv row t₀ (Function.update γ u g) t' := by
  constructor
  · exact fun r hr => hkeep r (h.kept r hr)
  · intro r hr
    rcases horigin r hr with hr | rfl
    · exact h.origin r hr
    · exact .inr ⟨u, rfl⟩
  · intro u' hu'
    by_cases huu : u' = u
    · exact huu ▸ hinserted
    · rw [Function.update_of_ne huu] at hu'
      obtain ⟨r, hr, hevent⟩ := h.inserted u' hu'
      exact ⟨r, hkeep r hr, hevent⟩
  · intro u' hu'
    by_cases huu : u' = u
    · rw [huu, Function.update_self] at hu'
      exact huu ▸ hlost hu'
    · rw [Function.update_of_ne huu] at hu'
      obtain ⟨r, hr, hother⟩ := h.lost u' hu'
      exact ⟨r, hkeep r hr, hother⟩
  · intro u' hu'
    by_cases huu : u' = u
    · rw [huu, Function.update_self] at hu'
      exact huu ▸ hwon hu'
    · rw [Function.update_of_ne huu] at hu'
      exact hkeep _ (h.won u' hu')

structure FreshIDs (row : T → BalanceEventRow) (t₀ : EventTable) : Prop where
  distinct : ∀ u u', (row u).id = (row u').id → u = u'
  fresh : ∀ u, ∀ r ∈ t₀.rows, r.id ≠ (row u).id

omit [DecidableEq T] in
lemma RecordInv.own_row (hids : FreshIDs row t₀) (h : RecordInv row t₀ γ t) {r : BalanceEventRow}
    (hr : r ∈ t.rows) (hid : r.id = (row u).id) : r = row u := by
  rcases h.origin r hr with hold | ⟨u', rfl⟩
  · exact absurd hid (hids.fresh u r hold)
  · rw [hids.distinct u' u hid]

lemma RecordInv.step (hids : FreshIDs row t₀) (h : RecordInv row t₀ γ t) {c : EventCall} {r : EventAnswer c}
    {g : RecordPhase} (hm : RecordMoves (row u) (γ u) c r g) (hs : eventStep t c r t') :
    RecordInv row t₀ (Function.update γ u g) t' := by
  generalize hgu : γ u = phase at hm
  cases hm with
  | insert =>
    obtain rfl : t' = t.insertOrIgnore (row u) := congrArg Prod.snd hs
    rcases IndexedTable.insertOrIgnore_cases t (row u) with hrows | ⟨hsame, ix, hix, r, hr, hcollide⟩
    · refine h.move ?_ ?_ ⟨row u, ?_, rfl⟩ nofun nofun
      · intro r hr
        rw [hrows]
        exact List.mem_append_left _ hr
      · intro r hr
        rw [hrows] at hr
        exact (List.mem_append.mp hr).imp_right List.mem_singleton.mp
      · rw [hrows]
        exact List.mem_append_right _ (List.mem_singleton_self _)
    · -- only a row of the same event can be in the way, since the identity is new
      have hevent : r.event = (row u).event := by
        obtain rfl | hix := List.mem_cons.mp hix
        · rw [h.own_row hids hr (Option.some.inj hcollide.2)]
        · obtain rfl := List.mem_singleton.mp hix
          exact Option.some.inj hcollide.2
      rw [hsame]
      exact h.move (fun _ hr => hr) (fun _ hr => .inl hr) ⟨r, hr, hevent⟩ nofun nofun
  | @look other =>
    obtain ⟨hother, rfl⟩ := Prod.mk.inj hs
    have hinserted := h.inserted u (by rw [hgu]; exact nofun)
    have hany := Except.ok.inj hother
    refine h.move (fun _ hr => hr) (fun _ hr => .inl hr) hinserted ?_ ?_
    · rintro ⟨⟩
      obtain ⟨r, hr, hrow⟩ := List.any_eq_true.mp hany.symm
      exact ⟨r, hr, of_decide_eq_true hrow⟩
    · rintro ⟨⟩
      obtain ⟨r, hr, hevent⟩ := hinserted
      have hid : r.id = (row u).id := by
        by_contra hne
        exact List.any_eq_false.mp hany.symm r hr (decide_eq_true ⟨hevent, hne⟩)
      rwa [← h.own_row hids hr hid]

abbrev EventPool (T : Type) := Pool T EventCall EventAnswer (Except Error Unit) EventTable

/-- Every call that has returned has returned nil or `ErrDuplicateEvent`, and at most one call of an
event nil. When all calls of an event have returned, one of them has returned nil and all others
`ErrDuplicateEvent`, or all of them `ErrDuplicateEvent` where the event was recorded before. -/
theorem event_recorded_by_one_call (hids : FreshIDs row t₀) {P : EventPool T}
    (h : Pool.Leads eventStep (fun _ _ _ _ => True) (Pool.start t₀ (fun u => recordBalanceEvent (row u))) P) :
    (∀ u a, P.threads u = some (.ret a) → a = .ok () ∨ a = .error errDuplicateEvent) ∧
    (∀ u u', (row u).event = (row u').event → P.threads u = some (.ret (.ok ())) →
      P.threads u' = some (.ret (.ok ())) → u = u') ∧
    ∀ e, (∃ u, (row u).event = e) → (∀ u, (row u).event = e → ¬P.Running u) →
      ((∀ r ∈ t₀.rows, r.event ≠ e) → ∃ u, (row u).event = e ∧ P.threads u = some (.ret (.ok ())) ∧
        ∀ u', (row u').event = e → u' ≠ u → P.threads u' = some (.ret (.error errDuplicateEvent))) ∧
      ((∃ r ∈ t₀.rows, r.event = e) → ∀ u, (row u).event = e →
        P.threads u = some (.ret (.error errDuplicateEvent))) := by
  obtain ⟨γ, hinv, hconf⟩ := h.invariant (π := fun u => recordProtocol (row u))
    (J := fun γ _ t => RecordInv row t₀ γ t) (fun u => recordBalanceEvent_conforms (row u)) .start
    (fun _ _ _ _ _ hs => eventStep_executed hs)
    (fun _ _ _ _ _ _ _ _ hJ hm _ hs => hJ.step hids hm hs)
  have hreturned : ∀ u a, P.threads u = some (.ret a) → ∃ other, γ u = .answered other ∧
      a = if other then .error errDuplicateEvent else .ok () := by
    intro u a hu
    obtain ⟨p, hp, hpu⟩ := hconf u
    obtain rfl : p = .ret a := Option.some.inj (hp.symm.trans hu)
    generalize hgu : γ u = phase at hpu
    cases phase with
    | idle => exact hpu.elim
    | inserted => exact hpu.elim
    | answered other => exact ⟨other, rfl, hpu⟩
  have hstopped : ∀ u, ¬P.Running u → ∃ a, P.threads u = some (.ret a) := by
    intro u hu
    obtain ⟨p, hp, -⟩ := hconf u
    cases p with
    | ret a => exact ⟨a, hp⟩
    | call c k => exact absurd ⟨c, k, hp⟩ hu
  have hnil : ∀ u, P.threads u = some (.ret (.ok ())) → row u ∈ P.shared.rows := by
    intro u hu
    obtain ⟨other, hγ, ha⟩ := hreturned u _ hu
    cases other with
    | false => exact hinv.won u hγ
    | true => cases ha
  have hunique : ∀ u u', (row u).event = (row u').event → P.threads u = some (.ret (.ok ())) →
      P.threads u' = some (.ret (.ok ())) → u = u' := by
    intro u u' hevent hu hu'
    have hrow := event_row_unique P.shared (hnil u hu) (hnil u' hu') hevent
    exact hids.distinct u u' (congrArg BalanceEventRow.id hrow)
  have hvalue : ∀ u a, P.threads u = some (.ret a) → a = .ok () ∨ a = .error errDuplicateEvent := by
    intro u a hu
    obtain ⟨other, -, rfl⟩ := hreturned u a hu
    cases other with
    | false => exact .inl rfl
    | true => exact .inr rfl
  refine ⟨hvalue, hunique, fun e he hdone => ⟨fun hnew => ?_, fun hold => ?_⟩⟩
  · obtain ⟨u₁, hu₁⟩ := he
    obtain ⟨a₁, ha₁⟩ := hstopped u₁ (hdone u₁ hu₁)
    obtain ⟨other₁, hγ₁, -⟩ := hreturned u₁ a₁ ha₁
    obtain ⟨r, hr, hevent⟩ := hinv.inserted u₁ (by rw [hγ₁]; exact nofun)
    -- the call whose row it is has seen no other one
    obtain ⟨u, rfl⟩ := (hinv.origin r hr).resolve_left (fun hr₀ => hnew r hr₀ (hevent.trans hu₁))
    have hu : (row u).event = e := hevent.trans hu₁
    have hown : P.threads u = some (.ret (.ok ())) := by
      obtain ⟨a, ha⟩ := hstopped u (hdone u hu)
      obtain ⟨other, hγ, rfl⟩ := hreturned u a ha
      cases other with
      | false => exact ha
      | true =>
        obtain ⟨r', hr', hevent', hid⟩ := hinv.lost u hγ
        exact absurd (congrArg BalanceEventRow.id (event_row_unique P.shared hr' hr hevent')) hid
    refine ⟨u, hu, hown, fun u' hu' hne => ?_⟩
    obtain ⟨a, ha⟩ := hstopped u' (hdone u' hu')
    rcases hvalue u' a ha with rfl | rfl
    · exact absurd (hunique u' u (hu'.trans hu.symm) ha hown) hne
    · exact ha
  · intro u hu
    obtain ⟨a, ha⟩ := hstopped u (hdone u hu)
    rcases hvalue u a ha with rfl | rfl
    · obtain ⟨r, hr, hevent⟩ := hold
      have hrow := event_row_unique P.shared (hinv.kept r hr) (hnil u ha) (hevent.trans hu.symm)
      exact absurd (congrArg BalanceEventRow.id hrow) (hids.fresh u r hr)
    · exact ha

def rivalRows (u : Fin 3) : BalanceEventRow :=
  ⟨UUID.ofByte (10 + UInt8.ofNat u), ⟨UUID.ofByte 1, "ETH", 7, if u = 2 then "b" else "a"⟩⟩

def rivalEvents : EventPool (Fin 3) :=
  (Pool.start ∅ (fun u => recordBalanceEvent (rivalRows u))).schedule (fun _ _ _ _ => true)
    EventTable.handle [0, 1, 2, 1, 0, 2]

theorem event_recorded_by_one_call_rivals :
    ∃ u, (rivalRows u).event.eventID = "a" ∧ rivalEvents.threads u = some (.ret (.ok ())) ∧
      ∀ u', (rivalRows u').event = (rivalRows u).event → u' ≠ u →
        rivalEvents.threads u' = some (.ret (.error errDuplicateEvent)) := by
  have hleads : Pool.Leads eventStep (fun _ _ _ _ => True)
      (Pool.start ∅ (fun u => recordBalanceEvent (rivalRows u))) rivalEvents :=
    Pool.Leads.schedule (fun _ _ _ _ _ => trivial) (fun _ _ => rfl) .refl _
  have hids : FreshIDs rivalRows ∅ := ⟨by decide +kernel, fun _ r hr => by cases hr⟩
  have hreturned : ∀ u, ∃ r, rivalEvents.threads u = some (.ret r) := by
    rintro ⟨_ | _ | _ | u, hu⟩
    · exact ⟨_, rfl⟩
    · exact ⟨_, rfl⟩
    · exact ⟨_, rfl⟩
    · omega
  have hstopped : ∀ u, ¬rivalEvents.Running u := by
    rintro u ⟨c, k, hrun⟩
    obtain ⟨r, hret⟩ := hreturned u
    rw [hrun] at hret
    cases hret
  obtain ⟨u, hu, hown, hothers⟩ := ((event_recorded_by_one_call hids hleads).2.2 (rivalRows 0).event
    ⟨0, rfl⟩ (fun u _ => hstopped u)).1 (fun r hr => by cases hr)
  exact ⟨u, by rw [hu]; rfl, hown, fun u' hu' => hothers u' (hu'.trans hu)⟩

end Races

end WalletManager.Proofs
