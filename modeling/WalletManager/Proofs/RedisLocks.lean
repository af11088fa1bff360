import WalletManager.Interaction.Protocol
import WalletManager.Lock.RedisLocker
import Mathlib.Algebra.GroupWithZero.Nat

/-!
# Locks in Redis

`Release` compares with one command and deletes with another. What it deletes is the entry that it
has compared as long as nothing has removed that entry in between: its time has not run out, and
no other `Release` has deleted it. Then a lock has one holder at a time.
-/

namespace WalletManager.Proofs

open Interaction

inductive LockPhase
  | idle
  /-- `Release` has read its own token. -/
  | found
  deriving DecidableEq

inductive LockMoves (op : LockOp) : LockPhase → (c : RedisCall) → RedisAnswer c → LockPhase → Prop
  | set {name token : String} {ttl : Nat} {r : RedisAnswer (.setNX (RedisLocker.key name) token ttl)} :
    op = .acquire name ttl token → LockMoves op .idle (.setNX (RedisLocker.key name) token ttl) r .idle
  | look {name : String} {r : RedisAnswer (.get (RedisLocker.key name))} :
    LockMoves op .idle (.get (RedisLocker.key name)) r .idle
  | find {name token : String} : op = .release name token →
    LockMoves op .idle (.get (RedisLocker.key name)) (.ok (some token)) .found
  | delete {name token : String} {r : RedisAnswer (.del (RedisLocker.key name))} :
    op = .release name token → LockMoves op .found (.del (RedisLocker.key name)) r .idle
  | wait {ms : Nat} {r : RedisAnswer (.tick ms)} : LockMoves op .idle (.tick ms) r .idle

def lockProtocol (op : LockOp) : Protocol RedisCall RedisAnswer LockPhase := ⟨fun _ _ => True, LockMoves op⟩

lemma lockOp_conforms (op : LockOp) :
    Conforms (lockProtocol op) op.proc .idle (fun _ _ => True) := by
  cases op with
  | acquire name ttl token =>
    rintro (err | ok) - <;> exact ⟨.idle, .set rfl, trivial⟩
  | release name token =>
    rintro (err | none | cur) -
    · exact ⟨.idle, .look, trivial⟩
    · exact ⟨.idle, .look, trivial⟩
    · by_cases hcur : cur = token
      · subst hcur
        refine ⟨.found, .find rfl, ?_⟩
        dsimp only [Prog.bind]
        rw [if_neg (by simp)]
        rintro (err | n) - <;> exact ⟨.idle, .delete rfl, trivial⟩
      · refine ⟨.idle, .look, ?_⟩
        dsimp only [Prog.bind]
        rw [if_pos hcur]
        trivial
  | tick ms => exact fun r _ => ⟨.idle, .wait, trivial⟩

lemma lockKey_inj {name name' : String} (h : RedisLocker.key name = RedisLocker.key name') : name = name' := by
  have hlist := congrArg String.toList h
  simp only [RedisLocker.key, String.toList_append] at hlist
  exact String.toList_inj.mp (List.append_cancel_left hlist)

lemma live_lookup {R : Redis} {key : String} {e : RedisEntry} (h : R.live key = some e) :
    R.entries.lookup key = some e :=
  (Option.filter_eq_some_iff.mp h).1

lemma setNX_cases (R : Redis) (key value : String) (ttl : Nat) :
    (R.live key = none ∧ R.handle (.setNX key value ttl) =
      (.ok true, { R with entries := R.entries.insert key ⟨value, Redis.expiry R.now ttl⟩ })) ∨
    ((R.live key).isSome ∧ R.handle (.setNX key value ttl) = (.ok false, R)) := by
  cases hlive : R.live key with
  | none => exact .inl ⟨rfl, by simp only [Redis.handle, hlive]⟩
  | some e => exact .inr ⟨rfl, by simp only [Redis.handle, hlive]⟩

section Safety

variable {T : Type} {ops : T → LockOp} {n₀ : Nat} {R R' : Redis} {γ : T → LockPhase}

abbrev RedisLog (T : Type) := List (T × Event RedisCall RedisAnswer)

variable {log pre post : RedisLog T} {x : T × Event RedisCall RedisAnswer}

def elapsed (log : RedisLog T) : Nat :=
  (log.map (fun x => match x.2.call with
    | .tick ms => ms
    | _ => 0)).sum

structure Lease where
  key : String
  token : String
  ttl : Nat
  deriving DecidableEq

def setBy : T × Event RedisCall RedisAnswer → Option Lease
  | (_, ⟨.setNX _ _ _, .ok false⟩) => none
  | (_, ⟨.setNX key token ttl, _⟩) => some ⟨key, token, ttl⟩
  | _ => none

def grantedBy : T × Event RedisCall RedisAnswer → Option Lease
  | (_, ⟨.setNX key token ttl, .ok true⟩) => some ⟨key, token, ttl⟩
  | _ => none

/-- Since it was set, the lease has run out, or a `Release` of its token has sent DEL. -/
def Over (ops : T → LockOp) (post : RedisLog T) (l : Lease) : Prop :=
  l.ttl ≠ 0 ∧ l.ttl ≤ elapsed post ∨
    ∃ y ∈ post, y.2.call = .del l.key ∧ ∃ name, ops y.1 = .release name l.token

/-- A `Release` sends DEL only while the lease of its token is not over. -/
def DeletesInTime (ops : T → LockOp) (log : RedisLog T) (_ : Redis) (t : T) : RedisCall → Prop
  | .del key => ∀ name token, ops t = .release name token → ∀ pre x post l, log = pre ++ x :: post →
    setBy x = some l → l.key = key → l.token = token → ¬Over ops post l
  | _ => True

lemma elapsed_append (log log' : RedisLog T) : elapsed (log ++ log') = elapsed log + elapsed log' := by
  simp [elapsed]

lemma elapsed_cons_set {l : Lease} (h : setBy x = some l) (post : RedisLog T) :
    elapsed (x :: post) = elapsed post := by
  obtain ⟨t, ⟨c, r⟩⟩ := x
  cases c with
  | setNX => simp [elapsed]
  | _ => cases h

lemma setBy_of_granted {l : Lease} (h : grantedBy x = some l) : setBy x = some l := by
  obtain ⟨t, ⟨c, r⟩⟩ := x
  cases c with
  | setNX key token ttl =>
    rcases r with err | _ | _
    · cases h
    · cases h
    · exact h
  | _ => cases h

lemma setBy_setNX {t : T} {key token : String} {ttl : Nat} {r : RedisAnswer (.setNX key token ttl)} {l : Lease}
    (h : setBy (t, ⟨.setNX key token ttl, r⟩) = some l) : l = ⟨key, token, ttl⟩ := by
  rcases r with err | _ | _ <;> cases h <;> rfl

lemma Over.append {l : Lease} (h : Over ops post l) (log : RedisLog T) : Over ops (post ++ log) l := by
  rcases h with ⟨httl, hle⟩ | ⟨y, hy, hdel⟩
  · refine .inl ⟨httl, ?_⟩
    rw [elapsed_append]
    omega
  · exact .inr ⟨y, List.mem_append_left _ hy, hdel⟩

def Lease.entry (n₀ : Nat) (pre : RedisLog T) (l : Lease) : RedisEntry :=
  ⟨l.token, Redis.expiry (n₀ + elapsed pre) l.ttl⟩

def HeldSince (ops : T → LockOp) (n₀ : Nat) (R : Redis) (pre post : RedisLog T) (l : Lease) : Prop :=
  Over ops post l ∨ R.entries.lookup l.key = some (l.entry n₀ pre)

lemma HeldSince.over {l : Lease} (h : HeldSince ops n₀ R pre post l) (hset : setBy x = some l)
    (hnow : R.now = n₀ + elapsed (pre ++ x :: post)) (hdead : R.live l.key = none) :
    Over ops post l := by
  rcases h with hover | hentry
  · exact hover
  · left
    rw [elapsed_append, elapsed_cons_set hset] at hnow
    unfold Redis.live at hdead
    rw [hentry] at hdead
    unfold Lease.entry Redis.expiry at hdead
    split at hdead
    · cases hdead
    · rename_i httl
      refine ⟨httl, ?_⟩
      simp [Option.filter] at hdead
      omega

structure LockInv (ops : T → LockOp) (n₀ : Nat) (γ : T → LockPhase) (log : RedisLog T) (R : Redis) :
    Prop where
  now : R.now = n₀ + elapsed log
  setters : ∀ x ∈ log, ∀ l, setBy x = some l → ∃ name, ops x.1 = .acquire name l.ttl l.token ∧
    l.key = RedisLocker.key name
  entries : ∀ key e, R.entries.lookup key = some e → ∃ pre x post l, log = pre ++ x :: post ∧
    setBy x = some l ∧ l.key = key ∧ e = l.entry n₀ pre
  granted : ∀ pre x post l, log = pre ++ x :: post → grantedBy x = some l →
    HeldSince ops n₀ R pre post l
  found : ∀ t name token, γ t = .found → ops t = .release name token → ∃ pre x post l,
    log = pre ++ x :: post ∧ setBy x = some l ∧ l.key = RedisLocker.key name ∧ l.token = token ∧
    HeldSince ops n₀ R pre post l
  single : Throughout (fun pre y => ∀ l', grantedBy y = some l' → ∀ pre₁ x mid, pre = pre₁ ++ x :: mid →
    ∀ l, grantedBy x = some l → l.key = l'.key → Over ops mid l) log

lemma LockInv.start (R : Redis) (hempty : R.entries = ∅) :
    LockInv ops R.now (fun _ => .idle) [] R where
  now := rfl
  setters _ h := by cases h
  entries key e he := by
    rw [hempty, AList.lookup_empty] at he
    cases he
  granted pre x post l h := by simp at h
  found _ _ _ h := by cases h
  single := throughout_nil

lemma LockInv.own (h : LockInv ops n₀ γ log R) {t : T} {name token : String} (hg : γ t = .found)
    (hop : ops t = .release name token) (hok : DeletesInTime ops log R t (.del (RedisLocker.key name))) :
    ∃ x ∈ log, ∃ l e, setBy x = some l ∧ l.key = RedisLocker.key name ∧ l.token = token ∧
      R.entries.lookup (RedisLocker.key name) = some e ∧ e.value = token := by
  obtain ⟨pre, x, post, l, rfl, hx, hkey, htoken, hheld⟩ := h.found t name token hg hop
  have hentry := hheld.resolve_left (hok name token hop pre x post l rfl hx hkey htoken)
  rw [hkey] at hentry
  exact ⟨x, List.mem_append_right _ List.mem_cons_self, l, _, hx, hkey, htoken, hentry, htoken⟩

variable [DecidableEq T]

lemma LockInv.move (h : LockInv ops n₀ γ log R) {t : T} {ev : Event RedisCall RedisAnswer} {g' : LockPhase}
    (hnow : R'.now = R.now + elapsed [(t, ev)])
    (hsetter : ∀ l, setBy (t, ev) = some l → ∃ name, ops t = .acquire name l.ttl l.token ∧
      l.key = RedisLocker.key name)
    (hkeep : ∀ pre x post l, log = pre ++ x :: post → setBy x = some l →
      HeldSince ops n₀ R pre post l → HeldSince ops n₀ R' pre (post ++ [(t, ev)]) l)
    (hentries : ∀ key e, R'.entries.lookup key = some e → R.entries.lookup key = some e ∨
      ∃ l, setBy (t, ev) = some l ∧ l.key = key ∧ e = l.entry n₀ log)
    (hgrant : ∀ l, grantedBy (t, ev) = some l →
      R'.entries.lookup l.key = some (l.entry n₀ log) ∧ R.live l.key = none)
    (hfound : ∀ name token, g' = .found → ops t = .release name token →
      ∃ e, R'.entries.lookup (RedisLocker.key name) = some e ∧ e.value = token) :
    LockInv ops n₀ (Function.update γ t g') (log ++ [(t, ev)]) R' := by
  have hentries' : ∀ key e, R'.entries.lookup key = some e → ∃ pre x post l,
      log ++ [(t, ev)] = pre ++ x :: post ∧ setBy x = some l ∧ l.key = key ∧ e = l.entry n₀ pre := by
    intro key e he
    rcases hentries key e he with he | ⟨l, hl, hkey, rfl⟩
    · obtain ⟨pre, x, post, l, rfl, hx, hkey, rfl⟩ := h.entries key e he
      exact ⟨pre, x, post ++ [(t, ev)], l, by simp, hx, hkey, rfl⟩
    · exact ⟨log, (t, ev), [], l, rfl, hl, hkey, rfl⟩
  refine ⟨?_, ?_, hentries', ?_, ?_, h.single.concat ?_⟩
  · rw [hnow, h.now, elapsed_append]
    omega
  · intro x hx l hl
    rcases List.mem_append.mp hx with hx | hx
    · exact h.setters x hx l hl
    · obtain rfl := List.mem_singleton.mp hx
      exact hsetter l hl
  · intro pre x post l hsplit hl
    rcases concat_split hsplit with ⟨rfl, rfl, rfl⟩ | ⟨post', rfl, hlog⟩
    · exact .inr (hgrant l hl).1
    · exact hkeep pre x post' l hlog (setBy_of_granted hl) (h.granted pre x post' l hlog hl)
  · intro t' name token hg hop
    by_cases ht : t' = t
    · rw [ht, Function.update_self] at hg
      rw [ht] at hop
      obtain ⟨e, he, rfl⟩ := hfound name token hg hop
      obtain ⟨pre, x, post, l, hlog, hx, hkey, rfl⟩ := hentries' _ e he
      exact ⟨pre, x, post, l, hlog, hx, hkey, rfl, .inr (by rw [hkey, he])⟩
    · rw [Function.update_of_ne ht] at hg
      obtain ⟨pre, x, post, l, rfl, hx, hkey, htoken, hheld⟩ := h.found t' name token hg hop
      exact ⟨pre, x, post ++ [(t, ev)], l, by simp, hx, hkey, htoken, hkeep pre x post l rfl hx hheld⟩
  · intro l' hl' pre₁ x mid hlog l hl hkey
    refine (h.granted pre₁ x mid l hlog hl).over (setBy_of_granted hl) (hlog ▸ h.now) ?_
    rw [hkey]
    exact (hgrant l' hl').2

lemma LockInv.pass (h : LockInv ops n₀ γ log R) {t : T} {ev : Event RedisCall RedisAnswer} {g' : LockPhase}
    (hnow : R'.now = R.now + elapsed [(t, ev)]) (hentries : R'.entries = R.entries)
    (hsetter : ∀ l, setBy (t, ev) = some l → ∃ name, ops t = .acquire name l.ttl l.token ∧
      l.key = RedisLocker.key name) (hgranted : grantedBy (t, ev) = none)
    (hfound : ∀ name token, g' = .found → ops t = .release name token →
      ∃ e, R.entries.lookup (RedisLocker.key name) = some e ∧ e.value = token) :
    LockInv ops n₀ (Function.update γ t g') (log ++ [(t, ev)]) R' := by
  refine h.move hnow hsetter ?_ ?_ ?_ (hentries ▸ hfound)
  · intro pre x post l _ _ hheld
    rcases hheld with hover | hentry
    · exact .inl (hover.append _)
    · exact .inr (by rw [hentries, hentry])
  · intro key e he
    exact .inl (hentries ▸ he)
  · intro l hl
    rw [hgranted] at hl
    cases hl

lemma LockInv.set (h : LockInv ops n₀ γ log R) {t : T} {name token : String} {ttl : Nat}
    {r : RedisAnswer (.setNX (RedisLocker.key name) token ttl)} (hop : ops t = .acquire name ttl token)
    (hlive : R.live (RedisLocker.key name) = none) (hr : r ≠ .ok false) :
    LockInv ops n₀ (Function.update γ t .idle) (log ++ [(t, ⟨.setNX (RedisLocker.key name) token ttl, r⟩)])
      { R with entries := R.entries.insert (RedisLocker.key name) ⟨token, Redis.expiry R.now ttl⟩ } := by
  have hset : setBy (t, ⟨.setNX (RedisLocker.key name) token ttl, r⟩) =
      some ⟨RedisLocker.key name, token, ttl⟩ := by
    rcases r with err | _ | _
    · rfl
    · exact absurd rfl hr
    · rfl
  have hentry : (⟨token, Redis.expiry R.now ttl⟩ : RedisEntry) =
      Lease.entry n₀ log ⟨RedisLocker.key name, token, ttl⟩ := by
    rw [h.now]
    rfl
  refine h.move rfl ?_ ?_ ?_ ?_ nofun
  · intro l hl
    rw [hset] at hl
    cases hl
    exact ⟨name, hop, rfl⟩
  · rintro pre x post l rfl hx hheld
    by_cases hkey : l.key = RedisLocker.key name
    · exact .inl ((hheld.over hx h.now (hkey ▸ hlive)).append _)
    · rcases hheld with hover | hlookup
      · exact .inl (hover.append _)
      · exact .inr ((AList.lookup_insert_ne hkey).trans hlookup)
  · intro key e he
    by_cases hkey : key = RedisLocker.key name
    · subst hkey
      have hnew := he.symm.trans (AList.lookup_insert _)
      cases hnew
      exact .inr ⟨_, hset, rfl, hentry⟩
    · exact .inl ((AList.lookup_insert_ne hkey).symm.trans he)
  · intro l hl
    rw [setBy_of_granted hl] at hset
    cases hset
    exact ⟨(AList.lookup_insert _).trans (congrArg some hentry), hlive⟩

lemma LockInv.delete (h : LockInv ops n₀ γ log R) {t : T} {name token : String}
    {r : RedisAnswer (.del (RedisLocker.key name))} (hg : γ t = .found)
    (hop : ops t = .release name token) (hok : DeletesInTime ops log R t (.del (RedisLocker.key name))) :
    LockInv ops n₀ (Function.update γ t .idle) (log ++ [(t, ⟨.del (RedisLocker.key name), r⟩)])
      { R with entries := R.entries.erase (RedisLocker.key name) } := by
  obtain ⟨-, -, -, e, -, -, -, he, hvalue⟩ := h.own hg hop hok
  refine h.move rfl nofun ?_ ?_ nofun nofun
  · intro pre x post l hlog hx hheld
    rcases hheld with hover | hlookup
    · exact .inl (hover.append _)
    by_cases hkey : l.key = RedisLocker.key name
    · -- the entry is the one of the token that is released
      rw [hkey, he] at hlookup
      have htoken : l.token = token := by
        cases hlookup
        exact hvalue
      refine .inl (.inr ⟨_, List.mem_append_right _ (List.mem_singleton_self _), ?_, name, ?_⟩)
      · rw [hkey]
      · rw [htoken, hop]
    · exact .inr ((AList.lookup_erase_ne hkey).trans hlookup)
  · intro key e' he'
    by_cases hkey : key = RedisLocker.key name
    · subst hkey
      have hnone := he'.symm.trans (AList.lookup_erase _ _)
      cases hnone
    · exact .inl ((AList.lookup_erase_ne hkey).symm.trans he')

lemma LockInv.step (h : LockInv ops n₀ γ log R) {t : T} {c : RedisCall} {r : RedisAnswer c}
    {g' : LockPhase} (hm : LockMoves (ops t) (γ t) c r g') (hok : DeletesInTime ops log R t c)
    (hs : redisStep R c r R') :
    LockInv ops n₀ (Function.update γ t g') (log ++ [(t, ⟨c, r⟩)]) R' := by
  generalize hgt : γ t = g at hm
  cases hm with
  | @set name token ttl r hop =>
    have hsetter : ∀ l, setBy (t, ⟨.setNX (RedisLocker.key name) token ttl, r⟩) = some l →
        ∃ name, ops t = .acquire name l.ttl l.token ∧ l.key = RedisLocker.key name := by
      intro l hl
      obtain rfl := setBy_setNX hl
      exact ⟨name, hop, rfl⟩
    rcases setNX_cases R (RedisLocker.key name) token ttl with ⟨hlive, hdone⟩ | ⟨hlive, hdone⟩
    · rcases hs with hs | ⟨-, ⟨err, rfl⟩, rfl | rfl⟩
      · obtain ⟨rfl, rfl⟩ := Prod.mk.inj (hs.trans hdone)
        exact h.set hop hlive nofun
      · exact h.pass rfl rfl hsetter rfl nofun
      · rw [hdone]
        exact h.set hop hlive nofun
    · rcases hs with hs | ⟨-, ⟨err, rfl⟩, rfl | rfl⟩
      · obtain ⟨rfl, rfl⟩ := Prod.mk.inj (hs.trans hdone)
        exact h.pass rfl rfl nofun rfl nofun
      · exact h.pass rfl rfl hsetter rfl nofun
      · rw [hdone]
        exact h.pass rfl rfl hsetter rfl nofun
  | look =>
    obtain rfl : R' = R := by
      rcases hs with hs | ⟨-, -, rfl | rfl⟩
      · exact congrArg Prod.snd hs
      · rfl
      · rfl
    exact h.pass rfl rfl nofun rfl nofun
  | @find name token hop =>
    rcases hs with hs | ⟨-, ⟨err, herr⟩, -⟩
    · obtain ⟨hread, rfl⟩ := Prod.mk.inj hs
      refine h.pass rfl rfl nofun rfl ?_
      intro name' token' _ hop'
      obtain ⟨rfl, rfl⟩ : name' = name ∧ token' = token := by
        rw [hop] at hop'
        exact ⟨(LockOp.release.inj hop').1.symm, (LockOp.release.inj hop').2.symm⟩
      obtain ⟨e, hlive, hvalue⟩ := Option.map_eq_some_iff.mp (Except.ok.inj hread).symm
      exact ⟨e, live_lookup hlive, hvalue⟩
    · cases herr
  | @delete name token r hop =>
    rcases hs with hs | ⟨-, ⟨err, rfl⟩, rfl | rfl⟩
    · obtain rfl := congrArg Prod.snd hs
      exact h.delete hgt hop hok
    · exact h.pass rfl rfl nofun rfl nofun
    · exact h.delete hgt hop hok
  | @wait ms r =>
    rcases hs with hs | ⟨hne, -⟩
    · obtain rfl := congrArg Prod.snd hs
      exact h.pass rfl rfl nofun rfl nofun
    · exact absurd rfl (hne ms)

abbrev RedisPool (T : Type) := Pool T RedisCall RedisAnswer (Except Error (Option (String × Bool))) Redis

/-- When every DEL is sent in time, it deletes the entry that was set for its own token, and of two
grants of a lock the earlier one is over. -/
theorem redis_locks_have_one_holder {R₀ : Redis} (hempty : R₀.entries = ∅) {P : RedisPool T}
    (h : Pool.Leads redisStep (DeletesInTime ops) (Pool.start R₀ (fun t => (ops t).proc)) P) :
    (∀ t key k name token, P.threads t = some (.call (.del key) k) → ops t = .release name token →
      DeletesInTime ops P.log P.shared t (.del key) →
      ∃ x ∈ P.log, ∃ ttl e, ops x.1 = .acquire name ttl token ∧ setBy x = some ⟨key, token, ttl⟩ ∧
        P.shared.entries.lookup key = some e ∧ e.value = token) ∧
    ∀ pre x mid y post l l', P.log = pre ++ x :: (mid ++ y :: post) → grantedBy x = some l →
      grantedBy y = some l' → l.key = l'.key → Over ops mid l := by
  obtain ⟨γ, hinv, hconf⟩ := h.invariant (π := fun t => lockProtocol (ops t))
    (J := LockInv ops R₀.now) (fun t => lockOp_conforms (ops t)) (.start R₀ hempty)
    (fun _ _ _ _ _ _ => trivial) (fun _ _ _ _ _ _ _ _ hJ hm hok hs => hJ.step hm hok hs)
  constructor
  · intro t key k name token ht hop hok
    obtain ⟨p, hp, hpt⟩ := hconf t
    obtain rfl : p = .call (.del key) k := Option.some.inj (hp.symm.trans ht)
    obtain ⟨g', hmove, -⟩ := hpt (.ok 0) trivial
    generalize hgt : γ t = g at hmove
    generalize hr : (Except.ok 0 : RedisAnswer (.del key)) = r at hmove
    cases hmove with
    | @delete name' token' _ hop' =>
      rw [hop] at hop'
      cases hop'
      obtain ⟨x, hx, ⟨key, token, ttl⟩, e, hset, rfl, rfl, he, hvalue⟩ := hinv.own hgt hop hok
      obtain ⟨name', hsetter, hkey⟩ := hinv.setters x hx _ hset
      have hname : name' = name := lockKey_inj hkey.symm
      exact ⟨x, hx, ttl, e, hname ▸ hsetter, hset, he, hvalue⟩
  · intro pre x mid y post l l' hlog hx hy hkey
    have hsplit : P.log = (pre ++ x :: mid) ++ y :: post := by
      rw [hlog, List.append_assoc, List.cons_append]
    exact hinv.single _ y post hsplit l' hy pre x mid rfl l hx hkey

def rivalLocks : Fin 5 → LockOp
  | 0 => .acquire "addr" 10 "a"
  | 1 => .acquire "addr" 10 "b"
  | 2 => .acquire "addr" 10 "c"
  | 3 => .release "addr" "a"
  | 4 => .tick 10

def lockStart : RedisPool (Fin 5) := Pool.start {} (fun t => (rivalLocks t).proc)

def early (log : RedisLog (Fin 5)) (_ : Redis) (_ : Fin 5) : RedisCall → Bool
  | .del key => elapsed log = 0 ∧ log.all (fun x => x.2.call ≠ .del key)
  | _ => true

lemma early_inTime (log : RedisLog (Fin 5)) (R : Redis) (t : Fin 5) (c : RedisCall)
    (h : early log R t c = true) : DeletesInTime rivalLocks log R t c := by
  cases c with
  | del key =>
    obtain ⟨helapsed, hdel⟩ := of_decide_eq_true h
    rintro name token - pre x post l rfl hx rfl rfl (⟨httl, hle⟩ | ⟨y, hy, hcall, -⟩)
    · rw [elapsed_append, elapsed_cons_set hx] at helapsed
      omega
    · have hne := List.all_eq_true.mp hdel y (List.mem_append_right _ (List.mem_cons_of_mem _ hy))
      exact of_decide_eq_true hne hcall
  | _ => trivial

def handedLock : RedisPool (Fin 5) := lockStart.schedule early Redis.handle [0, 3, 3, 1]

theorem redis_locks_have_one_holder_handed :
    handedLock.log.filterMap grantedBy = [⟨"lock:addr", "a", 10⟩, ⟨"lock:addr", "b", 10⟩] ∧
      Over rivalLocks ((handedLock.log.drop 1).take 2) ⟨"lock:addr", "a", 10⟩ := by
  have hleads : Pool.Leads redisStep (DeletesInTime rivalLocks) lockStart handedLock :=
    Pool.Leads.schedule early_inTime (fun _ _ => .inl rfl) .refl _
  have hlen : handedLock.log.length = 4 := by decide +kernel
  have htail : (handedLock.log.drop 1).drop 2 = [handedLock.log[3]] := by
    rw [List.drop_drop, List.drop_eq_getElem_cons (by omega), List.drop_eq_nil_of_le (by omega)]
  have hlog : handedLock.log =
      [] ++ handedLock.log[0] :: ((handedLock.log.drop 1).take 2 ++ handedLock.log[3] :: []) := by
    rw [← htail, List.take_append_drop, List.nil_append]
    exact List.drop_eq_getElem_cons (i := 0) (by omega)
  have hfirst : handedLock.log[0]?.bind grantedBy = some ⟨"lock:addr", "a", 10⟩ := by decide +kernel
  have hsecond : handedLock.log[3]?.bind grantedBy = some ⟨"lock:addr", "b", 10⟩ := by decide +kernel
  rw [List.getElem?_eq_getElem (by omega)] at hfirst hsecond
  exact ⟨by decide +kernel,
    (redis_locks_have_one_holder rfl hleads).2 _ _ _ _ _ _ _ hlog hfirst hsecond rfl⟩

/-- The lease of the first client runs out after its `Release` has compared the token, and the second
client gets the lock. -/
def staleRelease : RedisPool (Fin 5) :=
  lockStart.schedule (fun _ _ _ _ => true) Redis.handle [0, 3, 4, 1]

/-- The `Release` of the first client deletes the second one's entry, and a third client gets the lock
while the second one's lease has run for no time. -/
theorem stale_release_deletes_lock :
    Pool.Leads redisStep (fun _ _ _ _ => True) lockStart staleRelease ∧
    staleRelease.shared.live "lock:addr" = some ⟨"b", some 20⟩ ∧
    (staleRelease.schedule (fun _ _ _ _ => true) Redis.handle [3]).shared.live "lock:addr" = none ∧
    (staleRelease.schedule (fun _ _ _ _ => true) Redis.handle [3, 2]).log.map
        (fun x => (x.1, x.2.call, (grantedBy x).isSome)) =
      [(0, .setNX "lock:addr" "a" 10, true), (3, .get "lock:addr", false), (4, .tick 10, false),
        (1, .setNX "lock:addr" "b" 10, true), (3, .del "lock:addr", false),
        (2, .setNX "lock:addr" "c" 10, true)] := by
  refine ⟨?_, by decide +kernel, by decide +kernel, by decide +kernel⟩
  exact Pool.Leads.schedule (fun _ _ _ _ _ => trivial) (fun _ _ => .inl rfl) .refl _

end Safety

end WalletManager.Proofs
