import WalletManager.Storage.Calls

/-!
# Rules for programs on the memory store

One rule for each kind of call: a store call continues with the answer of `Store.handle`, a call
to another party with any answer.
-/

namespace WalletManager

open Interaction

variable {α : Type} {lib : Lib} {s : Store}

section Ends

variable {Ob : Type} {obs : Event Call Answer → Option Ob} {Q : List Ob → α → Store → Prop}

lemma ends_store {c : StoreCall} {f : Except Error c.Result → Proc α}
    (h : Ends (memStep lib) obs (f (s.handle lib c).1) (s.handle lib c).2
      (fun l a s' => Q ((obs ⟨.store c, (s.handle lib c).1⟩).toList ++ l) a s')) :
    Ends (memStep lib) obs (store c >>= f) s Q := by
  refine ends_call.mpr ?_
  rintro r s₁ hs
  obtain ⟨rfl, rfl⟩ := Prod.mk.inj (show (r, s₁) = s.handle lib c from hs)
  exact h

lemma ends_store_ok {c : StoreCall} {f : Except Error c.Result → Proc α} {a : c.Result}
    (hr : (s.handle lib c).1 = .ok a)
    (h : Ends (memStep lib) obs (f (.ok a)) (s.handle lib c).2
      (fun l b s' => Q ((obs ⟨.store c, .ok a⟩).toList ++ l) b s')) :
    Ends (memStep lib) obs (store c >>= f) s Q := by
  apply ends_store
  rw [hr]
  exact h

lemma ends_read {c : StoreCall} {f : Except Error c.Result → Proc α} {r : Except Error c.Result}
    (hr : s.handle lib c = (r, s)) (hobs : obs ⟨.store c, r⟩ = none)
    (h : Ends (memStep lib) obs (f r) s Q) : Ends (memStep lib) obs (store c >>= f) s Q := by
  apply ends_store
  rw [hr, hobs]
  exact h

lemma ends_ext {c : ExtCall} {f : c.Answer → Proc α}
    (h : ∀ r, Ends (memStep lib) obs (f r) s
      (fun l a s' => Q ((obs ⟨.ext c, r⟩).toList ++ l) a s')) :
    Ends (memStep lib) obs (ext c >>= f) s Q := by
  refine ends_call.mpr ?_
  rintro r s₁ rfl
  exact h r

end Ends

lemma yields_read {c : StoreCall} {f : Except Error c.Result → Proc α} {a : α}
    (hread : (s.handle lib c).2 = s) (h : Yields (memStep lib) (f (s.handle lib c).1) s a) :
    Yields (memStep lib) (store c >>= f) s a := by
  change Yields (memStep lib) (.call (.store c) f) s a
  refine yields_call (r := (s.handle lib c).1) ?_ h
  intro r s'
  change (r, s') = s.handle lib c ↔ _
  rw [Prod.ext_iff, hread]

end WalletManager
