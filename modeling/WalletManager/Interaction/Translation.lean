import WalletManager.Interaction.Protocol

/-!
# Programs over the calls of another level

A program is translated by giving, for each of its calls, a program over other calls that computes the
answer.
-/

namespace Interaction

variable {C C' : Type} {R : C → Type} {R' : C' → Type} {α β γ σ G : Type}

namespace Prog

theorem bind_assoc (p : Prog C R α) (f : α → Prog C R β) (g : β → Prog C R γ) :
    p >>= f >>= g = p >>= fun a => f a >>= g := by
  induction p with
  | ret a => rfl
  | call c k ih => exact congrArg (Prog.call c) (funext ih)

theorem bind_ret (p : Prog C R α) : p >>= Prog.ret = p := by
  induction p with
  | ret a => rfl
  | call c k ih => exact congrArg (Prog.call c) (funext ih)

lemma allCalls_of_forall {P : C → Prop} (h : ∀ c, P c) (p : Prog C R α) : p.AllCalls P := by
  induction p with
  | ret a => trivial
  | call c k ih => exact ⟨h c, ih⟩

variable (f : (c : C) → Prog C' R' (R c))

def translate : Prog C R α → Prog C' R' α
  | .ret a => .ret a
  | .call c k => f c >>= fun r => (k r).translate

theorem translate_bind (p : Prog C R α) (k : α → Prog C R β) :
    (p >>= k).translate f = p.translate f >>= fun a => (k a).translate f := by
  induction p with
  | ret a => rfl
  | call c k' ih =>
    calc (.call c k' >>= k : Prog C R β).translate f
        = f c >>= fun r => (k' r >>= k).translate f := rfl
      _ = f c >>= fun r => (k' r).translate f >>= fun a => (k a).translate f := by
        rw [funext ih]
      _ = (f c >>= fun r => (k' r).translate f) >>= fun a => (k a).translate f :=
        (bind_assoc _ _ _).symm

lemma AllCalls.translate {P : C → Prop} {P' : C' → Prop} {p : Prog C R α} (hp : p.AllCalls P)
    (hf : ∀ c, P c → (f c).AllCalls P') : (p.translate f).AllCalls P' := by
  induction p with
  | ret a => trivial
  | call c k ih => exact (hf c hp.1).bind (fun r => ih r (hp.2 r))

end Prog

variable {π : Protocol C' R' G} {f : (c : C) → Prog C' R' (R c)}

lemma Prog.AllCalls.conforms_translate {P : C → Prop} {I : G → Prop} {p : Prog C R α} (hp : p.AllCalls P)
    (hf : ∀ c, P c → ∀ g, I g → Conforms π (f c) g (fun g _ => I g)) {g : G} (hg : I g) :
    Conforms π (p.translate f) g (fun g _ => I g) := by
  induction p generalizing g with
  | ret a => exact hg
  | call c k ih => exact ((hf c hp.1 g hg).mono (fun g' r hg' => ih r (hp.2 r) hg')).bind

end Interaction
