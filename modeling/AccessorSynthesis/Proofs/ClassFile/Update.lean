import AccessorSynthesis.ClassFile.ConstantPool

/-!
# Update — what a refusable change ends in

A change that may be refused leaves a state in both cases.  This file defines

* `Ends change s ok refused` — run from `s`, `change` ends in a result and a state that satisfy
  `ok`, or in an error and a state that satisfy `refused`;
* its rules for the steps that changes are made of.

Both predicates see the state, since a refused change keeps what it did until then.
-/

namespace AccessorSynthesis
namespace ClassFile

variable {State α β : Type}

namespace Update

variable {change : Update State α} {next : α → Update State β} {s t : State}

theorem bind_apply_of_ok {a : α} (h : change s = (.ok a, t)) : (change >>= next) s = next a t := by
  have hrun : (change >>= next) s = ExceptT.bindCont next (change s).1 (change s).2 := rfl
  rw [hrun, h]
  rfl

theorem bind_apply_of_error {e : Error} (h : change s = (.error e, t)) :
    (change >>= next) s = (.error e, t) := by
  have hrun : (change >>= next) s = ExceptT.bindCont next (change s).1 (change s).2 := rfl
  rw [hrun, h]
  rfl

end Update

/-- The change ends in a result for which `ok` holds, or in an error for which `refused` holds. -/
def Ends (change : Update State α) (s : State) (ok : α → State → Prop)
    (refused : Error → State → Prop) : Prop :=
  match change s with
  | (.ok a, t) => ok a t
  | (.error e, t) => refused e t

namespace Ends

variable {change : Update State α} {next : α → Update State β} {s t : State}
variable {ok ok' : α → State → Prop} {refused refused' : Error → State → Prop}
variable {after : β → State → Prop}

theorem of_eq_ok {a : α} (heq : change s = (.ok a, t)) (h : ok a t) : Ends change s ok refused := by
  unfold Ends
  rw [heq]
  exact h

theorem of_eq_error {e : Error} (heq : change s = (.error e, t)) (h : refused e t) :
    Ends change s ok refused := by
  unfold Ends
  rw [heq]
  exact h

theorem ok_of_eq {a : α} (h : Ends change s ok refused) (heq : change s = (.ok a, t)) : ok a t := by
  unfold Ends at h
  rw [heq] at h
  exact h

theorem refused_of_eq {e : Error} (h : Ends change s ok refused) (heq : change s = (.error e, t)) :
    refused e t := by
  unfold Ends at h
  rw [heq] at h
  exact h

theorem mono (h : Ends change s ok refused) (hok : ∀ a t, ok a t → ok' a t)
    (hrefused : ∀ e t, refused e t → refused' e t) : Ends change s ok' refused' := by
  rcases heq : change s with ⟨result, t⟩
  cases result with
  | ok a =>
      exact of_eq_ok heq (hok a t (h.ok_of_eq heq))
  | error e =>
      exact of_eq_error heq (hrefused e t (h.refused_of_eq heq))

/-- The state afterwards satisfies what both endings ensure. -/
theorem state {p : State → Prop} (h : Ends change s (fun _ t => p t) (fun _ t => p t)) :
    p (change s).2 := by
  rcases heq : change s with ⟨result, t⟩
  cases result with
  | ok a =>
      exact h.ok_of_eq heq
  | error e =>
      exact h.refused_of_eq heq

theorem bind (h : Ends change s (fun a t => Ends (next a) t after refused) refused) :
    Ends (change >>= next) s after refused := by
  rcases heq : change s with ⟨result, t⟩
  cases result with
  | ok a =>
      have hnext := h.ok_of_eq heq
      unfold Ends at hnext ⊢
      rw [Update.bind_apply_of_ok heq]
      exact hnext
  | error e =>
      exact of_eq_error (Update.bind_apply_of_error heq) (h.refused_of_eq heq)

theorem pure {a : α} (h : ok a s) : Ends (Pure.pure a : Update State α) s ok refused := h

theorem modify {f : State → State} {ok : Unit → State → Prop} (h : ok () (f s)) :
    Ends (modify f : Update State Unit) s ok refused := h

theorem throw {e : Error} (h : refused e s) :
    Ends (MonadExcept.throw e : Update State α) s ok refused := h

end Ends

end ClassFile
end AccessorSynthesis
