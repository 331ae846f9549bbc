import Mathlib.Data.List.Forall2

/-!
# Refusable — where the results of refusable steps come from

Many functions return a value or an error and are composed of steps that do the same.  The lemmas
here invert such compositions: `bind_eq_ok_iff` and `bind_eq_error_iff` for two steps in a row,
`forall₂_of_mapM_eq_ok` and `mapM_eq_error_iff` for one step per item of a list.

For functions of several steps there is `Yields result ok refused`, which says of a value that it
satisfies `ok` and of an error that it satisfies `refused`.
-/

namespace AccessorSynthesis

variable {ε α β : Type}

theorem bind_eq_ok_iff {first : Except ε α} {next : α → Except ε β} {b : β} :
    first >>= next = .ok b ↔ ∃ a, first = .ok a ∧ next a = .ok b := by
  cases first with
  | error e =>
      constructor
      · intro h
        cases h
      · rintro ⟨a, ha, _⟩
        cases ha
  | ok a =>
      constructor
      · intro h
        exact ⟨a, rfl, h⟩
      · rintro ⟨a', ⟨⟩, h⟩
        exact h

theorem bind_eq_error_iff {first : Except ε α} {next : α → Except ε β} {e : ε} :
    first >>= next = .error e ↔
      first = .error e ∨ ∃ a, first = .ok a ∧ next a = .error e := by
  cases first with
  | error e' =>
      constructor
      · intro h
        cases h
        exact Or.inl rfl
      · rintro (h | ⟨a, ha, _⟩)
        · cases h
          rfl
        · cases ha
  | ok a =>
      constructor
      · intro h
        exact Or.inr ⟨a, rfl, h⟩
      · rintro (h | ⟨a', ⟨⟩, h⟩)
        · cases h
        · exact h

theorem mapError_eq_ok_iff {ε' : Type} {result : Except ε α} {f : ε → ε'} {a : α} :
    result.mapError f = .ok a ↔ result = .ok a := by
  cases result with
  | error e =>
      simp [Except.mapError]
  | ok a' =>
      simp [Except.mapError]

theorem map_eq_error_iff {f : α → β} {result : Except ε α} {e : ε} :
    result.map f = .error e ↔ result = .error e := by
  cases result with
  | error cause =>
      simp [Except.map]
  | ok a =>
      simp [Except.map]

theorem map_eq_ok_iff {f : α → β} {result : Except ε α} {b : β} :
    result.map f = .ok b ↔ ∃ a, result = .ok a ∧ f a = b := by
  cases result with
  | error cause =>
      simp [Except.map]
  | ok a =>
      simp [Except.map]

theorem exists_of_isSome {result : Except ε α} (h : result.toOption.isSome = true) :
    ∃ a, result = .ok a := by
  cases result with
  | error e =>
      cases h
  | ok a =>
      exact ⟨a, rfl⟩

theorem exists_of_isSome_bind {first : Except ε α} {next : α → Except ε β}
    (h : (first >>= next).toOption.isSome = true) : ∃ a b, first = .ok a ∧ next a = .ok b := by
  rcases exists_of_isSome h with ⟨b, hb⟩
  rcases bind_eq_ok_iff.1 hb with ⟨a, ha, hnext⟩
  exact ⟨a, b, ha, hnext⟩

theorem forall₂_of_mapM_eq_ok {f : α → Except ε β} {items : List α} {results : List β}
    (h : items.mapM f = .ok results) : List.Forall₂ (fun a b => f a = .ok b) items results := by
  induction items generalizing results with
  | nil =>
      cases h
      exact List.Forall₂.nil
  | cons a items ih =>
      rw [List.mapM_cons] at h
      rcases bind_eq_ok_iff.1 h with ⟨b, hb, hrest⟩
      rcases bind_eq_ok_iff.1 hrest with ⟨bs, hbs, hmade⟩
      cases hmade
      exact List.Forall₂.cons hb (ih hbs)

/-- Of several items that are refused, the first one decides. -/
theorem mapM_eq_error_iff {f : α → Except ε β} {items : List α} {e : ε} :
    items.mapM f = .error e ↔ ∃ (position : Nat) (a : α), items[position]? = some a ∧
      f a = .error e ∧ ∀ earlier < position, ∀ b, items[earlier]? = some b → ∃ c, f b = .ok c := by
  induction items with
  | nil =>
      constructor
      · intro h
        cases h
      · rintro ⟨position, a, hat, _⟩
        cases hat
  | cons first items ih =>
      rw [List.mapM_cons]
      constructor
      · intro h
        rcases bind_eq_error_iff.1 h with hfirst | ⟨c, hc, hrest⟩
        · exact ⟨0, first, rfl, hfirst, fun earlier hlt => absurd hlt (Nat.not_lt_zero earlier)⟩
        rcases bind_eq_error_iff.1 hrest with hlater | ⟨cs, _, hmade⟩
        · rcases ih.1 hlater with ⟨position, a, hat, herror, hearlier⟩
          refine ⟨position + 1, a, hat, herror, ?_⟩
          intro earlier hlt b hb
          cases earlier with
          | zero =>
              cases hb
              exact ⟨c, hc⟩
          | succ earlier =>
              exact hearlier earlier (Nat.lt_of_succ_lt_succ hlt) b hb
        · cases hmade
      · rintro ⟨position, a, hat, herror, hearlier⟩
        cases position with
        | zero =>
            cases hat
            exact bind_eq_error_iff.2 (Or.inl herror)
        | succ position =>
            rcases hearlier 0 (Nat.succ_pos position) first rfl with ⟨c, hc⟩
            have hlater : items.mapM f = .error e :=
              ih.2 ⟨position, a, hat, herror, fun earlier hlt b hb =>
                hearlier (earlier + 1) (Nat.succ_lt_succ hlt) b hb⟩
            exact bind_eq_error_iff.2 (Or.inr ⟨c, hc, bind_eq_error_iff.2 (Or.inl hlater)⟩)

theorem exists_of_mapM_eq_error {f : α → Except ε β} {items : List α} {e : ε}
    (h : items.mapM f = .error e) : ∃ a ∈ items, f a = .error e := by
  rcases mapM_eq_error_iff.1 h with ⟨position, a, hat, herror, _⟩
  exact ⟨a, List.mem_of_getElem? hat, herror⟩

theorem exists_mapM_eq_ok {f : α → Except ε β} {items : List α}
    (h : ∀ a ∈ items, ∃ b, f a = .ok b) : ∃ results, items.mapM f = .ok results := by
  cases hresult : items.mapM f with
  | ok results =>
      exact ⟨results, rfl⟩
  | error e =>
      rcases exists_of_mapM_eq_error hresult with ⟨a, ha, herror⟩
      rcases h a ha with ⟨b, hb⟩
      rw [hb] at herror
      cases herror

theorem mapM_congr {f g : α → Except ε β} {items : List α} (h : ∀ a ∈ items, f a = g a) :
    items.mapM f = items.mapM g := by
  induction items with
  | nil =>
      rfl
  | cons a items ih =>
      rw [List.mapM_cons, List.mapM_cons, h a List.mem_cons_self,
        ih fun b hb => h b (List.mem_cons_of_mem a hb)]

/-- The result is a value for which `ok` holds, or an error for which `refused` holds. -/
def Yields (result : Except ε α) (ok : α → Prop) (refused : ε → Prop) : Prop :=
  match result with
  | .ok a => ok a
  | .error e => refused e

namespace Yields

variable {result : Except ε α} {next : α → Except ε β}
variable {ok ok' : α → Prop} {refused refused' : ε → Prop} {after : β → Prop}

theorem ok_of_eq {a : α} (h : Yields result ok refused) (heq : result = .ok a) : ok a := by
  subst heq
  exact h

theorem refused_of_eq {e : ε} (h : Yields result ok refused) (heq : result = .error e) :
    refused e := by
  subst heq
  exact h

theorem mono (h : Yields result ok refused) (hok : ∀ a, ok a → ok' a)
    (hrefused : ∀ e, refused e → refused' e) : Yields result ok' refused' := by
  cases result with
  | ok a =>
      exact hok a h
  | error e =>
      exact hrefused e h

/-- What is said of a value may mention that it is the result. -/
theorem with_eq (h : Yields result ok refused) :
    Yields result (fun a => result = .ok a ∧ ok a) refused := by
  cases result with
  | ok a =>
      exact ⟨rfl, h⟩
  | error e =>
      exact h

theorem bind (h : Yields result (fun a => Yields (next a) after refused) refused) :
    Yields (result >>= next) after refused := by
  cases result with
  | ok a =>
      exact h
  | error e =>
      exact h

/-- A fold keeps an invariant that may mention how many items were folded. -/
theorem foldlM {step : β → α → Except ε β} {inv : Nat → β → Prop} {items : List α} {count : Nat}
    {state : β} (h : inv count state)
    (hstep : ∀ done state item, item ∈ items → done < count + items.length → inv done state →
      Yields (step state item) (inv (done + 1)) refused) :
    Yields (items.foldlM step state) (inv (count + items.length)) refused := by
  induction items generalizing count state with
  | nil =>
      exact h
  | cons item items ih =>
      rw [List.foldlM_cons]
      refine bind ((hstep count state item List.mem_cons_self ?_ h).mono ?_ fun _ => id)
      · simp
      · intro next hnext
        -- The rest is folded from a count that is higher by one.
        have hlength : count + (item :: items).length = count + 1 + items.length := by
          rw [List.length_cons]
          omega
        rw [hlength] at hstep ⊢
        refine ih hnext ?_
        intro done state other hother
        exact hstep done state other (List.mem_cons_of_mem item hother)

end Yields

end AccessorSynthesis
