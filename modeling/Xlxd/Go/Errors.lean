/-
  Xlxd.Go.Errors — Go's `if err != nil { return err }`. A call that can fail is an
  `Except`, and a function that returns at the first error is a chain of binds; a loop that
  appends one result per element and returns at the first error is `List.mapM`.
-/

import Mathlib.Logic.Basic

namespace Xlxd.Go

variable {ε α β : Type}

theorem bind_eq_ok_iff {x : Except ε α} {f : α → Except ε β} {b : β} :
    x >>= f = .ok b ↔ ∃ a, x = .ok a ∧ f a = .ok b := by
  cases x <;> simp [bind, Except.bind]

theorem bind_eq_error_iff {x : Except ε α} {f : α → Except ε β} {e : ε} :
    x >>= f = .error e ↔ x = .error e ∨ ∃ a, x = .ok a ∧ f a = .error e := by
  cases x <;> simp [bind, Except.bind]

/-- A function whose last step cannot fail succeeds exactly when the steps before it do. -/
theorem exists_bind_pure_eq_ok {x : Except ε α} {g : α → β} :
    (∃ b, (x >>= fun a => pure (g a)) = .ok b) ↔ ∃ a, x = .ok a := by
  cases x <;> simp [bind, Except.bind, pure, Except.pure]

theorem map_eq_ok_iff {x : Except ε α} {f : α → β} {b : β} :
    x.map f = .ok b ↔ ∃ a, x = .ok a ∧ f a = b := by
  cases x <;> simp [Except.map]

theorem map_eq_error_iff {x : Except ε α} {f : α → β} {e : ε} : x.map f = .error e ↔ x = .error e := by
  cases x <;> simp [Except.map]

/-- The loop succeeds exactly when the call succeeds on every element. -/
theorem mapM_ok_iff {f : α → Except ε β} {l : List α} :
    (∃ r, l.mapM f = .ok r) ↔ ∀ a ∈ l, ∃ b, f a = .ok b := by
  induction l with
  | nil => exact ⟨fun _ _ h => absurd h (List.not_mem_nil _), fun _ => ⟨[], rfl⟩⟩
  | cons a l ih =>
    simp only [List.mapM_cons, List.mem_cons, forall_eq_or_imp, ← ih]
    cases f a <;> cases List.mapM f l <;> simp [bind, Except.bind, pure, Except.pure]

/-- What the loop returns is the list of the calls' results, in order. -/
theorem mapM_eq_ok_map {f : α → Except ε β} {γ : Type} {g : β → γ} {h : α → γ}
    (hf : ∀ a b, f a = .ok b → g b = h a) {l : List α} {r : List β} (hl : l.mapM f = .ok r) :
    r.map g = l.map h := by
  induction l generalizing r with
  | nil => cases hl; rfl
  | cons a l ih =>
    simp only [List.mapM_cons, bind_eq_ok_iff, pure, Except.pure, Except.ok.injEq] at hl
    obtain ⟨b, hb, bs, hbs, rfl⟩ := hl
    rw [List.map_cons, List.map_cons, hf a b hb, ih hbs]

/-- A loop over the elements' images through `g` that makes, element by element, the calls
another loop makes. -/
theorem mapM_map_congr {α' : Type} {g : α → α'} {f : α' → Except ε β} {f' : α → Except ε β}
    {l : List α} (h : ∀ a ∈ l, f (g a) = f' a) : (l.map g).mapM f = l.mapM f' := by
  induction l with
  | nil => rfl
  | cons a l ih =>
    simp only [List.map_cons, List.mapM_cons, h a (List.mem_cons_self a l),
      ih fun x hx => h x (List.mem_cons_of_mem a hx)]

end Xlxd.Go
