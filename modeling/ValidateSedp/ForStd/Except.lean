import Mathlib.Data.List.Basic
import Mathlib.Algebra.Group.Nat.Basic

/-!
# `Except` lemmas

Binding a result that is already known. The models of the tool are written with `do` in
`Except`, and their proofs step through a `do` block one bind at a time with these.
-/

namespace Except

/-- `return a` is `.ok a`. -/
@[simp] theorem pure_eq_ok {ε α : Type} (a : α) : (pure a : Except ε α) = Except.ok a := rfl

/-- A step after a success runs on its value. -/
@[simp] theorem ok_bind {ε α β : Type} (a : α) (f : α → Except ε β) :
    (Except.ok a >>= f) = f a := rfl

/-- An exception skips every step after it. -/
@[simp] theorem error_bind {ε α β : Type} (e : ε) (f : α → Except ε β) :
    (Except.error e >>= f) = Except.error e := rfl

end Except

/-- A fold whose step never fails never fails. -/
theorem List.foldlM_except_ok {ε α β : Type} {f : β → α → Except ε β}
    (hf : ∀ b a, ∃ b', f b a = .ok b') (l : List α) (init : β) :
    ∃ b, l.foldlM f init = .ok b := by
  induction l generalizing init with
  | nil => exact ⟨init, rfl⟩
  | cons a l ih =>
    obtain ⟨b', hb'⟩ := hf init a
    obtain ⟨b, hb⟩ := ih b'
    exact ⟨b, by rw [List.foldlM_cons, hb', Except.ok_bind, hb]⟩

/-- A fold whose every step returns is the plain fold of what the steps return. -/
theorem List.foldlM_except_ok_foldl {ε α β : Type} {f : β → α → Except ε β} {g : β → α → β}
    (hf : ∀ b a, f b a = .ok (g b a)) (l : List α) (init : β) :
    l.foldlM f init = .ok (l.foldl g init) := by
  induction l generalizing init with
  | nil => rfl
  | cons a l ih => rw [List.foldlM_cons, hf, Except.ok_bind, ih]; rfl

/-- One step of a fold that succeeds. -/
theorem List.foldlM_except_cons {ε α β : Type} {f : β → α → Except ε β} {a : α} {l : List α}
    {init b : β} (h : (a :: l).foldlM f init = .ok b) :
    ∃ b', f init a = .ok b' ∧ l.foldlM f b' = .ok b := by
  rw [List.foldlM_cons] at h
  cases ha : f init a with
  | error e => rw [ha] at h; cases h
  | ok b' => rw [ha, Except.ok_bind] at h; exact ⟨b', rfl, h⟩

/-- What every step of a fold keeps, on the list's elements, holds of its result. -/
theorem List.foldlM_except_inv {ε α β : Type} {f : β → α → Except ε β} {I : β → Prop}
    {l : List α} (hstep : ∀ b a b', a ∈ l → I b → f b a = .ok b' → I b') {init b : β}
    (hinit : I init) (h : l.foldlM f init = .ok b) : I b := by
  induction l generalizing init with
  | nil => exact Except.ok.inj h ▸ hinit
  | cons a l ih =>
    obtain ⟨b', ha, hl⟩ := List.foldlM_except_cons h
    exact ih (fun b x b'' hx => hstep b x b'' (.tail _ hx)) (hstep _ _ _ (.head _) hinit ha) hl

/-- An invariant of the elements folded so far and the accumulator, kept by every step, holds of
    the whole list and the result. -/
theorem List.foldlM_except_inv_prefix {ε α β : Type} {f : β → α → Except ε β}
    {I : List α → β → Prop} (hstep : ∀ xs b a b', I xs b → f b a = .ok b' → I (xs ++ [a]) b')
    (l : List α) {xs : List α} {init b : β} (hinit : I xs init) (h : l.foldlM f init = .ok b) :
    I (xs ++ l) b := by
  induction l generalizing xs init with
  | nil => exact (Except.ok.inj h ▸ List.append_nil xs ▸ hinit :)
  | cons a l ih =>
    obtain ⟨b', ha, hl⟩ := List.foldlM_except_cons h
    simpa using ih (hstep _ _ _ _ hinit ha) hl
