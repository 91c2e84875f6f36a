import Mathlib.Data.Prod.Basic
import Mathlib.Dynamics.FixedPoints.Basic

/-!
# Machines that settle under constant input

With its inputs held, a clocked machine is an iterated function. `SettlesIn f k s` says
that it has come to rest after `k` steps from `s`. The rules compose independent
machines and cascades, in which one machine is an input of the next.
-/

namespace StickFigureFighting.Library

variable {α β σ : Type*}

/-- After `k` steps from `s` the function `f` has reached a fixed point. -/
def SettlesIn (f : α → α) (k : ℕ) (s : α) : Prop := Function.IsFixedPt f (f^[k] s)

lemma settlesIn_iff {f : α → α} {k : ℕ} {s : α} : SettlesIn f k s ↔ f (f^[k] s) = f^[k] s := Iff.rfl

namespace SettlesIn

variable {f : α → α} {g : β → β} {k m n : ℕ} {s : α} {t : β}

theorem iterate_eq (h : SettlesIn f k s) (hn : k ≤ n) : f^[n] s = f^[k] s := by
  obtain ⟨d, rfl⟩ := Nat.exists_eq_add_of_le' hn
  rw [Function.iterate_add_apply]
  exact Function.iterate_fixed h d

theorem mono (h : SettlesIn f k s) (hn : k ≤ n) : SettlesIn f n s := by
  rw [SettlesIn, h.iterate_eq hn]
  exact h

theorem of_fixed (h : f s = s) : SettlesIn f 0 s := h

theorem of_iterate (h : SettlesIn f m (f^[k] s)) : SettlesIn f (m + k) s := by
  rw [SettlesIn, Function.iterate_add_apply]
  exact h

theorem of_step (h : SettlesIn f k (f s)) : SettlesIn f (k + 1) s := of_iterate (k := 1) h

theorem prod (hf : SettlesIn f k s) (hg : SettlesIn g k t) : SettlesIn (Prod.map f g) k (s, t) := by
  rw [SettlesIn, Prod.map_iterate]
  exact Prod.ext hf hg

/-- A cascade: `upper` drives itself, `lower` reads it. Once the upper machine rests, the
lower one settles under its final output. -/
theorem cascade {F : σ → σ} (upper : σ → α) (lower : σ → β) {g : α → β → β} {x : σ}
    (hext : ∀ x y, upper x = upper y → lower x = lower y → x = y)
    (hupper : ∀ x, upper (F x) = f (upper x)) (hlower : ∀ x, lower (F x) = g (upper x) (lower x))
    (hf : SettlesIn f k (upper x)) (hg : ∀ t, SettlesIn (g (f^[k] (upper x))) m t) :
    SettlesIn F (m + k) x := by
  have hup : ∀ n y, upper (F^[n] y) = f^[n] (upper y) :=
    fun n => Function.Semiconj.iterate_right hupper n
  apply of_iterate
  have hrest : Function.IsFixedPt f (upper (F^[k] x)) := by rw [hup]; exact hf
  have hconst : ∀ n, upper (F^[n] (F^[k] x)) = f^[k] (upper x) := by
    intro n
    rw [hup, Function.iterate_fixed hrest, hup]
  have hlow : ∀ n, lower (F^[n] (F^[k] x)) = (g (f^[k] (upper x)))^[n] (lower (F^[k] x)) := by
    intro n
    induction n with
    | zero => rfl
    | succ n ih => rw [Function.iterate_succ_apply', hlower, hconst, ih, Function.iterate_succ_apply']
  apply hext
  · rw [hupper, hconst]
    exact hf
  · rw [hlower, hconst, hlow]
    exact hg _

end SettlesIn

end StickFigureFighting.Library
