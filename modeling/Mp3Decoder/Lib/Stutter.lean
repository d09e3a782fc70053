import Mathlib.Logic.Function.Iterate

/-!
# Runs of which one goes at least as fast as the other

Two deterministic systems are related by `R`, and each step of the first is matched by one or more
steps of the second.  What the first reaches for good, the second reaches for good, and the other
way round: the second is ahead, so it cannot get stuck on the way.
-/

namespace Stutter

variable {σ τ : Type*}

/-- What holds from some point of a run on -/
def Reaches (f : σ → σ) (P : σ → Prop) (s : σ) : Prop := ∃ n, P (f^[n] s)

/-- What a step does not undo -/
def Persistent (f : σ → σ) (P : σ → Prop) : Prop := ∀ s, P s → P (f s)

theorem Persistent.iterate {f : σ → σ} {P : σ → Prop} (h : Persistent f P) {s : σ} (hs : P s)
    (n : ℕ) : P (f^[n] s) := by
  induction n generalizing s with
  | zero => exact hs
  | succ n ih =>
    rw [Function.iterate_succ_apply]
    exact ih (h s hs)

theorem Persistent.later {f : σ → σ} {P : σ → Prop} (h : Persistent f P) {s : σ} {m n : ℕ}
    (hle : m ≤ n) (hm : P (f^[m] s)) : P (f^[n] s) := by
  obtain ⟨k, rfl⟩ := Nat.exists_eq_add_of_le' hle
  rw [Function.iterate_add_apply]
  exact h.iterate hm k

/-- Every step of `f` from a state where `C` holds is matched by steps of `g`. -/
def Matches (f : σ → σ) (g : τ → τ) (R : σ → τ → Prop) (C : σ → Prop) : Prop :=
  ∀ ⦃s t⦄, R s t → C s → ∃ k, 0 < k ∧ R (f s) (g^[k] t)

variable {f : σ → σ} {g : τ → τ} {R : σ → τ → Prop} {C : σ → Prop}

/-- Run lemma: the second system is ahead. -/
theorem Matches.run (h : Matches f g R C) {s : σ} {t : τ} (hst : R s t)
    (hC : ∀ n, C (f^[n] s)) (n : ℕ) : ∃ m, n ≤ m ∧ R (f^[n] s) (g^[m] t) := by
  induction n with
  | zero => exact ⟨0, Nat.le_refl 0, hst⟩
  | succ n ih =>
    obtain ⟨m, hle, hrelated⟩ := ih
    obtain ⟨k, hpos, hstep⟩ := h hrelated (hC n)
    refine ⟨k + m, by omega, ?_⟩
    rw [Function.iterate_succ_apply', Function.iterate_add_apply]
    exact hstep

/-- **What related states agree on, and no step undoes, both runs reach or neither does.** -/
theorem Matches.reaches_iff (h : Matches f g R C) {s : σ} {t : τ} (hst : R s t)
    (hC : ∀ n, C (f^[n] s)) {P : σ → Prop} {Q : τ → Prop} (hPQ : ∀ ⦃s t⦄, R s t → (P s ↔ Q t))
    (hQ : Persistent g Q) : Reaches f P s ↔ Reaches g Q t := by
  constructor
  · rintro ⟨n, hP⟩
    obtain ⟨m, -, hrelated⟩ := h.run hst hC n
    exact ⟨m, (hPQ hrelated).mp hP⟩
  · rintro ⟨n, hQn⟩
    obtain ⟨m, hle, hrelated⟩ := h.run hst hC n
    exact ⟨n, (hPQ hrelated).mpr (hQ.later hle hQn)⟩

/-- An entry of a list that only grows stays. -/
theorem persistent_getElem? {α : Type*} {out : τ → List α} (hgrows : ∀ t, out t <+: out (g t))
    (i : ℕ) (a : α) : Persistent g fun t => (out t)[i]? = some a := by
  intro t ht
  obtain ⟨rest, hrest⟩ := hgrows t
  obtain ⟨hlt, -⟩ := List.getElem?_eq_some_iff.mp ht
  rw [← hrest, List.getElem?_append_left hlt]
  exact ht

end Stutter
