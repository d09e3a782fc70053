import Mathlib.Data.List.MinMax

/-!
# Searches that start from a sentinel

A loop over candidates keeps the best one so far and replaces it when a candidate is strictly better.
It starts with nothing kept and a sentinel cost to beat.  It ends with the first minimum of the
candidates (`List.argmin`), or with nothing when no candidate beats the sentinel.
-/

namespace SentinelSearch

variable {α β : Type*} [LinearOrder β] (cost : α → β) (sentinel : β)

/-- One candidate -/
def better : Option α → α → Option α
  | none, a => if cost a < sentinel then some a else none
  | some b, a => if cost a < cost b then some a else some b

theorem foldl_better (l : List α) :
    l.foldl (better cost sentinel) none = (l.argmin cost).filter fun a => cost a < sentinel := by
  induction l using List.reverseRecOn with
  | nil => rfl
  | append_singleton l a ih =>
    rw [List.foldl_append, ih, List.argmin_concat]
    cases l.argmin cost with
    | none => simp [better, Option.filter]
    | some b =>
      by_cases hb : cost b < sentinel
      · by_cases ha : cost a < cost b
        · simp [better, Option.filter, hb, ha, ha.trans hb]
        · simp [better, Option.filter, hb, ha]
      · -- nothing is kept, and `a` may be better than `b` without beating the sentinel
        by_cases ha : cost a < cost b
        · simp [better, Option.filter, hb, ha]
        · have hsentinel : ¬ cost a < sentinel := fun h => hb ((not_lt.mp ha).trans_lt h)
          simp [better, Option.filter, hb, ha, hsentinel]

variable {cost sentinel} {l : List α}

/-- When some candidate beats the sentinel, the search is not empty-handed. -/
theorem foldl_better_eq_some (h : ∃ a ∈ l, cost a < sentinel) :
    ∃ m ∈ l.argmin cost, l.foldl (better cost sentinel) none = some m := by
  obtain ⟨a, ha, hlt⟩ := h
  obtain ⟨m, hm⟩ : ∃ m, m ∈ l.argmin cost := by
    cases hmin : l.argmin cost with
    | none =>
      rw [List.argmin_eq_none.mp hmin] at ha
      exact absurd ha List.not_mem_nil
    | some m => exact ⟨m, rfl⟩
  have hbeats : cost m < sentinel := (List.le_of_mem_argmin ha hm).trans_lt hlt
  refine ⟨m, hm, ?_⟩
  rw [foldl_better, Option.mem_def.mp hm, Option.filter, if_pos (decide_eq_true hbeats)]

/-- In a list in order, the minimum found comes before all others. -/
theorem argmin_before [DecidableEq α] {r : α → α → Prop} (hsorted : l.Pairwise r) {m a : α}
    (hm : m ∈ l.argmin cost) (ha : a ∈ l) (hle : cost a ≤ cost m) : a = m ∨ r m a := by
  have hindex := List.index_of_argmin hm ha hle
  have hml := List.idxOf_lt_length_iff.mpr (List.argmin_mem hm)
  have hal := List.idxOf_lt_length_iff.mpr ha
  rcases Nat.eq_or_lt_of_le hindex with heq | hlt
  · left
    rw [← List.getElem_idxOf hal, ← List.getElem_idxOf hml]
    simp only [heq]
  · right
    have hpair := List.pairwise_iff_getElem.mp hsorted _ _ hml hal hlt
    rwa [List.getElem_idxOf, List.getElem_idxOf] at hpair

end SentinelSearch
