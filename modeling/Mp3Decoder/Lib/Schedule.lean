import Mathlib.Data.List.Induction
import Mathlib.Order.Basic

/-!
# Machines under a schedule

A machine has a partial step function: `step s a` is the state after action `a` moves, and
`none` when `a` cannot move in `s`.  A schedule is any list of actions; a blocked action leaves
the state alone, so every schedule is a run and every interleaving is a schedule.

* `Machine.Invariant` — what holds initially and after every step holds after every run.
* `Machine.Always` — a condition on the state and the action before each step of a run.
* `Machine.le_runFrom` — a measure that no step lowers.
* `Machine.Simulation` — the steps of one machine replayed by another.
-/

namespace Schedule

structure Machine (σ α : Type*) where
  init : σ
  step : σ → α → Option σ

namespace Machine

variable {σ α τ β : Type*} (m : Machine σ α)

/-- One scheduled move: a blocked action leaves the state alone. -/
def move (s : σ) (a : α) : σ := (m.step s a).getD s

def runFrom (s : σ) (acts : List α) : σ := acts.foldl m.move s

def run (acts : List α) : σ := m.runFrom m.init acts

theorem move_of_step {s s' : σ} {a : α} (h : m.step s a = some s') : m.move s a = s' := by
  simp only [move, h, Option.getD_some]

theorem move_of_blocked {s : σ} {a : α} (h : m.step s a = none) : m.move s a = s := by
  simp only [move, h, Option.getD_none]

@[simp] theorem runFrom_nil (s : σ) : m.runFrom s [] = s := rfl

@[simp] theorem runFrom_cons (s : σ) (a : α) (acts : List α) :
    m.runFrom s (a :: acts) = m.runFrom (m.move s a) acts := rfl

theorem runFrom_append (s : σ) (acts more : List α) :
    m.runFrom s (acts ++ more) = m.runFrom (m.runFrom s acts) more := by
  simp only [runFrom, List.foldl_append]

theorem run_append (acts more : List α) :
    m.run (acts ++ more) = m.runFrom (m.run acts) more := m.runFrom_append _ acts more

/-- A condition met by the state and the action before every move of the run. -/
def AlwaysFrom (P : σ → α → Prop) : σ → List α → Prop
  | _, [] => True
  | s, a :: acts => P s a ∧ AlwaysFrom P (m.move s a) acts

def Always (P : σ → α → Prop) (acts : List α) : Prop := m.AlwaysFrom P m.init acts

theorem alwaysFrom_append (P : σ → α → Prop) (s : σ) (acts more : List α) :
    m.AlwaysFrom P s (acts ++ more) ↔
      m.AlwaysFrom P s acts ∧ m.AlwaysFrom P (m.runFrom s acts) more := by
  induction acts generalizing s with
  | nil => simp [AlwaysFrom]
  | cons a acts ih => simp only [List.cons_append, AlwaysFrom, ih, runFrom_cons, and_assoc]

/-- The condition holds along a run exactly when it holds at the end of each of its prefixes. -/
theorem always_iff_moves (P : σ → α → Prop) (acts : List α) :
    m.Always P acts ↔ ∀ pre a, pre ++ [a] <+: acts → P (m.run pre) a := by
  constructor
  · rintro h pre a ⟨more, rfl⟩
    rw [Always, alwaysFrom_append, alwaysFrom_append] at h
    exact h.1.2.1
  · intro h
    induction acts using List.reverseRecOn with
    | nil => trivial
    | append_singleton acts a ih =>
      rw [Always, alwaysFrom_append]
      refine ⟨ih fun pre b hb => h pre b (hb.trans (List.prefix_append _ _)), ?_, trivial⟩
      exact h acts a (List.prefix_refl _)

instance decidableAlwaysFrom {P : σ → α → Prop} [∀ s a, Decidable (P s a)] :
    ∀ (s : σ) (acts : List α), Decidable (m.AlwaysFrom P s acts)
  | _, [] => isTrue trivial
  | s, a :: acts =>
    @instDecidableAnd _ _ (inferInstanceAs (Decidable (P s a)))
      (decidableAlwaysFrom (m.move s a) acts)

instance decidableAlways {P : σ → α → Prop} [∀ s a, Decidable (P s a)] (acts : List α) :
    Decidable (m.Always P acts) := decidableAlwaysFrom m m.init acts

theorem alwaysFrom_true (s : σ) (acts : List α) : m.AlwaysFrom (fun _ _ => True) s acts := by
  induction acts generalizing s with
  | nil => trivial
  | cons a acts ih => exact ⟨trivial, ih _⟩

/-- An invariant under a condition: it holds initially, and each step whose state and action
meet the condition keeps it. -/
structure InvariantUnder (C : σ → α → Prop) (I : σ → Prop) : Prop where
  init : I m.init
  step : ∀ {s a s'}, I s → C s a → m.step s a = some s' → I s'

abbrev Invariant (I : σ → Prop) : Prop := m.InvariantUnder (fun _ _ => True) I

variable {m}

theorem InvariantUnder.move {C : σ → α → Prop} {I : σ → Prop} (h : m.InvariantUnder C I)
    {s : σ} {a : α} (hs : I s) (hc : C s a) : I (m.move s a) := by
  cases hstep : m.step s a with
  | none => rwa [m.move_of_blocked hstep]
  | some s' =>
    rw [m.move_of_step hstep]
    exact h.step hs hc hstep

theorem InvariantUnder.runFrom {C : σ → α → Prop} {I : σ → Prop} (h : m.InvariantUnder C I)
    {s : σ} (hs : I s) {acts : List α} (hc : m.AlwaysFrom C s acts) : I (m.runFrom s acts) := by
  induction acts generalizing s with
  | nil => exact hs
  | cons a acts ih => exact ih (h.move hs hc.1) hc.2

theorem InvariantUnder.run {C : σ → α → Prop} {I : σ → Prop} (h : m.InvariantUnder C I)
    {acts : List α} (hc : m.Always C acts) : I (m.run acts) := h.runFrom h.init hc

theorem Invariant.run {I : σ → Prop} (h : m.Invariant I) (acts : List α) : I (m.run acts) :=
  InvariantUnder.run h (m.alwaysFrom_true m.init acts)

/-- Under an invariant, a condition that entails another at each step does so along runs. -/
theorem InvariantUnder.always {C P : σ → α → Prop} {I : σ → Prop} (h : m.InvariantUnder C I)
    (hp : ∀ {s a}, I s → C s a → P s a) {acts : List α} (hc : m.Always C acts) :
    m.Always P acts := by
  rw [always_iff_moves] at hc ⊢
  intro pre a hpre
  have hbefore : m.Always C pre :=
    (m.always_iff_moves C pre).mpr fun q b hq =>
      hc q b ((hq.trans (List.prefix_append pre [a])).trans hpre)
  exact hp (h.run hbefore) (hc pre a hpre)

/-- Two conditions that agree wherever an invariant holds agree along every run. -/
theorem Invariant.always_iff {P Q : σ → α → Prop} {I : σ → Prop} (h : m.Invariant I)
    (hpq : ∀ {s a}, I s → (P s a ↔ Q s a)) (acts : List α) : m.Always P acts ↔ m.Always Q acts := by
  rw [always_iff_moves, always_iff_moves]
  constructor
  · intro hp pre a hpre
    exact (hpq (Invariant.run h pre)).mp (hp pre a hpre)
  · intro hq pre a hpre
    exact (hpq (Invariant.run h pre)).mpr (hq pre a hpre)

/-- A measure that no step lowers is no lower at the end of a run. -/
theorem le_runFrom [Preorder τ] (f : σ → τ)
    (hstep : ∀ {s a s'}, m.step s a = some s' → f s ≤ f s') (s : σ) (acts : List α) :
    f s ≤ f (m.runFrom s acts) := by
  induction acts generalizing s with
  | nil => exact le_refl _
  | cons a acts ih =>
    rw [runFrom_cons]
    refine le_trans ?_ (ih _)
    cases h : m.step s a with
    | none => rw [m.move_of_blocked h]
    | some s' =>
      rw [m.move_of_step h]
      exact hstep h

/-- Machine `n` replays machine `m` through `abs`: each step of `m` from a state where `I` holds
is some run of `n` between the images. -/
structure Simulation (m : Machine σ α) (n : Machine τ β) (I : σ → Prop) (abs : σ → τ) : Prop where
  init : abs m.init = n.init
  step : ∀ {s a s'}, I s → m.step s a = some s' → ∃ bs, abs s' = n.runFrom (abs s) bs

theorem Simulation.run {n : Machine τ β} {I : σ → Prop} {abs : σ → τ} (h : Simulation m n I abs)
    (hI : m.Invariant I) (acts : List α) : ∃ bs, abs (m.run acts) = n.run bs := by
  induction acts using List.reverseRecOn with
  | nil => exact ⟨[], h.init⟩
  | append_singleton acts a ih =>
    obtain ⟨bs, hbs⟩ := ih
    rw [run_append, runFrom_cons, runFrom_nil]
    cases hstep : m.step (m.run acts) a with
    | none => exact ⟨bs, by rw [m.move_of_blocked hstep, hbs]⟩
    | some s' =>
      obtain ⟨cs, hcs⟩ := h.step (Invariant.run hI acts) hstep
      refine ⟨bs ++ cs, ?_⟩
      rw [m.move_of_step hstep, hcs, hbs, ← run_append]

/-- An invariant of the replaying machine holds of the images. -/
theorem Simulation.invariant {n : Machine τ β} {I : σ → Prop} {abs : σ → τ} {J : τ → Prop}
    (h : Simulation m n I abs) (hI : m.Invariant I) (hJ : n.Invariant J) :
    m.Invariant fun s => I s ∧ J (abs s) where
  init := ⟨hI.init, h.init ▸ hJ.init⟩
  step {s a s'} hs _ hstep := by
    obtain ⟨bs, hbs⟩ := h.step hs.1 hstep
    refine ⟨hI.step hs.1 trivial hstep, ?_⟩
    rw [hbs]
    exact hJ.runFrom hs.2 (n.alwaysFrom_true _ bs)

end Machine

end Schedule
