import Mathlib.Logic.Basic
import Mathlib.Tactic.ByContra

namespace XmlrpcExtended.TransitionRuns

variable {σ α β τ : Type} {step : σ → α → Option σ} {admitted allowed : σ → α → Prop}

-- `admitted` may look at the state before the step, never at the one after it.
inductive Runs (step : σ → α → Option σ) (admitted : σ → α → Prop) : σ → List α → σ → Prop where
  | nil : Runs step admitted s [] s
  | snoc : Runs step admitted start earlier middle → admitted middle action →
      step middle action = some next → Runs step admitted start (earlier ++ [action]) next

def Anything (_ : σ) (_ : α) : Prop := True

instance (s : σ) (a : α) : Decidable (Anything s a) := inferInstanceAs (Decidable True)

theorem Runs.one (ok : admitted s action) (ran : step s action = some next) :
    Runs step admitted s [action] next := by
  simpa using Runs.snoc Runs.nil ok ran

theorem Runs.append (left : Runs step admitted start earlier middle)
    (right : Runs step admitted middle later next) :
    Runs step admitted start (earlier ++ later) next := by
  induction right with
  | nil => simpa using left
  | snoc prior ok ran ih => simpa only [List.append_assoc] using Runs.snoc ih ok ran

theorem Runs.relax (wider : ∀ s a, admitted s a → allowed s a)
    (path : Runs step admitted start actions next) : Runs step allowed start actions next := by
  induction path with
  | nil => exact .nil
  | snoc prior ok ran ih => exact .snoc ih (wider _ _ ok) ran

-- The prior run is handed to the step obligation, so that an invariant already
-- proved of every reached state can be used while proving the next one.
theorem Runs.keeps (invariant : σ → Prop) (initial : invariant start)
    (preserved : ∀ {earlier middle action next}, Runs step admitted start earlier middle →
      invariant middle → admitted middle action → step middle action = some next → invariant next)
    (path : Runs step admitted start actions next) : invariant next := by
  induction path with
  | nil => exact initial
  | snoc prior ok ran ih => exact preserved prior ih ok ran

-- A run seen through `view` is one of `spec`, of which each step shows one step or none.
theorem Runs.simulated {spec : τ → β → Option τ} (view : σ → τ)
    (shown : ∀ {earlier middle action next}, Runs step admitted start earlier middle → admitted middle action →
      step middle action = some next → view next = view middle ∨ ∃ move, spec (view middle) move = some (view next))
    (path : Runs step admitted start actions next) :
    ∃ moves, Runs spec Anything (view start) moves (view next) ∧ moves.length ≤ actions.length := by
  induction path with
  | nil => exact ⟨[],.nil,Nat.le_refl _⟩
  | snoc prior ok ran ih =>
    obtain ⟨moves,seen,short⟩ := ih
    rcases shown prior ok ran with same | ⟨move,moved⟩
    · exact ⟨moves,same ▸ seen,by rw [List.length_append]; omega⟩
    · exact ⟨moves ++ [move],seen.snoc trivial moved,by rw [List.length_append,List.length_append]; exact Nat.succ_le_succ short⟩

def execute (step : σ → α → Option σ) (admitted : σ → α → Prop)
    [∀ s a, Decidable (admitted s a)] : σ → List α → Option σ
  | s,[] => some s
  | s,action :: rest =>
    if admitted s action then (step s action).bind (execute step admitted · rest) else none

theorem execute_runs [∀ s a, Decidable (admitted s a)]
    (ran : execute step admitted s actions = some next) : Runs step admitted s actions next := by
  induction actions generalizing s with
  | nil => cases ran; exact .nil
  | cons action rest ih =>
    simp only [execute] at ran
    split at ran
    · rename_i ok
      obtain ⟨middle,first,others⟩ := Option.bind_eq_some_iff.mp ran
      simpa using (Runs.one ok first).append (ih others)
    · cases ran

theorem execute_reaches [∀ s a, Decidable (admitted s a)] {test : σ → Bool}
    (checked : (execute step admitted s actions).any test = true) :
    ∃ next, Runs step admitted s actions next ∧ test next = true := by
  cases ran : execute step admitted s actions with
  | none => simp [ran] at checked
  | some next => exact ⟨next,execute_runs ran,by simpa [ran] using checked⟩

section Measures
variable {weight : σ → Nat}

def Falls (step : σ → α → Option σ) (admitted : σ → α → Prop) (weight : σ → Nat) : Prop :=
  ∀ s action next, admitted s action → step s action = some next → weight next < weight s

def Stopped (step : σ → α → Option σ) (admitted : σ → α → Prop) (s : σ) : Prop :=
  ∀ action, admitted s action → step s action = none

theorem Runs.bounded (falls : Falls step admitted weight) (path : Runs step admitted s actions next) :
    actions.length + weight next ≤ weight s := by
  induction path with
  | nil => simp
  | snoc prior ok ran ih =>
    have less := falls _ _ _ ok ran
    rw [List.length_append,List.length_singleton]
    omega

theorem stopped_step (more : ¬ Stopped step admitted s) : ∃ action next, admitted s action ∧ step s action = some next := by
  by_contra none
  apply more
  intro action ok
  cases ran : step s action with
  | none => rfl
  | some next => exact absurd ⟨action,next,ok,ran⟩ none

-- What falls with every step comes to a stop.
theorem runs_stop (falls : Falls step admitted weight) (s : σ) :
    ∃ actions next, Runs step admitted s actions next ∧ Stopped step admitted next := by
  induction within : weight s using Nat.strongRecOn generalizing s with
  | ind n ih =>
    by_cases stopped : Stopped step admitted s
    · exact ⟨[],s,.nil,stopped⟩
    · obtain ⟨action,middle,ok,ran⟩ := stopped_step stopped
      obtain ⟨actions,next,path,halts⟩ := ih (weight middle) (within ▸ falls s action middle ok ran) middle rfl
      exact ⟨[action] ++ actions,next,(Runs.one ok ran).append path,halts⟩

end Measures

section Loops
variable {ε state value : Type} {body : value → Nat → EStateM ε state value}

-- A loop of `n` rounds is the one of a round less, then its last round.
theorem loop_succ (n : Nat) (v : value) (s : state) :
    (List.range (n + 1)).foldlM body v s = ((List.range n).foldlM body v >>= fun v => body v n) s := by
  rw [List.range_succ,List.foldlM_append]
  simp only [List.foldlM_cons,List.foldlM_nil,bind_pure]

theorem loop_reaches {reached : Nat → value → state → Prop} {v : value} {s : state} (start : reached 0 v s)
    (rounds : ∀ i < n, ∀ v s, reached i v s → ∃ w t, body v i s = .ok w t ∧ reached (i + 1) w t) :
    ∃ w t, (List.range n).foldlM body v s = .ok w t ∧ reached n w t := by
  induction n with
  | zero => exact ⟨v,s,rfl,start⟩
  | succ n ih =>
    obtain ⟨middle,before,ran,here⟩ := ih fun i below => rounds i (Nat.lt_succ_of_lt below)
    obtain ⟨last,after,round,there⟩ := rounds n (Nat.lt_succ_self n) middle before here
    refine ⟨last,after,?_,there⟩
    rw [loop_succ]
    simp only [bind,EStateM.bind,ran,round]

-- The rounds after one that raises are not made.
theorem loop_raises {k : Nat} {v w : value} {s t u : state} {e : ε} (ran : (List.range k).foldlM body v s = .ok w t)
    (raised : body w k t = .error e u) (below : k < n) : (List.range n).foldlM body v s = .error e u := by
  induction n with
  | zero => exact absurd below (Nat.not_lt_zero k)
  | succ n ih =>
    rw [loop_succ]
    rcases Nat.lt_or_eq_of_le (Nat.le_of_lt_succ below) with earlier | rfl
    · simp only [bind,EStateM.bind,ih earlier]
    · simp only [bind,EStateM.bind,ran,raised]

end Loops

end XmlrpcExtended.TransitionRuns
