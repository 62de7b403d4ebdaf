import XmlrpcExtended.TransitionRuns
import Mathlib.Data.List.Nodup
import Mathlib.Data.List.Range
import Mathlib.Data.Nat.Find

namespace XmlrpcExtended.Multiprocess
open TransitionRuns
variable {W E : Type}

-- `number` is the one that the parent's counter gives a process object when it is created.
structure Process (W : Type) where
  number : Nat
  target : W
  daemon : Bool
  deriving DecidableEq, Repr

-- A process that was started. `running` says whether its worker still runs when spawn_workers is over.
structure Child (W : Type) where
  process : Process W
  running : Bool
  deriving DecidableEq, Repr

structure Parent (W : Type) where
  counter : Nat
  children : List (Child W)
  deriving DecidableEq, Repr

-- One round as the system lets it go: what the constructor raises, then what `start` raises or
-- whether the worker is one that runs on.
structure Attempt (E : Type) where
  creation : Option E
  start : Except E Bool

def Attempt.process (a : Attempt E) (target : W) (daemon : Bool) : EStateM E (Parent W) (Process W) := fun parent =>
  match a.creation with
  | some e => .error e parent
  | none => .ok ⟨parent.counter,target,daemon⟩ {parent with counter := parent.counter + 1}

def Attempt.launch (a : Attempt E) (p : Process W) : EStateM E (Parent W) Unit := fun parent =>
  match a.start with
  | .error e => .error e parent
  | .ok running => .ok () {parent with children := parent.children ++ [⟨p,running⟩]}

-- `os.cpu_count() or 1` by default.
def numWorkers (cpu_count : Option Nat) : Option Int → Int
  | some num_workers => num_workers
  | none => ((cpu_count.filter (· ≠ 0)).getD 1 : Nat)

def spawnWorker (attempts : Nat → Attempt E) (worker_fn : W) (processes : List (Process W)) (i : Nat) :
    EStateM E (Parent W) (List (Process W)) := do
  let p ← (attempts i).process worker_fn false
  (attempts i).launch p
  return processes ++ [p]

-- The rounds of `range`, none for a negative number.
def spawnWorkers (attempts : Nat → Attempt E) (cpu_count : Option Nat) (worker_fn : W) (num_workers : Option Int) :
    EStateM E (Parent W) (List (Process W)) :=
  (List.range (numWorkers cpu_count num_workers).toNat).foldlM (spawnWorker attempts worker_fn) []

def Attempt.fails (a : Attempt E) : Bool := a.creation.isSome || !a.start.isOk

def Attempt.runs (a : Attempt E) : Bool :=
  match a.start with
  | .ok running => running
  | .error _ => false

-- The processes that were started since.
def Parent.since (before after : Parent W) : List (Child W) := after.children.drop before.children.length

-- The caller holds the processes of the list that it is given, and none where the function raises.
inductive AllOrNothing (num_workers : Int) (before : Parent W) :
    EStateM.Result E (Parent W) (List (Process W)) → Prop where
  | all (length : processes.length = num_workers.toNat) (distinct : processes.Nodup)
      (started : ∀ p ∈ processes, ∃ child ∈ before.since after, child.process = p) :
      AllOrNothing num_workers before (.ok processes after)
  | nothing (ended : ∀ child ∈ before.since after, child.running = false) : AllOrNothing num_workers before (.error e after)

def FirstFailure (attempts : Nat → Attempt E) (k : Nat) : Prop :=
  (attempts k).fails = true ∧ ∀ j < k, (attempts j).fails = false

-- No worker that was started before the first failure runs on.
def Unorphaned (attempts : Nat → Attempt E) (rounds : Nat) : Prop :=
  ∀ k < rounds, FirstFailure attempts k → ∀ j < k, (attempts j).runs = false

-- After so many rounds without a failure.
structure Spawned (attempts : Nat → Attempt E) (worker_fn : W) (before : Parent W) (rounds : Nat)
    (processes : List (Process W)) (parent : Parent W) : Prop where
  listed : processes = (List.range rounds).map fun j => ⟨before.counter + j,worker_fn,false⟩
  counted : parent.counter = before.counter + rounds
  started : parent.children = before.children ++
    (List.range rounds).map fun j => ⟨⟨before.counter + j,worker_fn,false⟩,(attempts j).runs⟩

section Rounds
variable {attempts : Nat → Attempt E} {worker_fn : W} {before parent : Parent W} {processes : List (Process W)} {i k n : Nat}

theorem succeeds {a : Attempt E} (fine : a.fails = false) : a.creation = none ∧ a.start = .ok a.runs := by
  unfold Attempt.fails at fine
  obtain ⟨created,started⟩ := Bool.or_eq_false_iff.mp fine
  refine ⟨by simpa using created,?_⟩
  unfold Attempt.runs
  cases outcome : a.start with
  | ok running => rfl
  | error e =>
    rw [outcome] at started
    cases started

theorem spawn_round (spawned : Spawned attempts worker_fn before i processes parent) (fine : (attempts i).fails = false) :
    ∃ later next, spawnWorker attempts worker_fn processes i parent = .ok later next ∧
      Spawned attempts worker_fn before (i + 1) later next := by
  obtain ⟨created,started⟩ := succeeds fine
  refine ⟨processes ++ [⟨parent.counter,worker_fn,false⟩],
    ⟨parent.counter + 1,parent.children ++ [⟨⟨parent.counter,worker_fn,false⟩,(attempts i).runs⟩]⟩,?_,?_⟩
  · simp only [spawnWorker,Attempt.process,Attempt.launch,bind,EStateM.bind,pure,EStateM.pure,created,started]
  · refine ⟨?_,?_,?_⟩
    · rw [spawned.listed,spawned.counted,List.range_succ,List.map_append]
      rfl
    · rw [spawned.counted]
      rfl
    · rw [spawned.started,spawned.counted,List.range_succ,List.map_append,List.append_assoc]
      rfl

theorem failed_round (worker_fn : W) (failed : (attempts i).fails = true) (processes : List (Process W)) (parent : Parent W) :
    ∃ e next, spawnWorker attempts worker_fn processes i parent = .error e next ∧ next.children = parent.children := by
  cases creation : (attempts i).creation with
  | some e => exact ⟨e,parent,by simp only [spawnWorker,Attempt.process,bind,EStateM.bind,creation],rfl⟩
  | none =>
    cases start : (attempts i).start with
    | ok running => simp [Attempt.fails,creation,start,Except.isOk,Except.toBool] at failed
    | error e =>
      refine ⟨e,⟨parent.counter + 1,parent.children⟩,?_,rfl⟩
      simp only [spawnWorker,Attempt.process,Attempt.launch,bind,EStateM.bind,creation,start]

theorem spawned_upto (worker_fn : W) (before : Parent W) (fine : ∀ j < n, (attempts j).fails = false) :
    ∃ processes after, (List.range n).foldlM (spawnWorker attempts worker_fn) [] before = .ok processes after ∧
      Spawned attempts worker_fn before n processes after := by
  apply loop_reaches
  · exact ⟨rfl,rfl,by simp⟩
  · intro i below processes parent spawned
    exact spawn_round spawned (fine i below)

-- An exception leaves what the rounds before it have started.
theorem spawned_failed (worker_fn : W) (before : Parent W) (first : FirstFailure attempts k) (below : k < n) :
    ∃ e after, (List.range n).foldlM (spawnWorker attempts worker_fn) [] before = .error e after ∧
      before.since after = (List.range k).map fun j => ⟨⟨before.counter + j,worker_fn,false⟩,(attempts j).runs⟩ := by
  obtain ⟨processes,parent,ran,spawned⟩ := spawned_upto worker_fn before first.2
  obtain ⟨e,after,raised,children⟩ := failed_round worker_fn first.1 processes parent
  refine ⟨e,after,loop_raises ran raised below,?_⟩
  rw [Parent.since,children,spawned.started,List.drop_left]

theorem failure_cases (attempts : Nat → Attempt E) (n : Nat) :
    (∀ j < n, (attempts j).fails = false) ∨ ∃ k < n, FirstFailure attempts k := by
  by_cases failing : ∃ k, k < n ∧ (attempts k).fails = true
  · obtain ⟨below,fails⟩ := Nat.find_spec failing
    refine .inr ⟨Nat.find failing,below,fails,fun j earlier => ?_⟩
    have before := Nat.find_min failing earlier
    simpa [Nat.lt_trans earlier below] using before
  · exact .inl fun j below => by simpa using fun fails => failing ⟨j,below,fails⟩

theorem first_unique (first : FirstFailure attempts k) (other : FirstFailure attempts i) : i = k := by
  rcases Nat.lt_trichotomy i k with before | same | after
  · have fine := first.2 i before
    rw [other.1] at fine
    cases fine
  · exact same
  · have fine := other.2 k after
    rw [first.1] at fine
    cases fine

end Rounds

theorem spawn_all_or_nothing (attempts : Nat → Attempt E) (cpu_count : Option Nat) (worker_fn : W) (num_workers : Option Int)
    (before : Parent W) :
    AllOrNothing (numWorkers cpu_count num_workers) before (spawnWorkers attempts cpu_count worker_fn num_workers before) ↔
      Unorphaned attempts (numWorkers cpu_count num_workers).toNat := by
  unfold spawnWorkers
  rcases failure_cases attempts (numWorkers cpu_count num_workers).toNat with fine | ⟨k,below,first⟩
  · obtain ⟨processes,after,ran,spawned⟩ := spawned_upto worker_fn before fine
    rw [ran]
    refine iff_of_true (.all ?_ ?_ ?_) ?_
    · rw [spawned.listed,List.length_map,List.length_range]
    · rw [spawned.listed]
      apply List.Nodup.map _ List.nodup_range
      intro i j same
      have numbers := congrArg Process.number same
      simpa using numbers
    · intro p member
      rw [spawned.listed] at member
      obtain ⟨j,round,rfl⟩ := List.mem_map.mp member
      refine ⟨⟨⟨before.counter + j,worker_fn,false⟩,(attempts j).runs⟩,?_,rfl⟩
      rw [Parent.since,spawned.started,List.drop_left]
      exact List.mem_map_of_mem round
    · intro k below first
      have fails := first.1
      rw [fine k below] at fails
      cases fails
  · obtain ⟨e,after,raised,since⟩ := spawned_failed worker_fn before first below
    rw [raised]
    constructor
    · intro kept other _ failed j earlier
      cases kept with
      | nothing ended =>
        have same := first_unique first failed
        subst same
        apply ended ⟨⟨before.counter + j,worker_fn,false⟩,(attempts j).runs⟩
        rw [since]
        exact List.mem_map_of_mem (List.mem_range.mpr earlier)
    · intro unorphaned
      apply AllOrNothing.nothing
      intro child member
      rw [since] at member
      obtain ⟨j,round,rfl⟩ := List.mem_map.mp member
      exact unorphaned k below first j (List.mem_range.mp round)

-- Of workers that serve on, the first attempt alone may fail.
theorem servers_unorphaned {attempts : Nat → Attempt E} (serving : ∀ j, (attempts j).fails = false → (attempts j).runs = true)
    (n : Nat) : Unorphaned attempts n ↔ (∀ j < n, (attempts j).fails = false) ∨ (attempts 0).fails = true := by
  constructor
  · intro unorphaned
    rcases failure_cases attempts n with fine | ⟨k,below,first⟩
    · exact .inl fine
    · cases k with
      | zero => exact .inr first.1
      | succ k =>
        have ended := unorphaned (k + 1) below first 0 (Nat.succ_pos k)
        rw [serving 0 (first.2 0 (Nat.succ_pos k))] at ended
        cases ended
  · intro condition k below first j earlier
    rcases condition with fine | failed
    · have fails := first.1
      rw [fine k below] at fails
      cases fails
    · have fine := first.2 0 (Nat.lt_of_le_of_lt (Nat.zero_le j) earlier)
      rw [failed] at fine
      cases fine

-- The second start fails, at the limit of processes say.
def refusedSecond (i : Nat) : Attempt String :=
  ⟨none,if i = 1 then .error "BlockingIOError" else .ok true⟩

theorem worker_orphaned :
    spawnWorkers refusedSecond none () (some 2) ⟨0,[]⟩ = .error "BlockingIOError" ⟨2,[⟨⟨0,(),false⟩,true⟩]⟩ ∧
      ¬ AllOrNothing 2 ⟨0,[]⟩ (spawnWorkers refusedSecond none () (some 2) ⟨0,[]⟩) := by
  have raised : spawnWorkers refusedSecond none () (some 2) ⟨0,[]⟩ =
      .error "BlockingIOError" ⟨2,[⟨⟨0,(),false⟩,true⟩]⟩ := rfl
  refine ⟨raised,?_⟩
  rw [raised]
  intro kept
  cases kept with
  | nothing ended =>
    have running := ended ⟨⟨0,(),false⟩,true⟩ (.head _)
    cases running

end XmlrpcExtended.Multiprocess
