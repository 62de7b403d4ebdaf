import Mathlib.Data.List.Basic
import XmlrpcExtended.TransitionRuns

namespace XmlrpcExtended.Asgi

structure Sizes where
  max_workers : Nat
  default_workers : Nat
  positive : 1 ≤ max_workers

structure ThreadPoolExecutor where
  max_workers : Nat
  shutdown : Bool
  deriving DecidableEq, Repr

inductive Progress where
  | queued
  | running
  | finished
  deriving DecidableEq, Repr

-- A synchronous handler runs on a pool of the app or on the loop's default executor.
structure SyncCall where
  executor : Option Nat
  progress : Progress
  deriving DecidableEq, Repr

inductive Moment where
  | shutdownComplete
  | closed
  deriving DecidableEq, Repr

-- `pools` are the pools ever created, `executor` is `self._executor`. The loop is
-- inside `shutdown(wait=True)` while `stopping` is set, and no other coroutine
-- gets to run then; `moment` is set right when what waited for it has ended.
structure State where
  pools : List ThreadPoolExecutor
  executor : Option Nat
  calls : List SyncCall
  stopping : Option Moment
  moment : Option Moment
  deriving DecidableEq, Repr

def start : State := ⟨[],none,[],none,none⟩

inductive Handler where
  | coroutine
  | function
  | hook
  deriving DecidableEq, Repr

inductive Action where
  | startup
  | shutdown
  | close
  | resume
  | dispatch (handler : Handler)
  | pickUp (i : Nat)
  | finish (i : Nat)
  deriving DecidableEq, Repr

def State.create (max_workers : Nat) (s : State) : State :=
  {s with pools := s.pools ++ [⟨max_workers,false⟩],executor := some s.pools.length}

def getExecutor (max_workers : Nat) (s : State) : State × Nat :=
  match s.executor with
  | some k => (s,k)
  | none => (s.create max_workers,s.pools.length)

-- Submitting to a pool that is shut down raises, with nothing queued.
def State.submit (s : State) (executor : Option Nat) : State :=
  if executor.any (fun k => (s.pools[k]?).all (·.shutdown)) then s
  else {s with calls := s.calls ++ [⟨executor,.queued⟩]}

def asyncDispatch (max_workers : Nat) (s : State) : Handler → State
  | .coroutine => s
  | .function =>
    let (s,k) := getExecutor max_workers s
    s.submit (some k)
  | .hook => s.submit none

def State.stop (s : State) (moment : Moment) : State :=
  match s.executor with
  | none => {s with moment := some moment}
  | some k => {s with pools := s.pools.modify k fun pool => {pool with shutdown := true},stopping := some moment}

def State.finishedOn (s : State) (executor : Option Nat) : Bool :=
  s.calls.all fun call => call.executor != executor || call.progress == .finished

def resume (s : State) : Option State :=
  match s.stopping,s.executor with
  | some moment,some k =>
    if s.finishedOn (some k) then some {s with executor := none,stopping := none,moment := some moment} else none
  | _,_ => none

def State.workers (sizes : Sizes) (s : State) : Option Nat → Nat
  | none => sizes.default_workers
  | some k => (s.pools[k]?).elim 0 (·.max_workers)

def State.executing (s : State) (executor : Option Nat) : Nat :=
  s.calls.countP fun call => call.executor == executor && call.progress == .running

def State.advance (s : State) (i : Nat) (call : SyncCall) (progress : Progress) : State :=
  {s with calls := s.calls.set i {call with progress := progress}}

def pickUp (sizes : Sizes) (s : State) (i : Nat) : Option State := do
  let call ← s.calls[i]?
  if call.progress = .queued ∧ s.executing call.executor < s.workers sizes call.executor then
    some (s.advance i call .running)
  else none

def finish (s : State) (i : Nat) : Option State := do
  let call ← s.calls[i]?
  if call.progress = .running then some (s.advance i call .finished) else none

-- The last two are the threads' own, which go on while the loop waits.
def step (sizes : Sizes) (s : State) (action : Action) : Option State :=
  let s := {s with moment := none}
  match action with
  | .startup => if s.stopping = none then some (s.create sizes.max_workers) else none
  | .shutdown => if s.stopping = none then some (s.stop .shutdownComplete) else none
  | .close => if s.stopping = none then some (s.stop .closed) else none
  | .resume => resume s
  | .dispatch handler => if s.stopping = none then some (asyncDispatch sizes.max_workers s handler) else none
  | .pickUp i => pickUp sizes s i
  | .finish i => finish s i

abbrev Runs (sizes : Sizes) (admitted : State → Action → Prop) :=
  TransitionRuns.Runs (step sizes) admitted start

end XmlrpcExtended.Asgi
