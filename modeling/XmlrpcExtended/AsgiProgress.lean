import Mathlib.Algebra.Order.BigOperators.Group.List
import XmlrpcExtended.AsgiConversations

namespace XmlrpcExtended.Connections
open Dispatch Http SlotTotals TransitionRuns

variable {isNone : Value → Bool} {server : Server isNone} {sizes : Asgi.Sizes} {admitted : State → Action → Prop} {s next : State}
  {pools fresh : Asgi.State} {c c' : Connection}

-- What goes on without a further connection, event or close().
def Action.onward : Action → Bool
  | .wake _ _ | .stall _ | .send _ | .resume | .pickUp _ | .finish _ => true
  | _ => false

def Onward (_ : State) (action : Action) : Prop := action.onward = true

instance (s : State) (a : Action) : Decidable (Onward s a) := inferInstanceAs (Decidable (_ = true))

-- A response is two messages, and an answer to a lifespan event one.
def Await.left : Await → Nat
  | .handler _ => 3
  | .sending rest _ => rest.length
  | .pool => 2
  | _ => 0

def callLeft : Asgi.Progress → Nat
  | .queued => 2
  | .running => 1
  | .finished => 0

def State.left (s : State) : Nat :=
  (s.connections.map (·.await.left)).sum + (s.pools.calls.map fun call => callLeft call.progress).sum +
    if s.pools.stopping.isSome then 1 else 0

theorem outcome_left (outcome : Outcome) : outcome.await.left ≤ 2 := by
  cases outcome <;> simp [Outcome.await,responds,sendHttpResponse,Await.left]

theorem proceeds_left (proceeds : Proceeds c c') : c'.await.left < c.await.left := by
  cases proceeds with
  | woke at_ outcome =>
    have bound := outcome_left outcome
    rw [at_]
    exact Nat.lt_succ_of_le bound
  | stalled at_ =>
    rw [at_]
    simp [Await.left]
  | @sent message rest listens at_ =>
    rw [at_]
    cases rest with
    | nil => cases listens <;> simp [Connection.deliver,Await.left]
    | cons message rest => simp [Connection.deliver,Await.left]

theorem resumed_left (c : Connection) : c.resumed.await.left ≤ c.await.left := by
  unfold Connection.resumed
  split
  · rename_i at_
    rw [at_]
    simp [Await.left]
  · exact Nat.le_refl _

-- A pool thread takes one call on, and touches nothing else.
structure Worked (pools fresh : Asgi.State) : Prop where
  call : ∃ (j : Nat) (call : Asgi.SyncCall) (progress : Asgi.Progress), pools.calls[j]? = some call ∧
    callLeft progress < callLeft call.progress ∧ fresh.calls = pools.calls.set j {call with progress := progress}
  stopping : fresh.stopping = pools.stopping
  executor : fresh.executor = pools.executor
  pools_ : fresh.pools = pools.pools

theorem worked_parts (thread : worker = .pickUp j ∨ worker = .finish j) (ran : Asgi.step sizes pools worker = some fresh) :
    Worked pools fresh := by
  rcases thread with rfl | rfl
  · obtain ⟨call,found,ran⟩ := Option.bind_eq_some_iff.mp ran
    split at ran <;> cases ran
    rename_i ready
    exact ⟨⟨j,call,.running,found,by rw [ready.1]; decide,rfl⟩,rfl,rfl,rfl⟩
  · obtain ⟨call,found,ran⟩ := Option.bind_eq_some_iff.mp ran
    split at ran <;> cases ran
    rename_i running
    exact ⟨⟨j,call,.finished,found,by rw [running]; decide,rfl⟩,rfl,rfl,rfl⟩

theorem resume_parts (ran : Asgi.step sizes pools .resume = some fresh) :
    ∃ moment k, pools.stopping = some moment ∧ pools.executor = some k ∧ pools.finishedOn (some k) = true ∧
      fresh = {pools with executor := none,stopping := none,moment := some moment} := by
  change Asgi.resume {pools with moment := none} = some fresh at ran
  unfold Asgi.resume at ran
  split at ran
  · rename_i moment k stopping executor
    split at ran <;> cases ran
    exact ⟨moment,k,stopping,executor,‹_›,rfl⟩
  · cases ran

theorem onward_falls (server : Server isNone) : Falls (step server) Onward State.left := by
  intro s action next onward ran
  cases step_sound ran with
  | connected => cases onward
  | heard => cases onward
  | closed => cases onward
  | @proceeded i c c' action free found proceeds stalls =>
    have sums := sum_set (fun c : Connection => c.await.left) found c'
    have less := proceeds_left proceeds
    simp only [State.left]
    omega
  | @worked worker j pools action thread moved =>
    obtain ⟨⟨k,call,progress,found,less,same⟩,stopping,_,_⟩ := worked_parts thread moved
    have sums := sum_set (fun call : Asgi.SyncCall => callLeft call.progress) found {call with progress := progress}
    dsimp only at sums
    simp only [State.left,same,stopping]
    omega
  | @resumed pools moved =>
    obtain ⟨moment,k,stopping,_,_,same⟩ := resume_parts moved
    have fewer : ((s.connections.map Connection.resumed).map (·.await.left)).sum ≤ (s.connections.map (·.await.left)).sum := by
      rw [List.map_map]
      exact List.sum_le_sum fun c _ => resumed_left c
    simp only [State.left,same,stopping,Option.isSome_none,Option.isSome_some,Bool.false_eq_true,if_false,if_true]
    omega

-- What the pools' own machine keeps, in whatever order its steps come.
structure Manned (sizes : Asgi.Sizes) (pools : Asgi.State) : Prop where
  sized : ∀ (k : Nat) (pool : Asgi.ThreadPoolExecutor), pools.pools[k]? = some pool → pool.max_workers = sizes.max_workers
  placed : ∀ call ∈ pools.calls, ∀ k, call.executor = some k → k < pools.pools.length
  waiting : pools.stopping.isSome = true → pools.executor.isSome = true

theorem create_manned (manned : Manned sizes pools) : Manned sizes (pools.create sizes.max_workers) := by
  refine ⟨?_,?_,?_⟩
  · intro k pool found
    rcases List.mem_append.mp (List.mem_of_getElem? found) with old | new
    · obtain ⟨j,known⟩ := List.mem_iff_getElem?.mp old
      exact manned.sized j pool known
    · rw [List.mem_singleton.mp new]
  · intro call member k on
    have below := manned.placed call member k on
    simp only [Asgi.State.create,List.length_append,List.length_singleton]
    omega
  · simp [Asgi.State.create]

theorem submit_manned {executor : Option Nat} (manned : Manned sizes pools) (here : ∀ k, executor = some k → k < pools.pools.length) :
    Manned sizes (pools.submit executor) := by
  unfold Asgi.State.submit
  split
  · exact manned
  · refine ⟨manned.sized,?_,manned.waiting⟩
    intro call member k on
    rcases List.mem_append.mp member with old | new
    · exact manned.placed call old k on
    · rw [List.mem_singleton.mp new] at on
      exact here k on

theorem dispatch_manned (handler : Asgi.Handler) (manned : Manned sizes pools) (alive : Asgi.Alive pools) (free : pools.stopping = none) :
    Manned sizes (Asgi.asyncDispatch sizes.max_workers pools handler) := by
  cases handler with
  | coroutine => exact manned
  | hook => exact submit_manned manned fun k same => by cases same
  | function =>
    have created : Manned sizes (Asgi.getExecutor sizes.max_workers pools).1 := by
      unfold Asgi.getExecutor
      split
      · exact manned
      · exact create_manned manned
    obtain ⟨pool,found,_⟩ := Asgi.getExecutor_open sizes.max_workers alive free
    refine submit_manned created fun k same => ?_
    cases same
    exact (List.getElem?_eq_some_iff.mp found).1

theorem stop_manned (moment : Asgi.Moment) (manned : Manned sizes pools) : Manned sizes (pools.stop moment) := by
  rcases Option.eq_none_or_eq_some pools.executor with idle | ⟨k,busy⟩
  · rw [Asgi.stop_idle moment idle]
    exact ⟨manned.sized,manned.placed,manned.waiting⟩
  · rw [Asgi.stop_busy moment busy]
    refine ⟨?_,?_,fun _ => by simp [busy]⟩
    · intro j pool found
      simp only [List.getElem?_modify] at found
      obtain ⟨old,known,same⟩ := Option.map_eq_some_iff.mp found
      rw [← same]
      split <;> exact manned.sized j old known
    · intro call member j on
      simpa using manned.placed call member j on

theorem worked_manned (manned : Manned sizes pools) (worked : Worked pools fresh) : Manned sizes fresh := by
  obtain ⟨⟨j,call,progress,found,_,same⟩,stopping,executor,pools_⟩ := worked
  refine ⟨?_,?_,?_⟩
  · rw [pools_]
    exact manned.sized
  · rw [pools_,same]
    intro moved member k on
    rcases List.mem_or_eq_of_mem_set member with old | new
    · exact manned.placed moved old k on
    · rw [new] at on
      exact manned.placed call (List.mem_of_getElem? found) k on
  · rw [stopping,executor]
    exact manned.waiting

theorem step_manned (manned : Manned sizes pools) (alive : Asgi.Alive pools) (ran : Asgi.step sizes pools action = some fresh) :
    Manned sizes fresh := by
  have kept : Manned sizes {pools with moment := none} := ⟨manned.sized,manned.placed,manned.waiting⟩
  cases action with
  | startup =>
    simp only [Asgi.step] at ran
    split at ran <;> cases ran
    exact create_manned kept
  | shutdown =>
    simp only [Asgi.step] at ran
    split at ran <;> cases ran
    exact stop_manned _ kept
  | close =>
    simp only [Asgi.step] at ran
    split at ran <;> cases ran
    exact stop_manned _ kept
  | dispatch handler =>
    simp only [Asgi.step] at ran
    split at ran <;> cases ran
    exact dispatch_manned handler kept alive ‹_›
  | resume =>
    obtain ⟨moment,k,_,_,_,rfl⟩ := resume_parts ran
    exact ⟨manned.sized,manned.placed,fun waiting => by cases waiting⟩
  | pickUp j => exact worked_manned manned (worked_parts (.inl rfl) ran)
  | finish j => exact worked_manned manned (worked_parts (.inr rfl) ran)

theorem pools_manned {admitted : Asgi.State → Asgi.Action → Prop} (path : Asgi.Runs sizes admitted actions pools) : Manned sizes pools := by
  apply path.keeps (Manned sizes)
  · refine ⟨?_,?_,?_⟩ <;> simp [Asgi.start]
  · intro _ _ _ _ prior manned _ ran
    exact step_manned manned (Asgi.runs_alive prior) ran

-- The coroutine that is inside a shutdown holds the loop.
def Holds (s : State) : Prop := ∀ c ∈ s.connections, c.await = .pool → s.pools.stopping.isSome = true

theorem outcome_unheld (outcome : Outcome) : outcome.await ≠ .pool := by
  cases outcome <;> simp [Outcome.await,responds]

theorem called_unheld (server : Server isNone) (scope : Scope) : server.call scope ≠ .pool := by
  cases scope with
  | http scope =>
    simp only [Server.call]
    split
    · simp [responds]
    · split <;> simp [responds]
  | lifespan | other => simp [Server.call]

theorem hears_held (hears : Hears server pools c fresh c') (held : c'.await = .pool) : fresh.stopping.isSome = true := by
  cases hears with
  | stopping _ _ waits => exact waits
  | dispatched _ _ _ made =>
    cases made with
    | ended outcome | refused _ _ outcome => exact absurd held (outcome_unheld outcome)
    | awaits | submitted => cases held
  | read | tooLarge | startup | stopped | ignored => cases held

theorem proceeds_unheld (proceeds : Proceeds c c') : c'.await ≠ .pool := by
  cases proceeds with
  | woke _ outcome => exact outcome_unheld outcome
  | stalled => simp
  | sent =>
    simp only [Connection.deliver]
    split
    · split <;> simp
    · simp

theorem moved_holds (holds : Holds s) (moved : Moved server s action next) : Holds next := by
  have freed : s.pools.stopping = none → ∀ c ∈ s.connections, c.await ≠ .pool := by
    intro free c member held
    have stopping := holds c member held
    rw [free] at stopping
    cases stopping
  intro c member held
  cases moved with
  | connected free =>
    rcases List.mem_append.mp member with old | new
    · exact absurd held (freed free c old)
    · rw [List.mem_singleton.mp new] at held
      exact absurd held (called_unheld server _)
  | heard free found hears =>
    rcases List.mem_or_eq_of_mem_set member with old | rfl
    · exact absurd held (freed free c old)
    · exact hears_held hears held
  | proceeded free found proceeds =>
    rcases List.mem_or_eq_of_mem_set member with old | rfl
    · exact absurd held (freed free c old)
    · exact absurd held (proceeds_unheld proceeds)
  | closed ran =>
    simp only [Asgi.step] at ran
    split at ran <;> cases ran
    exact absurd held (freed ‹_› c member)
  | worked thread ran =>
    rw [(worked_parts thread ran).stopping]
    exact holds c member held
  | resumed ran =>
    obtain ⟨before,old,rfl⟩ := List.mem_map.mp member
    unfold Connection.resumed at held
    split at held
    · cases held
    · exact absurd held ‹_›

theorem runs_hold (path : Runs server admitted actions s) : Holds s := by
  apply path.keeps Holds
  · intro c member
    cases member
  · intro _ _ _ _ _ holds _ ran
    exact moved_holds holds (step_sound ran)

abbrev Halted (server : Server isNone) (s : State) : Prop := Stopped (step server) Onward s

theorem running_finishes {j : Nat} (found : s.pools.calls[j]? = some call) (running : call.progress = .running) : ¬ Halted server s := by
  intro halted
  have blocked := halted (.finish j) rfl
  simp [step,pooled,Asgi.step,Asgi.finish,found,running] at blocked

theorem queued_goes {j : Nat} (manned : Manned server.sizes s.pools) (threads : 1 ≤ server.sizes.default_workers)
    (found : s.pools.calls[j]? = some call) (queued : call.progress = .queued) : ¬ Halted server s := by
  intro halted
  have blocked := halted (.pickUp j) rfl
  have workers : 1 ≤ s.pools.workers server.sizes call.executor := by
    cases on : call.executor with
    | none => exact threads
    | some k =>
      have below := manned.placed call (List.mem_of_getElem? found) k on
      have sized := manned.sized k s.pools.pools[k] (List.getElem?_eq_getElem below)
      have positive := server.sizes.positive
      simp only [Asgi.State.workers,List.getElem?_eq_getElem below,Option.elim_some]
      omega
  by_cases room : s.pools.executing call.executor < s.pools.workers server.sizes call.executor
  · have moved : Asgi.State.executing {s.pools with moment := none} call.executor <
        Asgi.State.workers server.sizes {s.pools with moment := none} call.executor := room
    simp [step,pooled,Asgi.step,Asgi.pickUp,found,queued,moved] at blocked
  · -- All the workers are at other calls, which can end.
    have busy : 0 < s.pools.executing call.executor := by omega
    obtain ⟨other,member,runs⟩ := List.countP_pos_iff.mp busy
    obtain ⟨i,there⟩ := List.mem_iff_getElem?.mp member
    simp only [Bool.and_eq_true,beq_iff_eq] at runs
    exact running_finishes there runs.2 halted

theorem halted_finished (manned : Manned server.sizes s.pools) (threads : 1 ≤ server.sizes.default_workers) (halted : Halted server s) :
    ∀ call ∈ s.pools.calls, call.progress = .finished := by
  intro call member
  obtain ⟨j,found⟩ := List.mem_iff_getElem?.mp member
  cases progress : call.progress with
  | queued => exact absurd halted (queued_goes manned threads found progress)
  | running => exact absurd halted (running_finishes found progress)
  | finished => rfl

theorem halted_free (manned : Manned server.sizes s.pools) (finished : ∀ call ∈ s.pools.calls, call.progress = .finished)
    (halted : Halted server s) : s.pools.stopping = none := by
  by_contra busy
  obtain ⟨moment,stopping⟩ := Option.ne_none_iff_exists'.mp busy
  obtain ⟨k,executor⟩ := Option.isSome_iff_exists.mp (manned.waiting (by simp [stopping]))
  have drained : s.pools.finishedOn (some k) = true := by
    apply List.all_eq_true.mpr
    intro call member
    simp [finished call member]
  have blocked := halted .resume rfl
  simp [step,Asgi.step,Asgi.resume,stopping,executor] at blocked
  change s.pools.finishedOn (some k) = false at blocked
  rw [drained] at blocked
  cases blocked

structure Settled (s : State) : Prop where
  connections : ∀ c ∈ s.connections, c.await.left = 0
  calls : ∀ call ∈ s.pools.calls, call.progress = .finished
  free : s.pools.stopping = none

theorem settled_halted (settled : Settled s) : Halted server s := by
  have weightless : s.left = 0 := by
    have awaits : (s.connections.map (·.await.left)).sum = 0 := List.sum_eq_zero (by simpa using settled.connections)
    have calls : (s.pools.calls.map fun call => callLeft call.progress).sum = 0 := by
      apply List.sum_eq_zero
      intro left member
      obtain ⟨call,inside,rfl⟩ := List.mem_map.mp member
      rw [settled.calls call inside]
      rfl
    simp [State.left,awaits,calls,settled.free]
  intro action onward
  cases ran : step server s action with
  | none => rfl
  | some next =>
    have less := onward_falls server s action next onward ran
    omega

theorem handler_placed (path : Runs server admitted actions s) (member : c ∈ s.connections) (at_ : c.await = .handler (some j)) :
    j < s.pools.calls.length := by
  have made : c.calls = [some j] := by
    cases runs_stand path c member with
    | http requests =>
      cases requests with
      | calling => cases at_; rfl
      | reading | stalled | raised | sending | returned => cases at_
    | lifespan announces => cases announces <;> cases at_
    | ignored => cases at_
  have one : 1 ≤ s.owners j := by
    have inside := List.mem_map_of_mem (f := fun c : Connection => c.calls.count (some j)) member
    have within := List.le_sum_of_mem inside
    simpa [made,State.owners] using within
  by_contra beyond
  rw [runs_owners path,if_neg beyond] at one
  cases one

theorem halted_settled (path : Runs server admitted actions s) (threads : 1 ≤ server.sizes.default_workers) (halted : Halted server s) :
    Settled s := by
  obtain ⟨moves,pools,_⟩ := runs_pools path
  have manned := pools_manned pools
  have finished := halted_finished manned threads halted
  have free := halted_free manned finished halted
  refine ⟨?_,finished,free⟩
  intro c member
  obtain ⟨i,found⟩ := List.mem_iff_getElem?.mp member
  cases at_ : c.await with
  | body | stalled | listening | returned | raised => rfl
  | pool =>
    have stopping := runs_hold path c member at_
    rw [free] at stopping
    cases stopping
  | handler call =>
    have done : call.all s.done = true := by
      cases call with
      | none => rfl
      | some j =>
        have below := handler_placed path member at_
        have ended := finished _ (List.getElem_mem below)
        simp [State.done,List.getElem?_eq_getElem below,ended]
    have blocked := halted (.wake i .escaped) rfl
    simp [step,wakeStep,found,at_,free,done] at blocked
  | sending rest listens =>
    cases rest with
    | nil => rfl
    | cons message rest =>
      have blocked := halted (.send i) rfl
      simp [step,sendStep,found,at_,free] at blocked

-- What a connection has come to when nothing more is due on it.
def Answered (server : Server isNone) (c : Connection) : Prop :=
  match c.scope with
  | .http scope =>
    (Opens server scope ∧ (∃ chunks, bodyOf c.received = some (.reading chunks)) ∧ c.sent = []) ∨
      (Posted server scope c.received ∧ (c.await = .raised ∨ c.await = .stalled) ∧ c.sent = []) ∨
      ∃ messages, Due server scope c.received messages ∧ c.sent = messages.map .response
  | .lifespan => c.sent = announced c.received
  | .other => c.sent = []

theorem stands_settled (stands : Stands server c) (through : c.await.left = 0) : Answered server c := by
  cases stands with
  | http requests =>
    cases requests with
    | reading opens reads => exact .inl ⟨opens,⟨_,reads⟩,rfl⟩
    | calling => cases through
    | raised posted once => exact .inr (.inl ⟨posted,.inl rfl,rfl⟩)
    | stalled posted => exact .inr (.inl ⟨posted,.inr rfl,rfl⟩)
    | sending => cases through
    | returned due once => exact .inr (.inr ⟨_,due,rfl⟩)
  | lifespan announces =>
    cases announces with
    | listening => rfl
    | returned =>
      change _ = announced _
      rw [announced_heard]
      rfl
    | starting | waiting | stopping => cases through
  | ignored => rfl

-- No connection hears anything and none is forgotten, and only a call of its own that ends with StopIteration stalls one.
theorem onward_kept (path : TransitionRuns.Runs (step server) Onward s more next) {i : Nat} (found : s.connections[i]? = some c) :
    ∃ c', next.connections[i]? = some c' ∧ c'.scope = c.scope ∧ c'.received = c.received ∧
      (c'.await = .stalled → c.await = .stalled ∨ .stall i ∈ more) := by
  induction path with
  | nil => exact ⟨c,found,rfl,rfl,.inl⟩
  | @snoc earlier middle action next prior onward ran ih =>
    obtain ⟨before,here,scope,events,stalls⟩ := ih
    have later : before.await = .stalled → c.await = .stalled ∨ .stall i ∈ earlier ++ [action] :=
      fun stalled => (stalls stalled).imp_right (List.mem_append_left _)
    cases step_sound ran with
    | connected => cases onward
    | heard => cases onward
    | closed => cases onward
    | worked => exact ⟨before,here,scope,events,later⟩
    | @proceeded j c₁ c₂ action free there proceeds stall =>
      by_cases same : j = i
      · subst same
        cases here.symm.trans there
        have inside := (List.getElem?_eq_some_iff.mp here).1
        have kept : c₂.scope = c.scope ∧ c₂.received = c.received := by
          cases proceeds <;> exact ⟨scope,events⟩
        exact ⟨c₂,by simp [inside],kept.1,kept.2,fun stalled => .inr (by simp [stall stalled])⟩
      · exact ⟨before,by simpa [List.getElem?_set_ne same] using here,scope,events,later⟩
    | resumed =>
      refine ⟨before.resumed,by simp [here],?_⟩
      unfold Connection.resumed
      split
      · exact ⟨scope,events,fun stalled => by cases stalled⟩
      · exact ⟨scope,events,later⟩

structure Settles (server : Server isNone) (s : State) : Prop where
  bounded : ∀ more later, TransitionRuns.Runs (step server) Onward s more later → more.length ≤ s.left
  stops : ∃ more later, TransitionRuns.Runs (step server) Onward s more later ∧ Halted server later
  settled : ∀ more later, TransitionRuns.Runs (step server) Onward s more later → (Halted server later ↔ Settled later)
  answered : ∀ more later, TransitionRuns.Runs (step server) Onward s more later → Settled later →
    ∀ (i : Nat) (c : Connection), s.connections[i]? = some c →
      ∃ c' : Connection, later.connections[i]? = some c' ∧ c'.scope = c.scope ∧ c'.received = c.received ∧
        (c'.await = .stalled → c.await = .stalled ∨ .stall i ∈ more) ∧ Answered server c'

-- Two requests are at their handlers, one of them on the pool that is being shut down.
def stoppingSchedule : List Action :=
  [.connect .lifespan,.connect (.http postScope),.connect (.http postScope),.receive 0 (.lifespan .startup) (.ended .escaped),.send 0,
    .receive 1 (.request (.request (some [60]) none)) (.handler .function .escaped),
    .receive 2 (.request (.request (some [60]) none)) (.handler .coroutine .escaped),
    .receive 0 (.lifespan .shutdown) (.ended .escaped)]

end XmlrpcExtended.Connections
