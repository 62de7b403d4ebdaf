import XmlrpcExtended.AsgiRequests
import XmlrpcExtended.AsgiWorkers

namespace XmlrpcExtended.Connections
open Dispatch Http SlotTotals

variable {isNone : Value → Bool}

inductive Lifespan where
  | startup
  | shutdown
  | other
  deriving DecidableEq, Repr

inductive Scope where
  | http (scope : Http.Scope)
  | lifespan
  | other

inductive Received where
  | request (event : Http.Event)
  | lifespan (event : Lifespan)
  deriving DecidableEq

inductive Sent where
  | response (message : Message)
  | startupComplete
  | shutdownComplete
  deriving DecidableEq

-- Where the coroutine of a connection is: inside `shutdown(wait=True)` at `pool`, at an await otherwise.
-- After the last of its sends it listens again or returns. At `stalled` it awaits a future that is never done.
inductive Await where
  | body (chunks : List Bytes)
  | handler (call : Option Nat)
  | stalled
  | sending (rest : List Sent) (listens : Bool)
  | listening
  | pool
  | returned
  | raised
  deriving DecidableEq

-- `received`, `calls` and `sent` are the history, oldest first. A call on a pool is known by its number.
structure Connection where
  scope : Scope
  await : Await
  received : List Received
  calls : List (Option Nat)
  sent : List Sent

structure State where
  pools : Asgi.State
  connections : List Connection

structure Server (isNone : Value → Bool) where
  app : App isNone
  upper : Text → Text
  sizes : Asgi.Sizes

def start : State := ⟨Asgi.start,[]⟩

-- How `_async_marshaled_dispatch` ends once its handler has.
inductive Outcome where
  | answered (response : Bytes)
  | escaped
  deriving DecidableEq

-- What it does with a body before its first await; `refused` is what becomes of a submit that raises.
inductive Plan where
  | ended (outcome : Outcome)
  | handler (handler : Asgi.Handler) (refused : Outcome)
  deriving DecidableEq

inductive Action where
  | connect (scope : Scope)
  | receive (i : Nat) (event : Received) (plan : Plan)
  | wake (i : Nat) (outcome : Outcome)
  | stall (i : Nat)
  | send (i : Nat)
  | close
  | resume
  | pickUp (j : Nat)
  | finish (j : Nat)

def responds (messages : List Message) : Await := .sending (messages.map .response) false

def Outcome.await : Outcome → Await
  | .answered response => responds (sendHttpResponse 200 response xmlContentType [])
  | .escaped => .raised

-- `__call__` up to its first await.
def Server.call (server : Server isNone) : Scope → Await
  | .http scope =>
    if scope.path.getD (text "/") ≠ server.app.rpc_path then responds notFound
    else if server.upper (scope.method.getD (text "GET")) ≠ text "POST" then responds methodNotAllowed
    else .body []
  | .lifespan => .listening
  | .other => .returned

def dispatch (sizes : Asgi.Sizes) (pools : Asgi.State) : Plan → Option (Asgi.State × Await)
  | .ended outcome => some (pools,outcome.await)
  | .handler handler refused => (Asgi.step sizes pools (.dispatch handler)).map fun next =>
    (next,if handler = .coroutine then .handler none
      else if next.calls.length = pools.calls.length then refused.await
      else .handler (some pools.calls.length))

def receiveBody (server : Server isNone) (pools : Asgi.State) (chunks : List Bytes) (event : Http.Event) (plan : Plan) :
    Option (Asgi.State × Await) :=
  match Http.receive chunks event with
  | .reading chunks => some (pools,.body chunks)
  | .complete body =>
    if body.length > server.app.max_request_size then some (pools,responds payloadTooLarge)
    else dispatch server.sizes pools plan

def handleLifespan (sizes : Asgi.Sizes) (pools : Asgi.State) : Lifespan → Option (Asgi.State × Await)
  | .startup => (Asgi.step sizes pools .startup).map fun next => (next,.sending [.startupComplete] true)
  | .shutdown => (Asgi.step sizes pools .shutdown).map fun next =>
    (next,if next.stopping.isSome then .pool else .sending [.shutdownComplete] false)
  | .other => some (pools,.listening)

def received (server : Server isNone) (pools : Asgi.State) (event : Received) (plan : Plan) : Await → Option (Asgi.State × Await)
  | .body chunks =>
    match event with
    | .request event => receiveBody server pools chunks event plan
    | .lifespan _ => none
  | .listening =>
    match event with
    | .lifespan event => handleLifespan server.sizes pools event
    | .request _ => none
  | _ => none

def Await.calls : Await → List (Option Nat)
  | .handler call => [call]
  | _ => []

def Connection.hear (c : Connection) (event : Received) (await : Await) : Connection :=
  {c with await := await,received := c.received ++ [event],calls := c.calls ++ await.calls}

def receiveStep (server : Server isNone) (s : State) (i : Nat) (event : Received) (plan : Plan) : Option State := do
  let c ← s.connections[i]?
  if s.pools.stopping = none then
    let (pools,await) ← received server s.pools event plan c.await
    some ⟨pools,s.connections.set i (c.hear event await)⟩
  else none

def State.done (s : State) (j : Nat) : Bool := (s.pools.calls[j]?).any (·.progress == .finished)

-- A future that is done is noticed by the loop, not by the thread.
def wakeStep (s : State) (i : Nat) (outcome : Outcome) : Option State := do
  let c ← s.connections[i]?
  match c.await with
  | .handler call =>
    if s.pools.stopping = none ∧ call.all s.done = true then
      some {s with connections := s.connections.set i {c with await := outcome.await}}
    else none
  | _ => none

-- The call on the pool has ended with StopIteration, which the future of the loop does not take.
def stallStep (s : State) (i : Nat) : Option State := do
  let c ← s.connections[i]?
  match c.await with
  | .handler (some j) =>
    if s.pools.stopping = none ∧ s.done j = true then
      some {s with connections := s.connections.set i {c with await := .stalled}}
    else none
  | _ => none

def Connection.deliver (c : Connection) (message : Sent) (rest : List Sent) (listens : Bool) : Connection :=
  {c with
    sent := c.sent ++ [message]
    await := if rest = [] then (if listens then .listening else .returned) else .sending rest listens}

def sendStep (s : State) (i : Nat) : Option State := do
  let c ← s.connections[i]?
  match c.await with
  | .sending (message :: rest) listens =>
    if s.pools.stopping = none then
      some {s with connections := s.connections.set i (c.deliver message rest listens)}
    else none
  | _ => none

-- The coroutine that has waited for the pool goes on.
def Connection.resumed (c : Connection) : Connection :=
  if c.await = .pool then {c with await := .sending [.shutdownComplete] false} else c

def pooled (sizes : Asgi.Sizes) (s : State) (action : Asgi.Action) : Option State :=
  (Asgi.step sizes s.pools action).map fun pools => {s with pools := pools}

def step (server : Server isNone) (s : State) : Action → Option State
  | .connect scope =>
    if s.pools.stopping = none then
      some {s with connections := s.connections ++ [⟨scope,server.call scope,[],[],[]⟩]}
    else none
  | .receive i event plan => receiveStep server s i event plan
  | .wake i outcome => wakeStep s i outcome
  | .stall i => stallStep s i
  | .send i => sendStep s i
  | .close => pooled server.sizes s .close
  | .resume => (Asgi.step server.sizes s.pools .resume).map fun pools => ⟨pools,s.connections.map Connection.resumed⟩
  | .pickUp j => pooled server.sizes s (.pickUp j)
  | .finish j => pooled server.sizes s (.finish j)

abbrev Runs (server : Server isNone) (admitted : State → Action → Prop) := TransitionRuns.Runs (step server) admitted start

-- What a dispatch does to the pools and where the coroutine is then.
inductive Dispatched (sizes : Asgi.Sizes) (pools : Asgi.State) : Asgi.State → Await → Prop where
  | ended (outcome : Outcome) : Dispatched sizes pools pools outcome.await
  | awaits (ran : Asgi.step sizes pools (.dispatch handler) = some fresh) (kept : fresh.calls = pools.calls) :
      Dispatched sizes pools fresh (.handler none)
  | refused (ran : Asgi.step sizes pools (.dispatch handler) = some fresh) (kept : fresh.calls = pools.calls) (outcome : Outcome) :
      Dispatched sizes pools fresh outcome.await
  | submitted (ran : Asgi.step sizes pools (.dispatch handler) = some fresh)
      (added : fresh.calls = pools.calls ++ [⟨executor,.queued⟩]) : Dispatched sizes pools fresh (.handler (some pools.calls.length))

inductive Hears (server : Server isNone) (pools : Asgi.State) (c : Connection) : Asgi.State → Connection → Prop where
  | read (at_ : c.await = .body chunks) (more : Http.receive chunks event = .reading later) :
      Hears server pools c pools (c.hear (.request event) (.body later))
  | tooLarge (at_ : c.await = .body chunks) (ends : Http.receive chunks event = .complete body)
      (large : server.app.max_request_size < body.length) :
      Hears server pools c pools (c.hear (.request event) (responds payloadTooLarge))
  | dispatched (at_ : c.await = .body chunks) (ends : Http.receive chunks event = .complete body)
      (small : body.length ≤ server.app.max_request_size) (made : Dispatched server.sizes pools fresh await) :
      Hears server pools c fresh (c.hear (.request event) await)
  | startup (at_ : c.await = .listening) (ran : Asgi.step server.sizes pools .startup = some fresh) :
      Hears server pools c fresh (c.hear (.lifespan .startup) (.sending [.startupComplete] true))
  | stopping (at_ : c.await = .listening) (ran : Asgi.step server.sizes pools .shutdown = some fresh)
      (waits : fresh.stopping.isSome = true) : Hears server pools c fresh (c.hear (.lifespan .shutdown) .pool)
  | stopped (at_ : c.await = .listening) (ran : Asgi.step server.sizes pools .shutdown = some fresh)
      (idle : fresh.stopping = none) :
      Hears server pools c fresh (c.hear (.lifespan .shutdown) (.sending [.shutdownComplete] false))
  | ignored (at_ : c.await = .listening) : Hears server pools c pools (c.hear (.lifespan .other) .listening)

inductive Proceeds (c : Connection) : Connection → Prop where
  | woke (at_ : c.await = .handler call) (outcome : Outcome) : Proceeds c {c with await := outcome.await}
  | stalled (at_ : c.await = .handler (some j)) : Proceeds c {c with await := .stalled}
  | sent (at_ : c.await = .sending (message :: rest) listens) : Proceeds c (c.deliver message rest listens)

-- What one step does, its guards included: later proofs go through these rules.
inductive Moved (server : Server isNone) (s : State) : Action → State → Prop where
  | connected (free : s.pools.stopping = none) :
      Moved server s (.connect scope) {s with connections := s.connections ++ [⟨scope,server.call scope,[],[],[]⟩]}
  | heard (free : s.pools.stopping = none) (found : s.connections[i]? = some c) (hears : Hears server s.pools c pools c') :
      Moved server s (.receive i event plan) ⟨pools,s.connections.set i c'⟩
  | proceeded (free : s.pools.stopping = none) (found : s.connections[i]? = some c) (proceeds : Proceeds c c')
      (stalls : c'.await = .stalled → action = .stall i) :
      Moved server s action {s with connections := s.connections.set i c'}
  | closed (ran : Asgi.step server.sizes s.pools .close = some pools) : Moved server s .close {s with pools := pools}
  | worked (thread : worker = .pickUp j ∨ worker = .finish j) (ran : Asgi.step server.sizes s.pools worker = some pools) :
      Moved server s action {s with pools := pools}
  | resumed (ran : Asgi.step server.sizes s.pools .resume = some pools) :
      Moved server s .resume ⟨pools,s.connections.map Connection.resumed⟩

variable {server : Server isNone} {sizes : Asgi.Sizes} {admitted : State → Action → Prop} {s next : State} {pools fresh : Asgi.State}
  {c c' : Connection} {await : Await}

theorem submit_calls (s : Asgi.State) (executor : Option Nat) :
    (s.submit executor).calls = s.calls ∨ (s.submit executor).calls = s.calls ++ [⟨executor,.queued⟩] := by
  unfold Asgi.State.submit
  split
  · exact .inl rfl
  · exact .inr rfl

theorem dispatch_calls (ran : Asgi.step sizes pools (.dispatch handler) = some fresh) :
    fresh.calls = pools.calls ∨ handler ≠ .coroutine ∧ ∃ executor, fresh.calls = pools.calls ++ [⟨executor,.queued⟩] := by
  simp only [Asgi.step] at ran
  split at ran <;> cases ran
  cases handler with
  | coroutine => exact .inl rfl
  | function =>
    have same := (Asgi.getExecutor_frame sizes.max_workers {pools with moment := none}).2
    rcases submit_calls (Asgi.getExecutor sizes.max_workers {pools with moment := none}).1
      (some (Asgi.getExecutor sizes.max_workers {pools with moment := none}).2) with kept | added
    · exact .inl (kept.trans same)
    · exact .inr ⟨by simp,_,added.trans (by rw [same])⟩
  | hook =>
    rcases submit_calls {pools with moment := none} none with kept | added
    · exact .inl kept
    · exact .inr ⟨by simp,_,added⟩

theorem dispatch_sound (made : dispatch sizes pools plan = some (fresh,await)) : Dispatched sizes pools fresh await := by
  cases plan with
  | ended outcome =>
    cases made
    exact .ended outcome
  | handler handler refused =>
    obtain ⟨next,ran,same⟩ := Option.map_eq_some_iff.mp made
    cases same
    rcases dispatch_calls ran with kept | ⟨thread,executor,added⟩
    · by_cases coroutine : handler = .coroutine
      · rw [if_pos coroutine]
        exact .awaits ran kept
      · rw [if_neg coroutine,if_pos (by rw [kept])]
        exact .refused ran kept refused
    · rw [if_neg thread,if_neg (by simp [added])]
      exact .submitted ran added

theorem received_sound (made : received server pools event plan c.await = some (fresh,await)) :
    Hears server pools c fresh (c.hear event await) := by
  cases at_ : c.await with
  | body chunks =>
    rw [at_] at made
    cases event with
    | request event =>
      simp only [received,receiveBody] at made
      cases ends : Http.receive chunks event with
      | reading later =>
        simp only [ends] at made
        cases made
        exact .read at_ ends
      | complete body =>
        simp only [ends] at made
        split at made
        · cases made
          exact .tooLarge at_ ends ‹_›
        · exact .dispatched at_ ends (by omega) (dispatch_sound made)
    | lifespan event => cases made
  | listening =>
    rw [at_] at made
    cases event with
    | request event => cases made
    | lifespan event =>
      cases event with
      | startup =>
        obtain ⟨next,ran,same⟩ := Option.map_eq_some_iff.mp made
        cases same
        exact .startup at_ ran
      | shutdown =>
        obtain ⟨next,ran,same⟩ := Option.map_eq_some_iff.mp made
        cases same
        split
        · exact .stopping at_ ran ‹_›
        · rename_i idle
          exact .stopped at_ ran (by simpa using idle)
      | other =>
        cases made
        exact .ignored at_
  | _ => rw [at_] at made; cases made

theorem outcome_goes (outcome : Outcome) : outcome.await ≠ .stalled := by
  cases outcome <;> simp [Outcome.await,responds]

theorem deliver_goes (c : Connection) (message : Sent) (rest : List Sent) (listens : Bool) :
    (c.deliver message rest listens).await ≠ .stalled := by
  simp only [Connection.deliver]
  split
  · split <;> simp
  · simp

theorem step_sound (ran : step server s action = some next) : Moved server s action next := by
  cases action with
  | connect scope =>
    simp only [step] at ran
    split at ran <;> cases ran
    exact .connected ‹_›
  | receive i event plan =>
    obtain ⟨c,found,ran⟩ := Option.bind_eq_some_iff.mp ran
    split at ran
    · obtain ⟨⟨pools,await⟩,made,ran⟩ := Option.bind_eq_some_iff.mp ran
      cases ran
      exact .heard ‹_› found (received_sound made)
    · cases ran
  | wake i outcome =>
    obtain ⟨c,found,ran⟩ := Option.bind_eq_some_iff.mp ran
    split at ran
    · split at ran <;> cases ran
      rename_i at_ ready
      exact .proceeded ready.1 found (.woke at_ outcome) fun stalled => absurd stalled (outcome_goes outcome)
    · cases ran
  | stall i =>
    obtain ⟨c,found,ran⟩ := Option.bind_eq_some_iff.mp ran
    split at ran
    · split at ran <;> cases ran
      rename_i at_ ready
      exact .proceeded ready.1 found (.stalled at_) fun _ => rfl
    · cases ran
  | send i =>
    obtain ⟨c,found,ran⟩ := Option.bind_eq_some_iff.mp ran
    split at ran
    · split at ran <;> cases ran
      rename_i at_ free
      exact .proceeded free found (.sent at_) fun stalled => absurd stalled (deliver_goes _ _ _ _)
    · cases ran
  | close =>
    obtain ⟨pools,moved,same⟩ := Option.map_eq_some_iff.mp ran
    cases same
    exact .closed moved
  | resume =>
    obtain ⟨pools,moved,same⟩ := Option.map_eq_some_iff.mp ran
    cases same
    exact .resumed moved
  | pickUp j =>
    obtain ⟨pools,moved,same⟩ := Option.map_eq_some_iff.mp ran
    cases same
    exact .worked (.inl rfl) moved
  | finish j =>
    obtain ⟨pools,moved,same⟩ := Option.map_eq_some_iff.mp ran
    cases same
    exact .worked (.inr rfl) moved

theorem dispatched_pools (made : Dispatched sizes pools fresh await) :
    fresh = pools ∨ ∃ action, Asgi.step sizes pools action = some fresh := by
  cases made with
  | ended => exact .inl rfl
  | awaits ran | refused ran | submitted ran => exact .inr ⟨_,ran⟩

theorem hears_pools (hears : Hears server pools c fresh c') :
    fresh = pools ∨ ∃ action, Asgi.step server.sizes pools action = some fresh := by
  cases hears with
  | read | tooLarge | ignored => exact .inl rfl
  | dispatched _ _ _ made => exact dispatched_pools made
  | startup _ ran | stopping _ ran | stopped _ ran => exact .inr ⟨_,ran⟩

-- The pools of the app go through the steps of their own machine.
theorem moved_pools (moved : Moved server s action next) :
    next.pools = s.pools ∨ ∃ action, Asgi.step server.sizes s.pools action = some next.pools := by
  cases moved with
  | connected | proceeded => exact .inl rfl
  | heard _ _ hears => exact hears_pools hears
  | closed ran | worked _ ran | resumed ran => exact .inr ⟨_,ran⟩

theorem runs_pools (path : Runs server admitted actions s) :
    ∃ moves, Asgi.Runs server.sizes TransitionRuns.Anything moves s.pools ∧ moves.length ≤ actions.length :=
  path.simulated State.pools fun _ _ ran => moved_pools (step_sound ran)

end XmlrpcExtended.Connections
