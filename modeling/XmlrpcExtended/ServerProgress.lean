import XmlrpcExtended.ServerLocking
import XmlrpcExtended.ServerShares

namespace XmlrpcExtended.Server
open TransitionRuns SlotTotals

variable {cfg : XMLRPCServerConfig} {s next : State} {r : Request} {k : Closer}

-- Threads can be started, and a submit that starts none leaves its call to one that the pool has.
def Pooled (s : State) : Action → Prop
  | .accept _ .startFailed => False
  | .accept i .returned =>
    (s.requests[i]?).all (fun r => r.stage != .handing || s.shared.shutdown || decide (0 < s.shared.threads)) = true
  | _ => True

-- What goes on without a further connection or shutdown call.
def Action.onward : Action → Bool
  | .arrive | .call _ _ => false
  | _ => true

def Onward (s : State) (action : Action) : Prop := Pooled s action ∧ action.onward = true

instance (s : State) : (a : Action) → Decidable (Pooled s a)
  | .accept _ .startFailed => inferInstanceAs (Decidable False)
  | .accept _ .returned => inferInstanceAs (Decidable (_ = true))
  | .accept _ .exception | .accept _ .baseException | .accept _ .threadStarted => inferInstanceAs (Decidable True)
  | .arrive | .take _ | .work _ _ | .call _ _ | .close _ _ => inferInstanceAs (Decidable True)

instance (s : State) (a : Action) : Decidable (Onward s a) := inferInstanceAs (Decidable (_ ∧ _))

-- How many steps are left at most, those of the worker included.
def Stage.left : Stage → Nat
  | .timing => 14
  | .acquiring => 13
  | .recording => 12
  | .handing => 11
  | .rejecting => 3
  | .responding => 2
  | .dismissing => 1
  | .refused => 2
  | .abandoning => 1
  | .ended _ => 0

def Job.left : Job → Nat
  | .queued => 8
  | .starting => 7
  | .finishing => 6
  | .closing => 5
  | .handling => 4
  | .closingError => 3
  | .completing => 2
  | .erroring => 2
  | .releasing => 1
  | .none | .done => 0

def Request.left (r : Request) : Nat := r.stage.left + r.job.left

def Phase.left : Phase → Nat
  | .entering => 5
  | .holding => 4
  | .joining => 3
  | .marking => 2
  | .socket => 1
  | .returned | .raised => 0

def State.left (s : State) : Nat := (s.requests.map Request.left).sum + (s.closers.map (·.phase.left)).sum

theorem next_stage_left (cfg : XMLRPCServerConfig) (made : processRequest stage = some call) (result : Result) :
    (processRequest.next cfg stage result).left + (if call = .submit then 8 else 0) < stage.left := by
  cases stage <;> cases made <;> cases result <;> simp only [processRequest.next] <;> first | decide | (split <;> decide)

theorem next_job_left (made : processRequestWorker job = some call) (result : Result) :
    (processRequestWorker.next job result).left < job.left := by
  cases job <;> cases made <;> cases result <;> decide

theorem accepted_left (sh : Shared) (made : processRequest r.stage = some call) (result : Result) :
    (r.accepted cfg sh call result).left < r.left := by
  have stage := next_stage_left cfg made result
  change (processRequest.next cfg r.stage result).left + (if call = .submit ∧ sh.shutdown = false then Job.queued else r.job).left < _
  unfold Request.left
  by_cases submits : call = .submit
  · rw [if_pos submits] at stage
    have queued : Job.queued.left = 8 := rfl
    split <;> omega
  · rw [if_neg fun both => submits both.1]
    omega

theorem worked_left (made : processRequestWorker r.job = some call) (result : Result) : (r.worked call result).left < r.left := by
  have job := next_job_left made result
  have stage := worked_stage r call result
  unfold Request.left
  rw [stage]
  exact Nat.add_lt_add_left job _

theorem taken_left (queued : r.job = .queued) : r.taken.left < r.left := by
  unfold Request.left
  rw [queued]
  exact Nat.add_lt_add_left (show Job.starting.left < Job.queued.left by decide) _

theorem request_falls {r' : Request} (found : s.requests[i]? = some r) (less : r'.left < r.left)
    (requests : next.requests = s.requests.set i r') (closers : next.closers = s.closers) : next.left < s.left := by
  have sums := sum_set Request.left found r'
  unfold State.left
  rw [requests,closers]
  omega

theorem closer_falls {phase : Phase} (found : s.closers[c]? = some k) (less : phase.left < k.phase.left)
    (closers : next.closers = s.closers.set c {k with phase := phase}) (requests : next.requests = s.requests) : next.left < s.left := by
  have sums := sum_set (fun k : Closer => k.phase.left) found {k with phase := phase}
  unfold State.left
  rw [requests,closers]
  simp only at sums
  omega

theorem leave_left (entry : Entry) : entry.leave.left ≤ 1 := by
  cases entry <;> simp [Entry.leave,Phase.left]

theorem onward_falls (cfg : XMLRPCServerConfig) : Falls (step cfg) Onward State.left := by
  intro s action next ok ran
  rcases step_sound ran with moved | moved
  · cases moved with
    | arrive free => cases ok.2
    | accept found made performed => exact request_falls found (accepted_left s.shared made _) rfl rfl
    | take found queued idle => exact request_falls found (taken_left queued) rfl rfl
    | work found made performed => exact request_falls found (worked_left made _) rfl rfl
  · cases moved with
    | call entered => cases ok.2
    | lock found phase free => exact closer_falls found (by rw [phase]; decide) rfl rfl
    | already found phase closed =>
      exact closer_falls found (by rw [phase]; exact Nat.lt_of_le_of_lt (leave_left _) (by decide)) rfl rfl
    | shutdown found phase opened => exact closer_falls found (by rw [phase]; split <;> decide) rfl rfl
    | selfJoin found phase inside => exact closer_falls found (by rw [phase]; decide) rfl rfl
    | joined found phase outside drained => exact closer_falls found (by rw [phase]; decide) rfl rfl
    | mark found phase =>
      exact closer_falls found (by rw [phase]; exact Nat.lt_of_le_of_lt (leave_left _) (by decide)) rfl rfl
    | socket found phase ended =>
      exact closer_falls found (by rw [phase]; rcases ended with rfl | rfl <;> decide) rfl rfl

-- A job that is there has a thread for it in the pool.
def Staffed (s : State) : Prop := ∀ r ∈ s.requests, r.job ≠ .none → 0 < s.shared.threads

-- The lock's owner is at one of the lines that hold it.
def Owned (s : State) : Prop := ∀ c, s.lock = some c → ∃ k, s.closers[c]? = some k ∧ k.phase.locked = true

theorem step_threads (ran : step cfg s action = some next) : s.shared.threads ≤ next.shared.threads := by
  rcases step_sound ran with moved | moved
  · cases moved with
    | arrive => exact Nat.le_refl _
    | accept found made performed => exact (perform_threads performed).1
    | take => exact Nat.le_refl _
    | work found made performed => exact (perform_threads performed).1
  · exact Nat.le_of_eq (closer_frame moved).threads.symm

theorem submit_staffed (ok : Pooled s (.accept i fate)) (found : s.requests[i]? = some r) (handing : r.stage = .handing)
    (opened : s.shared.shutdown = false) (ran : perform cfg s.shared .submit fate = some (after,result)) : 0 < after.threads := by
  cases perform_sound ran with
  | closed shut => rw [opened] at shut; cases shut
  | queued => simpa [Pooled,found,handing,opened] using ok
  | thread _ room => exact Nat.succ_pos _
  | threadless => exact absurd ok id
  | outside foreign ended => cases foreign

theorem runs_staffed (path : Runs cfg Pooled actions s) : Staffed s := by
  apply path.keeps Staffed
  · intro r member
    cases member
  · intro earlier middle action next prior staffed ok ran r' member placed
    have grown := step_threads ran
    have kept : ∀ (i : Nat) (r : Request), middle.requests[i]? = some r → r.job ≠ .none → 0 < next.shared.threads :=
      fun i r found placed => Nat.lt_of_lt_of_le (staffed r (List.mem_of_getElem? found) placed) grown
    cases step_origin ran member with
    | kept old => exact Nat.lt_of_lt_of_le (staffed r' old placed) grown
    | arrived same => rw [same] at placed; exact absurd rfl placed
    | accepted i r call fate shared result acting found made performed same =>
      subst acting same
      rcases accepted_job cfg middle.shared result (runs_coherent prior r (List.mem_of_getElem? found)) made with
        before | ⟨handing,opened,_,_⟩
      · rw [before] at placed
        exact kept i r found placed
      · rw [handing] at made
        cases made
        have threads := submit_staffed ok found handing opened performed
        have moved : next.shared = shared := by
          change acceptStep cfg middle i fate = some next at ran
          have submits : processRequest r.stage = some .submit := by rw [handing]; rfl
          simp only [acceptStep,found,submits,performed,Option.bind_eq_bind,Option.bind_some,Option.some.injEq] at ran
          rw [← ran]
        rwa [moved]
    | taken i r acting found queued same =>
      exact kept i r found (by rw [queued]; simp)
    | worked i r call fate shared result acting found made performed same =>
      exact kept i r found (worked_placed result made).1

theorem advance_owned {phase : Phase} {c : Nat} (owned : Owned s) (found : s.closers[c]? = some k)
    (closers : next.closers = s.closers.set c {k with phase := phase})
    (lock : next.lock = none ∨ next.lock = some c ∧ phase.locked = true ∨ next.lock = s.lock ∧ k.phase.locked = false ∨
      next.lock = s.lock ∧ phase.locked = true) : Owned next := by
  intro c' holder
  have inside := (List.getElem?_eq_some_iff.mp found).1
  have here : next.closers[c]? = some {k with phase := phase} := by rw [closers,List.getElem?_set_self inside]
  have others : ∀ d, s.lock = some d → d ≠ c → ∃ k, next.closers[d]? = some k ∧ k.phase.locked = true := by
    intro d same apart
    obtain ⟨k',there,locked⟩ := owned d same
    exact ⟨k',by rw [closers,List.getElem?_set_ne apart.symm]; exact there,locked⟩
  rcases lock with free | ⟨same,locked⟩ | ⟨same,outside⟩ | ⟨same,locked⟩
  · rw [free] at holder
    cases holder
  · rw [same] at holder
    cases holder
    exact ⟨_,here,locked⟩
  · rw [same] at holder
    refine others c' holder ?_
    rintro rfl
    obtain ⟨k',there,locked⟩ := owned c' holder
    cases found.symm.trans there
    rw [outside] at locked
    cases locked
  · rw [same] at holder
    by_cases mine : c' = c
    · subst mine
      exact ⟨_,here,locked⟩
    · exact others c' holder mine

theorem runs_owned {admitted : State → Action → Prop} (path : Runs cfg admitted actions s) : Owned s := by
  apply path.keeps Owned
  · intro c holder
    cases holder
  · intro earlier middle action next prior owned ok ran
    rcases step_sound ran with moved | moved
    · have same : next.closers = middle.closers ∧ next.lock = middle.lock := by cases moved <;> exact ⟨rfl,rfl⟩
      intro c holder
      rw [same.1]
      exact owned c (same.2 ▸ holder)
    · cases moved with
      | call entered =>
        intro c holder
        obtain ⟨k,found,locked⟩ := owned c holder
        exact ⟨k,by rw [List.getElem?_append_left (List.getElem?_eq_some_iff.mp found).1]; exact found,locked⟩
      | lock found phase free => exact advance_owned owned found rfl (.inr (.inl ⟨rfl,rfl⟩))
      | already found phase closed => exact advance_owned owned found rfl (.inl rfl)
      | shutdown found phase opened =>
        exact advance_owned owned found rfl (.inr (.inr (.inr ⟨rfl,by split <;> rfl⟩)))
      | selfJoin found phase inside => exact advance_owned owned found rfl (.inl rfl)
      | joined found phase outside drained => exact advance_owned owned found rfl (.inr (.inr (.inr ⟨rfl,rfl⟩)))
      | mark found phase => exact advance_owned owned found rfl (.inl rfl)
      | socket found phase ended =>
        exact advance_owned owned found rfl (.inr (.inr (.inl ⟨rfl,by rw [phase]; rfl⟩)))

abbrev Halted (cfg : XMLRPCServerConfig) (s : State) : Prop := Stopped (step cfg) Onward s

theorem submit_possible (cfg : XMLRPCServerConfig) (sh : Shared) :
    ∃ fate, (fate = .threadStarted ∨ fate = .returned ∧ 0 < sh.threads) ∧ (perform cfg sh .submit fate).isSome = true := by
  by_cases shut : sh.shutdown = true
  · exact ⟨.threadStarted,.inl rfl,by simp [perform,shut]⟩
  · have workers := cfg.workers_positive
    by_cases room : sh.threads < cfg.max_workers
    · exact ⟨.threadStarted,.inl rfl,by simp [perform,shut,room]⟩
    · exact ⟨.returned,.inr ⟨rfl,by omega⟩,by simp [perform,shut]⟩

theorem other_possible (cfg : XMLRPCServerConfig) (sh : Shared) (submits : call ≠ .submit)
    (acquires : call = .acquire → 0 < sh.permits ∨ cfg.overload_policy ≠ .BLOCK) :
    (perform cfg sh call .returned).isSome = true := by
  cases call with
  | submit => exact absurd rfl submits
  | acquire =>
    simp only [perform]
    split
    · rfl
    · rename_i none
      rw [if_neg ((acquires rfl).resolve_left none)]
      rfl
  | _ => rfl

-- Only an acquire that blocks keeps the accept thread.
theorem accept_waits {i : Nat} (halted : Halted cfg s) (found : s.requests[i]? = some r) (left : r.stage.isOver = false) :
    r.stage = .acquiring ∧ s.shared.permits = 0 ∧ cfg.overload_policy = .BLOCK := by
  have made : ∃ call, processRequest r.stage = some call := by
    cases stage : r.stage <;> simp [stage,Stage.isOver,processRequest] at left ⊢
  obtain ⟨call,made⟩ := made
  have blocked : ∀ {fate}, Pooled s (.accept i fate) → (perform cfg s.shared call fate).isSome ≠ true := by
    intro fate ok possible
    obtain ⟨⟨after,result⟩,ran⟩ := Option.isSome_iff_exists.mp possible
    have stays := halted (.accept i fate) ⟨ok,rfl⟩
    simp [step,acceptStep,found,made,ran] at stays
  by_cases submits : call = .submit
  · subst submits
    obtain ⟨fate,kind,possible⟩ := submit_possible cfg s.shared
    refine absurd possible (blocked ?_)
    rcases kind with rfl | ⟨rfl,threads⟩
    · trivial
    · simp [Pooled,found,threads]
  · have ok : Pooled s (.accept i .returned) := by
      have stage : r.stage ≠ .handing := by
        intro handing
        rw [handing] at made
        cases made
        exact submits rfl
      simp [Pooled,found,stage]
    by_contra free
    refine blocked ok (other_possible cfg s.shared submits fun acquires => ?_)
    have stage : r.stage = .acquiring := by
      revert made
      rw [acquires]
      cases r.stage <;> simp [processRequest]
    by_contra none
    rw [not_or,not_not] at none
    exact free ⟨stage,by omega,none.2⟩

-- Only a handler that waits for its own shutdown calls keeps a worker.
theorem worker_waits {j : Nat} (halted : Halted cfg s) (found : s.requests[j]? = some r) (running : r.job.running = true) :
    ∃ k ∈ s.closers, k.handler = some j ∧ k.phase.isOver = false := by
  have made : ∃ call, processRequestWorker r.job = some call ∧ call ≠ .submit ∧ call ≠ .acquire := by
    cases job : r.job <;> simp [job,Job.running,processRequestWorker] at running ⊢
  obtain ⟨call,made,submits,acquires⟩ := made
  obtain ⟨⟨after,result⟩,ran⟩ := Option.isSome_iff_exists.mp
    (other_possible cfg s.shared submits fun same => absurd same acquires)
  have stays := halted (.work j .returned) ⟨trivial,rfl⟩
  by_contra none
  have free : ¬ (r.job = .finishing ∧ s.closers.any (fun c => c.handler = some j && !c.phase.isOver) = true) := by
    rintro ⟨_,pending⟩
    obtain ⟨k,member,waits⟩ := List.any_eq_true.mp pending
    rw [Bool.and_eq_true,decide_eq_true_eq,Bool.not_eq_true'] at waits
    exact none ⟨k,member,waits⟩
  simp only [step,workStep,found,Option.bind_eq_bind,Option.bind_some,free,if_false,made,ran,reduceCtorEq] at stays

-- A closer that stays is kept from the lock, or joins from outside a pool that has work.
theorem closer_waits {c : Nat} (halted : Halted cfg s) (found : s.closers[c]? = some k) (pending : k.phase.isOver = false) :
    k.phase = .entering ∧ s.lock ≠ none ∨ k.phase = .joining ∧ k.handler = none ∧ s.drained = false := by
  have stays := halted (.close c .returned) ⟨trivial,rfl⟩
  simp only [step,closeStep,found,Option.bind_eq_bind,Option.bind_some] at stays
  cases phase : k.phase with
  | entering =>
    rw [phase] at stays
    by_cases free : s.lock = none
    · simp [free] at stays
    · exact .inl ⟨rfl,free⟩
  | holding =>
    rw [phase] at stays
    dsimp only at stays
    split at stays <;> cases stays
  | joining =>
    rw [phase] at stays
    cases handler : k.handler with
    | some i => simp [handler] at stays
    | none =>
      cases drained : s.drained with
      | true => simp [handler,drained] at stays
      | false => exact .inr ⟨rfl,rfl,rfl⟩
  | marking => simp [phase] at stays
  | socket => simp [phase] at stays
  | returned => rw [phase] at pending; cases pending
  | raised => rw [phase] at pending; cases pending

theorem halted_worker {j : Nat} (owned : Owned s) (halted : Halted cfg s) (found : s.requests[j]? = some r)
    (running : r.job.running = true) : Deadlocked s := by
  obtain ⟨k,member,mine,pending⟩ := worker_waits halted found running
  obtain ⟨c,here⟩ := List.mem_iff_getElem?.mp member
  rcases closer_waits halted here pending with ⟨entering,taken⟩ | ⟨_,outside,_⟩
  · obtain ⟨d,lock⟩ := Option.ne_none_iff_exists'.mp taken
    obtain ⟨k',there,holds⟩ := owned d lock
    have live : k'.phase.isOver = false := by
      cases phase : k'.phase <;> rw [phase] at holds <;> first | rfl | cases holds
    rcases closer_waits halted there live with ⟨early,_⟩ | ⟨joining,outside,_⟩
    · rw [early] at holds
      cases holds
    · exact ⟨d,j,lock,⟨k',there,joining,by simp [outside],r,found,running⟩,k,member,mine,entering⟩
  · rw [mine] at outside
    cases outside

theorem halted_flight (owned : Owned s) (staffed : Staffed s) (halted : Halted cfg s) (member : r ∈ s.requests)
    (flying : r.inFlight = true) : Deadlocked s := by
  by_cases idle : s.running = 0
  · obtain ⟨i,found⟩ := List.mem_iff_getElem?.mp member
    have still : r.job.running = false := by
      have none := List.countP_eq_zero.mp idle r member
      simpa using none
    have queued : r.job = .queued := by simpa [Request.inFlight,still] using flying
    have threads := staffed r member (by rw [queued]; simp)
    have stays := halted (.take i) ⟨trivial,rfl⟩
    simp [step,takeStep,found,queued,idle,threads] at stays
  · obtain ⟨r',member',running⟩ := List.countP_pos_iff.mp (Nat.pos_of_ne_zero idle)
    obtain ⟨j,found⟩ := List.mem_iff_getElem?.mp member'
    exact halted_worker owned halted found running

-- Nothing is left to be done: the next connection finds the server as a new one.
structure Settled (cfg : XMLRPCServerConfig) (s : State) : Prop where
  finished : ∀ r ∈ s.requests, r.stage.isOver = true ∧ r.inFlight = false
  returned : ∀ k ∈ s.closers, k.phase.isOver = true
  unlocked : s.lock = none
  permits : s.shared.permits = cfg.capacity

theorem over_stage (finished : stage.isOver = true) : processRequest stage = none := by
  cases stage <;> first | rfl | cases finished

theorem landed_worker (landed : r.inFlight = false) : r.job ≠ .queued ∧ processRequestWorker r.job = none := by
  revert landed
  cases job : r.job <;> simp [Request.inFlight,Job.running,processRequestWorker,job]

theorem settled_halted (settled : Settled cfg s) : Halted cfg s := by
  rintro action ⟨_,onward⟩
  have pending : ∀ {c : Nat} {k : Closer}, s.closers[c]? = some k → k.phase.isOver ≠ false := fun found live => by
    rw [settled.returned _ (List.mem_of_getElem? found)] at live
    cases live
  by_contra moves
  obtain ⟨next,ran⟩ := Option.ne_none_iff_exists'.mp moves
  rcases step_sound ran with moved | moved
  · cases moved with
    | arrive => cases onward
    | accept found made =>
      rw [over_stage (settled.finished _ (List.mem_of_getElem? found)).1] at made
      cases made
    | take found queued => exact (landed_worker (settled.finished _ (List.mem_of_getElem? found)).2).1 queued
    | work found made =>
      rw [(landed_worker (settled.finished _ (List.mem_of_getElem? found)).2).2] at made
      cases made
  · cases moved with
    | call => cases onward
    | lock found phase => exact pending found (by rw [phase]; rfl)
    | already found phase => exact pending found (by rw [phase]; rfl)
    | shutdown found phase => exact pending found (by rw [phase]; rfl)
    | selfJoin found phase => exact pending found (by rw [phase]; rfl)
    | joined found phase => exact pending found (by rw [phase]; rfl)
    | mark found phase => exact pending found (by rw [phase]; rfl)
    | socket found phase => exact pending found (by rw [phase]; rfl)

theorem runs_pooled (path : Runs cfg Pooled actions s) : Runs cfg ThreadsStart actions s :=
  path.relax fun s action ok => by
    cases action with
    | accept i fate => cases fate <;> trivial
    | _ => trivial

theorem halted_unlocked (owned : Owned s) (drained : s.drained = true) (halted : Halted cfg s) : s.lock = none := by
  by_contra taken
  obtain ⟨c,lock⟩ := Option.ne_none_iff_exists'.mp taken
  obtain ⟨k,found,holds⟩ := owned c lock
  have live : k.phase.isOver = false := by
    cases phase : k.phase <;> rw [phase] at holds <;> first | rfl | cases holds
  rcases closer_waits halted found live with ⟨early,_⟩ | ⟨_,_,busy⟩
  · rw [early] at holds
    cases holds
  · rw [drained] at busy
    cases busy

theorem halted_returned (unlocked : s.lock = none) (drained : s.drained = true) (halted : Halted cfg s) :
    ∀ k ∈ s.closers, k.phase.isOver = true := by
  intro k member
  by_contra pending
  obtain ⟨c,found⟩ := List.mem_iff_getElem?.mp member
  rcases closer_waits halted found (by simpa using pending) with ⟨_,taken⟩ | ⟨_,_,busy⟩
  · exact taken unlocked
  · rw [drained] at busy
    cases busy

-- Who waits for a permit while all are out waits for a request that goes on or is in flight.
theorem halted_past (path : Runs cfg ThreadsStart actions s) (landed : ∀ r ∈ s.requests, r.inFlight = false) (halted : Halted cfg s) :
    ∀ r ∈ s.requests, r.stage.isOver = true := by
  have clean := runs_clean path
  have valid := runs_coherent path
  have balance := permits_held path
  intro r member
  by_contra left
  obtain ⟨i,found⟩ := List.mem_iff_getElem?.mp member
  obtain ⟨_,none,_⟩ := accept_waits halted found (by simpa using left)
  have workers := cfg.workers_positive
  have held : 0 < s.requests.countP Request.holds := by
    unfold XMLRPCServerConfig.capacity at balance
    omega
  obtain ⟨r',member',holds⟩ := List.countP_pos_iff.mp held
  obtain ⟨j,there⟩ := List.mem_iff_getElem?.mp member'
  by_cases ended : r'.stage.isOver = true
  · rw [over_released (valid r' member') (clean r' member') ended (landed r' member')] at holds
    cases holds
  · obtain ⟨acquiring,_⟩ := accept_waits halted there (by simpa using ended)
    unfold Request.holds at holds
    have counts := (valid r' member').counts .acquire rfl
    rw [acquiring] at counts
    have fresh : r'.times .acquire = 0 := by
      rw [counts]
      cases r'.job <;> rfl
    simp [fresh] at holds

theorem halted_settles (path : Runs cfg Pooled actions s) (halted : Halted cfg s) : Settled cfg s ∨ Deadlocked s := by
  by_cases dead : Deadlocked s
  · exact .inr dead
  left
  have owned := runs_owned path
  have staffed := runs_staffed path
  have landed : ∀ r ∈ s.requests, r.inFlight = false := by
    intro r member
    by_contra flying
    exact dead (halted_flight owned staffed halted member (by simpa using flying))
  have drained : s.drained = true := drained_flying.mpr landed
  have unlocked := halted_unlocked owned drained halted
  have returned := halted_returned unlocked drained halted
  have finished := halted_past (runs_pooled path) landed halted
  have clean := runs_clean (runs_pooled path)
  have valid := runs_coherent path
  have balance := permits_held (runs_pooled path)
  refine ⟨fun r member => ⟨finished r member,landed r member⟩,returned,unlocked,?_⟩
  have none : s.requests.countP Request.holds = 0 := by
    rw [List.countP_eq_zero]
    intro r member
    rw [over_released (valid r member) (clean r member) (finished r member) (landed r member)]
    simp
  omega

structure Drains (cfg : XMLRPCServerConfig) (s : State) : Prop where
  bounded : ∀ more later, TransitionRuns.Runs (step cfg) Onward s more later → more.length ≤ s.left
  stops : ∃ more later, TransitionRuns.Runs (step cfg) Onward s more later ∧ Halted cfg later
  settled : ∀ more later, TransitionRuns.Runs (step cfg) Onward s more later → Halted cfg later →
    Settled cfg later ∨ Deadlocked later
  outside : (∀ k ∈ s.closers, k.handler = none) → ∀ more later, TransitionRuns.Runs (step cfg) Onward s more later →
    (Halted cfg later ↔ Settled cfg later)

theorem onward_closers (handlers : Option Nat → Prop) (each : ∀ k ∈ s.closers, handlers k.handler)
    (path : TransitionRuns.Runs (step cfg) Onward s more later) : ∀ k ∈ later.closers, handlers k.handler := by
  apply path.keeps (fun s => ∀ k ∈ s.closers, handlers k.handler) each
  intro earlier middle action next _ kept ok ran
  have advanced : ∀ {c : Nat} {k : Closer} {phase : Phase}, middle.closers[c]? = some k →
      next.closers = middle.closers.set c {k with phase := phase} → ∀ k ∈ next.closers, handlers k.handler := by
    intro c k phase found closers k' member
    rw [closers] at member
    rcases List.mem_or_eq_of_mem_set member with old | new
    · exact kept k' old
    · rw [new]
      exact kept k (List.mem_of_getElem? found)
  rcases step_sound ran with moved | moved
  · have closers : next.closers = middle.closers := by cases moved <;> rfl
    rw [closers]
    exact kept
  · cases moved with
    | call => cases ok.2
    | lock found => exact advanced found rfl
    | already found => exact advanced found rfl
    | shutdown found => exact advanced found rfl
    | selfJoin found => exact advanced found rfl
    | joined found => exact advanced found rfl
    | mark found => exact advanced found rfl
    | socket found => exact advanced found rfl

-- Under any schedule the work that has come in is done in so many steps, if no handler shuts the executor down.
theorem server_drains (path : Runs cfg Pooled actions s) : Drains cfg s := by
  have further : ∀ {more later}, TransitionRuns.Runs (step cfg) Onward s more later → Runs cfg Pooled (actions ++ more) later :=
    fun beyond => path.append (beyond.relax fun _ _ ok => ok.1)
  have settled : ∀ {more later}, TransitionRuns.Runs (step cfg) Onward s more later → Halted cfg later →
      Settled cfg later ∨ Deadlocked later := fun beyond halted => halted_settles (further beyond) halted
  refine ⟨?_,runs_stop (onward_falls cfg) s,fun _ _ => settled,?_⟩
  · intro more later beyond
    have bound := beyond.bounded (onward_falls cfg)
    omega
  · intro outside more later beyond
    refine ⟨fun halted => ?_,settled_halted⟩
    rcases settled beyond halted with done | ⟨_,j,_,_,k,member,mine,_⟩
    · exact done
    · rw [onward_closers (· = none) outside beyond k member] at mine
      cases mine

-- A server_close is called while a request is queued and the next one blocks.
def crowdedSchedule : List Action :=
  handover 0 .threadStarted ++ [.arrive,.call none .serverClose,.close 0 .returned]

theorem server_drains_crowded : ∃ s, Runs (.sized 0 0 .BLOCK) Pooled crowdedSchedule s ∧ Drains (.sized 0 0 .BLOCK) s ∧
    s.left = 25 ∧ s.shared.permits = 0 := by
  have ran : (TransitionRuns.execute (step (.sized 0 0 .BLOCK)) Pooled (start (.sized 0 0 .BLOCK))
      crowdedSchedule).any (fun s => s.left == 25 && s.shared.permits == 0) = true := by decide
  obtain ⟨s,path,seen⟩ := TransitionRuns.execute_reaches ran
  rw [Bool.and_eq_true,beq_iff_eq,beq_iff_eq] at seen
  exact ⟨s,path,server_drains path,seen⟩

end XmlrpcExtended.Server
