import XmlrpcExtended.AsgiShutdown
import XmlrpcExtended.SlotTotals

namespace XmlrpcExtended.Asgi

variable {sizes : Sizes} {admitted : State → Action → Prop} {s next : State} {offers : Handler → Prop}

-- Between two await points of the loop the executor in use is open.
def Alive (s : State) : Prop :=
  ∀ k, s.executor = some k → ∃ pool, s.pools[k]? = some pool ∧ pool.shutdown = s.stopping.isSome

theorem create_alive (max_workers : Nat) (free : s.stopping = none) : Alive (s.create max_workers) := by
  intro k here
  have last : s.pools.length = k := by simpa [State.create] using here
  subst last
  exact ⟨⟨max_workers,false⟩,by simp [State.create],by simp [State.create,free]⟩

theorem submit_alive (executor : Option Nat) (alive : Alive s) : Alive (s.submit executor) := by
  unfold State.submit
  split
  · exact alive
  · exact alive

theorem getExecutor_alive (max_workers : Nat) (alive : Alive s) (free : s.stopping = none) :
    Alive (getExecutor max_workers s).1 := by
  unfold getExecutor
  cases here : s.executor with
  | some k => exact alive
  | none => exact create_alive max_workers free

theorem dispatch_alive (max_workers : Nat) (handler : Handler) (alive : Alive s) (free : s.stopping = none) :
    Alive (asyncDispatch max_workers s handler) := by
  cases handler with
  | coroutine => exact alive
  | function => exact submit_alive _ (getExecutor_alive max_workers alive free)
  | hook => exact submit_alive none alive

theorem stop_alive (moment : Moment) (alive : Alive s) : Alive (s.stop moment) := by
  rcases Option.eq_none_or_eq_some s.executor with idle | ⟨k,busy⟩
  · rw [stop_idle moment idle]
    exact alive
  · obtain ⟨pool,found,_⟩ := alive k busy
    rw [stop_busy moment busy]
    intro j same
    cases busy.symm.trans same
    exact ⟨{pool with shutdown := true},by simp [found],rfl⟩

theorem resume_alive (ran : resume s = some next) : Alive next := by
  unfold resume at ran
  split at ran
  · split at ran <;> cases ran
    intro k here
    cases here
  · cases ran

theorem step_alive (alive : Alive s) (ran : step sizes s action = some next) : Alive next := by
  have kept : Alive {s with moment := none} := alive
  cases action with
  | startup =>
    simp only [step] at ran
    split at ran <;> cases ran
    exact create_alive _ ‹_›
  | shutdown =>
    simp only [step] at ran
    split at ran <;> cases ran
    exact stop_alive _ kept
  | close =>
    simp only [step] at ran
    split at ran <;> cases ran
    exact stop_alive _ kept
  | resume => exact resume_alive ran
  | dispatch handler =>
    simp only [step] at ran
    split at ran <;> cases ran
    exact dispatch_alive _ handler kept ‹_›
  | pickUp i =>
    obtain ⟨call,found,ran⟩ := Option.bind_eq_some_iff.mp ran
    split at ran <;> cases ran
    exact alive
  | finish i =>
    obtain ⟨call,found,ran⟩ := Option.bind_eq_some_iff.mp ran
    split at ran <;> cases ran
    exact alive

theorem runs_alive (path : Runs sizes admitted actions s) : Alive s := by
  apply path.keeps Alive
  · intro k here
    cases here
  · intro earlier middle action next prior alive ok ran
    exact step_alive alive ran

theorem submit_open (found : s.pools[k]? = some pool) (opened : pool.shutdown = false) :
    s.submit (some k) = {s with calls := s.calls ++ [⟨some k,.queued⟩]} := by
  unfold State.submit
  simp [found,opened]

theorem getExecutor_here (max_workers : Nat) (s : State) :
    (getExecutor max_workers s).1.executor = some (getExecutor max_workers s).2 := by
  unfold getExecutor
  cases used : s.executor with
  | some k => exact used
  | none => rfl

theorem getExecutor_frame (max_workers : Nat) (s : State) :
    (getExecutor max_workers s).1.stopping = s.stopping ∧ (getExecutor max_workers s).1.calls = s.calls := by
  unfold getExecutor
  cases s.executor with
  | some k => exact ⟨rfl,rfl⟩
  | none => exact ⟨rfl,rfl⟩

theorem getExecutor_open (max_workers : Nat) (alive : Alive s) (free : s.stopping = none) :
    ∃ pool, (getExecutor max_workers s).1.pools[(getExecutor max_workers s).2]? = some pool ∧ pool.shutdown = false := by
  obtain ⟨pool,found,shut⟩ := getExecutor_alive max_workers alive free _ (getExecutor_here max_workers s)
  exact ⟨pool,found,by rw [shut,(getExecutor_frame max_workers s).1,free]; rfl⟩

theorem dispatch_open (max_workers : Nat) (alive : Alive s) (free : s.stopping = none) :
    asyncDispatch max_workers s .function = {(getExecutor max_workers s).1 with
      calls := s.calls ++ [⟨some (getExecutor max_workers s).2,.queued⟩]} := by
  obtain ⟨pool,found,opened⟩ := getExecutor_open max_workers alive free
  change (getExecutor max_workers s).1.submit (some (getExecutor max_workers s).2) = _
  rw [submit_open found opened,(getExecutor_frame max_workers s).2]

-- A submit on a pool that is shut down would leave no call behind.
theorem submits_alive (path : Runs sizes TransitionRuns.Anything actions s) :
    (s.stopping = none → ∀ k, s.executor = some k → ∃ pool, s.pools[k]? = some pool ∧ pool.shutdown = false) ∧
    ∀ next, step sizes s (.dispatch .function) = some next → ∃ k pool,
      next.executor = some k ∧ next.pools[k]? = some pool ∧ pool.shutdown = false ∧
      next.calls = s.calls ++ [⟨some k,.queued⟩] := by
  have alive := runs_alive path
  refine ⟨?_,?_⟩
  · intro free k here
    obtain ⟨pool,found,shut⟩ := alive k here
    exact ⟨pool,found,by rw [shut,free]; rfl⟩
  · intro next ran
    simp only [step] at ran
    split at ran <;> cases ran
    rename_i free
    have kept : Alive {s with moment := none} := alive
    obtain ⟨pool,found,opened⟩ := getExecutor_open sizes.max_workers kept free
    rw [dispatch_open sizes.max_workers kept free]
    exact ⟨_,pool,getExecutor_here _ _,found,opened,rfl⟩

-- A request before the first startup, one between a shutdown and the next startup, one after close().
def reloadSchedule : List Action :=
  [.dispatch .function,.startup,.shutdown,.resume,.dispatch .function,.pickUp 1,.close,.finish 1,.resume]

theorem submits_alive_reload : ∃ s next k pool, Runs one TransitionRuns.Anything reloadSchedule s ∧
    step one s (.dispatch .function) = some next ∧ next.executor = some k ∧ next.pools[k]? = some pool ∧
    pool.shutdown = false := by
  have ran : (TransitionRuns.execute (step one) TransitionRuns.Anything start reloadSchedule).any
      (fun s => (step one s (.dispatch .function)).isSome) = true := by decide
  obtain ⟨s,path,more⟩ := TransitionRuns.execute_reaches ran
  obtain ⟨next,moved⟩ := Option.isSome_iff_exists.mp more
  obtain ⟨k,pool,here,found,opened,_⟩ := (submits_alive path).2 next moved
  exact ⟨s,next,k,pool,path,moved,here,found,opened⟩

def State.executingAll (s : State) : Nat := s.calls.countP (·.progress == .running)

def started (sizes : Sizes) : State := start.create sizes.max_workers

-- What the registry offers decides which ways of making a call are taken.
def Requests (offers : Handler → Prop) (_ : State) : Action → Prop
  | .startup => False
  | .dispatch handler => offers handler
  | _ => True

instance [DecidablePred offers] (s : State) (a : Action) : Decidable (Requests offers s a) := by
  unfold Requests
  split <;> infer_instance

theorem startup_started (sizes : Sizes) : step sizes start .startup = some (started sizes) := rfl

-- Each executor keeps to its own size, and a call under way is on the pool in use.
structure Sized (sizes : Sizes) (offers : Handler → Prop) (s : State) : Prop where
  pools : ∀ (k : Nat) (pool : ThreadPoolExecutor), s.pools[k]? = some pool → pool.max_workers = sizes.max_workers
  within : ∀ executor, s.executing executor ≤ s.workers sizes executor
  underway : ∀ call ∈ s.calls, ∀ k, call.executor = some k → call.progress ≠ .finished → s.executor = some k
  offered : ∀ call ∈ s.calls, (call.executor = none → offers .hook) ∧ (call.executor ≠ none → offers .function)

theorem started_sized (sizes : Sizes) (offers : Handler → Prop) : Sized sizes offers (started sizes) := by
  refine ⟨?_,?_,?_,?_⟩
  · intro k pool found
    cases k with
    | zero => cases found; rfl
    | succ k => cases found
  · intro executor
    exact Nat.zero_le _
  all_goals intro call member; cases member

theorem pools_workers {t : State}
    (same : ∀ k : Nat, t.pools[k]?.map ThreadPoolExecutor.max_workers = s.pools[k]?.map ThreadPoolExecutor.max_workers)
    (executor : Option Nat) : t.workers sizes executor = s.workers sizes executor := by
  cases executor with
  | none => rfl
  | some k =>
    have here := same k
    simp only [State.workers]
    cases found : t.pools[k]? <;> cases known : s.pools[k]? <;> simp_all

theorem create_sized (sized : Sized sizes offers s) (idle : s.executor = none) :
    Sized sizes offers (s.create sizes.max_workers) := by
  refine ⟨?_,?_,?_,sized.offered⟩
  · intro k pool found
    rcases List.mem_append.mp (List.mem_of_getElem? found) with old | new
    · obtain ⟨j,known⟩ := List.mem_iff_getElem?.mp old
      exact sized.pools j pool known
    · rw [List.mem_singleton.mp new]
  · intro executor
    apply Nat.le_trans (sized.within executor)
    cases executor with
    | none => exact Nat.le_refl _
    | some k =>
      simp only [State.workers,State.create]
      by_cases inside : k < s.pools.length
      · rw [List.getElem?_append_left inside]
      · rw [List.getElem?_eq_none (by omega)]
        exact Nat.zero_le _
  · intro call member k on unfinished
    have kept := sized.underway call member k on unfinished
    rw [idle] at kept
    cases kept

theorem submit_sized (executor : Option Nat) (sized : Sized sizes offers s)
    (here : ∀ k, executor = some k → s.executor = some k)
    (offered : (executor = none → offers .hook) ∧ (executor ≠ none → offers .function)) :
    Sized sizes offers (s.submit executor) := by
  unfold State.submit
  split
  · exact sized
  · refine ⟨sized.pools,?_,?_,?_⟩
    · intro other
      have same : (State.executing {s with calls := s.calls ++ [⟨executor,.queued⟩]} other) = s.executing other := by
        simp [State.executing]
      rw [same]
      exact sized.within other
    · intro call member k on unfinished
      rcases List.mem_append.mp member with old | new
      · exact sized.underway call old k on unfinished
      · rw [List.mem_singleton.mp new] at on
        exact here k on
    · intro call member
      rcases List.mem_append.mp member with old | new
      · exact sized.offered call old
      · rw [List.mem_singleton.mp new]
        exact offered

theorem getExecutor_sized (sized : Sized sizes offers s) : Sized sizes offers (getExecutor sizes.max_workers s).1 := by
  unfold getExecutor
  cases here : s.executor with
  | some k => exact sized
  | none => exact create_sized sized here

theorem dispatch_sized (handler : Handler) (sized : Sized sizes offers s) (offered : offers handler) :
    Sized sizes offers (asyncDispatch sizes.max_workers s handler) := by
  cases handler with
  | coroutine => exact sized
  | function =>
    apply submit_sized _ (getExecutor_sized sized) _ ⟨by simp,fun _ => offered⟩
    intro k same
    exact (getExecutor_here _ s).trans same
  | hook => exact submit_sized none sized (fun k same => by cases same) ⟨fun _ => offered,by simp⟩

theorem stop_sized (moment : Moment) (sized : Sized sizes offers s) : Sized sizes offers (s.stop moment) := by
  rcases Option.eq_none_or_eq_some s.executor with idle | ⟨k,busy⟩
  · rw [stop_idle moment idle]
    exact ⟨sized.pools,sized.within,sized.underway,sized.offered⟩
  · rw [stop_busy moment busy]
    have sizes_ : ∀ j : Nat, (s.pools.modify k fun pool => {pool with shutdown := true})[j]?.map
        ThreadPoolExecutor.max_workers = s.pools[j]?.map ThreadPoolExecutor.max_workers := by
      intro j
      rw [List.getElem?_modify]
      split
      · cases s.pools[j]? <;> rfl
      · cases s.pools[j]? <;> rfl
    refine ⟨?_,?_,sized.underway,sized.offered⟩
    · intro j pool found
      have same := sizes_ j
      rw [found] at same
      obtain ⟨old,known,equal⟩ := Option.map_eq_some_iff.mp same.symm
      rw [← equal]
      exact sized.pools j old known
    · intro executor
      rw [pools_workers sizes_ executor]
      exact sized.within executor

theorem resume_sized (sized : Sized sizes offers s) (ran : resume s = some next) : Sized sizes offers next := by
  unfold resume at ran
  split at ran
  · rename_i moment k stopping here
    split at ran <;> cases ran
    rename_i drained
    refine ⟨sized.pools,sized.within,?_,sized.offered⟩
    intro call member j on unfinished
    have kept := sized.underway call member j on unfinished
    cases here.symm.trans kept
    have done := List.all_eq_true.mp drained call member
    simp [on,unfinished] at done
  · cases ran

theorem advance_sized (progress : Progress) (sized : Sized sizes offers s) (found : s.calls[i]? = some call)
    (unfinished : call.progress ≠ .finished)
    (room : progress = .running → call.progress = .queued ∧ s.executing call.executor < s.workers sizes call.executor) :
    Sized sizes offers (s.advance i call progress) := by
  refine ⟨sized.pools,?_,?_,?_⟩
  · intro executor
    have bound := sized.within executor
    have count := SlotTotals.countP_set (p := fun call => call.executor == executor && call.progress == .running)
      found {call with progress := progress}
    change ((s.advance i call progress).executing executor : Int) = s.executing executor - _ + _ at count
    change (s.advance i call progress).executing executor ≤ s.workers sizes executor
    by_cases runs : progress = .running
    · subst runs
      obtain ⟨queued,room⟩ := room rfl
      by_cases same : call.executor = executor
      · rw [same] at room
        simp [same,queued] at count
        omega
      · simp [same] at count
        omega
    · simp [runs] at count
      split at count <;> omega
  · intro moved member k on _
    rcases List.mem_or_eq_of_mem_set member with old | new
    · exact sized.underway moved old k on ‹_›
    · rw [new] at on
      exact sized.underway call (List.mem_of_getElem? found) k on unfinished
  · intro moved member
    rcases List.mem_or_eq_of_mem_set member with old | new
    · exact sized.offered moved old
    · rw [new]
      exact sized.offered call (List.mem_of_getElem? found)

theorem step_sized (sized : Sized sizes offers s) (ok : Requests offers s action) (ran : step sizes s action = some next) :
    Sized sizes offers next := by
  have kept : Sized sizes offers {s with moment := none} := ⟨sized.pools,sized.within,sized.underway,sized.offered⟩
  cases action with
  | startup => exact ok.elim
  | shutdown =>
    simp only [step] at ran
    split at ran <;> cases ran
    exact stop_sized _ kept
  | close =>
    simp only [step] at ran
    split at ran <;> cases ran
    exact stop_sized _ kept
  | resume => exact resume_sized kept ran
  | dispatch handler =>
    simp only [step] at ran
    split at ran <;> cases ran
    exact dispatch_sized handler kept ok
  | pickUp i =>
    obtain ⟨call,found,ran⟩ := Option.bind_eq_some_iff.mp ran
    split at ran <;> cases ran
    rename_i ready
    exact advance_sized _ kept found (by rw [ready.1]; simp) fun _ => ready
  | finish i =>
    obtain ⟨call,found,ran⟩ := Option.bind_eq_some_iff.mp ran
    split at ran <;> cases ran
    rename_i running
    exact advance_sized _ kept found (by rw [running]; simp) fun same => by cases same

theorem runs_sized (path : TransitionRuns.Runs (step sizes) (Requests offers) (started sizes) actions s) :
    Sized sizes offers s :=
  path.keeps (Sized sizes offers) (started_sized sizes offers) fun _ sized ok ran => step_sized sized ok ran

theorem executingAll_split (sized : Sized sizes offers s) :
    s.executingAll = s.executing none + s.executor.elim 0 fun k => s.executing (some k) := by
  have parts : s.executingAll = s.executing none + s.calls.countP fun call => call.executor.isSome && call.progress == .running := by
    unfold State.executingAll State.executing
    induction s.calls with
    | nil => rfl
    | cons call rest ih =>
      simp only [List.countP_cons,ih]
      cases call.executor <;> simp <;> omega
  rw [parts]
  congr 1
  cases used : s.executor with
  | none =>
    rw [List.countP_eq_zero.mpr]
    · rfl
    · intro call member on
      simp only [Bool.and_eq_true,beq_iff_eq,Option.isSome_iff_exists] at on
      obtain ⟨⟨k,on⟩,runs⟩ := on
      have kept := sized.underway call member k on (by rw [runs]; simp)
      rw [used] at kept
      cases kept
  | some k =>
    apply List.countP_congr
    intro call member
    simp only [Bool.and_eq_true,beq_iff_eq,Option.isSome_iff_exists,and_congr_left_iff]
    intro runs
    constructor
    · rintro ⟨j,on⟩
      have kept := sized.underway call member j on (by rw [runs]; simp)
      rw [used] at kept
      rw [on,kept]
    · intro on
      exact ⟨k,on⟩

theorem executing_none (sized : Sized sizes offers s) (unoffered : ¬ offers .hook) : s.executing none = 0 := by
  rw [State.executing,List.countP_eq_zero]
  intro call member on
  simp only [Bool.and_eq_true,beq_iff_eq] at on
  exact unoffered ((sized.offered call member).1 on.1)

theorem executing_some (sized : Sized sizes offers s) (unoffered : ¬ offers .function) (k : Nat) :
    s.executing (some k) = 0 := by
  rw [State.executing,List.countP_eq_zero]
  intro call member on
  simp only [Bool.and_eq_true,beq_iff_eq] at on
  exact unoffered ((sized.offered call member).2 (by rw [on.1]; simp))

theorem workers_pool (sized : Sized sizes offers s) (k : Nat) : s.workers sizes (some k) ≤ sizes.max_workers := by
  simp only [State.workers]
  cases found : s.pools[k]? with
  | none => exact Nat.zero_le _
  | some pool => exact Nat.le_of_eq (sized.pools k pool found)

-- The pool in use and the default executor each fill up to their own size.
theorem executingAll_bound (sized : Sized sizes offers s)
    (fits : offers .hook → sizes.default_workers ≤ sizes.max_workers ∧ (offers .function → sizes.default_workers = 0)) :
    s.executingAll ≤ sizes.max_workers := by
  have default_ : s.executing none ≤ sizes.default_workers := sized.within none
  have pooled : (s.executor.elim 0 fun k => s.executing (some k)) ≤ sizes.max_workers := by
    cases s.executor with
    | none => exact Nat.zero_le _
    | some k => exact Nat.le_trans (sized.within (some k)) (workers_pool sized k)
  rw [executingAll_split sized]
  by_cases hooked : offers .hook
  · obtain ⟨fits,alone⟩ := fits hooked
    by_cases functions : offers .function
    · have none_ := alone functions
      omega
    · have idle : (s.executor.elim 0 fun k => s.executing (some k)) = 0 := by
        cases s.executor with
        | none => rfl
        | some k => exact executing_some sized functions k
      omega
  · have none_ := executing_none sized hooked
    omega

def filled (sizes : Sizes) (calls : List SyncCall) : State := {started sizes with calls := calls}

def Handler.executor : Handler → Option Nat
  | .function => some 0
  | _ => none

theorem filled_dispatch (sizes : Sizes) (calls : List SyncCall) (sync : handler ≠ .coroutine) :
    step sizes (filled sizes calls) (.dispatch handler) = some (filled sizes (calls ++ [⟨handler.executor,.queued⟩])) := by
  cases handler with
  | coroutine => exact absurd rfl sync
  | function => rfl
  | hook => rfl

theorem filled_pickUp (calls : List SyncCall)
    (room : calls.countP (fun call => call.executor == executor && call.progress == .running) <
      (filled sizes calls).workers sizes executor) :
    step sizes (filled sizes (calls ++ [⟨executor,.queued⟩])) (.pickUp calls.length) =
      some (filled sizes (calls ++ [⟨executor,.running⟩])) := by
  have found : (filled sizes (calls ++ [⟨executor,.queued⟩])).calls[calls.length]? = some ⟨executor,.queued⟩ := by
    simp [filled]
  have ready : (filled sizes (calls ++ [⟨executor,.queued⟩])).executing executor <
      (filled sizes (calls ++ [⟨executor,.queued⟩])).workers sizes executor := by
    have same : (filled sizes (calls ++ [⟨executor,.queued⟩])).executing executor =
        calls.countP (fun call => call.executor == executor && call.progress == .running) := by
      simp [State.executing,filled,List.countP_append]
    rw [same]
    exact room
  change pickUp sizes (filled sizes (calls ++ [⟨executor,.queued⟩])) calls.length = _
  simp only [pickUp,found,Option.bind_eq_bind,Option.bind_some]
  rw [if_pos ⟨trivial,ready⟩]
  simp [State.advance,filled]

theorem occupied (offered : offers handler) (sync : handler ≠ .coroutine) (calls : List SyncCall)
    (path : TransitionRuns.Runs (step sizes) (Requests offers) (started sizes) actions (filled sizes calls))
    (room : calls.countP (fun call => call.executor == handler.executor && call.progress == .running) <
      (filled sizes calls).workers sizes handler.executor) :
    ∃ more, TransitionRuns.Runs (step sizes) (Requests offers) (started sizes) more
      (filled sizes (calls ++ [⟨handler.executor,.running⟩])) := by
  have ok : Requests offers (filled sizes calls) (.dispatch handler) := offered
  have queued := path.snoc ok (filled_dispatch sizes calls sync)
  have free : Requests offers (filled sizes (calls ++ [⟨handler.executor,.queued⟩])) (.pickUp calls.length) := trivial
  exact ⟨_,queued.snoc free (filled_pickUp calls room)⟩

-- `n` calls of one kind execute at once, on top of what executes elsewhere.
theorem fills (offered : offers handler) (sync : handler ≠ .coroutine) (calls : List SyncCall)
    (path : TransitionRuns.Runs (step sizes) (Requests offers) (started sizes) actions (filled sizes calls))
    (elsewhere : ∀ call ∈ calls, call.executor ≠ handler.executor)
    (n : Nat) (room : n ≤ (filled sizes calls).workers sizes handler.executor) :
    ∃ more, TransitionRuns.Runs (step sizes) (Requests offers) (started sizes) more
      (filled sizes (calls ++ List.replicate n ⟨handler.executor,.running⟩)) := by
  induction n with
  | zero => exact ⟨actions,by simpa using path⟩
  | succ n ih =>
    obtain ⟨more,reached⟩ := ih (by omega)
    have others : calls.countP (fun call => call.executor == handler.executor && call.progress == .running) = 0 := by
      rw [List.countP_eq_zero]
      intro call member
      simp [elsewhere call member]
    have busy : (calls ++ List.replicate n (SyncCall.mk handler.executor .running)).countP
        (fun call => call.executor == handler.executor && call.progress == .running) = n := by
      rw [List.countP_append,others]
      simp [List.countP_replicate]
    obtain ⟨longer,further⟩ := occupied offered sync _ reached (by rw [busy]; exact room)
    refine ⟨longer,?_⟩
    rwa [List.append_assoc,← List.replicate_succ'] at further

theorem workers_bounded (sizes : Sizes) (offers : Handler → Prop) :
    (∀ actions s, TransitionRuns.Runs (step sizes) (Requests offers) (started sizes) actions s →
      s.executingAll ≤ sizes.max_workers) ↔
    (offers .hook → sizes.default_workers ≤ sizes.max_workers ∧ (offers .function → sizes.default_workers = 0)) := by
  constructor
  · intro bounded hooked
    have empty : TransitionRuns.Runs (step sizes) (Requests offers) (started sizes) [] (filled sizes []) := .nil
    constructor
    · obtain ⟨more,reached⟩ := fills hooked (by simp) [] empty (by simp) sizes.default_workers (Nat.le_refl _)
      have bound := bounded _ _ reached
      simpa [State.executingAll,filled,List.countP_replicate] using bound
    · intro functions
      obtain ⟨more,full⟩ := fills functions (by simp) [] empty (by simp) sizes.max_workers (Nat.le_refl _)
      obtain ⟨longer,reached⟩ := fills hooked (by simp) _ full (by simp [Handler.executor,List.mem_replicate])
        sizes.default_workers (Nat.le_refl _)
      have bound := bounded _ _ reached
      simpa [State.executingAll,filled,List.countP_replicate,List.countP_append] using bound
  · intro fits actions s path
    exact executingAll_bound (runs_sized path) fits

def five : Sizes := ⟨1,5,Nat.one_pos⟩

-- An instance with a synchronous hook, two requests.
theorem hooks_exceed : ∃ s, TransitionRuns.Runs (step five) (Requests (· = .hook)) (started five)
    [.dispatch .hook,.dispatch .hook,.pickUp 0,.pickUp 1] s ∧ s.executingAll = 2 ∧ five.max_workers = 1 := by
  have ran : (TransitionRuns.execute (step five) (Requests (· = .hook)) (started five)
      [.dispatch .hook,.dispatch .hook,.pickUp 0,.pickUp 1]).any (fun s => s.executingAll == 2) = true := by decide
  obtain ⟨s,path,two⟩ := TransitionRuns.execute_reaches ran
  exact ⟨s,path,by simpa using two,rfl⟩

end XmlrpcExtended.Asgi
