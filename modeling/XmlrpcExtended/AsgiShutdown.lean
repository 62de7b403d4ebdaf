import XmlrpcExtended.AsgiLifecycle

namespace XmlrpcExtended.Asgi

variable {sizes : Sizes} {admitted : State → Action → Prop} {s next : State}

structure Sound (s : State) : Prop where
  replaced : ∀ k pool, s.pools[k]? = some pool → s.executor ≠ some k → pool.shutdown = true
  ended : s.moment.isSome = true →
    (∀ pool ∈ s.pools, pool.shutdown = true) ∧ ∀ call ∈ s.calls, call.progress = .finished

-- A startup event does not meet a pool, and no call of a _dispatch hook is under
-- way on the default executor where a shutdown or a close() comes to its end.
def Tidy (s : State) : Action → Prop
  | .startup => s.executor = none
  | .shutdown | .close => s.executor = none → s.finishedOn none = true
  | .resume => s.finishedOn none = true
  | _ => True

instance (s : State) (a : Action) : Decidable (Tidy s a) := by
  unfold Tidy
  split <;> infer_instance

-- While the loop is not waiting, calls under way are on the open pool or the default
-- executor.
structure Managed (s : State) : Prop where
  current : ∀ k, s.executor = some k → ∃ pool, s.pools[k]? = some pool ∧ pool.shutdown = s.stopping.isSome
  waiting : s.stopping.isSome = true → s.executor.isSome = true
  others : ∀ k pool, s.pools[k]? = some pool → s.executor ≠ some k → pool.shutdown = true
  underway : ∀ call ∈ s.calls, ∀ k, call.executor = some k → call.progress ≠ .finished → s.executor = some k
  quiet : s.moment.isSome = true → s.executor = none ∧ s.finishedOn none = true

theorem start_managed : Managed start := by
  refine ⟨?_,?_,?_,?_,?_⟩ <;> simp [start]

theorem managed_sound (managed : Managed s) : Sound s := by
  refine ⟨managed.others,?_⟩
  intro moment
  obtain ⟨cleared,hooks⟩ := managed.quiet moment
  refine ⟨?_,?_⟩
  · intro pool member
    obtain ⟨k,found⟩ := List.mem_iff_getElem?.mp member
    exact managed.others k pool found (by simp [cleared])
  · intro call member
    by_contra unfinished
    cases on : call.executor with
    | none =>
      have done := List.all_eq_true.mp hooks call member
      simp [on,unfinished] at done
    | some k =>
      have kept := managed.underway call member k on unfinished
      rw [cleared] at kept
      cases kept

theorem quieted (managed : Managed s) : Managed {s with moment := none} :=
  ⟨managed.current,managed.waiting,managed.others,managed.underway,fun moment => by cases moment⟩

theorem create_managed (max_workers : Nat) (managed : Managed s) (none_ : s.executor = none)
    (free : s.stopping = none) (silent : s.moment = none) : Managed (s.create max_workers) := by
  refine ⟨?_,?_,?_,?_,?_⟩
  · intro k here
    have last : s.pools.length = k := by simpa [State.create] using here
    subst last
    exact ⟨⟨max_workers,false⟩,by simp [State.create],by simp [State.create,free]⟩
  · simp [State.create]
  · intro k pool found other
    have older : k ≠ s.pools.length := by
      rintro rfl
      exact other rfl
    have inside : s.pools[k]? = some pool := by
      simp only [State.create] at found
      have bound := (List.getElem?_eq_some_iff.mp found).1
      rw [List.length_append,List.length_singleton] at bound
      rwa [List.getElem?_append_left (by omega)] at found
    exact managed.others k pool inside (by simp [none_])
  · intro call member k on unfinished
    have kept := managed.underway call member k on unfinished
    rw [none_] at kept
    cases kept
  · simp [State.create,silent]

theorem submit_managed (executor : Option Nat) (managed : Managed s) (here : ∀ k, executor = some k → s.executor = some k)
    (silent : s.moment = none) : Managed (s.submit executor) := by
  unfold State.submit
  split
  · exact managed
  · refine ⟨managed.current,managed.waiting,managed.others,?_,by simp [silent]⟩
    intro call member k on unfinished
    rcases List.mem_append.mp member with old | new
    · exact managed.underway call old k on unfinished
    · rw [List.mem_singleton.mp new] at on
      exact here k on

theorem getExecutor_managed (max_workers : Nat) (managed : Managed s) (free : s.stopping = none) (silent : s.moment = none) :
    Managed (getExecutor max_workers s).1 ∧ (getExecutor max_workers s).1.executor = some (getExecutor max_workers s).2 ∧
      (getExecutor max_workers s).1.moment = none := by
  unfold getExecutor
  cases here : s.executor with
  | some k => exact ⟨managed,here,silent⟩
  | none => exact ⟨create_managed max_workers managed here free silent,rfl,silent⟩

theorem dispatch_managed (max_workers : Nat) (handler : Handler) (managed : Managed s) (free : s.stopping = none)
    (silent : s.moment = none) : Managed (asyncDispatch max_workers s handler) := by
  cases handler with
  | coroutine => exact managed
  | function =>
    obtain ⟨kept,here,quiet⟩ := getExecutor_managed max_workers managed free silent
    exact submit_managed _ kept (fun k same => here.trans same) quiet
  | hook => exact submit_managed none managed (fun k same => by cases same) silent

theorem stop_idle (moment : Moment) (idle : s.executor = none) : s.stop moment = {s with moment := some moment} := by
  unfold State.stop
  rw [idle]

theorem stop_busy (moment : Moment) (busy : s.executor = some k) :
    s.stop moment = {s with
      pools := s.pools.modify k fun pool => {pool with shutdown := true}
      stopping := some moment} := by
  unfold State.stop
  rw [busy]

theorem stop_managed (moment : Moment) (managed : Managed s) (silent : s.moment = none)
    (hooks : s.executor = none → s.finishedOn none = true) : Managed (s.stop moment) := by
  rcases Option.eq_none_or_eq_some s.executor with idle | ⟨k,busy⟩
  · rw [stop_idle moment idle]
    exact ⟨managed.current,managed.waiting,managed.others,managed.underway,fun _ => ⟨idle,hooks idle⟩⟩
  · obtain ⟨pool,found,_⟩ := managed.current k busy
    rw [stop_busy moment busy]
    refine ⟨?_,?_,?_,managed.underway,?_⟩
    · intro j same
      cases busy.symm.trans same
      exact ⟨{pool with shutdown := true},by simp [found],rfl⟩
    · intro _
      simp [busy]
    · intro j other found' elsewhere
      have apart : k ≠ j := by
        rintro rfl
        exact elsewhere busy
      refine managed.others j other ?_ elsewhere
      simpa [List.getElem?_modify,apart] using found'
    · simp [silent]

theorem resume_managed (managed : Managed s) (hooks : s.finishedOn none = true) (ran : resume s = some next) :
    Managed next := by
  unfold resume at ran
  split at ran
  · rename_i moment k stopping here
    split at ran <;> cases ran
    rename_i drained
    refine ⟨?_,?_,?_,?_,fun _ => ⟨rfl,hooks⟩⟩
    · intro j same
      cases same
    · intro waiting
      cases waiting
    · intro j pool found _
      by_cases same : s.executor = some j
      · obtain ⟨current,known,shut⟩ := managed.current j same
        cases found.symm.trans known
        rw [shut,stopping]
        rfl
      · exact managed.others j pool found same
    · intro call member j on unfinished
      have kept := managed.underway call member j on unfinished
      cases here.symm.trans kept
      have done := List.all_eq_true.mp drained call member
      simp [on,unfinished] at done
  · cases ran

theorem advance_managed (progress : Progress) (managed : Managed s) (silent : s.moment = none)
    (found : s.calls[i]? = some call) (unfinished : call.progress ≠ .finished) : Managed (s.advance i call progress) := by
  refine ⟨managed.current,managed.waiting,managed.others,?_,?_⟩
  · intro moved member k on _
    rcases List.mem_or_eq_of_mem_set member with old | new
    · exact managed.underway moved old k on ‹_›
    · rw [new] at on
      exact managed.underway call (List.mem_of_getElem? found) k on unfinished
  · simp [State.advance,silent]

theorem step_managed (managed : Managed s) (tidy : Tidy s action) (ran : step sizes s action = some next) :
    Managed next := by
  have kept := quieted managed
  cases action with
  | startup =>
    simp only [step] at ran
    split at ran <;> cases ran
    exact create_managed _ kept tidy ‹_› rfl
  | shutdown =>
    simp only [step] at ran
    split at ran <;> cases ran
    exact stop_managed _ kept rfl tidy
  | close =>
    simp only [step] at ran
    split at ran <;> cases ran
    exact stop_managed _ kept rfl tidy
  | resume => exact resume_managed kept tidy ran
  | dispatch handler =>
    simp only [step] at ran
    split at ran <;> cases ran
    exact dispatch_managed _ handler kept ‹_› rfl
  | pickUp i =>
    obtain ⟨call,found,ran⟩ := Option.bind_eq_some_iff.mp ran
    split at ran <;> cases ran
    rename_i ready
    exact advance_managed _ kept rfl found (by rw [ready.1]; simp)
  | finish i =>
    obtain ⟨call,found,ran⟩ := Option.bind_eq_some_iff.mp ran
    split at ran <;> cases ran
    rename_i running
    exact advance_managed _ kept rfl found (by rw [running]; simp)

theorem runs_managed (path : Runs sizes Tidy actions s) : Managed s :=
  path.keeps Managed start_managed fun _ managed tidy ran => step_managed managed tidy ran

theorem startup_leaks (managed : Managed s) (ran : step sizes s .startup = some next) (sound : Sound next) :
    s.executor = none := by
  by_contra busy
  obtain ⟨k,here⟩ := Option.ne_none_iff_exists'.mp busy
  obtain ⟨pool,found,shut⟩ := managed.current k here
  simp only [step] at ran
  split at ran <;> cases ran
  rename_i free
  have bound := (List.getElem?_eq_some_iff.mp found).1
  have open_ : pool.shutdown = false := by rw [shut,free]; rfl
  have left := sound.replaced k pool (by simp [State.create,List.getElem?_append_left bound,found])
    (by simp only [State.create,ne_eq,Option.some.injEq]; omega)
  rw [open_] at left
  cases left

theorem ended_hooks (sound : Sound next) (moment : next.moment.isSome = true) : next.finishedOn none = true := by
  apply List.all_eq_true.mpr
  intro call member
  simp [(sound.ended moment).2 call member]

theorem stop_leaks (moment : Moment) (sound : Sound (s.stop moment)) (idle : s.executor = none) :
    s.finishedOn none = true := by
  have hooks := ended_hooks sound (by simp [State.stop,idle])
  simpa [State.stop,idle,State.finishedOn] using hooks

-- The condition is exact: a step that breaks it breaks the property at once.
theorem sound_tidy (managed : Managed s) (ran : step sizes s action = some next) (sound : Sound next) : Tidy s action := by
  cases action with
  | startup => exact startup_leaks managed ran sound
  | shutdown =>
    simp only [step] at ran
    split at ran <;> cases ran
    exact fun idle => stop_leaks (s := {s with moment := none}) _ sound idle
  | close =>
    simp only [step] at ran
    split at ran <;> cases ran
    exact fun idle => stop_leaks (s := {s with moment := none}) _ sound idle
  | resume =>
    change resume {s with moment := none} = some next at ran
    unfold resume at ran
    split at ran
    · split at ran <;> cases ran
      have hooks := ended_hooks sound rfl
      exact hooks
    · cases ran
  | dispatch handler => trivial
  | pickUp i => trivial
  | finish i => trivial

theorem pools_outlived (path : Runs sizes Tidy actions s) :
    Sound s ∧ ∀ action next, step sizes s action = some next → (Tidy s action ↔ Sound next) := by
  have managed := runs_managed path
  refine ⟨managed_sound managed,?_⟩
  intro action next ran
  exact ⟨fun tidy => managed_sound (step_managed managed tidy ran),sound_tidy managed ran⟩

def one : Sizes := ⟨1,1,by decide⟩

def lazySchedule : List Action :=
  [.dispatch .function,.pickUp 0,.shutdown,.finish 0,.resume,.startup,.close,.resume]

theorem pools_outlived_lazy : ∃ s, Runs one Tidy lazySchedule s ∧ Sound s ∧ s.moment = some .closed ∧ s.pools.length = 2 := by
  have ran : (TransitionRuns.execute (step one) Tidy start lazySchedule).any
      (fun s => s.moment == some .closed && s.pools.length == 2) = true := by decide
  obtain ⟨s,path,seen⟩ := TransitionRuns.execute_reaches ran
  rw [Bool.and_eq_true,beq_iff_eq,beq_iff_eq] at seen
  exact ⟨s,path,(pools_outlived path).1,seen⟩

-- A request before the first startup makes a pool; the startup replaces it, and
-- the shutdown waits for the second pool only. A hook's call is never waited for.
def replacedSchedule : List Action := [.dispatch .function,.pickUp 0,.startup,.shutdown,.resume]

def hookSchedule : List Action := [.startup,.dispatch .hook,.pickUp 0,.shutdown,.resume]

theorem pools_outlive :
    (∃ s, Runs one TransitionRuns.Anything replacedSchedule s ∧ s.moment = some .shutdownComplete ∧
      s.pools.any (!·.shutdown) = true ∧ ¬ Sound s) ∧
    ∃ s, Runs one TransitionRuns.Anything hookSchedule s ∧ s.moment = some .shutdownComplete ∧
      s.calls.any (·.progress = .running) = true ∧ ¬ Sound s := by
  refine ⟨?_,?_⟩
  · have ran : (TransitionRuns.execute (step one) TransitionRuns.Anything start replacedSchedule).any
        (fun s => s.moment == some .shutdownComplete && s.pools.any (!·.shutdown)) = true := by decide
    obtain ⟨s,path,seen⟩ := TransitionRuns.execute_reaches ran
    rw [Bool.and_eq_true,beq_iff_eq] at seen
    refine ⟨s,path,seen.1,seen.2,fun sound => ?_⟩
    obtain ⟨pool,member,left⟩ := List.any_eq_true.mp seen.2
    rw [(sound.ended (by rw [seen.1]; rfl)).1 pool member] at left
    cases left
  · have ran : (TransitionRuns.execute (step one) TransitionRuns.Anything start hookSchedule).any
        (fun s => s.moment == some .shutdownComplete && s.calls.any (·.progress = .running)) = true := by decide
    obtain ⟨s,path,seen⟩ := TransitionRuns.execute_reaches ran
    rw [Bool.and_eq_true,beq_iff_eq] at seen
    refine ⟨s,path,seen.1,seen.2,fun sound => ?_⟩
    obtain ⟨call,member,left⟩ := List.any_eq_true.mp seen.2
    rw [decide_eq_true_eq,(sound.ended (by rw [seen.1]; rfl)).2 call member] at left
    cases left

end XmlrpcExtended.Asgi
