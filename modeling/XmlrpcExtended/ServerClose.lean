import XmlrpcExtended.ServerCapacity

namespace XmlrpcExtended.Server

variable {cfg : XMLRPCServerConfig} {s : State} {r : Request} {k : Closer} {phase : Phase}

-- shutdown_executor(wait=False) does not meet an open executor with calls in it.
def Waits (s : State) : Action → Prop
  | .close c _ => (s.closers[c]?).all (fun k => k.phase != .holding || s.closed || k.entry.wait || s.drained) = true
  | _ => True

instance (s : State) (a : Action) : Decidable (Waits s a) := by
  unfold Waits
  split <;> infer_instance

structure Emptied (s : State) : Prop where
  shutdown : s.shared.shutdown = true
  drained : s.drained = true

theorem perform_shutdown (ran : perform cfg sh call fate = some (after,result)) : after.shutdown = sh.shutdown := by
  cases perform_sound ran <;> rfl

theorem emptied_worker (emptied : Emptied s) (member : r ∈ s.requests) :
    r.job ≠ .queued ∧ processRequestWorker r.job = none := by
  have quiet := List.all_eq_true.mp emptied.drained r member
  revert quiet
  cases r.job <;> simp [Job.running,processRequestWorker]

theorem emptied_step (emptied : Emptied s) (ran : step cfg s action = some next) : Emptied next := by
  have jobs : ∀ r' ∈ next.requests, (r'.job != .queued && !r'.job.running) = true := by
    intro r' member
    cases step_origin ran member with
    | kept old => exact List.all_eq_true.mp emptied.drained r' old
    | arrived same => rw [same]; rfl
    | accepted i r call fate shared result _ found made performed same =>
      have before := List.all_eq_true.mp emptied.drained r (List.mem_of_getElem? found)
      -- A closed executor takes nothing in.
      rw [same]
      simpa [Request.accepted,emptied.shutdown] using before
    | taken i r _ found queued same =>
      exact absurd queued (emptied_worker emptied (List.mem_of_getElem? found)).1
    | worked i r call fate shared result _ found made performed same =>
      rw [(emptied_worker emptied (List.mem_of_getElem? found)).2] at made
      cases made
  refine ⟨?_,List.all_eq_true.mpr jobs⟩
  rcases step_sound ran with moved | moved
  · cases moved with
    | arrive => exact emptied.shutdown
    | accept found made performed => exact (perform_shutdown performed).trans emptied.shutdown
    | take found queued idle => exact emptied.shutdown
    | work found made performed => exact (perform_shutdown performed).trans emptied.shutdown
  · exact (closer_frame moved).shutdown emptied.shutdown

-- The flag is set by a closer that has seen the executor emptied, and every
-- server_close past its shutdown_executor call has seen the flag set.
structure Guarded (s : State) : Prop where
  flagged : s.closed = true → Emptied s
  joining : ∀ k ∈ s.closers, k.phase = .joining → s.shared.shutdown = true
  marking : ∀ k ∈ s.closers, k.phase = .marking → Emptied s
  left : ∀ k ∈ s.closers, k.entry = .serverClose → k.phase = .socket ∨ k.phase = .returned → s.closed = true

theorem start_guarded : Guarded (start cfg) := by
  refine ⟨?_,?_,?_,?_⟩
  · intro closed
    cases closed
  all_goals intro k member; cases member

theorem guarded_kept (guard : Guarded s) (ran : step cfg s action = some next)
    (closers : next.closers = s.closers) (closed : next.closed = s.closed)
    (shutdown : next.shared.shutdown = s.shared.shutdown) : Guarded next := by
  refine ⟨?_,?_,?_,?_⟩
  · rw [closed]
    exact fun set => emptied_step (guard.flagged set) ran
  · rw [closers,shutdown]
    exact guard.joining
  · rw [closers]
    exact fun k member phase => emptied_step (guard.marking k member phase) ran
  · rw [closers,closed]
    exact guard.left

theorem guarded_advance (guard : Guarded s) (ran : step cfg s action = some next)
    (closers : next.closers = s.closers.set c {k with phase := phase})
    (flagged : next.closed = true → Emptied next) (raised : s.closed = true → next.closed = true)
    (shutdown : s.shared.shutdown = true → next.shared.shutdown = true)
    (joining : phase = .joining → next.shared.shutdown = true) (marking : phase = .marking → Emptied next)
    (left : k.entry = .serverClose → phase = .socket ∨ phase = .returned → next.closed = true) : Guarded next := by
  refine ⟨flagged,?_,?_,?_⟩ <;> intro k' member <;> rw [closers] at member <;>
    rcases List.mem_or_eq_of_mem_set member with old | new
  · exact fun at_ => shutdown (guard.joining k' old at_)
  · rw [new]; exact joining
  · exact fun at_ => emptied_step (guard.marking k' old at_) ran
  · rw [new]; exact marking
  · exact fun entry at_ => raised (guard.left k' old entry at_)
  · rw [new]; exact left

theorem leave_past (entry : Entry) : entry.leave ≠ .entering ∧ entry.leave ≠ .joining ∧ entry.leave ≠ .marking := by
  cases entry <;> simp [Entry.leave]

theorem closer_guarded (guard : Guarded s) (ok : Waits s action) (ran : step cfg s action = some next)
    (moved : CloserStep s action next) : Guarded next := by
  have flagged : s.closed = true → Emptied next := fun closed => emptied_step (guard.flagged closed) ran
  cases moved with
  | call entered =>
    refine ⟨flagged,?_,?_,?_⟩ <;> intro k' member <;> rcases List.mem_append.mp member with old | new
    · exact guard.joining k' old
    · rw [List.mem_singleton.mp new]
      intro phase
      cases phase
    · exact fun phase => emptied_step (guard.marking k' old phase) ran
    · rw [List.mem_singleton.mp new]
      intro phase
      cases phase
    · exact guard.left k' old
    · rw [List.mem_singleton.mp new]
      rintro _ (phase | phase) <;> cases phase
  | lock found phase free =>
    exact guarded_advance guard ran rfl flagged id id (fun at_ => by cases at_) (fun at_ => by cases at_)
      (fun _ at_ => by rcases at_ with at_ | at_ <;> cases at_)
  | already found phase closed =>
    exact guarded_advance guard ran rfl flagged id id (fun at_ => absurd at_ (leave_past _).2.1)
      (fun at_ => absurd at_ (leave_past _).2.2) (fun _ _ => closed)
  | shutdown found phase opened =>
    rename_i c k fate
    have waits : k.entry.wait = true ∨ s.drained = true := by simpa [Waits,found,phase,opened] using ok
    have shut : {s.shared with shutdown := true}.shutdown = true := rfl
    refine guarded_advance guard ran rfl flagged id (fun _ => shut) (fun _ => shut) ?_ ?_
    · -- Without a join the flag is set next, so the executor has to be empty by now.
      intro marking
      refine ⟨shut,?_⟩
      rcases waits with wait | drained
      · rw [if_pos wait] at marking
        cases marking
      · exact drained
    · intro _ past
      split at past <;> rcases past with past | past <;> cases past
  | selfJoin found phase inside =>
    exact guarded_advance guard ran rfl flagged id id (fun at_ => by cases at_) (fun at_ => by cases at_)
      (fun _ at_ => by rcases at_ with at_ | at_ <;> cases at_)
  | joined found phase outside drained =>
    have shut := guard.joining _ (List.mem_of_getElem? found) phase
    exact guarded_advance guard ran rfl flagged id id (fun at_ => by cases at_) (fun _ => ⟨shut,drained⟩)
      (fun _ at_ => by rcases at_ with at_ | at_ <;> cases at_)
  | mark found phase =>
    have emptied := emptied_step (guard.marking _ (List.mem_of_getElem? found) phase) ran
    exact guarded_advance guard ran rfl (fun _ => emptied) (fun _ => rfl) id (fun at_ => absurd at_ (leave_past _).2.1)
      (fun at_ => absurd at_ (leave_past _).2.2) (fun _ _ => rfl)
  | socket found phase ended =>
    have closed := fun entry => guard.left _ (List.mem_of_getElem? found) entry (.inl phase)
    exact guarded_advance guard ran rfl flagged id id (fun at_ => by rcases ended with rfl | rfl <;> cases at_)
      (fun at_ => by rcases ended with rfl | rfl <;> cases at_) (fun entry _ => closed entry)

theorem runs_guarded (path : Runs cfg Waits actions s) : Guarded s := by
  refine path.keeps Guarded start_guarded ?_
  intro earlier middle action next prior guard ok ran
  rcases step_sound ran with moved | moved
  · cases moved with
    | arrive => exact guarded_kept guard ran rfl rfl rfl
    | accept found made performed => exact guarded_kept guard ran rfl rfl (perform_shutdown performed)
    | take found queued idle => exact guarded_kept guard ran rfl rfl rfl
    | work found made performed => exact guarded_kept guard ran rfl rfl (perform_shutdown performed)
  · exact closer_guarded guard ok ran moved

def CloseWaited (s : State) : Prop :=
  ∀ k ∈ s.closers, k.entry = .serverClose → k.phase = .returned → ∀ r ∈ s.requests, r.inFlight = false

theorem drained_flying : s.drained = true ↔ ∀ r ∈ s.requests, r.inFlight = false := by
  simp only [State.drained,List.all_eq_true,Request.inFlight]
  refine forall_congr' fun r => forall_congr' fun _ => ?_
  cases r.job <;> simp [Job.running]

theorem close_at_once (cfg : XMLRPCServerConfig) (free : s.lock = none) (closed : s.closed = true) :
    ∃ more later, TransitionRuns.Runs (step cfg) TransitionRuns.Anything s more later ∧
      later.requests = s.requests ∧ ⟨none,.serverClose,.returned⟩ ∈ later.closers := by
  let n := s.closers.length
  let at_ (phase : Phase) (lock : Option Nat) : State :=
    {s with closers := s.closers ++ [⟨none,.serverClose,phase⟩],lock := lock}
  have found : ∀ phase lock, (at_ phase lock).closers[n]? = some ⟨none,.serverClose,phase⟩ := by
    intro phase lock
    simp [at_,n]
  have moved : ∀ phase lock after, (at_ phase lock).advance n ⟨none,.serverClose,phase⟩ after = at_ after lock := by
    intro phase lock after
    simp [at_,n,State.advance]
  have called : step cfg s (.call none .serverClose) = some (at_ .entering none) := by
    simp [step,callStep,at_,← free]
  have locked : step cfg (at_ .entering none) (.close n .returned) = some (at_ .holding (some n)) := by
    simp only [step,closeStep,found,Option.bind_eq_bind,Option.bind_some,moved]
    simp [at_]
  have passed : step cfg (at_ .holding (some n)) (.close n .returned) = some (at_ .socket none) := by
    simp only [step,closeStep,found,Option.bind_eq_bind,Option.bind_some,moved]
    simp [at_,closed,Entry.leave]
  have ended : step cfg (at_ .socket none) (.close n .returned) = some (at_ .returned none) := by
    simp only [step,closeStep,found,Option.bind_eq_bind,Option.bind_some,moved]
  refine ⟨_,_,((((TransitionRuns.Runs.nil).snoc trivial called).snoc trivial locked).snoc trivial passed).snoc trivial ended,
    rfl,?_⟩
  simp [at_]

theorem unwaited_closes {c : Nat} (cfg : XMLRPCServerConfig) (found : s.closers[c]? = some k) (phase : k.phase = .holding) (opened : s.closed = false)
    (unwaited : k.entry.wait = false) :
    ∃ more later, TransitionRuns.Runs (step cfg) TransitionRuns.Anything s more later ∧
      later.requests = s.requests ∧ later.lock = none ∧ later.closed = true := by
  let marking : State := {s.advance c k .marking with shared := {s.shared with shutdown := true}}
  have shut : step cfg s (.close c .returned) = some marking := by
    simp [step,closeStep,found,phase,opened,unwaited,marking]
  have here : marking.closers[c]? = some {k with phase := .marking} := by
    have inside := (List.getElem?_eq_some_iff.mp found).1
    simp [marking,State.advance,inside]
  have marked : step cfg marking (.close c .returned) =
      some {marking.advance c {k with phase := .marking} k.entry.leave with lock := none,closed := true} := by
    simp only [step,closeStep,here,Option.bind_eq_bind,Option.bind_some]
  exact ⟨_,_,((TransitionRuns.Runs.nil).snoc trivial shut).snoc trivial marked,rfl,rfl,rfl⟩

-- A step that breaks the condition can be followed by a server_close that has not waited.
theorem server_close_drains (path : Runs cfg Waits actions s) :
    CloseWaited s ∧ ∀ action, ¬ Waits s action →
      ∃ more later, TransitionRuns.Runs (step cfg) TransitionRuns.Anything s more later ∧ ¬ CloseWaited later := by
  refine ⟨?_,?_⟩
  · intro k member entry returned
    have guard := runs_guarded path
    exact drained_flying.mp (guard.flagged (guard.left k member entry (.inr returned))).drained
  · intro action broken
    cases action with
    | close c fate =>
      cases found : s.closers[c]? with
      | none => simp [Waits,found] at broken
      | some k =>
        simp only [Waits,found,Option.all_some,Bool.or_eq_true,bne_iff_ne,not_or,not_not] at broken
        obtain ⟨⟨⟨phase,opened⟩,unwaited⟩,flying⟩ := broken
        obtain ⟨first,t,before,same,free,closed⟩ :=
          unwaited_closes cfg found phase (by simpa using opened) (by simpa using unwaited)
        obtain ⟨second,u,after,kept,returned⟩ := close_at_once cfg free closed
        refine ⟨_,u,before.append after,fun waited => flying ?_⟩
        refine drained_flying.mpr ?_
        rw [← same,← kept]
        exact waited _ returned rfl rfl
    | arrive => exact absurd trivial broken
    | accept i fate => exact absurd trivial broken
    | take i => exact absurd trivial broken
    | work i fate => exact absurd trivial broken
    | call handler entry => exact absurd trivial broken

def closeSchedule : List Action :=
  handover 0 .threadStarted ++ [.call none .serverClose,.close 0 .returned,.close 0 .returned] ++ service 0 ++
    [.close 0 .returned,.close 0 .returned,.close 0 .returned]

theorem server_close_drains_inflight : ∃ s, Runs (.sized 0 0 .BLOCK) Waits closeSchedule s ∧ CloseWaited s ∧
    s.closers.any (·.phase = .returned) = true := by
  have ran : (TransitionRuns.execute (step (.sized 0 0 .BLOCK)) Waits (start (.sized 0 0 .BLOCK))
      closeSchedule).any (fun s => s.closers.any (·.phase = .returned)) = true := by decide
  obtain ⟨s,path,ended⟩ := TransitionRuns.execute_reaches ran
  exact ⟨s,path,(server_close_drains path).1,ended⟩

-- The flag that shutdown_executor(wait=False) sets lets server_close pass.
def unwaitedSchedule : List Action :=
  handover 0 .threadStarted ++ [.take 0,.work 0 .returned] ++
    [.call none (.shutdownExecutor false),.close 0 .returned,.close 0 .returned,.close 0 .returned] ++
    [.call none .serverClose,.close 1 .returned,.close 1 .returned,.close 1 .returned]

theorem server_close_skips : ∃ s, Runs (.sized 0 0 .BLOCK) TransitionRuns.Anything unwaitedSchedule s ∧
    ¬ CloseWaited s := by
  have ran : (TransitionRuns.execute (step (.sized 0 0 .BLOCK)) TransitionRuns.Anything (start (.sized 0 0 .BLOCK))
      unwaitedSchedule).any (fun s => s.closers[1]? == some ⟨none,.serverClose,.returned⟩ &&
        s.requests.any Request.inFlight) = true := by decide
  obtain ⟨s,path,seen⟩ := TransitionRuns.execute_reaches ran
  rw [Bool.and_eq_true,beq_iff_eq] at seen
  refine ⟨s,path,fun waited => ?_⟩
  obtain ⟨r,member,flying⟩ := List.any_eq_true.mp seen.2
  rw [waited _ (List.mem_of_getElem? seen.1) rfl rfl r member] at flying
  cases flying

end XmlrpcExtended.Server
