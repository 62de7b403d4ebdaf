import XmlrpcExtended.ServerClose

namespace XmlrpcExtended.Server

variable {cfg : XMLRPCServerConfig} {admitted : State → Action → Prop} {s next : State} {k : Closer} {c : Nat}

def Phase.locked : Phase → Bool
  | .holding | .joining | .marking => true
  | _ => false

-- The lock belongs to the closer between its two ends, and a handler that calls
-- stays in finish_request until its calls have ended.
structure Locked (s : State) : Prop where
  owner : ∀ (c : Nat) (k : Closer), s.closers[c]? = some k → k.phase.locked = true → s.lock = some c
  inside : ∀ k ∈ s.closers, k.phase.isOver = false → ∀ i, k.handler = some i →
    ∃ r, s.requests[i]? = some r ∧ r.job = .finishing

theorem start_locked : Locked (start cfg) := by
  refine ⟨?_,?_⟩
  · intro c k found
    cases found
  · intro k member
    cases member

theorem work_guard (ran : workStep cfg s i fate = some next) (found : s.requests[i]? = some r)
    (finishing : r.job = .finishing) : ∀ k ∈ s.closers, k.handler = some i → k.phase.isOver = true := by
  intro k member mine
  unfold workStep at ran
  simp only [found,Option.bind_eq_bind,Option.bind_some] at ran
  split at ran
  · cases ran
  · rename_i free
    by_contra pending
    apply free
    refine ⟨finishing,?_⟩
    rw [List.any_eq_true]
    exact ⟨k,member,by simpa [mine] using pending⟩

-- The requests' steps leave a handler that waits for its own calls where it is.
theorem finishing_kept (path : Runs cfg admitted actions s) (ran : step cfg s action = some next)
    (member : k ∈ s.closers) (pending : k.phase.isOver = false) (mine : k.handler = some i)
    (found : s.requests[i]? = some r) (finishing : r.job = .finishing) :
    ∃ r', next.requests[i]? = some r' ∧ r'.job = .finishing := by
  have inside := (List.getElem?_eq_some_iff.mp found).1
  rcases step_sound ran with moved | moved
  · cases moved with
    | arrive => exact ⟨r,by rw [List.getElem?_append_left inside]; exact found,finishing⟩
    | accept here made performed =>
      rename_i j old call fate shared result
      by_cases same : j = i
      · subst same
        cases found.symm.trans here
        refine ⟨_,List.getElem?_set_self inside,?_⟩
        rcases accepted_job cfg s.shared result (runs_coherent path r (List.mem_of_getElem? found)) made with
          kept | ⟨_,_,fresh,_⟩
        · rw [kept]
          exact finishing
        · rw [finishing] at fresh
          cases fresh
      · exact ⟨r,by rw [List.getElem?_set_ne same]; exact found,finishing⟩
    | take here queued idle =>
      rename_i j old
      have apart : j ≠ i := by
        rintro rfl
        cases found.symm.trans here
        rw [finishing] at queued
        cases queued
      exact ⟨r,by rw [List.getElem?_set_ne apart]; exact found,finishing⟩
    | work here made performed =>
      rename_i j old call fate shared result
      have apart : j ≠ i := by
        rintro rfl
        have done := work_guard ran found finishing k member mine
        rw [pending] at done
        cases done
      exact ⟨r,by rw [List.getElem?_set_ne apart]; exact found,finishing⟩
  · rw [(closer_frame moved).requests]
    exact ⟨r,found,finishing⟩

theorem appended_found {closers : List Closer} {k' : Closer} (later : (closers ++ [k])[c]? = some k') :
    closers[c]? = some k' ∨ k' = k := by
  by_cases inside : c < closers.length
  · rw [List.getElem?_append_left inside] at later
    exact .inl later
  · rw [List.getElem?_append_right (by omega)] at later
    exact .inr (List.mem_singleton.mp (List.mem_of_getElem? later))

theorem set_found {closers : List Closer} {k' : Closer} {c' : Nat} (later : (closers.set c k)[c']? = some k') :
    c' = c ∧ k' = k ∨ c' ≠ c ∧ closers[c']? = some k' := by
  by_cases same : c' = c
  · subst same
    have inside := (List.getElem?_eq_some_iff.mp later).1
    rw [List.length_set] at inside
    rw [List.getElem?_set_self inside] at later
    exact .inl ⟨rfl,(Option.some.inj later).symm⟩
  · rw [List.getElem?_set_ne (Ne.symm same)] at later
    exact .inr ⟨same,later⟩

-- One closer moves, and the lock stays with its owner or is given back by it.
theorem advance_locked {phase : Phase} (locked : Locked s) (found : s.closers[c]? = some k) (pending : k.phase.isOver = false)
    (closers : next.closers = s.closers.set c {k with phase := phase}) (requests : next.requests = s.requests)
    (lock : next.lock = s.lock ∧ (phase.locked = true → s.lock = some c) ∨
      next.lock = none ∧ k.phase.locked = true ∧ phase.locked = false ∨ s.lock = none ∧ next.lock = some c) : Locked next := by
  refine ⟨?_,?_⟩
  · intro c' k' later holds
    rw [closers] at later
    rcases set_found later with ⟨rfl,rfl⟩ | ⟨apart,old⟩
    · rcases lock with ⟨same,mine⟩ | ⟨_,_,gone⟩ | ⟨_,taken⟩
      · rw [same]
        exact mine holds
      · rw [gone] at holds
        cases holds
      · exact taken
    · have other := locked.owner c' k' old holds
      rcases lock with ⟨same,_⟩ | ⟨_,mine,_⟩ | ⟨free,_⟩
      · rw [same]
        exact other
      · rw [locked.owner c k found mine] at other
        exact absurd (Option.some.inj other).symm apart
      · rw [free] at other
        cases other
  · intro k' member live i mine
    rw [requests]
    rw [closers] at member
    rcases List.mem_or_eq_of_mem_set member with old | new
    · exact locked.inside k' old live i mine
    · rw [new] at mine
      exact locked.inside k (List.mem_of_getElem? found) pending i mine

theorem closer_locked (locked : Locked s) (moved : CloserStep s action next) : Locked next := by
  cases moved with
  | call entered =>
    rename_i handler entry
    refine ⟨?_,?_⟩
    · intro c k later holds
      rcases appended_found later with old | new
      · exact locked.owner c k old holds
      · rw [new] at holds
        cases holds
    · intro k member live i mine
      rcases List.mem_append.mp member with old | new
      · exact locked.inside k old live i mine
      · rw [List.mem_singleton.mp new] at mine
        exact entered i mine
  | lock found phase free =>
    exact advance_locked locked found (by rw [phase]; rfl) rfl rfl (.inr (.inr ⟨free,rfl⟩))
  | already found phase closed =>
    rename_i c k fate
    exact advance_locked locked found (by rw [phase]; rfl) rfl rfl
      (.inr (.inl ⟨rfl,by rw [phase]; rfl,by cases k.entry <;> rfl⟩))
  | shutdown found phase opened =>
    have mine := locked.owner _ _ found (by rw [phase]; rfl)
    exact advance_locked locked found (by rw [phase]; rfl) rfl rfl (.inl ⟨rfl,fun _ => mine⟩)
  | selfJoin found phase inside =>
    exact advance_locked locked found (by rw [phase]; rfl) rfl rfl (.inr (.inl ⟨rfl,by rw [phase]; rfl,rfl⟩))
  | joined found phase outside drained =>
    have mine := locked.owner _ _ found (by rw [phase]; rfl)
    exact advance_locked locked found (by rw [phase]; rfl) rfl rfl (.inl ⟨rfl,fun _ => mine⟩)
  | mark found phase =>
    rename_i c k fate
    exact advance_locked locked found (by rw [phase]; rfl) rfl rfl
      (.inr (.inl ⟨rfl,by rw [phase]; rfl,by cases k.entry <;> rfl⟩))
  | socket found phase ended =>
    exact advance_locked locked found (by rw [phase]; rfl) rfl rfl
      (.inl ⟨rfl,fun holds => by rcases ended with rfl | rfl <;> cases holds⟩)

theorem runs_locked (path : Runs cfg admitted actions s) : Locked s := by
  apply path.keeps Locked start_locked
  intro earlier middle action next prior locked ok ran
  rcases step_sound ran with moved | moved
  · have closers : next.closers = middle.closers ∧ next.lock = middle.lock := by cases moved <;> exact ⟨rfl,rfl⟩
    refine ⟨?_,?_⟩
    · rw [closers.1,closers.2]
      exact locked.owner
    · rw [closers.1]
      intro k member live i mine
      obtain ⟨r,found,finishing⟩ := locked.inside k member live i mine
      exact finishing_kept prior ran member live mine found finishing
  · exact closer_locked locked moved

def WaitsForLock (s : State) (j : Nat) : Prop := ∃ k ∈ s.closers, k.handler = some j ∧ k.phase = .entering

-- Inside executor.shutdown(wait=True) every thread of the pool is joined, in any
-- order; a worker that gets to its own thread raises there.
def WaitsForWorker (s : State) (c j : Nat) : Prop :=
  ∃ k, s.closers[c]? = some k ∧ k.phase = .joining ∧ k.handler ≠ some j ∧ ∃ r, s.requests[j]? = some r ∧ r.job.running = true

def Deadlocked (s : State) : Prop := ∃ c j, s.lock = some c ∧ WaitsForWorker s c j ∧ WaitsForLock s j

-- No handler asks for the lock while another thread joins the pool under it, and
-- no thread starts to while a handler of another worker asks for it.
def Apart (s : State) : Action → Prop
  | .call (some j) _ => s.closers.all (fun k => k.phase != .joining || k.handler == some j) = true
  | .close c _ => (s.closers[c]?).all (fun k => k.phase != .holding || s.closed || !k.entry.wait ||
      s.closers.all fun k' => k'.phase != .entering || k'.handler == none || k'.handler == k.handler) = true
  | _ => True

instance (s : State) (a : Action) : Decidable (Apart s a) :=
  match a with
  | .call (some _) _ | .close .. => instDecidableEqBool _ _
  | .arrive | .accept .. | .take _ | .work .. | .call none _ => .isTrue trivial

theorem waits_running (locked : Locked s) (waits : WaitsForLock s j) : ∃ r, s.requests[j]? = some r ∧ r.job.running = true := by
  obtain ⟨k,member,mine,entering⟩ := waits
  obtain ⟨r,found,finishing⟩ := locked.inside k member (by rw [entering]; rfl) j mine
  exact ⟨r,found,by rw [finishing]; rfl⟩

-- The deadlock is between two closers: the job of the waiting one follows.
theorem deadlocked_closers (locked : Locked s) : Deadlocked s ↔ ∃ (c : Nat) (k : Closer) (j : Nat), s.closers[c]? = some k ∧ k.phase = .joining ∧
    k.handler ≠ some j ∧ WaitsForLock s j := by
  constructor
  · rintro ⟨c,j,_,⟨k,found,joining,other,_⟩,waits⟩
    exact ⟨c,k,j,found,joining,other,waits⟩
  · rintro ⟨c,k,j,found,joining,other,waits⟩
    exact ⟨c,j,locked.owner c k found (by rw [joining]; rfl),⟨k,found,joining,other,waits_running locked waits⟩,waits⟩

theorem call_deadlocked (locked : Locked s) (later : Locked next) (ok : Apart s (.call handler entry))
    (closers : next.closers = s.closers ++ [⟨handler,entry,.entering⟩]) (free : ¬ Deadlocked s) : ¬ Deadlocked next := by
  rw [deadlocked_closers later]
  rintro ⟨c,k,j,found,joining,other,k',member,mine,entering⟩
  have old : s.closers[c]? = some k := by
    rw [closers] at found
    rcases appended_found found with before | new
    · exact before
    · rw [new] at joining
      cases joining
  rw [closers] at member
  rcases List.mem_append.mp member with before | new
  · exact free ((deadlocked_closers locked).mpr ⟨c,k,j,old,joining,other,k',before,mine,entering⟩)
  · rw [List.mem_singleton.mp new] at mine
    subst mine
    have apart := List.all_eq_true.mp ok k (List.mem_of_getElem? old)
    simp [joining,other] at apart

-- A moved closer deadlocks only as the one that starts to join.
theorem advance_deadlocked {phase : Phase} (locked : Locked s) (later : Locked next) (found : s.closers[c]? = some k)
    (closers : next.closers = s.closers.set c {k with phase := phase}) (leaving : phase ≠ .entering)
    (apart : phase = .joining → ∀ k' ∈ s.closers, k'.phase = .entering → k'.handler = none ∨ k'.handler = k.handler)
    (free : ¬ Deadlocked s) : ¬ Deadlocked next := by
  rw [deadlocked_closers later]
  rintro ⟨c',k',j,there,joining,other,k'',member,mine,entering⟩
  have waits : k'' ∈ s.closers := by
    rw [closers] at member
    rcases List.mem_or_eq_of_mem_set member with old | new
    · exact old
    · rw [new] at entering
      exact absurd entering leaving
  rw [closers] at there
  rcases set_found there with ⟨rfl,rfl⟩ | ⟨_,old⟩
  · rcases apart joining k'' waits entering with outside | same
    · rw [outside] at mine
      cases mine
    · rw [same] at mine
      exact other mine
  · exact free ((deadlocked_closers locked).mpr ⟨c',k',j,old,joining,other,k'',waits,mine,entering⟩)

theorem step_deadlocked (locked : Locked s) (later : Locked next) (ok : Apart s action) (ran : step cfg s action = some next)
    (free : ¬ Deadlocked s) : ¬ Deadlocked next := by
  rcases step_sound ran with moved | moved
  · have closers : next.closers = s.closers := by cases moved <;> rfl
    rw [deadlocked_closers later]
    rintro ⟨c,k,j,found,joining,other,k',member,mine,entering⟩
    rw [closers] at found member
    exact free ((deadlocked_closers locked).mpr ⟨c,k,j,found,joining,other,k',member,mine,entering⟩)
  · cases moved with
    | call entered => exact call_deadlocked locked later ok rfl free
    | lock found phase unlocked => exact advance_deadlocked locked later found rfl (by simp) (fun at_ => by cases at_) free
    | already found phase closed =>
      exact advance_deadlocked locked later found rfl (leave_past _).1 (fun at_ => absurd at_ (leave_past _).2.1) free
    | shutdown found phase opened =>
      rename_i c k fate
      apply advance_deadlocked locked later found rfl _ _ free
      · split <;> simp
      · intro joining k' member entering
        have waits : k.entry.wait = true := by
          by_contra unwaited
          rw [if_neg unwaited] at joining
          cases joining
        have apart : (s.closers.all fun k' => k'.phase != .entering || k'.handler == none || k'.handler == k.handler) = true := by
          simpa [Apart,found,phase,opened,waits] using ok
        simpa [entering] using List.all_eq_true.mp apart k' member
    | selfJoin found phase inside => exact advance_deadlocked locked later found rfl (by simp) (fun at_ => by cases at_) free
    | joined found phase outside drained =>
      exact advance_deadlocked locked later found rfl (by simp) (fun at_ => by cases at_) free
    | mark found phase =>
      exact advance_deadlocked locked later found rfl (leave_past _).1 (fun at_ => absurd at_ (leave_past _).2.1) free
    | socket found phase ended =>
      exact advance_deadlocked locked later found rfl (by rcases ended with rfl | rfl <;> simp)
        (fun at_ => by rcases ended with rfl | rfl <;> cases at_) free

theorem runs_undeadlocked (path : Runs cfg Apart actions s) : ¬ Deadlocked s := by
  apply path.keeps (¬ Deadlocked ·)
  · rintro ⟨c,j,lock,_⟩
    cases lock
  · intro earlier middle action next prior free ok ran
    exact step_deadlocked (runs_locked prior) (runs_locked (prior.snoc ok ran)) ok ran free

theorem call_apart (locked : Locked next) (ran : step cfg s (.call handler entry) = some next) (free : ¬ Deadlocked next) :
    Apart s (.call handler entry) := by
  cases handler with
  | none => trivial
  | some j =>
    have closers : next.closers = s.closers ++ [⟨some j,entry,.entering⟩] := by
      rcases step_sound ran with moved | moved <;> cases moved
      rfl
    simp only [Apart,List.all_eq_true,Bool.or_eq_true,bne_iff_ne,beq_iff_eq]
    intro k member
    by_contra against
    rw [not_or,not_not] at against
    obtain ⟨c,found⟩ := List.mem_iff_getElem?.mp member
    apply free
    rw [deadlocked_closers locked,closers]
    have inside := (List.getElem?_eq_some_iff.mp found).1
    exact ⟨c,k,j,by rw [List.getElem?_append_left inside]; exact found,against.1,against.2,
      ⟨some j,entry,.entering⟩,by simp [closers],rfl,rfl⟩

theorem close_apart (locked : Locked next) (ran : step cfg s (.close c fate) = some next) (free : ¬ Deadlocked next) :
    Apart s (.close c fate) := by
  cases found : s.closers[c]? with
  | none => simp [Apart,found]
  | some k =>
    simp only [Apart,found,Option.all_some,Bool.or_eq_true,bne_iff_ne,Bool.not_eq_true',List.all_eq_true]
    by_contra against
    simp only [not_or,not_not,not_forall,Bool.not_eq_false,Bool.not_eq_true,beq_iff_eq] at against
    obtain ⟨⟨⟨holding,opened⟩,waits⟩,k',member,⟨⟨entering,inside⟩,other⟩⟩ := against
    have closers : next.closers = s.closers.set c {k with phase := .joining} := by
      change closeStep s c fate = some next at ran
      simp only [closeStep,found,Option.bind_eq_bind,Option.bind_some,holding,opened,Bool.false_eq_true,if_false,waits,
        if_true,Option.some.injEq] at ran
      rw [← ran]
      rfl
    obtain ⟨d,there⟩ := List.mem_iff_getElem?.mp member
    have apart : c ≠ d := by
      rintro rfl
      cases found.symm.trans there
      rw [holding] at entering
      cases entering
    obtain ⟨j,mine⟩ := Option.ne_none_iff_exists'.mp inside
    apply free
    rw [deadlocked_closers locked]
    refine ⟨c,{k with phase := .joining},j,?_,rfl,?_,k',?_,mine,entering⟩
    · rw [closers,List.getElem?_set_self (List.getElem?_eq_some_iff.mp found).1]
    · intro same
      exact other (mine.trans same.symm)
    · apply List.mem_of_getElem? (i := d)
      rw [closers,List.getElem?_set_ne apart]
      exact there

theorem closes_apart (path : Runs cfg Apart actions s) :
    ¬ Deadlocked s ∧ ∀ action next, step cfg s action = some next → (Apart s action ↔ ¬ Deadlocked next) := by
  have free := runs_undeadlocked path
  refine ⟨free,?_⟩
  intro action next ran
  have locked := runs_locked path
  have later : Locked next := by
    have further : Runs cfg TransitionRuns.Anything actions s := path.relax fun _ _ _ => trivial
    exact runs_locked (further.snoc trivial ran)
  constructor
  · intro ok
    exact step_deadlocked locked later ok ran free
  · intro free
    cases action with
    | call handler entry => exact call_apart later ran free
    | close c fate => exact close_apart later ran free
    | arrive => trivial
    | accept i fate => trivial
    | take i => trivial
    | work i fate => trivial

-- The same handler before anybody else closes: server_close then finds the flag set.
def orderedSchedule : List Action :=
  handover 0 .threadStarted ++ [.take 0,.work 0 .returned,.call (some 0) (.shutdownExecutor false),.close 0 .returned,
    .close 0 .returned,.close 0 .returned,.call none .serverClose,.close 1 .returned,.close 1 .returned]

theorem closes_apart_ordered : ∃ s, Runs (.sized 0 0 .BLOCK) Apart orderedSchedule s ∧ ¬ Deadlocked s ∧
    s.closers.length = 2 := by
  have ran : (TransitionRuns.execute (step (.sized 0 0 .BLOCK)) Apart (start (.sized 0 0 .BLOCK))
      orderedSchedule).any (fun s => s.closers.length == 2) = true := by decide
  obtain ⟨s,path,two⟩ := TransitionRuns.execute_reaches ran
  exact ⟨s,path,(closes_apart path).1,by simpa using two⟩

-- One joins from outside the pool, and a worker asks for the lock.
def Stuck (s : State) : Prop :=
  ∃ (c : Nat) (k : Closer) (j : Nat), s.closers[c]? = some k ∧ k.phase = .joining ∧ k.handler = none ∧ WaitsForLock s j

theorem stuck_deadlocked (locked : Locked s) (stuck : Stuck s) : Deadlocked s := by
  obtain ⟨c,k,j,found,joining,outside,waits⟩ := stuck
  exact (deadlocked_closers locked).mpr ⟨c,k,j,found,joining,by simp [outside],waits⟩

theorem waits_drained (locked : Locked s) (waits : WaitsForLock s j) : s.drained = false := by
  obtain ⟨r,found,running⟩ := waits_running locked waits
  by_contra drained
  rw [Bool.not_eq_false] at drained
  have quiet := List.all_eq_true.mp drained r (List.mem_of_getElem? found)
  simp [running] at quiet

-- Neither of the two moves, and no other closer has the lock to move with.
theorem stuck_step (locked : Locked s) (stuck : Stuck s) (ran : step cfg s action = some next) : Stuck next := by
  obtain ⟨c,k,j,found,joining,outside,waits⟩ := stuck
  have lock := locked.owner c k found (by rw [joining]; rfl)
  have drained := waits_drained locked waits
  obtain ⟨k',member,mine,entering⟩ := waits
  obtain ⟨d,there⟩ := List.mem_iff_getElem?.mp member
  have kept : ∀ e (moved : Closer) (phase : Phase), s.closers[e]? = some moved → moved.phase ≠ .joining → moved.phase ≠ .entering →
      next.closers = s.closers.set e {moved with phase := phase} → Stuck next := by
    intro e moved phase here unjoined unentered closers
    have apart : e ≠ c := by
      rintro rfl
      cases found.symm.trans here
      exact unjoined joining
    have away : e ≠ d := by
      rintro rfl
      cases there.symm.trans here
      exact unentered entering
    refine ⟨c,k,j,by rw [closers,List.getElem?_set_ne apart]; exact found,joining,outside,k',?_,mine,entering⟩
    apply List.mem_of_getElem? (i := d)
    rw [closers,List.getElem?_set_ne away]
    exact there
  rcases step_sound ran with moved | moved
  · have closers : next.closers = s.closers := by cases moved <;> rfl
    exact ⟨c,k,j,closers ▸ found,joining,outside,k',closers ▸ member,mine,entering⟩
  · cases moved with
    | call entered =>
      have inside := (List.getElem?_eq_some_iff.mp found).1
      exact ⟨c,k,j,by rw [List.getElem?_append_left inside]; exact found,joining,outside,k',
        List.mem_append_left _ member,mine,entering⟩
    | lock here phase free =>
      rw [lock] at free
      cases free
    | already here phase closed => exact kept _ _ _ here (by simp [phase]) (by simp [phase]) rfl
    | shutdown here phase opened => exact kept _ _ _ here (by simp [phase]) (by simp [phase]) rfl
    | selfJoin here phase inside =>
      have same := locked.owner _ _ here (by rw [phase]; rfl)
      rw [lock] at same
      cases same
      cases found.symm.trans here
      rw [outside] at inside
      cases inside
    | joined here phase outside' empty =>
      rw [drained] at empty
      cases empty
    | mark here phase => exact kept _ _ _ here (by simp [phase]) (by simp [phase]) rfl
    | socket here phase ended => exact kept _ _ _ here (by simp [phase]) (by simp [phase]) rfl

theorem stuck_forever (path : Runs cfg admitted actions s) (stuck : Stuck s)
    (beyond : TransitionRuns.Runs (step cfg) TransitionRuns.Anything s more later) : Stuck later := by
  have before : Runs cfg TransitionRuns.Anything actions s := path.relax fun _ _ _ => trivial
  apply beyond.keeps Stuck stuck
  intro earlier middle action next prior stuck ok ran
  exact stuck_step (runs_locked (before.append prior)) stuck ran

-- server_close joins the pool while the handler of its only request has it shut down.
def stopSchedule : List Action :=
  handover 0 .threadStarted ++ [.take 0,.work 0 .returned,.call none .serverClose,.close 0 .returned,.close 0 .returned,
    .call (some 0) (.shutdownExecutor false)]

theorem stop_deadlocks : ∃ s, Runs (.sized 0 0 .BLOCK) TransitionRuns.Anything stopSchedule s ∧ Deadlocked s ∧
    ∀ more later, TransitionRuns.Runs (step (.sized 0 0 .BLOCK)) TransitionRuns.Anything s more later → Deadlocked later := by
  have ran : (TransitionRuns.execute (step (.sized 0 0 .BLOCK)) TransitionRuns.Anything (start (.sized 0 0 .BLOCK))
      stopSchedule).any (fun s => s.closers[0]? == some ⟨none,.serverClose,.joining⟩ &&
        s.closers[1]? == some ⟨some 0,.shutdownExecutor false,.entering⟩) = true := by decide
  obtain ⟨s,path,seen⟩ := TransitionRuns.execute_reaches ran
  rw [Bool.and_eq_true,beq_iff_eq,beq_iff_eq] at seen
  have stuck : Stuck s := ⟨0,_,0,seen.1,rfl,rfl,_,List.mem_of_getElem? seen.2,rfl,rfl⟩
  refine ⟨s,path,stuck_deadlocked (runs_locked path) stuck,?_⟩
  intro more later beyond
  have further := stuck_forever path stuck beyond
  exact stuck_deadlocked (runs_locked (path.append beyond)) further

end XmlrpcExtended.Server
