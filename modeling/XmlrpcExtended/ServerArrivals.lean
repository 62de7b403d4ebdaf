import Mathlib.Tactic.Ring
import XmlrpcExtended.ServerGauges

namespace XmlrpcExtended.Server
open SlotTotals

variable {cfg : XMLRPCServerConfig} {admitted : State → Action → Prop} {s next : State} {r : Request}

def Stage.rejection : Stage → Bool
  | .rejecting | .responding | .dismissing | .ended .rejected => true
  | _ => false

-- The calls that a request makes, or has made for it, only with a permit of its own.
def Call.permitted : Call → Bool
  | .acquire | .recordSubmitted | .submit | .release | .recordStarted | .finishRequest | .recordCompleted
  | .recordErrored => true
  | _ => false

structure Untouched (r : Request) : Prop where
  unqueued : r.job = .none
  uncalled : ∀ c, c.permitted = true → r.times c = 0

def Request.recorded (r : Request) : Bool := r.times .recordSubmitted + r.times .recordRejected == 1

def Request.refused (r : Request) : Bool := r.times .recordRejected == 1

structure Disposed (cfg : XMLRPCServerConfig) (s : State) : Prop where
  blocked : cfg.overload_policy = .BLOCK → ∀ r ∈ s.requests, r.stage.rejection = false
  rejected : ∀ r ∈ s.requests, r.stage.rejection = true →
    Untouched r ∧ r.times .recordRejected = if r.stage = .rejecting then 0 else 1
  submitted : ∀ r ∈ s.requests, r.stage = .ended .submitted →
    r.times .recordSubmitted = 1 ∧ r.times .submit = 1 ∧ r.times .recordRejected = 0
  once : ∀ r ∈ s.requests, r.times .submit ≤ 1 ∧ r.times .recordStarted ≤ 1 ∧ r.times .finishRequest ≤ 1
  aborted : ∀ r ∈ s.requests, r.stage = .ended .aborted →
    cfg.connection_timeout.isSome = true ∧ Untouched r ∧ r.times .recordRejected = 0
  ends : ∀ r ∈ s.requests, r.stage.isOver = true →
    r.stage = .ended .submitted ∨ r.stage = .ended .rejected ∨ r.stage = .ended .aborted
  counted : (s.requests.countP Request.recorded : Int) = s.stats.rejected_close + s.stats.rejected_fault +
    s.stats.rejected_503 + s.stats.queued + s.stats.active + s.stats.completed + s.stats.errored
  close : s.stats.rejected_close = rejects cfg .CLOSE * s.requests.countP Request.refused
  fault : s.stats.rejected_fault = rejects cfg .FAULT * s.requests.countP Request.refused
  unavailable : s.stats.rejected_503 = rejects cfg .HTTP_503 * s.requests.countP Request.refused

-- What a rejection does to the permits and the counters, `count` of them at once.
structure TurnedAway (cfg : XMLRPCServerConfig) (before after : State) (count : Int) : Prop where
  permits : after.shared.permits = before.shared.permits
  queued : after.stats.queued = before.stats.queued
  active : after.stats.active = before.stats.active
  completed : after.stats.completed = before.stats.completed
  errored : after.stats.errored = before.stats.errored
  close : after.stats.rejected_close = before.stats.rejected_close + rejects cfg .CLOSE * count
  fault : after.stats.rejected_fault = before.stats.rejected_fault + rejects cfg .FAULT * count
  unavailable : after.stats.rejected_503 = before.stats.rejected_503 + rejects cfg .HTTP_503 * count

structure Decided (cfg : XMLRPCServerConfig) (s : State) (i : Nat) (r : Request) (fate : Fate) (next : State) : Prop where
  acquire : r.stage = .acquiring → ∃ r', next.requests[i]? = some r' ∧
    (r'.stage.rejection = true ↔ cfg.overload_policy ≠ .BLOCK ∧
      (s.requests.take i).countP Request.holds = cfg.max_workers + cfg.max_pending) ∧
    (r'.stage.rejection = true → TurnedAway cfg s next 0)
  later : r.stage ≠ .acquiring → ∃ r', next.requests[i]? = some r' ∧ r'.stage.rejection = r.stage.rejection
  reject : r.stage.rejection = true → TurnedAway cfg s next (if r.stage = .rejecting then 1 else 0)
  aborted : ∃ r', next.requests[i]? = some r' ∧
    (r'.stage = .ended .aborted ↔ processRequest r.stage = some .settimeout ∧ fate ≠ .returned)

theorem set_here {xs : List Request} (found : xs[i]? = some r) (y : Request) : (xs.set i y)[i]? = some y :=
  List.getElem?_set_self (List.getElem?_eq_some_iff.mp found).1

-- There is one accept thread: a request it is not done with is the newest.
def Newest (s : State) : Prop :=
  ∀ (i : Nat) (r : Request), s.requests[i]? = some r → r.stage.isOver = false → i + 1 = s.requests.length

theorem newest_set {i : Nat} (r' : Request) (newest : Newest s) (found : s.requests[i]? = some r)
    (left : r'.stage.isOver = false → r.stage.isOver = false) (sh : Shared) :
    Newest {s with shared := sh,requests := s.requests.set i r'} := by
  intro j q here open_
  rw [List.length_set]
  by_cases same : i = j
  · subst same
    rw [set_here found,Option.some.injEq] at here
    subst here
    exact newest i r found (left open_)
  · rw [List.getElem?_set_ne same] at here
    exact newest j q here open_

theorem runs_newest (path : Runs cfg admitted actions s) : Newest s := by
  refine path.keeps Newest ?_ ?_
  · intro i r found
    cases found
  · intro earlier s action next prior newest ok ran
    rcases step_sound ran with moved | moved
    · cases moved with
      | arrive free =>
        intro i r found open_
        simp only [List.length_append,List.length_singleton,Nat.add_right_cancel_iff]
        rcases Nat.lt_trichotomy i s.requests.length with old | here | beyond
        · rw [List.getElem?_append_left old] at found
          rw [free r (List.mem_of_getElem? found)] at open_
          cases open_
        · exact here
        · rw [List.getElem?_eq_none (by simp; omega)] at found
          cases found
      | accept found made performed =>
        apply newest_set _ newest found
        intro _
        revert made
        cases Request.stage _ <;> simp [processRequest,Stage.isOver]
      | take found queued idle => exact newest_set (Request.taken _) newest found id s.shared
      | work found made performed =>
        apply newest_set _ newest found
        rw [worked_stage]
        exact id
    · intro i r found
      rw [(closer_frame moved).requests] at found ⊢
      exact newest i r found

theorem unpermitted (valid : Coherent r) (fresh : r.job = .none) (without : r.stage.count .acquire = 0) :
    Untouched r := by
  refine ⟨fresh,?_⟩
  have settled := valid.settled
  rw [fresh] at settled
  simp only [Job.settled] at settled
  have early : ∀ c, c.permitted = true → c.tracked = true → r.times c = 0 := by
    intro c permitted tracked
    rw [valid.counts c tracked,fresh]
    revert without
    cases r.stage with
    | ended ending => cases ending <;> cases c <;> simp [Stage.count,Job.count,Call.permitted] at permitted ⊢
    | _ => cases c <;> simp [Stage.count,Job.count,Call.permitted] at permitted ⊢
  intro c permitted
  cases c with
  | recordCompleted | recordErrored => omega
  | settimeout | recordRejected | sendResponse | shutdownRequest | handleError => cases permitted
  | acquire | recordSubmitted | submit | release | recordStarted | finishRequest => exact early _ permitted rfl

theorem rejection_untouched (valid : Coherent r) (clean : Clean r) (rejected : r.stage.rejection = true) :
    Untouched r ∧ r.times .recordRejected = if r.stage = .rejecting then 0 else 1 := by
  rcases clean_cases clean with ⟨fresh,_⟩ | ⟨settled,_⟩
  · refine ⟨unpermitted valid fresh ?_,?_⟩
    · revert rejected
      cases r.stage with
      | ended ending => cases ending <;> simp [Stage.rejection,Stage.count]
      | _ => simp [Stage.rejection,Stage.count]
    · rw [valid.counts .recordRejected rfl,fresh]
      revert rejected
      cases r.stage with
      | ended ending => cases ending <;> simp [Stage.rejection,Stage.count,Job.count]
      | _ => simp [Stage.rejection,Stage.count,Job.count]
  · rw [settled] at rejected
    cases rejected

theorem aborted_untouched (valid : Coherent r) (clean : Clean r) (aborted : r.stage = .ended .aborted) :
    Untouched r ∧ r.times .recordRejected = 0 := by
  rcases clean_cases clean with ⟨fresh,_⟩ | ⟨settled,_⟩
  · refine ⟨unpermitted valid fresh (by rw [aborted]; rfl),?_⟩
    rw [valid.counts .recordRejected rfl,fresh,aborted]
    rfl
  · rw [settled] at aborted
    cases aborted

theorem submitted_once (valid : Coherent r) (submitted : r.stage = .ended .submitted) :
    r.times .recordSubmitted = 1 ∧ r.times .submit = 1 ∧ r.times .recordRejected = 0 := by
  rw [valid.counts .recordSubmitted rfl,valid.counts .submit rfl,valid.counts .recordRejected rfl,submitted]
  exact ⟨rfl,rfl,rfl⟩

theorem called_once (valid : Coherent r) :
    r.times .submit ≤ 1 ∧ r.times .recordStarted ≤ 1 ∧ r.times .finishRequest ≤ 1 := by
  rw [valid.counts .submit rfl,valid.counts .recordStarted rfl,valid.counts .finishRequest rfl]
  refine ⟨?_,?_,?_⟩
  · cases r.stage with
    | ended ending => cases ending <;> simp [Stage.count,Job.count]
    | _ => simp [Stage.count,Job.count]
  · cases r.job <;> simp [Stage.count,Job.count]
  · cases r.job <;> simp [Stage.count,Job.count]

-- Where the accept thread is before a permit is asked for, or after that failed to begin.
def Stage.timed (stage : Stage) : Bool := stage == .timing || stage == .ended .aborted

theorem runs_timed (path : Runs cfg admitted actions s) :
    ∀ r ∈ s.requests, r.stage.timed = true → cfg.connection_timeout.isSome = true := by
  apply runs_each (fun r => r.stage.timed = true → cfg.connection_timeout.isSome = true) _ _ _ _ path
  · unfold Request.arrived
    split
    · rename_i timeout
      exact fun _ => timeout
    · intro timed
      cases timed
  · intro earlier s i r call fate shared result prior ok found before made performed after
    apply before
    revert made after
    change _ → (processRequest.next cfg r.stage result).timed = true → _
    cases r.stage with
    | rejecting =>
      simp only [processRequest.next]
      split <;> simp [Stage.timed]
    | ended ending => simp [processRequest]
    | _ => cases result <;> simp [processRequest.next,Stage.timed]
  · intro earlier s i r prior found before queued
    exact before
  · intro earlier s i r call fate shared result prior ok found before made performed
    rw [worked_stage]
    exact before

theorem policy_rejects (open_ : cfg.overload_policy ≠ .BLOCK) :
    1 - rejects cfg .FAULT - rejects cfg .HTTP_503 = rejects cfg .CLOSE := by
  unfold rejects
  cases policy : cfg.overload_policy with
  | BLOCK => exact absurd policy open_
  | _ => rfl

-- The acquire of the BLOCK policy is never denied.
theorem runs_blocked (path : Runs cfg admitted actions s) (block : cfg.overload_policy = .BLOCK) :
    ∀ r ∈ s.requests, r.stage.rejection = false := by
  apply runs_each (fun r => r.stage.rejection = false) _ _ _ _ path
  · unfold Request.arrived
    split <;> rfl
  · intro earlier s i r call fate shared result prior ok found before made performed
    change (processRequest.next cfg r.stage result).rejection = false
    cases stage : r.stage with
    | acquiring =>
      rw [stage] at made
      cases made
      cases perform_sound performed with
      | acquired free => rfl
      | denied full policy => exact absurd block policy
      | outside foreign ended => cases foreign
    | rejecting | responding | dismissing => rw [stage] at before; cases before
    | ended ending => rw [stage] at made; cases made
    | _ => cases result <;> rfl
  · intro earlier s i r prior found before queued
    exact before
  · intro earlier s i r call fate shared result prior ok found before made performed
    rw [worked_stage]
    exact before

theorem holds_earlier (path : Runs cfg admitted actions s) {i : Nat} (found : s.requests[i]? = some r)
    (acquiring : r.stage = .acquiring) :
    (s.requests.take i).countP Request.holds = s.requests.countP Request.holds := by
  have last := runs_newest path i r found (by rw [acquiring]; rfl)
  have free : r.holds = false := by
    have valid := runs_coherent path r (List.mem_of_getElem? found)
    unfold Request.holds
    have none : r.times .acquire = 0 := by
      rw [valid.counts .acquire rfl,acquiring]
      cases r.job <;> rfl
    simp [none]
  have split : s.requests = s.requests.take i ++ [r] := by
    obtain ⟨inside,rfl⟩ := List.getElem?_eq_some_iff.mp found
    rw [List.take_append_getElem]
    exact (List.take_of_length_le (by omega)).symm
  conv_rhs => rw [split]
  simp [List.countP_append,free]

theorem acquire_decides (path : Runs cfg ThreadsStart actions s) {i : Nat} (found : s.requests[i]? = some r)
    (acquiring : r.stage = .acquiring) (ran : step cfg s (.accept i fate) = some next) :
    ∃ r', next.requests[i]? = some r' ∧
      (r'.stage.rejection = true ↔ cfg.overload_policy ≠ .BLOCK ∧
        (s.requests.take i).countP Request.holds = cfg.max_workers + cfg.max_pending) ∧
      (r'.stage.rejection = true → TurnedAway cfg s next 0) := by
  have permits := permits_held path
  have capacity : cfg.capacity = cfg.max_workers + cfg.max_pending := rfl
  rw [holds_earlier path found acquiring]
  cases accept_sound ran with
  | accept here made performed =>
    rename_i r call shared result
    rw [found] at here
    cases here
    refine ⟨_,set_here found _,?_⟩
    change ((processRequest.next cfg _ result).rejection = true ↔ _) ∧
      ((processRequest.next cfg _ result).rejection = true → _)
    rw [acquiring] at made ⊢
    cases made
    cases perform_sound performed with
    | acquired free =>
      refine ⟨iff_of_false (by simp [processRequest.next,Stage.rejection]) (fun full => by omega),fun rejected => ?_⟩
      cases rejected
    | denied full policy =>
      refine ⟨iff_of_true rfl ⟨policy,by omega⟩,fun _ => ?_⟩
      constructor <;> simp [State.stats]
    | outside foreign ended => cases foreign

theorem recordRejected_counts (open_ : cfg.overload_policy ≠ .BLOCK)
    (same : next.shared = {s.shared with stats := recordRejected cfg.overload_policy s.shared.stats}) :
    TurnedAway cfg s next 1 := by
  cases policy : cfg.overload_policy with
  | BLOCK => exact absurd policy open_
  | _ =>
    constructor <;> simp [State.stats,StatsTracker.snapshot,same,policy,recordRejected,rejects,
      StatsTracker.recordRejectedClose,StatsTracker.recordRejectedFault,StatsTracker.recordRejected503]

theorem reject_turns (path : Runs cfg admitted actions s) {i : Nat} (found : s.requests[i]? = some r)
    (rejected : r.stage.rejection = true) (ran : step cfg s (.accept i fate) = some next) :
    TurnedAway cfg s next (if r.stage = .rejecting then 1 else 0) := by
  have open_ : cfg.overload_policy ≠ .BLOCK := by
    intro block
    rw [runs_blocked path block r (List.mem_of_getElem? found)] at rejected
    cases rejected
  cases accept_sound ran with
  | accept here made performed =>
    rw [found] at here
    cases here
    cases stage : r.stage with
    | rejecting =>
      rw [stage] at made
      cases made
      cases performed
      exact recordRejected_counts open_ rfl
    | responding | dismissing =>
      rw [stage] at made
      cases made
      obtain ⟨_,_,same⟩ := Option.map_eq_some_iff.mp performed
      cases same
      constructor <;> simp [State.stats]
    | ended ending => rw [stage] at made; cases made
    | _ => rw [stage] at rejected; cases rejected

theorem later_rejection (ran : step cfg s (.accept i fate) = some next) (found : s.requests[i]? = some r)
    (past : r.stage ≠ .acquiring) :
    ∃ r', next.requests[i]? = some r' ∧ r'.stage.rejection = r.stage.rejection := by
  cases accept_sound ran with
  | accept here made performed =>
    rename_i result
    rw [found] at here
    cases here
    refine ⟨_,set_here found _,?_⟩
    change (processRequest.next cfg r.stage result).rejection = _
    cases stage : r.stage with
    | acquiring => exact absurd stage past
    | rejecting =>
      simp only [processRequest.next]
      split <;> rfl
    | ended ending => rw [stage] at made; cases made
    | _ => cases result <;> rfl

theorem aborted_raised (ran : step cfg s (.accept i fate) = some next) (found : s.requests[i]? = some r) :
    ∃ r', next.requests[i]? = some r' ∧
      (r'.stage = .ended .aborted ↔ processRequest r.stage = some .settimeout ∧ fate ≠ .returned) := by
  cases accept_sound ran with
  | accept here made performed =>
    rename_i result
    rw [found] at here
    cases here
    refine ⟨_,set_here found _,?_⟩
    change processRequest.next cfg r.stage result = .ended .aborted ↔ _
    cases stage : r.stage with
    | timing =>
      rw [stage] at made
      cases made
      obtain ⟨_,fated,same⟩ := Option.map_eq_some_iff.mp performed
      cases same
      cases fate <;> cases fated <;> simp [processRequest,processRequest.next]
    | rejecting =>
      simp only [processRequest.next]
      split <;> simp [processRequest]
    | ended ending => rw [stage] at made; cases made
    | _ => cases result <;> simp [processRequest,processRequest.next]

theorem recorded_sum (valid : Coherent r) :
    ((if Request.recorded r then 1 else 0 : Int)) = r.times .recordSubmitted + r.times .recordRejected ∧
    ((if Request.refused r then 1 else 0 : Int)) = r.times .recordRejected := by
  unfold Request.recorded Request.refused
  rw [valid.counts .recordSubmitted rfl,valid.counts .recordRejected rfl]
  cases r.stage with
  | ended ending => cases ending <;> exact ⟨rfl,rfl⟩
  | _ => exact ⟨rfl,rfl⟩

theorem made_recorded (path : Runs cfg admitted actions s) :
    (s.requests.countP Request.recorded : Int) = s.made .recordSubmitted + s.made .recordRejected ∧
    (s.requests.countP Request.refused : Int) = s.made .recordRejected := by
  have valid := runs_coherent path
  rw [← total_countP,← total_countP,State.made,State.made,← total_add]
  exact ⟨total_congr fun r member => (recorded_sum (valid r member)).1,
    total_congr fun r member => (recorded_sum (valid r member)).2⟩

theorem rejected_counters (path : Runs cfg admitted actions s) :
    s.stats.rejected_close = rejects cfg .CLOSE * s.made .recordRejected ∧
    s.stats.rejected_fault = rejects cfg .FAULT * s.made .recordRejected ∧
    s.stats.rejected_503 = rejects cfg .HTTP_503 * s.made .recordRejected := by
  have books := runs_balanced path
  refine ⟨?_,books.fault,books.unavailable⟩
  by_cases block : cfg.overload_policy = .BLOCK
  · have none : s.made .recordRejected = 0 := by
      apply total_zero
      intro r member
      have unrejected := runs_blocked path block r member
      rw [(runs_coherent path r member).counts .recordRejected rfl]
      revert unrejected
      cases r.stage with
      | ended ending => cases ending <;> simp [Stage.rejection,Stage.count,Job.count]
      | _ => simp [Stage.rejection,Stage.count,Job.count]
    rw [none,mul_zero]
    exact books.close.trans (by rw [none,mul_zero])
  · rw [← policy_rejects block]
    exact books.close

theorem rejected_total (path : Runs cfg admitted actions s) :
    s.stats.rejected_close + s.stats.rejected_fault + s.stats.rejected_503 = s.made .recordRejected := by
  have books := runs_balanced path
  simp only [State.stats,StatsTracker.snapshot]
  rw [books.close,books.fault,books.unavailable]
  ring

theorem runs_disposed (path : Runs cfg Submits actions s) : Disposed cfg s := by
  have valid := runs_coherent path
  have clean := runs_clean (submits_threads path)
  obtain ⟨recorded,refused⟩ := made_recorded path
  obtain ⟨close,fault,unavailable⟩ := rejected_counters path
  refine ⟨runs_blocked path,?_,?_,?_,?_,?_,?_,?_,?_,?_⟩
  · intro r member
    exact rejection_untouched (valid r member) (clean r member)
  · intro r member
    exact submitted_once (valid r member)
  · intro r member
    exact called_once (valid r member)
  · intro r member aborted
    refine ⟨runs_timed path r member ?_,aborted_untouched (valid r member) (clean r member) aborted⟩
    rw [aborted]
    rfl
  · intro r member left
    have accepted := runs_unrefused path r member
    revert left accepted
    cases r.stage with
    | ended ending => cases ending <;> simp [Stage.refusal]
    | _ => simp [Stage.isOver]
  · obtain ⟨_,submitted,active,completed,errored,_,_,_⟩ := runs_balanced path
    rw [recorded,rejected_total path]
    simp only [State.stats,StatsTracker.snapshot,submitted,active,completed,errored]
    ring
  · rw [close,refused]
  · rw [fault,refused]
  · rw [unavailable,refused]

theorem arrivals_disposed (path : Runs cfg Submits actions s) :
    Disposed cfg s ∧
    ∀ (i : Nat) r fate next, s.requests[i]? = some r → step cfg s (.accept i fate) = some next →
      Decided cfg s i r fate next := by
  refine ⟨runs_disposed path,?_⟩
  intro i r fate next found ran
  exact ⟨fun acquiring => acquire_decides (submits_threads path) found acquiring ran,
    fun past => later_rejection ran found past,fun rejected => reject_turns path found rejected ran,
    aborted_raised ran found⟩

-- Sending the fault to the second request raises; its socket is left to the caller.
def turnedAwaySchedule : List Action :=
  handover 0 .threadStarted ++ [.arrive,.accept 1 .returned,.accept 1 .returned,.accept 1 .exception]

theorem arrivals_disposed_turned : ∃ s, Runs (.sized 0 0 .FAULT) Submits turnedAwaySchedule s ∧
    Disposed (.sized 0 0 .FAULT) s ∧ s.stats.rejected_fault = 1 := by
  have ran : (TransitionRuns.execute (step (.sized 0 0 .FAULT)) Submits (start (.sized 0 0 .FAULT))
      turnedAwaySchedule).any (fun s => s.stats.rejected_fault == 1) = true := by decide
  obtain ⟨s,path,seen⟩ := TransitionRuns.execute_reaches ran
  rw [beq_iff_eq] at seen
  exact ⟨s,path,(arrivals_disposed path).1,seen⟩

-- The constructor takes any positive timeout; this one is more than settimeout can convert.
def unconvertible : XMLRPCServerConfig :=
  {XMLRPCServerConfig.sized 7 8 .BLOCK with
    connection_timeout := some 10000000000
    timeout_positive := by simp}

theorem untimed_lost : ({connection_timeout := some 10000000000} : Arguments).configure = .ok unconvertible ∧
    ∃ s, Runs unconvertible Submits [.arrive,.accept 0 .exception] s ∧
      ∃ r ∈ s.requests, r.stage.isOver = true ∧ r.stage.rejection = false ∧ r.times .submit = 0 := by
  refine ⟨by simp [Arguments.configure,ServerOverloadPolicy.normalize,Arguments.effectivePending,unconvertible,
    XMLRPCServerConfig.sized,bind,Except.bind],?_⟩
  have ran : (TransitionRuns.execute (step unconvertible) Submits (start unconvertible)
      [.arrive,.accept 0 .exception]).any (fun s => s.requests.any fun r =>
        r.stage.isOver && !r.stage.rejection && r.times .submit == 0) = true := by decide
  obtain ⟨s,path,seen⟩ := TransitionRuns.execute_reaches ran
  obtain ⟨r,member,lost⟩ := List.any_eq_true.mp seen
  simp only [Bool.and_eq_true,Bool.not_eq_true',beq_iff_eq] at lost
  exact ⟨s,path,r,member,lost.1.1,lost.1.2,lost.2⟩

end XmlrpcExtended.Server
