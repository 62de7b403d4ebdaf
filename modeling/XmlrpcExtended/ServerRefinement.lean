import XmlrpcExtended.ServerShares
import XmlrpcExtended.Stations

namespace XmlrpcExtended.Server
open Stations

variable {cfg : XMLRPCServerConfig} {s next : State} {r : Request} {call : Call} {result : Result}

def Job.place : Job → Place
  | .none | .queued => .waiting
  | .done => .served
  | _ => .serving

-- A permit is a place in the station, from its acquire to its release.
def Request.place (r : Request) : Place :=
  match r.stage with
  | .timing | .acquiring => .arriving
  | .recording | .handing | .refused => .waiting
  | .rejecting | .responding | .dismissing | .ended .rejected => .refused
  | .abandoning | .ended .failed => .withdrawn
  | .ended .aborted => .gone
  | .ended .submitted => r.job.place

def State.places (s : State) : Station := s.requests.map Request.place

def rules (cfg : XMLRPCServerConfig) : Rules := ⟨cfg.capacity,cfg.max_workers,cfg.overload_policy == .BLOCK⟩

theorem place_inside (valid : Coherent r) (clean : Clean r) : r.place.inside = r.holds := by
  unfold Request.holds
  rw [valid.counts .acquire rfl,valid.counts .release rfl]
  rcases clean_cases clean with ⟨fresh,unsubmitted⟩ | ⟨settled,placed⟩
  · rw [fresh]
    cases stage : r.stage with
    | ended ending =>
      cases ending with
      | submitted => exact absurd stage unsubmitted
      | rejected | failed | aborted => simp [Request.place,stage,Place.inside,Stage.count,Job.count]
    | _ => simp [Request.place,stage,Place.inside,Stage.count,Job.count]
  · rw [settled]
    cases job : r.job with
    | none => exact absurd job placed
    | _ => simp [Request.place,settled,job,Job.place,Place.inside,Stage.count,Job.count]

theorem place_serving (clean : Clean r) : (r.place == .serving) = r.job.running := by
  rcases clean_cases clean with ⟨fresh,unsubmitted⟩ | ⟨settled,placed⟩
  · rw [fresh]
    cases stage : r.stage with
    | ended ending =>
      cases ending with
      | submitted => exact absurd stage unsubmitted
      | rejected | failed | aborted => simp [Request.place,stage,Job.running]
    | _ => simp [Request.place,stage,Job.running]
  · cases job : r.job <;> simp [Request.place,settled,job,Job.place,Job.running]

theorem places_occupied (path : Runs cfg ThreadsStart actions s) : occupied s.places + s.shared.permits = cfg.capacity := by
  have balance := permits_held path
  have same : occupied s.places = s.requests.countP Request.holds := by
    rw [occupied,State.places,List.countP_map]
    refine List.countP_congr fun r member => ?_
    rw [Function.comp_apply,place_inside (runs_coherent path r member) (runs_clean path r member)]
  omega

theorem places_busy (path : Runs cfg ThreadsStart actions s) : busy s.places = s.running := by
  rw [busy,State.places,List.countP_map]
  refine List.countP_congr fun r member => ?_
  rw [Function.comp_apply,place_serving (runs_clean path r member)]

theorem places_found {i : Nat} (found : s.requests[i]? = some r) : s.places[i]? = some r.place := by
  simp [State.places,found]

theorem places_kept {i : Nat} {r' : Request} (found : s.requests[i]? = some r) (same : r'.place = r.place) :
    (s.requests.set i r').map Request.place = s.places := by
  obtain ⟨inside,here⟩ := List.getElem?_eq_some_iff.mp (places_found found)
  rw [List.map_set,same,← here]
  exact List.set_getElem_self inside

-- What a step of the accept thread makes of the place of its request.
inductive Placed (cfg : XMLRPCServerConfig) (sh : Shared) : Place → Place → Prop where
  | stays : Placed cfg sh place place
  | admitted (free : 0 < sh.permits) : Placed cfg sh .arriving .waiting
  | turned (full : sh.permits = 0) (policy : cfg.overload_policy ≠ .BLOCK) : Placed cfg sh .arriving .refused
  | aborted : Placed cfg sh .arriving .gone
  | withdrew : Placed cfg sh .waiting .withdrawn

theorem accepted_place (made : processRequest r.stage = some call) (ran : perform cfg sh call fate = some (after,result))
    (started : fate ≠ .startFailed) : Placed cfg sh r.place (r.accepted cfg sh call result).place := by
  obtain ⟨stage,job,history⟩ := r
  cases stage <;> cases made
  case timing => cases result <;> first | exact .stays | exact .aborted
  case acquiring =>
    cases perform_sound ran with
    | acquired free => exact .admitted free
    | denied full policy => exact .turned full policy
    | outside foreign ended => cases foreign
  case rejecting =>
    have next : (processRequest.next cfg .rejecting result) = .responding ∨ (processRequest.next cfg .rejecting result) = .dismissing := by
      simp only [processRequest.next]
      split <;> simp
    have same : Request.place (Request.accepted cfg sh ⟨.rejecting,job,history⟩ .recordRejected result) = .refused := by
      rcases next with same | same <;> simp [Request.place,Request.accepted,same]
    rw [same]
    exact .stays
  case responding => cases result <;> exact .stays
  case dismissing => exact .stays
  case recording => exact .stays
  case handing =>
    rcases submit_returned ran started with ⟨shut,rfl⟩ | ⟨opened,rfl⟩
    · exact .stays
    · have same : Request.place (Request.accepted cfg sh ⟨.handing,job,history⟩ .submit .returned) = .waiting := by
        simp [Request.place,Request.accepted,processRequest.next,opened,Job.place]
      rw [same]
      exact .stays
  case refused => exact .withdrew
  case abandoning => exact .stays

-- The call of a worker comes to its end with the release, and to no other place.
theorem worked_place (result : Result) (clean : Clean r) (made : processRequestWorker r.job = some call) :
    r.place = .serving ∧ ((r.worked call result).place = .serving ∨ (r.worked call result).place = .served) := by
  have settled := clean.mp (worked_placed result made).1
  have stage := worked_stage r call result
  simp only [Request.place,stage,settled]
  change r.job.place = _ ∧ ((processRequestWorker.next r.job result).place = _ ∨ (processRequestWorker.next r.job result).place = _)
  cases job : r.job <;> rw [job] at made <;> cases made <;> cases result <;> simp [processRequestWorker.next,Job.place]

theorem taken_place (clean : Clean r) (queued : r.job = .queued) : r.place = .waiting ∧ r.taken.place = .serving := by
  have settled := clean.mp (by simp [queued])
  exact ⟨by simp [Request.place,settled,queued,Job.place],by simp [Request.place,Request.taken,settled,Job.place]⟩

-- One accept thread: whoever came before is past the permit when the next one comes.
theorem over_place (finished : r.stage.isOver = true) : r.place ≠ .arriving := by
  cases stage : r.stage with
  | ended ending =>
    cases ending with
    | submitted => cases job : r.job <;> simp [Request.place,stage,job,Job.place]
    | rejected | failed | aborted => simp [Request.place,stage]
  | _ => simp [stage,Stage.isOver] at finished

theorem arrived_place : (Request.arrived cfg).place = .arriving := by
  unfold Request.arrived
  cases cfg.connection_timeout <;> rfl

abbrev Visits (cfg : XMLRPCServerConfig) := TransitionRuns.Runs (move (rules cfg)) TransitionRuns.Anything

def Shown (cfg : XMLRPCServerConfig) (st after : Station) : Prop := after = st ∨ ∃ made, move (rules cfg) st made = some after

theorem shift_found {st : Station} {i : Nat} (found : st[i]? = some source) (target : Place) :
    shift st i source target = some (st.set i target) := if_pos found

theorem accepted_shown {i : Nat} {r' : Request} (path : Runs cfg ThreadsStart actions s) (found : s.requests[i]? = some r)
    (placed : Placed cfg s.shared r.place r'.place) : Shown cfg s.places ((s.requests.set i r').map Request.place) := by
  have here := places_found found
  have count := places_occupied path
  have moved : (s.requests.set i r').map Request.place = s.places.set i r'.place := List.map_set
  generalize before : r.place = source at *
  generalize now : r'.place = target at *
  cases placed with
  | stays => exact .inl (places_kept found (now.trans before.symm))
  | admitted free =>
    have room : occupied s.places < (rules cfg).capacity := by
      change _ < cfg.capacity
      omega
    exact .inr ⟨.enter i,by rw [moved]; exact (if_pos room).trans (shift_found here _)⟩
  | turned full policy =>
    have crowded : occupied s.places = (rules cfg).capacity := by
      change _ = cfg.capacity
      omega
    have turns : (rules cfg).blocks = false := by simpa [rules] using policy
    exact .inr ⟨.refuse i,by rw [moved]; exact (if_pos ⟨turns,crowded⟩).trans (shift_found here _)⟩
  | aborted => exact .inr ⟨.leave i,by rw [moved]; exact shift_found here _⟩
  | withdrew => exact .inr ⟨.withdraw i,by rw [moved]; exact shift_found here _⟩

theorem request_shown (path : Runs cfg ThreadsStart actions s) (ok : ThreadsStart s action)
    (moved : RequestStep cfg s action next) : Shown cfg s.places next.places := by
  cases moved with
  | arrive free =>
    have nobody : Place.arriving ∉ s.places := by
      intro member
      obtain ⟨r,before,here⟩ := List.mem_map.mp member
      exact over_place (free r before) here
    refine .inr ⟨.arrive,?_⟩
    rw [move,if_neg nobody]
    simp [State.places,arrived_place]
  | accept found made performed =>
    refine accepted_shown path found (accepted_place made performed ?_)
    rintro rfl
    exact ok
  | take found queued idle =>
    rename_i i r
    obtain ⟨before,now⟩ := taken_place (runs_clean path r (List.mem_of_getElem? found)) queued
    have here := places_found found
    rw [before] at here
    have free : busy s.places < (rules cfg).servers := by
      rw [places_busy path]
      exact Nat.lt_of_lt_of_le idle (runs_threads path).2
    refine .inr ⟨.begin_ i,?_⟩
    rw [move,if_pos free,shift_found here,← now]
    exact congrArg some List.map_set.symm
  | work found made performed =>
    rename_i i r call fate shared result
    obtain ⟨before,now⟩ := worked_place result (runs_clean path r (List.mem_of_getElem? found)) made
    rcases now with serving | served
    · exact .inl (places_kept found (serving.trans before.symm))
    · have here := places_found found
      rw [before] at here
      refine .inr ⟨.finish i,?_⟩
      rw [move,shift_found here,← served]
      exact congrArg some List.map_set.symm

theorem step_shown (path : Runs cfg ThreadsStart actions s) (ok : ThreadsStart s action) (ran : step cfg s action = some next) :
    Shown cfg s.places next.places := by
  rcases step_sound ran with moved | moved
  · exact request_shown path ok moved
  · exact .inl (by rw [State.places,(closer_frame moved).requests]; rfl)

theorem runs_shown (path : Runs cfg ThreadsStart actions s) (later : TransitionRuns.Runs (step cfg) ThreadsStart s more t) :
    ∃ moves, Visits cfg s.places moves t.places ∧ moves.length ≤ more.length :=
  later.simulated State.places fun prior ok ran => step_shown (path.append prior) ok ran

-- The handler of whoever is through was called once or, where he was not served, never.
theorem final_handled (valid : Coherent r) (clean : Clean r) (final : r.place.final = true) :
    r.times .finishRequest = if r.place = .served then 1 else 0 := by
  rw [valid.counts .finishRequest rfl]
  rcases clean_cases clean with ⟨fresh,unsubmitted⟩ | ⟨settled,placed⟩
  · have none : r.place ≠ .served := by
      intro served
      cases stage : r.stage with
      | ended ending => cases ending <;> simp [Request.place,stage] at served unsubmitted
      | _ => simp [Request.place,stage] at served
    rw [fresh,if_neg none]
    rfl
  · rw [settled]
    cases job : r.job <;> simp [Request.place,settled,job,Job.place,Place.final] at final ⊢
    rfl

theorem server_refines (path : Runs cfg ThreadsStart actions s)
    (later : TransitionRuns.Runs (step cfg) ThreadsStart s more t) :
    (∃ moves, Visits cfg [] moves s.places ∧ moves.length ≤ actions.length) ∧
    (∃ moves, Visits cfg s.places moves t.places ∧ moves.length ≤ more.length) ∧
    Lawful (rules cfg) t.places ∧
    ∀ (i : Nat) (r : Request), s.requests[i]? = some r → r.place.final = true → ∃ r' : Request, t.requests[i]? = some r' ∧ r'.place = r.place ∧
      r'.times .finishRequest = if r.place = .served then 1 else 0 := by
  have whole := path.append later
  have before := runs_shown .nil path
  have since := runs_shown path later
  refine ⟨before,since,?_,?_⟩
  · obtain ⟨moves,seen,_⟩ := runs_shown .nil whole
    exact Stations.runs_lawful seen
  · intro i r found final
    obtain ⟨moves,seen,_⟩ := since
    have kept := runs_final seen (places_found found) final
    obtain ⟨r',there,same⟩ := Option.map_eq_some_iff.mp (by simpa [State.places] using kept)
    have member := List.mem_of_getElem? there
    refine ⟨r',there,same,?_⟩
    rw [← same]
    exact final_handled (Server.runs_coherent whole r' member) (runs_clean whole r' member) (same ▸ final)

-- The second client is turned away while the first one waits for its worker.
def turnedAwayCrowd : List Action :=
  handover 0 .threadStarted ++ [.arrive,.accept 1 .returned]

theorem server_refines_crowd : ∃ s t moves, Runs (.sized 0 0 .CLOSE) ThreadsStart turnedAwayCrowd s ∧
    s.places = [.waiting,.refused] ∧ TransitionRuns.Runs (step (.sized 0 0 .CLOSE)) ThreadsStart s (service 0) t ∧
    t.places = [.served,.refused] ∧ Visits (.sized 0 0 .CLOSE) s.places moves t.places ∧ moves.length ≤ 6 := by
  have first : (TransitionRuns.execute (step (.sized 0 0 .CLOSE)) ThreadsStart (start (.sized 0 0 .CLOSE))
      turnedAwayCrowd).any (fun s => s.places == [.waiting,.refused] && (TransitionRuns.execute (step (.sized 0 0 .CLOSE))
        ThreadsStart s (service 0)).any (fun t => t.places == [.served,.refused])) = true := by decide
  obtain ⟨s,path,seen⟩ := TransitionRuns.execute_reaches first
  obtain ⟨crowd,second⟩ := Bool.and_eq_true_iff.mp seen
  obtain ⟨t,later,served⟩ := TransitionRuns.execute_reaches second
  obtain ⟨_,⟨moves,visits,short⟩,_⟩ := server_refines path later
  exact ⟨s,t,moves,path,beq_iff_eq.mp crowd,later,beq_iff_eq.mp served,visits,short⟩

end XmlrpcExtended.Server
