import XmlrpcExtended.MarshaledAnswers

namespace XmlrpcExtended.Http
open Dispatch

variable {World : Type} {isNone : Value → Bool}

-- A key that an event lacks is `none`; `http.disconnect` has neither of the two.
inductive Event where
  | request (body : Option Bytes) (more_body : Option Bool)
  | disconnect
  deriving DecidableEq, Repr

def Event.chunk : Event → Bytes
  | .request body _ => body.getD []
  | .disconnect => []

def Event.more : Event → Bool
  | .request _ more_body => more_body.getD false
  | .disconnect => false

structure Scope where
  path : Option Text
  method : Option Text

structure App (isNone : Value → Bool) extends XMLRPCASGIApp isNone where
  max_request_size : Nat
  rpc_path : Text

inductive ReadState where
  | reading (chunks : List Bytes)
  | complete (body : Bytes)
  deriving DecidableEq, Repr

def receive (chunks : List Bytes) (event : Event) : ReadState :=
  let chunks := if event.chunk = [] then chunks else chunks ++ [event.chunk]
  if event.more then .reading chunks else .complete chunks.flatten

-- `_read_body` when just so many of its receive calls have returned. A receive call
-- whose event is `none` never returns.
def readBody (events : Nat → Option Event) : Nat → Option ReadState
  | 0 => some (.reading [])
  | k + 1 =>
    match readBody events k with
    | some (.reading chunks) => (events k).map (receive chunks)
    | _ => none

def plainContentType : Bytes := Text.ascii (text "text/plain; charset=utf-8")

def notFound : List Message := sendHttpResponse 404 (Text.ascii (text "Not Found")) plainContentType []

def methodNotAllowed : List Message :=
  sendHttpResponse 405 (Text.ascii (text "Method Not Allowed")) plainContentType
    [(Text.ascii (text "allow"),Text.ascii (text "POST"))]

def payloadTooLarge : List Message :=
  sendHttpResponse 413 (Text.ascii (text "Payload Too Large")) plainContentType []

-- `_handle_http`: what it sends when the body is complete with so many receive calls, `none`
-- where it is not. `upper` is `str.upper`.
def handleHttp (py : Python Value Exn World) (codec : Codec) (upper : Text → Text) (app : App isNone) (scope : Scope)
    (events : Nat → Option Event) (calls : Nat) : Option (Act Exn World (List Message)) :=
  if scope.path.getD (text "/") ≠ app.rpc_path then some (pure notFound)
  else if upper (scope.method.getD (text "GET")) ≠ text "POST" then some (pure methodNotAllowed)
  else
    match readBody events calls with
    | some (.complete body) =>
      if body.length > app.max_request_size then some (pure payloadTooLarge)
      else some (handleBody py codec app.toXMLRPCASGIApp body)
    | _ => none

def ReadState.held : ReadState → Nat
  | .reading chunks => chunks.flatten.length
  | .complete body => body.length

-- Of the first `k` events each has arrived, and each announced a further one.
def Uploading (events : Nat → Option Event) (k : Nat) : Prop := ∀ j < k, (events j).any Event.more = true

def arrived (events : Nat → Option Event) : Nat → Nat
  | 0 => 0
  | k + 1 => arrived events k + (events k).elim 0 fun event => event.chunk.length

theorem receive_held (chunks : List Bytes) (event : Event) :
    (receive chunks event).held = chunks.flatten.length + event.chunk.length := by
  unfold receive
  by_cases empty : event.chunk = []
  · simp only [empty,if_true]
    split <;> rfl
  · simp only [empty,if_false]
    split <;> simp [ReadState.held]

theorem uploading_succ {events : Nat → Option Event} (uploading : Uploading events k) (event : events k = some e)
    (more : e.more = true) : Uploading events (k + 1) := by
  intro j below
  rcases Nat.lt_succ_iff_lt_or_eq.mp below with earlier | rfl
  · exact uploading j earlier
  · simp [event,more]

theorem readBody_reading (events : Nat → Option Event) (k : Nat) :
    (∃ chunks, readBody events k = some (.reading chunks) ∧ chunks.flatten.length = arrived events k) ∧ Uploading events k ∨
    (∀ chunks, readBody events k ≠ some (.reading chunks)) ∧ ¬ Uploading events k := by
  induction k with
  | zero => exact .inl ⟨⟨[],rfl,rfl⟩,fun j below => absurd below (Nat.not_lt_zero j)⟩
  | succ k ih =>
    rcases ih with ⟨⟨chunks,before,held⟩,uploading⟩ | ⟨ended,stopped⟩
    · cases event : events k with
      | none =>
        refine .inr ⟨by simp [readBody,before,event],fun uploading => ?_⟩
        have here := uploading k (Nat.lt_succ_self k)
        simp [event] at here
      | some e =>
        have length := receive_held chunks e
        have now : readBody events (k + 1) = some (receive chunks e) := by simp [readBody,before,event]
        cases more : e.more with
        | false =>
          refine .inr ⟨by simp [now,receive,more],fun uploading => ?_⟩
          have here := uploading k (Nat.lt_succ_self k)
          simp [event,more] at here
        | true =>
          refine .inl ⟨⟨if e.chunk = [] then chunks else chunks ++ [e.chunk],by simp [now,receive,more],?_⟩,
            uploading_succ uploading event more⟩
          simp only [receive,more,if_true,ReadState.held] at length
          simp only [length,arrived,event,Option.elim_some,held]
    · refine .inr ⟨?_,fun uploading => stopped fun j below => uploading j (Nat.lt_succ_of_lt below)⟩
      intro chunks
      cases before : readBody events k with
      | none => simp [readBody,before]
      | some state =>
        cases state with
        | reading others => exact absurd before (ended others)
        | complete body => simp [readBody,before]

-- The state after one more receive call has returned.
theorem readBody_next {events : Nat → Option Event} {k : Nat} {state : ReadState} :
    readBody events (k + 1) = some state ↔ ∃ chunks e, Uploading events k ∧ events k = some e ∧
      readBody events k = some (.reading chunks) ∧ state = receive chunks e ∧ state.held = arrived events (k + 1) := by
  constructor
  · intro now
    rcases readBody_reading events k with ⟨⟨chunks,before,held⟩,uploading⟩ | ⟨ended,_⟩
    · simp only [readBody,before] at now
      obtain ⟨e,event,same⟩ := Option.map_eq_some_iff.mp now
      refine ⟨chunks,e,uploading,event,before,same.symm,?_⟩
      rw [← same,receive_held,held]
      simp [arrived,event]
    · simp only [readBody] at now
      cases now
  · rintro ⟨chunks,e,_,event,before,same,_⟩
    simp [readBody,before,event,same]

theorem uploading_earlier {events : Nat → Option Event} (uploading : Uploading events (k + 1)) :
    Uploading events k ∧ ∃ e, events k = some e ∧ e.more = true := by
  have last := uploading k (Nat.lt_succ_self k)
  refine ⟨fun j below => uploading j (Nat.lt_succ_of_lt below),?_⟩
  cases event : events k with
  | none => rw [event] at last; cases last
  | some e => exact ⟨e,rfl,by simpa [event] using last⟩

theorem uploading_next {events : Nat → Option Event} (uploading : Uploading events k) (event : events k = some e) :
    ∃ chunks, readBody events (k + 1) = some (receive chunks e) ∧
      (receive chunks e).held = arrived events (k + 1) := by
  rcases readBody_reading events k with ⟨⟨chunks,before,held⟩,_⟩ | ⟨_,stopped⟩
  · refine ⟨chunks,by simp [readBody,before,event],?_⟩
    rw [receive_held,held]
    simp [arrived,event]
  · exact absurd uploading stopped

-- A body that is complete later takes at least one more event.
theorem complete_further {events : Nat → Option Event} (now : readBody events k = some (.reading chunks))
    (later : k ≤ calls) (complete : readBody events calls = some (.complete body)) : ∃ next, events k = some next := by
  obtain rfl | beyond := Nat.eq_or_lt_of_le later
  · rw [now] at complete
    cases complete
  · obtain ⟨c,rfl⟩ := Nat.exists_eq_succ_of_ne_zero (by omega : calls ≠ 0)
    obtain ⟨_,last,uploading,event,_⟩ := readBody_next.mp complete
    obtain rfl | earlier := Nat.eq_or_lt_of_le (Nat.le_of_lt_succ beyond)
    · exact ⟨last,event⟩
    · exact Option.isSome_iff_exists.mp (Option.isSome_of_any (uploading k earlier))

structure Bounded (py : Python Value Exn World) (codec : Codec) (upper : Text → Text) (app : App isNone) (scope : Scope)
    (events : Nat → Option Event) : Prop where
  held : ∀ k e state, events k = some e → readBody events (k + 1) = some state →
    state.held ≤ app.max_request_size + e.chunk.length
  refused : ∀ k state, readBody events k = some state → app.max_request_size < state.held →
    ∃ calls, k ≤ calls ∧ handleHttp py codec upper app scope events calls = some (pure payloadTooLarge)

-- The event that takes the upload past the limit is its last.
def Prompt (max_request_size : Nat) (events : Nat → Option Event) : Prop :=
  ∀ k e, Uploading events k → events k = some e → max_request_size < arrived events (k + 1) → e.more = false

theorem prompt_below (prompt : Prompt max_request_size events) (uploading : Uploading events k) :
    arrived events k ≤ max_request_size := by
  cases k with
  | zero => exact Nat.zero_le _
  | succ k =>
    obtain ⟨earlier,e,event,more⟩ := uploading_earlier uploading
    by_contra past
    rw [prompt k e earlier event (by omega)] at more
    cases more

theorem body_bounded (py : Python Value Exn World) (codec : Codec) (upper : Text → Text) (app : App isNone)
    (scope : Scope) (events : Nat → Option Event) (path : scope.path.getD (text "/") = app.rpc_path)
    (post : upper (scope.method.getD (text "GET")) = text "POST") :
    Bounded py codec upper app scope events ↔ Prompt app.max_request_size events := by
  have answers : ∀ calls body, readBody events calls = some (.complete body) → app.max_request_size < body.length →
      handleHttp py codec upper app scope events calls = some (pure payloadTooLarge) := by
    intro calls body complete large
    simp [handleHttp,path,post,complete,large]
  have completed : ∀ calls, handleHttp py codec upper app scope events calls = some (pure payloadTooLarge) →
      ∃ body, readBody events calls = some (.complete body) := by
    intro calls answered
    simp only [handleHttp,path,post,ne_eq,not_true_eq_false,if_false] at answered
    split at answered
    · rename_i body complete
      exact ⟨body,complete⟩
    · cases answered
  constructor
  · intro bounded k e uploading event past
    by_contra more
    have more : e.more = true := by simpa using more
    obtain ⟨chunks,now,held⟩ := uploading_next uploading event
    obtain ⟨calls,later,answered⟩ := bounded.refused (k + 1) _ now (by omega)
    -- The answer takes one more receive call, and what that one brings is held as well.
    obtain ⟨body,complete⟩ := completed calls answered
    have reading : readBody events (k + 1) = some (.reading (if e.chunk = [] then chunks else chunks ++ [e.chunk])) := by
      simp [now,receive,more]
    obtain ⟨next,following⟩ := complete_further reading later complete
    obtain ⟨_,after,total⟩ := uploading_next (uploading_succ uploading event more) following
    have small := bounded.held (k + 1) next _ following after
    rw [total] at small
    simp only [arrived,following,Option.elim_some] at small past
    omega
  · intro prompt
    refine ⟨?_,?_⟩
    · intro k e state event now
      obtain ⟨chunks,e',uploading,same,before,rfl,held⟩ := readBody_next.mp now
      rw [event,Option.some.injEq] at same
      subst same
      have small := prompt_below prompt uploading
      rw [held]
      simp only [arrived,event,Option.elim_some]
      omega
    · intro k state now large
      cases k with
      | zero =>
        cases now
        simp [ReadState.held] at large
      | succ k =>
        obtain ⟨chunks,e,uploading,event,before,rfl,held⟩ := readBody_next.mp now
        have last := prompt k e uploading event (by omega)
        refine ⟨k + 1,Nat.le_refl _,answers (k + 1) (if e.chunk = [] then chunks else chunks ++ [e.chunk]).flatten ?_ ?_⟩
        · rw [now]
          simp [receive,last]
        · simp only [receive,last,Bool.false_eq_true,if_false,ReadState.held] at large
          exact large

def tinyApp : App (faulting 0).isNone := {oneFunction (faulting 0) with max_request_size := 1,rpc_path := text "/"}

def postScope : Scope := ⟨some (text "/"),some (text "POST")⟩

-- Three bytes in two events, the second of which is the last.
def twoChunks (k : Nat) : Option Event :=
  if k = 0 then some (.request (some [60]) (some true))
  else if k = 1 then some (.request (some [63,120]) none)
  else none

theorem body_bounded_chunks : Bounded (faulting 0) callOfF id tinyApp postScope twoChunks := by
  refine (body_bounded (faulting 0) callOfF id tinyApp postScope twoChunks rfl rfl).mpr ?_
  intro k e uploading event past
  match k with
  | 0 => exact absurd past (by decide)
  | 1 => cases event; rfl
  | k + 2 => exact absurd (uploading 1 (by omega)) (by decide)

theorem endless_unbounded : ¬ Bounded (faulting 0) callOfF id tinyApp postScope
    (fun _ => some (.request (some [120]) (some true))) := by
  intro bounded
  have three := bounded.held 2 _ (.reading [[120],[120],[120]]) rfl (by decide)
  exact absurd three (by decide)

end XmlrpcExtended.Http
