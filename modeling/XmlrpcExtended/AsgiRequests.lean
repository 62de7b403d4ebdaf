import Mathlib.Data.List.Induction
import XmlrpcExtended.AsgiHttp
import XmlrpcExtended.Unmarshaller

namespace XmlrpcExtended.Http
open Dispatch

variable {World : Type} {isNone : Value → Bool}

-- What `_handle_http` does, in order: each receive call that has returned, the call of
-- `_async_marshaled_dispatch` and each send.
inductive Op where
  | receive
  | dispatch (data : Bytes)
  | send (message : Message)
  deriving DecidableEq

-- The loop of `_read_body`, of which so many receive calls have returned.
def readLoop (events : Nat → Option Event) (chunks : List Bytes) (calls : Nat) : Nat → Option (List Op × Bytes)
  | 0 => none
  | fuel + 1 =>
    match (events calls).map (receive chunks) with
    | none => none
    | some (.reading chunks) => (readLoop events chunks (calls + 1) fuel).map fun (ops,body) => (.receive :: ops,body)
    | some (.complete body) => some ([.receive],body)

-- `_handle_http` once the body is complete. Only the dispatch raises.
def answer (py : Python Value Exn World) (codec : Codec) (app : App isNone) (body : Bytes) (w : World) :
    List Op × EStateM.Result (Failure Exn) World Unit :=
  if body.length > app.max_request_size then (payloadTooLarge.map .send,.ok () w)
  else
    match asyncMarshaledDispatch py codec app.toXMLRPCASGIApp body w with
    | .ok response_xml next =>
      (.dispatch body :: (sendHttpResponse 200 response_xml xmlContentType []).map .send,.ok () next)
    | .error failure next => ([.dispatch body],.error failure next)

-- `_handle_http` with all that it does, `none` where so many receive calls do not end the body.
def serve (py : Python Value Exn World) (codec : Codec) (upper : Text → Text) (app : App isNone) (scope : Scope)
    (events : Nat → Option Event) (fuel : Nat) (w : World) : Option (List Op × EStateM.Result (Failure Exn) World Unit) :=
  if scope.path.getD (text "/") ≠ app.rpc_path then some (notFound.map .send,.ok () w)
  else if upper (scope.method.getD (text "GET")) ≠ text "POST" then some (methodNotAllowed.map .send,.ok () w)
  else
    (readLoop events [] 0 fuel).map fun (ops,body) =>
      (ops ++ (answer py codec app body w).1,(answer py codec app body w).2)

def sent (ops : List Op) : List Message := ops.filterMap fun
  | .send message => some message
  | _ => none

def handed (ops : List Op) : List Bytes := ops.filterMap fun
  | .dispatch data => some data
  | _ => none

@[simp] theorem sent_append (before later : List Op) : sent (before ++ later) = sent before ++ sent later :=
  List.filterMap_append

@[simp] theorem handed_append (before later : List Op) : handed (before ++ later) = handed before ++ handed later :=
  List.filterMap_append

@[simp] theorem sent_sends (messages : List Message) : sent (messages.map .send) = messages := by
  simp [sent,List.filterMap_map]

@[simp] theorem handed_sends (messages : List Message) : handed (messages.map .send) = [] := by
  simp [handed,List.filterMap_map]

@[simp] theorem sent_receives (n : Nat) : sent (List.replicate n .receive) = [] := by
  simp [sent]

@[simp] theorem handed_receives (n : Nat) : handed (List.replicate n .receive) = [] := by
  simp [handed]

@[simp] theorem sent_dispatch (data : Bytes) (later : List Op) : sent (.dispatch data :: later) = sent later := rfl

@[simp] theorem handed_dispatch (data : Bytes) (later : List Op) : handed (.dispatch data :: later) = data :: handed later :=
  rfl

theorem dispatch_handed {ops : List Op} : Op.dispatch data ∈ ops ↔ data ∈ handed ops := by
  constructor
  · exact fun member => List.mem_filterMap.mpr ⟨_,member,rfl⟩
  · intro member
    obtain ⟨op,inside,same⟩ := List.mem_filterMap.mp member
    cases op with
    | dispatch data' =>
      cases same
      exact inside
    | receive => cases same
    | send message => cases same

theorem readBody_ended {events : Nat → Option Event} (ended : ∀ chunks, readBody events k ≠ some (.reading chunks)) (n : Nat) :
    readBody events (k + (n + 1)) = none := by
  have halts : ∀ j, (∀ chunks, readBody events j ≠ some (.reading chunks)) → readBody events (j + 1) = none := by
    intro j ended
    rw [readBody]
    split
    · rename_i chunks before
      exact absurd before (ended chunks)
    · rfl
  induction n with
  | zero => exact halts k ended
  | succ n ih => exact halts (k + (n + 1)) (by simp [ih])

theorem readLoop_complete {events : Nat → Option Event} {chunks : List Bytes} {k fuel : Nat}
    (now : readBody events k = some (.reading chunks)) :
    readLoop events chunks k fuel = some (ops,body) ↔
      ∃ n < fuel, readBody events (k + (n + 1)) = some (.complete body) ∧ ops = List.replicate (n + 1) .receive := by
  induction fuel generalizing chunks k ops with
  | zero => simp [readLoop]
  | succ fuel ih =>
    have step : readBody events (k + 1) = (events k).map (receive chunks) := by simp only [readBody,now]
    -- Past a state that is not `reading` there is no further one.
    have only : (∀ chunks, readBody events (k + 1) ≠ some (.reading chunks)) → ∀ n,
        readBody events (k + (n + 1)) = some (.complete body) → n = 0 := by
      intro ended n complete
      cases n with
      | zero => rfl
      | succ n =>
        have gone := readBody_ended ended n
        rw [show k + 1 + (n + 1) = k + (n + 1 + 1) by omega,complete] at gone
        cases gone
    rw [readLoop]
    cases following : (events k).map (receive chunks) with
    | none =>
      rw [following] at step
      simp only [reduceCtorEq,false_iff,not_exists,not_and]
      intro n _ complete
      obtain rfl := only (by simp [step]) n complete
      rw [Nat.zero_add,step] at complete
      cases complete
    | some state =>
      rw [following] at step
      cases state with
      | reading others =>
        simp only [Option.map_eq_some_iff,Prod.exists,Prod.mk.injEq]
        constructor
        · rintro ⟨later,body',ran,rfl,rfl⟩
          obtain ⟨n,below,complete,rfl⟩ := (ih step).mp ran
          exact ⟨n + 1,by omega,by rw [← complete]; congr 1; omega,rfl⟩
        · rintro ⟨n,below,complete,rfl⟩
          cases n with
          | zero =>
            rw [Nat.zero_add,step] at complete
            cases complete
          | succ n =>
            refine ⟨_,body,(ih step).mpr ⟨n,by omega,?_,rfl⟩,rfl,rfl⟩
            rw [← complete]
            congr 1
            omega
      | complete body' =>
        simp only [Option.some.injEq,Prod.mk.injEq]
        constructor
        · rintro ⟨rfl,rfl⟩
          exact ⟨0,by omega,step,rfl⟩
        · rintro ⟨n,_,complete,rfl⟩
          obtain rfl := only (by simp [step]) n complete
          rw [Nat.zero_add,step] at complete
          cases complete
          exact ⟨rfl,rfl⟩

theorem readLoop_start {events : Nat → Option Event} :
    readLoop events [] 0 fuel = some (ops,body) ↔
      ∃ n < fuel, readBody events (n + 1) = some (.complete body) ∧ ops = List.replicate (n + 1) .receive := by
  have start : readLoop events [] 0 fuel = some (ops,body) ↔
      ∃ n < fuel, readBody events (0 + (n + 1)) = some (.complete body) ∧ ops = List.replicate (n + 1) .receive :=
    readLoop_complete rfl
  simpa only [Nat.zero_add] using start

theorem answer_handles (py : Python Value Exn World) (codec : Codec) (app : App isNone) (body : Bytes) (w : World) :
    (if body.length > app.max_request_size then pure payloadTooLarge
      else handleBody py codec app.toXMLRPCASGIApp body : Act Exn World (List Message)) w = .ok messages next ↔
      sent (answer py codec app body w).1 = messages ∧ (answer py codec app body w).2 = .ok () next := by
  unfold answer
  by_cases large : body.length > app.max_request_size
  · simp only [large,if_true,sent_sends,EStateM.Result.ok.injEq,true_and]
    change EStateM.Result.ok payloadTooLarge w = _ ↔ _
    rw [EStateM.Result.ok.injEq]
  · simp only [large,if_false,handleBody_run]
    cases asyncMarshaledDispatch py codec app.toXMLRPCASGIApp body w with
    | ok response_xml later => simp
    | error failure later => simp

-- `serve` sends what `handleHttp` says, and it leaves the world the same.
theorem serve_handles (py : Python Value Exn World) (codec : Codec) (upper : Text → Text) (app : App isNone) (scope : Scope)
    (events : Nat → Option Event) (w : World) (messages : List Message) (next : World) :
    (∃ fuel ops, serve py codec upper app scope events fuel w = some (ops,.ok () next) ∧ sent ops = messages) ↔
      ∃ calls act, handleHttp py codec upper app scope events calls = some act ∧ act w = .ok messages next := by
  have fixed : ∀ refusal : List Message,
      (∃ (_ : Nat) (ops : List Op), some (refusal.map Op.send,EStateM.Result.ok () w) =
        some (ops,(.ok () next : EStateM.Result (Failure Exn) World Unit)) ∧ sent ops = messages) ↔
      ∃ (_ : Nat) (act : Act Exn World (List Message)), some (pure refusal) = some act ∧ act w = .ok messages next := by
    intro refusal
    constructor
    · rintro ⟨_,ops,same,rfl⟩
      cases same
      exact ⟨0,_,rfl,by rw [sent_sends]; rfl⟩
    · rintro ⟨_,act,same,ran⟩
      cases same
      cases ran
      exact ⟨0,_,rfl,sent_sends _⟩
  unfold serve handleHttp
  by_cases path : scope.path.getD (text "/") = app.rpc_path
  · by_cases post : upper (scope.method.getD (text "GET")) = text "POST"
    · simp only [path,post,ne_eq,not_true_eq_false,if_false,Option.map_eq_some_iff,Prod.exists,readLoop_start,
        Prod.mk.injEq]
      constructor
      · rintro ⟨fuel,ops,⟨receives,body,⟨n,_,complete,rfl⟩,rfl,ran⟩,rfl⟩
        refine ⟨n + 1,if body.length > app.max_request_size then pure payloadTooLarge
          else handleBody py codec app.toXMLRPCASGIApp body,?_,?_⟩
        · simp only [complete]
          split <;> rfl
        · exact (answer_handles py codec app body w).mpr ⟨by simp,ran⟩
      · rintro ⟨calls,act,handled,answered⟩
        split at handled
        · rename_i body complete
          cases calls with
          | zero => cases complete
          | succ n =>
            have same : act = if body.length > app.max_request_size then pure payloadTooLarge
                else handleBody py codec app.toXMLRPCASGIApp body := by
              split at handled <;> rename_i large <;> cases handled
              · rw [if_pos large]
              · rw [if_neg large]
            rw [same] at answered
            obtain ⟨messages,ran⟩ := (answer_handles py codec app body w).mp answered
            exact ⟨n + 1,_,⟨_,body,⟨n,Nat.lt_succ_self n,complete,rfl⟩,rfl,ran⟩,by simpa using messages⟩
        · cases handled
    · simp only [path,post,ne_eq,not_true_eq_false,not_false_eq_true,if_false,if_true]
      exact fixed methodNotAllowed
  · simp only [path,ne_eq,not_false_eq_true,if_true]
    exact fixed notFound

def ReadState.bytes : ReadState → Bytes
  | .reading chunks => chunks.flatten
  | .complete body => body

theorem receive_bytes (chunks : List Bytes) (event : Event) :
    (receive chunks event).bytes = chunks.flatten ++ event.chunk := by
  unfold receive
  by_cases empty : event.chunk = []
  · simp only [empty,if_true]
    split <;> simp [ReadState.bytes]
  · simp only [empty,if_false]
    split <;> simp [ReadState.bytes]

-- What the next receive calls return, one after another.
def Delivered (events : Nat → Option Event) (pieces : List Event) : Prop := ∀ i < pieces.length, events i = pieces[i]?

theorem read_front {events : Nat → Option Event} (front : List Event) (delivered : Delivered events front)
    (more : ∀ e ∈ front, e.more = true) :
    ∃ chunks, readBody events front.length = some (.reading chunks) ∧ chunks.flatten = front.flatMap Event.chunk := by
  induction front using List.reverseRecOn with
  | nil => exact ⟨[],rfl,rfl⟩
  | append_singleton front e ih =>
    have earlier : Delivered events front := by
      intro i below
      rw [delivered i (by rw [List.length_append]; omega),List.getElem?_append_left below]
    have here : events front.length = some e := by
      rw [delivered front.length (by simp),List.getElem?_concat_length]
    obtain ⟨chunks,before,held⟩ := ih earlier fun e member => more e (List.mem_append_left _ member)
    have going : e.more = true := more e (by simp)
    have bytes := receive_bytes chunks e
    simp only [receive,going,if_true,ReadState.bytes] at bytes
    refine ⟨if e.chunk = [] then chunks else chunks ++ [e.chunk],?_,?_⟩
    · rw [List.length_append,List.length_singleton,readBody,before]
      simp only [here,Option.map_some,receive,going,if_true]
    · rw [bytes,held,List.flatMap_append]
      simp

structure Splits (pieces : List Event) (body : Bytes) : Prop where
  ends : ∃ front last, pieces = front ++ [last] ∧ (∀ e ∈ front, ∃ chunk, e = .request chunk (some true)) ∧
    ∃ chunk more_body, last = .request chunk more_body ∧ more_body ≠ some true
  whole : pieces.flatMap Event.chunk = body

theorem read_whole {events : Nat → Option Event} {pieces : List Event} {body : Bytes} (split : Splits pieces body)
    (delivered : Delivered events pieces) (enough : pieces.length ≤ fuel) :
    readLoop events [] 0 fuel = some (List.replicate pieces.length .receive,body) := by
  obtain ⟨⟨front,last,rfl,going,chunk,more_body,rfl,stops⟩,whole⟩ := split
  have more : ∀ e ∈ front, e.more = true := by
    intro e member
    obtain ⟨chunk,rfl⟩ := going e member
    rfl
  have ended : (Event.request chunk more_body).more = false := by
    cases more_body with
    | none => rfl
    | some more => simpa [Event.more] using stops
  have earlier : Delivered events front := by
    intro i below
    rw [delivered i (by rw [List.length_append]; omega),List.getElem?_append_left below]
  have here : events front.length = some (.request chunk more_body) := by
    rw [delivered front.length (by simp),List.getElem?_concat_length]
  obtain ⟨chunks,before,held⟩ := read_front front earlier more
  have bytes := receive_bytes chunks (.request chunk more_body)
  rw [held] at bytes
  rw [List.length_append,List.length_singleton,readLoop_start]
  refine ⟨front.length,by rw [List.length_append,List.length_singleton] at enough; omega,?_,rfl⟩
  rw [readBody,before]
  simp only [here,Option.map_some,receive,ended,Bool.false_eq_true,if_false,ReadState.bytes] at bytes ⊢
  rw [bytes,← whole,List.flatMap_append]
  simp

def statusFor (upper : Text → Text) (app : App isNone) (scope : Scope) (body : Bytes) : Nat :=
  if scope.path.getD (text "/") ≠ app.rpc_path then 404
  else if upper (scope.method.getD (text "GET")) ≠ text "POST" then 405
  else if body.length > app.max_request_size then 413
  else 200

def allowPost : Bytes × Bytes := (Text.ascii (text "allow"),Text.ascii (text "POST"))

def lengthHeader (answer : Bytes) : Bytes × Bytes :=
  (Text.ascii (text "content-length"),Text.ascii (text (toString answer.length)))

structure Exchange (status : Nat) (pieces : List Event) (body : Bytes) (ops : List Op) (w next : World) : Prop where
  messages : ∃ headers answer, sent ops = [.start status headers,.body answer] ∧
    headers.filter (·.1 == (lengthHeader answer).1) = [lengthHeader answer] ∧ (status = 405 → allowPost ∈ headers)
  handed : handed ops = if status = 200 then [body] else []
  received : ops.count .receive = if status = 404 ∨ status = 405 then 0 else pieces.length
  untouched : status ≠ 200 → next = w

theorem counts_receives (n : Nat) (data : Option Bytes) (messages : List Message) :
    (List.replicate n Op.receive ++ (data.toList.map Op.dispatch ++ messages.map Op.send)).count Op.receive = n := by
  have dispatches : (data.toList.map Op.dispatch).count Op.receive = 0 := by
    rw [List.count_eq_zero]
    simp
  have sends : (messages.map Op.send).count Op.receive = 0 := by
    rw [List.count_eq_zero]
    simp
  rw [List.count_append,List.count_append,dispatches,sends,List.count_replicate_self,Nat.add_zero]

theorem exchange_made (status : Nat) {pieces : List Event} {body answer content_type : Bytes} {extra_headers : List (Bytes × Bytes)}
    {w next : World} (extra : extra_headers = if status = 405 then [allowPost] else [])
    (untouched : status ≠ 200 → next = w) :
    Exchange status pieces body
      (List.replicate (if status = 404 ∨ status = 405 then 0 else pieces.length) .receive ++
        ((if status = 200 then some body else none).toList.map .dispatch ++
          (sendHttpResponse status answer content_type extra_headers).map .send)) w next := by
  have others : (Text.ascii (text "content-type") == Text.ascii (text "content-length")) = false ∧
      (allowPost.1 == Text.ascii (text "content-length")) = false := by decide
  exact {
    messages := by
      have dispatches : ∀ data : Option Bytes, sent (data.toList.map .dispatch) = [] := by
        intro data
        cases data <;> rfl
      simp only [sent_append,sent_receives,dispatches,sent_sends,List.nil_append]
      refine ⟨_,answer,rfl,?_,?_⟩
      · rw [extra]
        split <;> simp [lengthHeader,others]
      · intro refused
        rw [extra,if_pos refused]
        simp
    handed := by
      simp only [handed_append,handed_receives,handed_sends,List.nil_append,List.append_nil]
      split <;> rfl
    received := counts_receives _ _ _
    untouched := untouched}

theorem exchange_unsplit (py : Python Value Exn World) (codec : Codec) (upper : Text → Text) (app : App isNone)
    (scope : Scope) (body : Bytes) (w : World)
    (returns : statusFor upper app scope body = 200 →
      ∃ response next, asyncMarshaledDispatch py codec app.toXMLRPCASGIApp body w = .ok response next) :
    ∃ messages next,
      (statusFor upper app scope body = 200 → ∃ response,
        asyncMarshaledDispatch py codec app.toXMLRPCASGIApp body w = .ok response next ∧
        messages = sendHttpResponse 200 response xmlContentType []) ∧
      ∀ pieces events fuel, Splits pieces body → Delivered events pieces → pieces.length ≤ fuel →
        ∃ ops, serve py codec upper app scope events fuel w = some (ops,.ok () next) ∧ sent ops = messages ∧
          Exchange (statusFor upper app scope body) pieces body ops w next := by
  unfold statusFor at returns ⊢
  by_cases path : scope.path.getD (text "/") = app.rpc_path
  · by_cases post : upper (scope.method.getD (text "GET")) = text "POST"
    · have whole : ∀ pieces events fuel, Splits pieces body → Delivered events pieces → pieces.length ≤ fuel →
          serve py codec upper app scope events fuel w =
            some (List.replicate pieces.length .receive ++ (answer py codec app body w).1,(answer py codec app body w).2) := by
        intro pieces events fuel split delivered enough
        simp only [serve,path,post,ne_eq,not_true_eq_false,if_false,read_whole split delivered enough,Option.map_some]
      by_cases large : body.length > app.max_request_size
      · have answered : answer py codec app body w = (payloadTooLarge.map .send,.ok () w) := by
          rw [answer,if_pos large]
        refine ⟨payloadTooLarge,w,by simp [path,post,large],fun pieces events fuel split delivered enough =>
          ⟨_,by rw [whole pieces events fuel split delivered enough,answered],?_,?_⟩⟩
        · simp
        · simp only [path,post,large,ne_eq,not_true_eq_false,if_false,if_true]
          exact exchange_made 413 rfl fun _ => rfl
      · simp only [path,post,large,ne_eq,not_true_eq_false,if_false,true_implies] at returns
        obtain ⟨response,next,dispatched⟩ := returns
        have answered : answer py codec app body w =
            (.dispatch body :: (sendHttpResponse 200 response xmlContentType []).map .send,.ok () next) := by
          simp only [answer,large,if_false,dispatched]
        refine ⟨sendHttpResponse 200 response xmlContentType [],next,fun _ => ⟨response,dispatched,rfl⟩,
          fun pieces events fuel split delivered enough =>
            ⟨_,by rw [whole pieces events fuel split delivered enough,answered],?_,?_⟩⟩
        · simp
        · simp only [path,post,large,ne_eq,not_true_eq_false,if_false]
          exact exchange_made 200 rfl fun other => absurd rfl other
    · refine ⟨methodNotAllowed,w,by simp [path,post],
        fun pieces events fuel _ _ _ => ⟨methodNotAllowed.map .send,?_,sent_sends _,?_⟩⟩
      · simp only [serve,path,post,ne_eq,not_true_eq_false,not_false_eq_true,if_false,if_true]
      · simp only [path,post,ne_eq,not_true_eq_false,not_false_eq_true,if_false,if_true]
        exact exchange_made 405 rfl fun _ => rfl
  · refine ⟨notFound,w,by simp [path],fun pieces events fuel _ _ _ => ⟨notFound.map .send,?_,sent_sends _,?_⟩⟩
    · simp only [serve,path,ne_eq,not_false_eq_true,if_true]
    · simp only [path,ne_eq,not_false_eq_true,if_true]
      exact exchange_made 404 rfl fun _ => rfl

-- One byte in three events, the last of which has no body key.
def thinPieces : List Event := [.request (some []) (some true),.request (some [60]) (some true),.request none none]

theorem exchange_unsplit_thin :
    ∃ messages next,
      (statusFor id tinyApp postScope [60] = 200 → ∃ response,
        asyncMarshaledDispatch (faulting 0) callOfF tinyApp.toXMLRPCASGIApp [60] () = .ok response next ∧
        messages = sendHttpResponse 200 response xmlContentType []) ∧
      ∀ pieces events fuel, Splits pieces [60] → Delivered events pieces → pieces.length ≤ fuel →
        ∃ ops, serve (faulting 0) callOfF id tinyApp postScope events fuel () = some (ops,.ok () next) ∧
          sent ops = messages ∧ Exchange (statusFor id tinyApp postScope [60]) pieces [60] ops () next :=
  exchange_unsplit (faulting 0) callOfF id tinyApp postScope [60] () fun _ => ⟨_,(),rfl⟩

example : Splits thinPieces [60] :=
  ⟨⟨thinPieces.take 2,_,rfl,by simp [thinPieces],none,none,rfl,by decide⟩,rfl⟩

-- No handler is called, and no bytes are taken for a complete body.
def Unexecuted (py : Python Value Exn World) (codec : Codec) (upper : Text → Text) (app : App py.isNone) (scope : Scope)
    (events : Nat → Option Event) (w : World) : Prop :=
  ∀ fuel ops result, serve py.traced codec upper app scope events fuel (w,[]) = some (ops,result) →
    (∀ f args, Dispatch.Event.called f args ∉ (after result).2) ∧ ∀ data, Op.dispatch data ∉ ops

theorem complete_once {events : Nat → Option Event} (complete : readBody events a = some (.complete body))
    (again : readBody events b = some (.complete other)) : a = b := by
  have later : ∀ {a b : Nat} {body other : Bytes}, readBody events a = some (.complete body) →
      readBody events b = some (.complete other) → ¬ a < b := by
    intro a b body other complete again below
    obtain ⟨n,rfl⟩ := Nat.exists_eq_add_of_lt below
    rw [Nat.add_assoc,readBody_ended (by simp [complete])] at again
    cases again
  have := later complete again
  have := later again complete
  omega

-- The event that ends the loop may be a disconnect.
theorem disconnect_completes {events : Nat → Option Event} (uploading : Uploading events k)
    (aborted : events k = some .disconnect) :
    ∃ body, readBody events (k + 1) = some (.complete body) ∧ body.length = arrived events k := by
  obtain ⟨chunks,now,held⟩ := uploading_next uploading aborted
  have complete : receive chunks .disconnect = .complete chunks.flatten := rfl
  rw [complete] at now held
  exact ⟨chunks.flatten,now,by simpa [ReadState.held,arrived,aborted,Event.chunk] using held⟩

theorem aborted_unexecuted (py : Python Value Exn World) (codec : Codec) (upper : Text → Text) (app : App py.isNone)
    (scope : Scope) (events : Nat → Option Event) (k : Nat) (w : World)
    (path : scope.path.getD (text "/") = app.rpc_path) (post : upper (scope.method.getD (text "GET")) = text "POST")
    (uploading : Uploading events k) (aborted : events k = some .disconnect) :
    Unexecuted py codec upper app scope events w ↔ app.max_request_size < arrived events k := by
  obtain ⟨body,complete,length⟩ := disconnect_completes uploading aborted
  have ran : ∀ fuel ops result, serve py.traced codec upper app scope events fuel (w,[]) = some (ops,result) →
      ops = List.replicate (k + 1) .receive ++ (answer py.traced codec app body (w,[])).1 ∧
        result = (answer py.traced codec app body (w,[])).2 := by
    intro fuel ops result served
    simp only [serve,path,post,ne_eq,not_true_eq_false,if_false] at served
    obtain ⟨⟨receives,body'⟩,looped,same⟩ := Option.map_eq_some_iff.mp served
    obtain ⟨n,_,ended,rfl⟩ := readLoop_start.mp looped
    obtain rfl := Nat.succ.inj (complete_once complete ended)
    cases complete.symm.trans ended
    cases same
    exact ⟨rfl,rfl⟩
  rw [← length]
  constructor
  · intro unexecuted
    by_contra small
    have served : serve py.traced codec upper app scope events (k + 1) (w,[]) =
        some (List.replicate (k + 1) .receive ++ (answer py.traced codec app body (w,[])).1,
          (answer py.traced codec app body (w,[])).2) := by
      have looped : readLoop events [] 0 (k + 1) = some (List.replicate (k + 1) .receive,body) :=
        readLoop_start.mpr ⟨k,Nat.lt_succ_self k,complete,rfl⟩
      simp only [serve,path,post,ne_eq,not_true_eq_false,if_false,looped,Option.map_some]
    refine (unexecuted (k + 1) _ _ served).2 body (List.mem_append_right _ ?_)
    rw [answer,if_neg small]
    split <;> exact List.mem_cons_self
  · intro large fuel ops result served
    obtain ⟨rfl,rfl⟩ := ran fuel ops result served
    rw [answer,if_pos large]
    refine ⟨fun f args => List.not_mem_nil,fun data member => ?_⟩
    simpa using dispatch_handed.mp member

-- Three bytes, and then the client is gone.
def cutShort (k : Nat) : Option Event :=
  if k = 0 then some (.request (some [60,63,120]) (some true)) else some .disconnect

theorem aborted_unexecuted_large : Unexecuted (faulting 0) callOfF id tinyApp postScope cutShort () ∧
    tinyApp.max_request_size < arrived cutShort 1 := by
  have uploading : Uploading cutShort 1 := by
    intro j below
    obtain rfl : j = 0 := by omega
    rfl
  have large : tinyApp.max_request_size < arrived cutShort 1 := by decide
  exact ⟨(aborted_unexecuted (faulting 0) callOfF id tinyApp postScope cutShort 1 () rfl rfl uploading rfl).mpr large,large⟩

-- `xmlrpc.client.loads` on documents in ASCII, but for the texts of its exceptions.
def readerCodec : Codec :=
  {loads := fun _ data =>
     match loads (data.map UInt8.toNat) with
     | some (.call params methodname) => .ok (params,methodname)
     | _ => .error (text "syntax error")
   encode := fun _ => some Text.ascii}

def roomyApp : App (faulting 0).isNone :=
  {oneFunction (faulting 0) with max_request_size := 1048576,rpc_path := text "/"}

def callDocument : Bytes := Text.ascii (text "<methodCall><methodName>f</methodName></methodCall>")

theorem callDocument_loads (use_builtin_types : Bool) :
    readerCodec.loads use_builtin_types callDocument = .ok ([],some (text "f")) := by
  have read : loads (callDocument.map UInt8.toNat) = some (.call [] (some (text "f"))) := rfl
  simp only [readerCodec,read]

-- A whole document in an event that announces more, and then the client is gone.
def abandoned (k : Nat) : Option Event :=
  if k = 0 then some (.request (some callDocument) (some true)) else some .disconnect

theorem abandoned_executed : ¬ Unexecuted (faulting 0) readerCodec id roomyApp postScope abandoned () ∧
    ∃ ops result, serve (faulting 0).traced readerCodec id roomyApp postScope abandoned 2 ((),[]) = some (ops,result) ∧
      Dispatch.Event.called (.plain 0 (text "function")) [] ∈ (after result).2 := by
  have ran : ∃ ops result, serve (faulting 0).traced readerCodec id roomyApp postScope abandoned 2 ((),[]) = some (ops,result) ∧
      Dispatch.Event.called (.plain 0 (text "function")) [] ∈ (after result).2 := ⟨_,_,rfl,.head _⟩
  refine ⟨fun unexecuted => ?_,ran⟩
  obtain ⟨ops,result,served,called⟩ := ran
  exact (unexecuted 2 ops result served).1 _ _ called

end XmlrpcExtended.Http
