import XmlrpcExtended.DispatchAgreement
import XmlrpcExtended.MarshaledDispatch

namespace XmlrpcExtended.Dispatch

variable {Obj World : Type} {absent : Obj → Bool} {isNone : Value → Bool} {py : Python Value Exn World} {codec : Codec}
  {app : XMLRPCASGIApp absent}

theorem fault_marshals (allow_none : Bool) (faultCode : Int) (faultString : Text)
    (small : MININT ≤ faultCode ∧ faultCode ≤ MAXINT) :
    (Payload.fault (.int faultCode) (.str faultString)).marshals allow_none = true := by
  have inside : ¬ (faultCode > MAXINT ∨ faultCode < MININT) := by omega
  simp [Payload.marshals,marshal,faultStruct,dump,dumpMembers,inside,bind,Except.bind,Except.isOk,Except.toBool]

theorem dumps_ok (encoding : Text) {payload : Payload} (marshals : payload.marshals allow_none = true) :
    ∃ response, dumps allow_none encoding payload = .ok response := by
  cases ran : marshal allow_none payload with
  | ok data => exact ⟨_,by simp only [dumps,ran,bind,Except.bind]; rfl⟩
  | error shown => simp [Payload.marshals,ran,Except.isOk,Except.toBool] at marshals

theorem dumps_error (encoding : Text) {payload : Payload} (refused : payload.marshals allow_none = false) :
    ∃ shown, dumps allow_none encoding payload = .error shown ∧ marshal allow_none payload = .error shown := by
  cases ran : marshal allow_none payload with
  | ok data => simp [Payload.marshals,ran,Except.isOk,Except.toBool] at refused
  | error shown => exact ⟨shown,by simp [dumps,ran,bind,Except.bind],rfl⟩

theorem marshal_raises {payload : Payload} (ran : marshal allow_none payload = .error shown) : shown.type.kind = .exception := by
  cases payload with
  | result value =>
    simp only [marshal] at ran
    cases dumped : dump allow_none value with
    | ok data => simp [dumped,bind,Except.bind] at ran
    | error thrown =>
      simp only [dumped,bind,Except.bind,Except.error.injEq] at ran
      exact ran ▸ dump_raises dumped
  | fault faultCode faultString =>
    simp only [marshal] at ran
    cases dumped : dump allow_none (faultStruct faultCode faultString) with
    | ok data => simp [dumped,bind,Except.bind] at ran
    | error thrown =>
      simp only [dumped,bind,Except.bind,Except.error.injEq] at ran
      exact ran ▸ dump_raises dumped

-- The except clauses that both servers have: the exceptions that they catch, and their words
-- for what is no Fault.
structure ExceptClauses where
  catches : ExceptionKind → Bool
  words : ShownError → Text
  ordinary : ∀ kind, kind ≠ .baseException → catches kind = true

def byName : ExceptClauses :=
  ⟨fun kind => kind != .baseException,fun shown => shown.type.name ++ text ": " ++ shown.str,fun kind other => by simp [other]⟩

def ExceptClauses.described (clauses : ExceptClauses) (shown : ShownError) : Payload := .fault (.int 1) (.str (clauses.words shown))

def faultResponseBy (clauses : ExceptClauses) (app : XMLRPCASGIApp absent) (exc : Exn) : Act Exn World Text :=
  if clauses.catches exc.kind = false then throw (.raised exc)
  else match exc with
    | .fault faultCode faultString => raising (dumps app.allow_none app.encoding (.fault faultCode faultString))
    | .error shown => raising (dumps app.allow_none app.encoding (clauses.described shown))
    | .mute _ raised => throw (.raised raised)

def responseBy (clauses : ExceptClauses) (app : XMLRPCASGIApp absent) (call : Act Exn World Value) : Act Exn World Text :=
  tryCatch
    (do
      let result ← call
      raising (dumps app.allow_none app.encoding (.result result)))
    (exceptClauses (faultResponseBy clauses app))

def exceptionPayload (clauses : ExceptClauses) (allow_none : Bool) (exc : Exn) : Option Payload :=
  if clauses.catches exc.kind = false then none
  else match exc with
    | .fault faultCode faultString =>
      if (Payload.fault faultCode faultString).marshals allow_none then some (.fault faultCode faultString) else none
    | .error shown => some (clauses.described shown)
    | .mute _ _ => none

-- What is sent for the outcome of a dispatch, if anything is.
def responsePayload (clauses : ExceptClauses) (allow_none : Bool) : EStateM.Result (Failure Exn) World Value → Option Payload
  | .ok value _ =>
    match dump allow_none value with
    | .ok _ => some (.result value)
    | .error shown => some (clauses.described shown)
  | .error failure _ => failure.exc.bind (exceptionPayload clauses allow_none)

def Carries (app : XMLRPCASGIApp absent) (response : Text) (payload : Payload) : Prop :=
  dumps app.allow_none app.encoding payload = .ok response

theorem faultResponse_by (app : XMLRPCASGIApp absent) (exc : Exn) :
    (faultResponse app exc : Act Exn World Text) = faultResponseBy byName app exc := by
  have same : (exc.kind = .baseException) = (byName.catches exc.kind = false) := by
    simp [byName]
  unfold faultResponse faultResponseBy
  simp only [same]
  cases exc <;> rfl

theorem callResponse_by (py : Python Value Exn World) (app : XMLRPCASGIApp isNone) (method : Text) (params : List Value) :
    callResponse py app method params = responseBy byName app (asyncDispatch py app.toRegistry method params) := by
  have same : (faultResponse app : Exn → Act Exn World Text) = faultResponseBy byName app := funext (faultResponse_by app)
  simp only [callResponse,responseBy,same]

section
variable {clauses : ExceptClauses} {call : Act Exn World Value}

theorem responseBy_run (clauses : ExceptClauses) (app : XMLRPCASGIApp absent) (call : Act Exn World Value) (w : World) :
    responseBy clauses app call w = match call w with
      | .ok v next => match dumps app.allow_none app.encoding (.result v) with
        | .ok response => .ok response next
        | .error shown => faultResponseBy clauses app (.error shown) next
      | .error failure next => exceptClauses (faultResponseBy clauses app) failure next := by
  simp only [responseBy,tryCatch,tryCatchThe,MonadExceptOf.tryCatch,EStateM.tryCatch,bind,EStateM.bind]
  cases call w with
  | ok v next =>
    simp only
    cases dumps app.allow_none app.encoding (.result v) <;> rfl
  | error failure next => rfl

theorem exception_answered {exc : Exn} (w : World) (due : exceptionPayload clauses app.allow_none exc = some payload) :
    ∃ response, faultResponseBy clauses app exc w = .ok response w ∧ Carries app response payload := by
  unfold exceptionPayload at due
  unfold faultResponseBy
  split at due
  · cases due
  · rename_i caught
    simp only [caught]
    cases exc with
    | fault faultCode faultString =>
      simp only at due
      split at due
      · rename_i marshals
        cases due
        obtain ⟨response,made⟩ := dumps_ok app.encoding marshals
        exact ⟨response,by simp only [made]; rfl,made⟩
      · cases due
    | error shown =>
      cases due
      obtain ⟨response,made⟩ := dumps_ok app.encoding (fault_marshals app.allow_none 1 (clauses.words shown) (by decide))
      have same : dumps app.allow_none app.encoding (clauses.described shown) = .ok response := made
      exact ⟨response,by simp only [same]; rfl,made⟩
    | mute type raised => cases due

theorem exception_escapes {exc : Exn} (w : World) (undue : exceptionPayload clauses app.allow_none exc = none) :
    ∃ failure, faultResponseBy clauses app exc w = .error failure w := by
  unfold exceptionPayload at undue
  unfold faultResponseBy
  split at undue
  · rename_i uncaught
    exact ⟨_,by simp only [uncaught,if_true]; rfl⟩
  · rename_i caught
    simp only [caught]
    cases exc with
    | fault faultCode faultString =>
      simp only at undue
      split at undue
      · cases undue
      · rename_i refused
        obtain ⟨shown,ran,_⟩ := dumps_error app.encoding (Bool.not_eq_true _ ▸ refused)
        exact ⟨_,by simp only [ran]; rfl⟩
    | error shown => cases undue
    | mute type raised => exact ⟨_,rfl⟩

-- The response carries what is due for the outcome of the dispatch, in the world that it leaves.
theorem payload_answered (w : World) (due : responsePayload clauses app.allow_none (call w) = some payload) :
    ∃ response, responseBy clauses app call w = .ok response (after (call w)) ∧ Carries app response payload := by
  rw [responseBy_run]
  cases ran : call w with
  | ok value next =>
    rw [ran] at due
    cases dumped : dump app.allow_none value with
    | ok data =>
      simp only [responsePayload,dumped,Option.some.injEq] at due
      subst due
      have marshals : (Payload.result value).marshals app.allow_none = true := by
        simp [Payload.marshals,marshal,dumped,bind,Except.bind,Except.isOk,Except.toBool]
      obtain ⟨response,made⟩ := dumps_ok app.encoding marshals
      exact ⟨response,by simp only [made]; rfl,made⟩
    | error shown =>
      simp only [responsePayload,dumped,Option.some.injEq] at due
      have refused : dumps app.allow_none app.encoding (.result value) = .error shown := by
        simp [dumps,marshal,dumped,bind,Except.bind]
      have caught : clauses.catches (Thrown.error shown : Exn).kind = true := clauses.ordinary _ (by
        rw [Thrown.kind,dump_raises dumped]
        decide)
      have due' : exceptionPayload clauses app.allow_none (.error shown) = some payload := by
        simp only [exceptionPayload,caught,Bool.true_eq_false,if_false,due]
      obtain ⟨response,answered,made⟩ := exception_answered next due'
      exact ⟨response,by simp only [refused]; exact answered,made⟩
  | error failure next =>
    rw [ran] at due
    obtain ⟨exc,seen,due⟩ := Option.bind_eq_some_iff.mp due
    simp only [exceptClauses,seen]
    exact exception_answered next due

theorem call_escapes (w : World) (undue : responsePayload clauses app.allow_none (call w) = none) :
    ∃ failure, responseBy clauses app call w = .error failure (after (call w)) := by
  rw [responseBy_run]
  cases ran : call w with
  | ok value next =>
    rw [ran] at undue
    simp only [responsePayload] at undue
    split at undue <;> cases undue
  | error failure next =>
    rw [ran] at undue
    cases seen : failure.exc with
    | none => exact ⟨failure,by simp only [exceptClauses,seen]; rfl⟩
    | some exc =>
      simp only [responsePayload,seen,Option.bind_some] at undue
      simp only [exceptClauses,seen]
      exact exception_escapes next undue

end

theorem responseBy_after (clauses : ExceptClauses) (app : XMLRPCASGIApp absent) (call : Act Exn World Value) (w : World) :
    after (responseBy clauses app call w) = after (call w) := by
  cases due : responsePayload clauses app.allow_none (call w) with
  | none =>
    obtain ⟨failure,escapes⟩ := call_escapes w due
    rw [escapes]
    rfl
  | some payload =>
    obtain ⟨response,answered,_⟩ := payload_answered w due
    rw [answered]
    rfl

theorem dumps_data (carries : Carries app response payload) :
    ∃ data, marshal app.allow_none payload = .ok data ∧
      response = xmlheader app.encoding ++ text "<methodResponse>\n" ++ data ++ text "</methodResponse>\n" := by
  unfold Carries dumps at carries
  cases ran : marshal app.allow_none payload with
  | ok data =>
    simp only [ran,bind,Except.bind] at carries
    exact ⟨data,rfl,(Except.ok.inj carries).symm⟩
  | error shown => simp [ran,bind,Except.bind] at carries

theorem marshal_result (ran : marshal allow_none (.result v) = .ok data) :
    ∃ inner, data = text "<params>\n" ++ inner := by
  simp only [marshal] at ran
  cases dumped : dump allow_none v with
  | ok inner =>
    simp only [dumped,bind,Except.bind] at ran
    refine ⟨text "<param>\n" ++ inner ++ text "</param>\n</params>\n",?_⟩
    rw [← Except.ok.inj ran]
    rfl
  | error shown => simp [dumped,bind,Except.bind] at ran

theorem marshal_fault (ran : marshal allow_none (.fault c s) = .ok data) :
    ∃ inner, data = text "<fault>\n" ++ inner := by
  simp only [marshal] at ran
  cases dumped : dump allow_none (faultStruct c s) with
  | ok inner =>
    simp only [dumped,bind,Except.bind] at ran
    exact ⟨inner ++ text "</fault>\n",by rw [← Except.ok.inj ran,List.append_assoc]⟩
  | error shown => simp [dumped,bind,Except.bind] at ran

-- No text is the response for a value and for a fault.
theorem carries_one (value : Carries app response (.result v)) (fault : Carries app response (.fault c s)) : False := by
  obtain ⟨left,first,same⟩ := dumps_data value
  obtain ⟨right,second,other⟩ := dumps_data fault
  obtain ⟨params,begins⟩ := marshal_result first
  obtain ⟨rest,starts⟩ := marshal_fault second
  rw [same,begins,starts] at other
  simp only [List.append_assoc,List.append_cancel_left_eq] at other
  have heads : text "<p" = text "<f" := congrArg (List.take 2) other
  exact absurd heads (by decide)

theorem handleBody_run (py : Python Value Exn World) (codec : Codec) (app : XMLRPCASGIApp isNone) (body : Bytes) (w : World) :
    handleBody py codec app body w = match asyncMarshaledDispatch py codec app body w with
      | .ok response next => .ok (sendHttpResponse 200 response xmlContentType []) next
      | .error failure next => .error failure next := by
  unfold handleBody
  rw [bind_run]
  cases asyncMarshaledDispatch py codec app body w <;> rfl

theorem dispatch_encoded (py : Python Value Exn World) (codec : Codec) (app : XMLRPCASGIApp isNone) (data : Bytes) (w : World) :
    asyncMarshaledDispatch py codec app data w = asLeft (match responseText py codec app data w with
      | .ok response next => encoded codec app response next
      | .error failure next => .error failure next) := by
  cases parsed : codec.loads app.use_builtin_types data with
  | error parse =>
    simp only [asyncMarshaledDispatch,coroutine,responseText,parsed]
    rw [bind_run]
    cases raising (dumps app.allow_none app.encoding (.fault (.int (-32700)) (.str (text "Parse error: " ++ parse)))) w <;> rfl
  | ok call =>
    obtain ⟨params,method⟩ := call
    simp only [asyncMarshaledDispatch,coroutine,responseText,parsed]
    rw [bind_run]
    cases callResponse py app (method.getD (text "None")) params w <;> rfl

-- The encoding is known to the codec, or nothing is returned.
theorem dispatch_returns (py : Python Value Exn World) (codec : Codec) (app : XMLRPCASGIApp isNone) (data : Bytes) (w : World)
    {body : Bytes} {next : World} :
    asyncMarshaledDispatch py codec app data w = .ok body next ↔
      ∃ encode response, codec.encode app.encoding = some encode ∧ responseText py codec app data w = .ok response next ∧
        body = encode response := by
  rw [dispatch_encoded]
  cases made : responseText py codec app data w with
  | error failure later => simp [asLeft]
  | ok response later =>
    simp only [encoded]
    cases known : codec.encode app.encoding with
    | none =>
      refine iff_of_false ?_ (by simp)
      intro ran
      cases ran
    | some encode =>
      change EStateM.Result.ok (encode response) later = .ok body next ↔ _
      simp only [EStateM.Result.ok.injEq,Option.some.injEq]
      constructor
      · rintro ⟨rfl,rfl⟩
        exact ⟨encode,response,rfl,⟨rfl,rfl⟩,rfl⟩
      · rintro ⟨_,_,rfl,⟨rfl,rfl⟩,rfl⟩
        exact ⟨rfl,rfl⟩

-- What the selected handler returns or raises, before it goes through a future or out of a coroutine.
def handlerOutcome (py : Python Value Exn World) (app : Registry isNone) (method : Text) (params : List Value) :
    Act Exn World Value := do
  match ← select py app method params with
  | some (f,args) => if py.iscoroutinefunction f then awaitCall py f args else attempt (py.call f args)
  | none => throw (Refusal method)

def Due (allow_none : Bool) (payload : Payload) : EStateM.Result (Failure Exn) World Value → Prop
  | .ok v _ => if (Payload.result v).marshals allow_none then payload = .result v else ∃ s, payload = .fault (.int 1) (.str s)
  | .error (.fault _ _) _ => ∃ s, payload = .fault (.int (-32601)) (.str s)
  | .error (.raised (.fault faultCode faultString)) _ =>
    if (Payload.fault faultCode faultString).marshals allow_none then payload = .fault faultCode faultString
    else ∃ c s, payload = .fault c s
  | .error _ _ => ∃ s, payload = .fault (.int 1) (.str s)

def Answered (py : Python Value Exn World) (codec : Codec) (app : XMLRPCASGIApp isNone) (data : Bytes) (w : World) : Prop :=
  ∃ encode response payload next, codec.encode app.encoding = some encode ∧
    responseText py codec app data w = .ok response next ∧
    asyncMarshaledDispatch py codec app data w = .ok (encode response) next ∧
    handleBody py codec app data w = .ok (sendHttpResponse 200 (encode response) xmlContentType []) next ∧
    Carries app response payload ∧
    match codec.loads app.use_builtin_types data with
    | .error _ => ∃ s, payload = .fault (.int (-32700)) (.str s)
    | .ok (params,method) => Due app.allow_none payload (handlerOutcome py app.toRegistry (method.getD (text "None")) params w)

-- The exceptions that the except clauses turn into a response.
def Thrown.answerable (allow_none : Bool) : Thrown Value → Bool
  | .fault faultCode faultString => (Payload.fault faultCode faultString).marshals allow_none
  | .error shown => shown.type.kind != .baseException
  | .mute _ _ => false

-- Those that do so out of a call in a thread, where a StopIteration ends the await or hangs it and
-- CancelledError becomes asyncio's, which is no Exception.
def Python.threadAnswerable (py : Python Value Exn World) (allow_none : Bool) (exc : Exn) : Bool :=
  match exc.kind with
  | .stopIteration | .cancelledError => false
  | .stopIterationSubclass => !(Payload.result (py.stopValue exc)).marshals allow_none
  | _ => exc.answerable allow_none

def Deliverable (py : Python Value Exn World) (app : Registry isNone) (allow_none : Bool) (method : Text)
    (params : List Value) (w : World) : Prop :=
  match select py app method params w with
  | .error (.raised exc) _ => (leaving exc).answerable allow_none = true
  | .ok (some (f,args)) next =>
    if py.iscoroutinefunction f then
      ∀ exc later, awaitCall py f args next = .error (.raised exc) later → (leaving exc).answerable allow_none = true
    else ∀ exc later, py.call f args next = (.error exc,later) → py.threadAnswerable allow_none exc = true
  | _ => True

def Answerable (py : Python Value Exn World) (codec : Codec) (app : XMLRPCASGIApp isNone) (data : Bytes) (w : World) : Prop :=
  (codec.encode app.encoding).isSome = true ∧
  ∀ params method, codec.loads app.use_builtin_types data = .ok (params,method) →
    Deliverable py app.toRegistry app.allow_none (method.getD (text "None")) params w

theorem answerable_payload (exc : Exn) (allow_none : Bool) :
    (exceptionPayload byName allow_none exc).isSome = exc.answerable allow_none := by
  unfold exceptionPayload
  by_cases base : exc.kind = .baseException
  · have uncaught : byName.catches exc.kind = false := by simp [byName,base]
    rw [if_pos uncaught]
    cases exc with
    | fault faultCode faultString => cases base
    | error shown =>
      change shown.type.kind = _ at base
      simp [Thrown.answerable,base]
    | mute type raised => rfl
  · have caught : ¬ byName.catches exc.kind = false := by simp [byName,base]
    rw [if_neg caught]
    cases exc with
    | fault faultCode faultString =>
      simp only [Thrown.answerable]
      cases (Payload.fault faultCode faultString).marshals allow_none <;> rfl
    | error shown =>
      change shown.type.kind ≠ _ at base
      simp [Thrown.answerable,base]
    | mute type raised => rfl

theorem value_payload (clauses : ExceptClauses) (allow_none : Bool) (v : Value) (w : World) :
    ∃ payload, responsePayload clauses allow_none (.ok v w) = some payload ∧
      if (Payload.result v).marshals allow_none then payload = .result v else ∃ s, payload = .fault (.int 1) (.str s) := by
  cases dumped : dump allow_none v with
  | ok data =>
    have marshals : (Payload.result v).marshals allow_none = true := by
      simp [Payload.marshals,marshal,dumped,bind,Except.bind,Except.isOk,Except.toBool]
    exact ⟨.result v,by simp only [responsePayload,dumped],by rw [if_pos marshals]⟩
  | error shown =>
    have refused : ¬ (Payload.result v).marshals allow_none = true := by
      simp [Payload.marshals,marshal,dumped,bind,Except.bind,Except.isOk,Except.toBool]
    exact ⟨clauses.described shown,by simp only [responsePayload,dumped],by rw [if_neg refused]; exact ⟨_,rfl⟩⟩

-- A Fault is answered by itself, any other exception by a fault of its own.
theorem raised_due {exc : Exn} (w : World) (due : exceptionPayload byName allow_none exc = some payload) :
    Due allow_none payload (.error (.raised exc) w) := by
  unfold exceptionPayload at due
  split at due
  · cases due
  · cases exc with
    | fault faultCode faultString =>
      simp only at due
      split at due
      · rename_i marshals
        cases due
        simp only [Due,marshals,if_true]
      · cases due
    | error shown =>
      cases due
      exact ⟨_,rfl⟩
    | mute type raised => cases due

theorem stops_due {exc : Exn} (stops : exc.kind.stops = true) (w : World) (message : Text) :
    Due allow_none (.fault (.int 1) (.str message)) (.error (.raised exc) w) := by
  cases exc with
  | fault faultCode faultString => cases stops
  | error shown => exact ⟨_,rfl⟩
  | mute type raised => exact ⟨_,rfl⟩

theorem leaving_due {exc : Exn} (w : World) (due : exceptionPayload byName allow_none (leaving exc) = some payload) :
    Due allow_none payload (.error (.raised exc) w) := by
  cases stops : exc.kind.stops with
  | true =>
    have left : leaving exc = .error ⟨.builtin "RuntimeError",text "coroutine raised StopIteration"⟩ := if_pos stops
    rw [left] at due
    cases due
    exact stops_due stops w _
  | false =>
    have left : leaving exc = exc := if_neg (by rw [Bool.not_eq_true]; exact stops)
    rw [left] at due
    exact raised_due w due

theorem rebuilt_answerable {exc : Exn} (message : Text) (allow_none : Bool)
    (kind : exc.kind = .timeoutError ∨ exc.kind = .invalidStateError) :
    (exc.rebuilt message).answerable allow_none = exc.answerable allow_none := by
  cases exc with
  | fault faultCode faultString => rfl
  | error shown =>
    change shown.type.kind = _ ∨ shown.type.kind = _ at kind
    rcases kind with kind | kind
    · simp [Thrown.rebuilt,Thrown.answerable,ExceptionType.asyncio,kind]
    · simp only [Thrown.rebuilt,Thrown.answerable,ExceptionType.asyncio,kind]
      rfl
  | mute type raised => rfl

theorem rebuilt_due {exc : Exn} (message : Text) (w : World)
    (due : Due allow_none payload (.error (.raised (exc.rebuilt message)) w)) :
    Due allow_none payload (.error (.raised exc) w) := by
  cases exc <;> exact due

-- A value is sent for a value only.
def Fits (payload : Payload) (outcome : EStateM.Result (Failure Exn) World Value) : Prop :=
  ∀ v, payload = .result v → ∃ u next, outcome = .ok u next

theorem due_fits {outcome : EStateM.Result (Failure Exn) World Value} (due : Due allow_none payload outcome) :
    Fits payload outcome := by
  rintro v rfl
  cases outcome with
  | ok u next => exact ⟨u,next,rfl⟩
  | error failure next =>
    exfalso
    cases failure with
    | raised exc =>
      cases exc with
      | fault faultCode faultString =>
        simp only [Due] at due
        split at due
        · cases due
        · obtain ⟨c,s,due⟩ := due
          cases due
      | error shown => obtain ⟨s,due⟩ := due; cases due
      | mute type raised => obtain ⟨s,due⟩ := due; cases due
    | pending | attributeError message | exception message | fault faultCode faultString => obtain ⟨s,due⟩ := due; cases due

-- What is sent is a response of the kind that is due, exactly under the condition.
structure Answers (allow_none : Bool) (sent : Option Payload) (outcome : EStateM.Result (Failure Exn) World Value)
    (condition : Prop) : Prop where
  delivers : (∃ payload, sent = some payload ∧ Fits payload outcome) ↔ condition
  dues : ∀ payload, sent = some payload → Fits payload outcome → Due allow_none payload outcome

theorem answers_of_due {outcome : EStateM.Result (Failure Exn) World Value}
    (dues : ∀ payload, sent = some payload → Due allow_none payload outcome) (answered : sent.isSome = true ↔ condition) :
    Answers allow_none sent outcome condition := by
  refine ⟨?_,fun payload same _ => dues payload same⟩
  rw [← answered]
  constructor
  · rintro ⟨payload,same,_⟩
    rw [same]
    rfl
  · intro some_
    obtain ⟨payload,same⟩ := Option.isSome_iff_exists.mp some_
    exact ⟨payload,same,due_fits (dues payload same)⟩

theorem value_answers (allow_none : Bool) (v : Value) (w : World) (holds : condition) :
    Answers allow_none (responsePayload byName allow_none (asLeft (.ok v w))) (.ok v w) condition := by
  obtain ⟨payload,sent,due⟩ := value_payload byName allow_none v w
  have sent : responsePayload byName allow_none (asLeft (.ok v w)) = some payload := sent
  rw [sent]
  exact ⟨iff_of_true ⟨payload,rfl,fun _ _ => ⟨v,w,rfl⟩⟩ holds,fun _ same _ => Option.some.inj same ▸ due⟩

theorem left_answers (allow_none : Bool) (exc : Exn) (w : World) :
    Answers allow_none (responsePayload byName allow_none (asLeft (.error (.raised exc) w))) (.error (.raised exc) w)
      ((leaving exc).answerable allow_none = true) := by
  apply answers_of_due fun payload due => leaving_due w due
  rw [← answerable_payload]

theorem kept_answers (py : Python Value Exn World) (allow_none : Bool) (w : World) (handed : py.handed exc = .raised kept)
    (same : ∀ payload, Due allow_none payload (.error (.raised kept) w) → Due allow_none payload (.error (.raised exc) w)) :
    Answers allow_none (responsePayload byName allow_none (asLeft ((py.handed exc).run w))) (.error (.raised exc) w)
      (kept.answerable allow_none = true) := by
  have sent : responsePayload byName allow_none (asLeft ((py.handed exc).run w)) = exceptionPayload byName allow_none kept := by
    rw [handed]
    simp only [Handed.run,asLeft,Failure.leaving,handed_left py handed,responsePayload,Failure.exc,Option.bind_some]
  rw [sent]
  apply answers_of_due fun payload due => same payload (raised_due w due)
  rw [answerable_payload]

-- The value of a StopIteration is sent as a result, which is not due, or refused with a fault, which is.
theorem stopped_answers (py : Python Value Exn World) (allow_none : Bool) (w : World) (kind : exc.kind = .stopIterationSubclass) :
    Answers allow_none (responsePayload byName allow_none (asLeft ((py.handed exc).run w))) (.error (.raised exc) w)
      ((!(Payload.result (py.stopValue exc)).marshals allow_none) = true) := by
  have handed : py.handed exc = .returned (py.stopValue exc) := by
    simp only [Python.handed,show Exceptional.kind exc = exc.kind from rfl,kind]
  obtain ⟨payload,sent,shape⟩ := value_payload byName allow_none (py.stopValue exc) w
  have sent : responsePayload byName allow_none (asLeft ((py.handed exc).run w)) = some payload := by
    rw [handed]
    exact sent
  rw [sent]
  cases marshals : (Payload.result (py.stopValue exc)).marshals allow_none with
  | true =>
    rw [if_pos marshals] at shape
    have unfit : ¬ Fits payload (.error (.raised exc) w : EStateM.Result (Failure Exn) World Value) := by
      intro fits
      obtain ⟨u,next,same⟩ := fits _ shape
      cases same
    refine ⟨iff_of_false ?_ (by simp),fun _ same fits => absurd (Option.some.inj same ▸ fits) unfit⟩
    rintro ⟨_,same,fits⟩
    exact unfit (Option.some.inj same ▸ fits)
  | false =>
    rw [if_neg (by simp [marshals])] at shape
    obtain ⟨s,rfl⟩ := shape
    apply answers_of_due
    · intro _ same
      exact Option.some.inj same ▸ stops_due (by rw [kind]; rfl) w s
    · exact iff_of_true rfl rfl

-- What is sent where a call in a thread has raised is due exactly for the exceptions that arrive.
theorem thread_answers (py : Python Value Exn World) (allow_none : Bool) (exc : Exn) (w : World) :
    Answers allow_none (responsePayload byName allow_none (asLeft ((py.handed exc).run w))) (.error (.raised exc) w)
      (py.threadAnswerable allow_none exc = true) := by
  have known : Exceptional.kind exc = exc.kind := rfl
  unfold Python.threadAnswerable
  cases kind : exc.kind with
  | exception | baseException =>
    have handed : py.handed exc = .raised exc := by simp only [Python.handed,known,kind]
    exact kept_answers py allow_none w handed fun payload due => due
  | stopIteration =>
    have handed : py.handed exc = .pending := by simp only [Python.handed,known,kind]
    rw [handed]
    exact answers_of_due (fun payload sent => by cases sent) (iff_of_false Bool.false_ne_true Bool.false_ne_true)
  | stopIterationSubclass => exact stopped_answers py allow_none w kind
  | cancelledError =>
    have handed : py.handed exc = .raised (exc.rebuilt (py.rebuiltStr exc)) := by simp only [Python.handed,known,kind]; rfl
    have unanswered : (exc.rebuilt (py.rebuiltStr exc)).answerable allow_none = false := by
      cases exc with
      | fault faultCode faultString => cases kind
      | error shown =>
        change shown.type.kind = _ at kind
        simp [Thrown.rebuilt,Thrown.answerable,ExceptionType.asyncio,kind]
      | mute type raised => rfl
    have answers := kept_answers py allow_none w handed fun payload => rebuilt_due _ w
    rwa [unanswered] at answers
  | timeoutError | invalidStateError =>
    have handed : py.handed exc = .raised (exc.rebuilt (py.rebuiltStr exc)) := by simp only [Python.handed,known,kind]; rfl
    have answers := kept_answers py allow_none w handed fun payload => rebuilt_due _ w
    rwa [rebuilt_answerable _ _ (by simp [kind])] at answers

theorem awaitCall_raises (py : Python Value Exn World) (func : Value) (args : List Value) : Raises (awaitCall py func args) :=
  bind_fails (attempt_raises _) fun _ => attempt_raises _

theorem refusal_payload (allow_none : Bool) (method : Text) (w : World) :
    responsePayload byName allow_none (.error (Refusal method) w) =
      some (.fault (.int (-32601)) (.str (text "Method \"" ++ method ++ text "\" is not supported"))) := by
  have marshals := fault_marshals allow_none (-32601) (text "Method \"" ++ method ++ text "\" is not supported") (by decide)
  have caught : ¬ byName.catches .exception = false := by decide
  simp only [responsePayload,Refusal,Failure.exc,Option.bind_some,exceptionPayload,Thrown.kind,caught,marshals,if_true]
  rfl

theorem refused_answers (allow_none : Bool) (method : Text) (w : World) :
    Answers allow_none (responsePayload byName allow_none (asLeft (.error (Refusal method) w))) (.error (Refusal method) w) True := by
  have sent : responsePayload byName allow_none (asLeft (.error (Refusal method) w)) = _ := refusal_payload allow_none method w
  rw [sent]
  apply answers_of_due
  · intro payload same
    exact ⟨_,(Option.some.inj same).symm⟩
  · exact iff_of_true rfl trivial

-- There is a response of the kind that is due exactly where the application's exceptions are answered.
theorem deliverable_answers (py : Python Value Exn World) (app : Registry isNone) (allow_none : Bool) (method : Text)
    (params : List Value) (w : World) :
    Answers allow_none (responsePayload byName allow_none (asyncDispatch py app method params w))
      (handlerOutcome py app method params w) (Deliverable py app allow_none method params w) := by
  rw [asyncDispatch_selects,handlerOutcome,coroutine,bind_run,bind_run,Deliverable]
  cases found : select py app method params w with
  | error failure next =>
    obtain ⟨exc,rfl⟩ := select_raises py app method params w failure next found
    exact left_answers allow_none exc next
  | ok chosen next =>
    cases chosen with
    | none => exact refused_answers allow_none method next
    | some call =>
      obtain ⟨f,args⟩ := call
      cases async : py.iscoroutinefunction f with
      | true =>
        have runs : callHandler py f args = awaitCall py f args := by simp only [callHandler,async,if_true]
        simp only [runs,async,if_true]
        cases awaited : awaitCall py f args next with
        | ok v later => exact value_answers allow_none v later (by simp)
        | error failure later =>
          obtain ⟨exc,rfl⟩ := awaitCall_raises py f args next failure later awaited
          simpa using left_answers allow_none exc later
      | false =>
        simp only [callHandler_sync py async,async,Bool.false_eq_true,if_false,Python.awaitFuture,attempt]
        rcases py.call f args next with ⟨result,later⟩
        cases result with
        | ok v => exact value_answers allow_none v later (by simp)
        | error exc => simpa using thread_answers py allow_none exc later

def faulting (faultCode : Int) : Python Value Exn Unit :=
  {isNone := fun _ => false,iscoroutinefunction := fun _ => false,isAttributeError := fun _ => false,str := .str,
   tuple := .array,nameOf := fun _ => none,stopValue := fun _ => .none,rebuiltStr := fun _ => [],
   getattr := fun obj _ w => (.ok obj,w),
   call := fun _ _ w => (.error (.fault (.int faultCode) (.str (text "x"))),w),await := fun obj w => (.ok obj,w)}

def oneFunction (py : Python Value Exn Unit) : XMLRPCASGIApp py.isNone :=
  {Registry.init.registerFunction py.nameOf (.plain 0 (text "function")) (some (text "f")) with
    allow_none := false,encoding := text "utf-8",use_builtin_types := false}

def callOfF : Codec := ⟨fun _ _ => .ok ([],some (text "f")),fun _ => some Text.ascii⟩

end XmlrpcExtended.Dispatch
