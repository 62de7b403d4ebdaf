import XmlrpcExtended.MarshaledAnswers

namespace XmlrpcExtended.Dispatch

variable {Obj World : Type} {absent : Obj → Bool} {isNone : Value → Bool} {py : Python Value Exn World}

-- `xmlrpc.client.loads`. With an exception comes its str(), which is all that the ASGI app takes of it.
abbrev Parse := Bool → Bytes → Except (Exn × Text) (List Value × Option Text)

def parsing (parse : Parse) (encode : Text → Option (Text → Bytes)) : Codec :=
  ⟨fun use_builtin_types data => (parse use_builtin_types data).mapError (·.2),encode⟩

-- The except clauses of the threaded server see every exception.
def byType : ExceptClauses := ⟨fun _ => true,fun shown => shown.type.shown ++ text ":" ++ shown.str,fun _ _ => rfl⟩

-- `except Exception` catches it.
def Failure.ordinary (failure : Failure Exn) : Bool := failure.exc.any (·.kind != .baseException)

-- `_dispatch` of a call without a method name: no function has the key None, and resolving it is
-- an AttributeError, as None has neither `split` nor `startswith`.
def dispatchUnnamed (py : Python Value Exn World) (app : Registry isNone) (params : List Value) : Act Exn World Value := do
  let unsupported := Failure.exception (text "method \"None\" is not supported")
  match app.instance_ with
  | none => throw unsupported
  | some inst =>
    if ← py.hasattr inst (text "_dispatch") then
      let hook ← attempt (py.getattr inst (text "_dispatch"))
      attempt (py.call hook [.none,py.tuple params])
    else throw unsupported

def parsedDispatch (py : Python Value Exn World) (parse : Parse) (app : XMLRPCASGIApp isNone) (data : Bytes) :
    Act Exn World Value := do
  match parse app.use_builtin_types data with
  | .error (exc,_) => throw (.raised exc)
  | .ok (params,some method) => dispatch py app.toRegistry method params
  | .ok (params,none) => dispatchUnnamed py app.toRegistry params

-- SimpleXMLRPCDispatcher._marshaled_dispatch, as ThreadPoolXMLRPCServer inherits it.
def marshaledDispatch (py : Python Value Exn World) (parse : Parse) (encode : Text → Option (Text → Bytes))
    (app : XMLRPCASGIApp isNone) (data : Bytes) : Act Exn World Bytes := do
  let response ← responseBy byType app (parsedDispatch py parse app data)
  encoded (parsing parse encode) app response

-- The responses of the ASGI app and of the threaded server to one call. Only the latter has an except
-- clause for what is no Exception.
inductive Alike (app : XMLRPCASGIApp isNone) (method : Text) : EStateM.Result (Failure Exn) (World × List (Event Value)) Text →
    EStateM.Result (Failure Exn) (World × List (Event Value)) Text → Prop where
  | same : Alike app method (.ok response env) (.ok response env)
  | described (asgi_ : Carries app asgi (byName.described shown)) (pool_ : Carries app pool (byType.described shown)) :
      Alike app method (.ok asgi env) (.ok pool env)
  | unsupported (uncalled : ∀ f args, Event.called f args ∉ env.2)
      (asgi_ : Carries app asgi (.fault (.int (-32601)) (.str (text "Method \"" ++ method ++ text "\" is not supported"))))
      (pool_ : Carries app pool (byType.described ⟨.builtin "Exception",text "method \"" ++ method ++ text "\" is not supported"⟩)) :
      Alike app method (.ok asgi env) (.ok pool env)
  | uncaught (base : shown.type.kind = .baseException) (pool_ : Carries app pool (byType.described shown)) :
      Alike app method (.error (.raised (.error shown)) env) (.ok pool env)
  | unshown (base : type.kind = .baseException) :
      Alike app method (.error (.raised (.mute type raised)) env) (.error (.raised raised) env)
  | escaped (failure : Failure Exn) : Alike app method (.error failure env) (.error failure env)

theorem described_answered (clauses : ExceptClauses) (app : XMLRPCASGIApp absent) (shown : ShownError)
    (caught : clauses.catches shown.type.kind = true) (w : World) :
    ∃ response, faultResponseBy clauses app (.error shown) w = .ok response w ∧ Carries app response (clauses.described shown) := by
  have due : exceptionPayload clauses app.allow_none (.error shown) = some (clauses.described shown) :=
    if_neg (by rw [Thrown.kind,caught]; decide)
  exact exception_answered w due

theorem exception_alike (app : XMLRPCASGIApp isNone) (method : Text) (exc : Exn) (env : World × List (Event Value)) :
    Alike app method (faultResponseBy byName app exc env) (faultResponseBy byType app exc env) := by
  have every : ∀ kind, byType.catches kind = true := fun _ => rfl
  cases exc with
  | fault faultCode faultString =>
    change Alike app method (raising (dumps app.allow_none app.encoding (.fault faultCode faultString)) env)
      (raising (dumps app.allow_none app.encoding (.fault faultCode faultString)) env)
    cases dumps app.allow_none app.encoding (.fault faultCode faultString) with
    | ok response => exact .same
    | error shown => exact .escaped _
  | error shown =>
    obtain ⟨pool,answered,typed⟩ := described_answered byType app shown (every shown.type.kind) env
    rw [answered]
    by_cases base : shown.type.kind = .baseException
    · have uncaught : byName.catches (Thrown.error shown : Exn).kind = false := by simp [byName,Thrown.kind,base]
      rw [faultResponseBy,if_pos uncaught]
      exact .uncaught base typed
    · obtain ⟨asgi,answered,named⟩ := described_answered byName app shown (byName.ordinary _ base) env
      rw [answered]
      exact .described named typed
  | mute type raised =>
    have crashed : faultResponseBy byType app (.mute type raised) env = .error (.raised raised) env := rfl
    rw [crashed]
    by_cases base : type.kind = .baseException
    · have uncaught : byName.catches (Thrown.mute type raised : Exn).kind = false := by simp [byName,Thrown.kind,base]
      rw [faultResponseBy,if_pos uncaught]
      exact .unshown base
    · have caught : byName.catches (Thrown.mute type raised : Exn).kind = true := byName.ordinary _ base
      rw [faultResponseBy,if_neg (by rw [caught]; decide)]
      exact .escaped _

-- Where the dispatchers end alike, only the except clauses differ.
theorem outcome_alike (app : XMLRPCASGIApp isNone) {asgi pool : Act Exn (World × List (Event Value)) Value} (method : Text)
    (env : World × List (Event Value)) (same : asgi env = pool env) :
    Alike app method (responseBy byName app asgi env) (responseBy byType app pool env) := by
  rw [responseBy_run,responseBy_run,← same]
  cases asgi env with
  | ok v next =>
    simp only
    cases dumps app.allow_none app.encoding (.result v) with
    | ok response => exact .same
    | error shown => exact exception_alike app method _ next
  | error failure next =>
    simp only [exceptClauses]
    cases failure.exc with
    | none => exact .escaped _
    | some exc => exact exception_alike app method exc next

-- The responses to one call by name, where no handler is a coroutine function.
theorem call_alike (sync : ∀ f, py.iscoroutinefunction f = false) (app : XMLRPCASGIApp py.isNone) (method : Text)
    (params : List Value) (w : World) (carried : Carried py app.toRegistry method params w) :
    Alike app method (responseBy byName app (asyncDispatch py.traced app.toRegistry method params) (w,[]))
      (responseBy byType app (dispatch py.traced app.toRegistry method params) (w,[])) := by
  have agree := (dispatchers_agree sync app.toRegistry method params w).2.mpr carried
  generalize asgi : asyncDispatch py.traced app.toRegistry method params (w,[]) = left at agree
  generalize pool : dispatch py.traced app.toRegistry method params (w,[]) = right at agree
  cases agree with
  | value => exact outcome_alike app method _ (asgi.trans pool.symm)
  | raised => exact outcome_alike app method _ (asgi.trans pool.symm)
  | @refused env uncalled =>
    have marshals := fault_marshals app.allow_none (-32601) (text "Method \"" ++ method ++ text "\" is not supported") (by decide)
    obtain ⟨first,made⟩ := dumps_ok app.encoding marshals
    have unsupported : byType.catches (ExceptionType.builtin "Exception").kind = true := rfl
    obtain ⟨second,answered,typed⟩ := described_answered byType app
      ⟨.builtin "Exception",text "method \"" ++ method ++ text "\" is not supported"⟩ unsupported env
    have asgi_ : responseBy byName app (asyncDispatch py.traced app.toRegistry method params) (w,[]) = .ok first env := by
      have caught : ¬ byName.catches .exception = false := by decide
      rw [responseBy_run,asgi]
      simp only [exceptClauses,Failure.exc,faultResponseBy,Thrown.kind,caught,made]
      rfl
    have pool_ : responseBy byType app (dispatch py.traced app.toRegistry method params) (w,[]) = .ok second env := by
      rw [responseBy_run,pool]
      exact answered
    rw [asgi_,pool_]
    exact .unsupported uncalled made typed

def encodedResult (codec : Codec) (app : XMLRPCASGIApp isNone) :
    EStateM.Result (Failure Exn) World Text → EStateM.Result (Failure Exn) World Bytes
  | .ok response next => encoded codec app response next
  | .error failure next => .error failure next

theorem marshaledDispatch_encoded (py : Python Value Exn World) (parse : Parse) (encode : Text → Option (Text → Bytes))
    (app : XMLRPCASGIApp isNone) (data : Bytes) (w : World) : marshaledDispatch py parse encode app data w =
      encodedResult (parsing parse encode) app (responseBy byType app (parsedDispatch py parse app data) w) := by
  unfold marshaledDispatch
  rw [bind_run]
  cases responseBy byType app (parsedDispatch py parse app data) w <;> rfl

-- A body that cannot be parsed: each server has a fault of its own for it, and neither dispatches.
structure Unparsed (app : XMLRPCASGIApp isNone) (exc : Exn) (shown : Text) (env : World × List (Event Value))
    (asgi pool : EStateM.Result (Failure Exn) (World × List (Event Value)) Text) : Prop where
  asgi_ : ∃ response, asgi = .ok response env ∧
    Carries app response (.fault (.int (-32700)) (.str (text "Parse error: " ++ shown)))
  pool_ : ∀ payload, exceptionPayload byType app.allow_none exc = some payload →
    ∃ response, pool = .ok response env ∧ Carries app response payload
  escaped : exceptionPayload byType app.allow_none exc = none → ∃ failure, pool = .error failure env

def FrontEnds (py : Python Value Exn World) (app : XMLRPCASGIApp py.isNone) (w : World)
    (asgi pool : EStateM.Result (Failure Exn) (World × List (Event Value)) Text) :
    Except (Exn × Text) (List Value × Option Text) → Prop
  | .ok (params,method) => ∃ name, method = some name ∧ (Carried py app.toRegistry name params w → Alike app name asgi pool)
  | .error (exc,shown) => Unparsed app exc shown (w,[]) asgi pool

def parseOfF : Parse := fun _ _ => .ok ([],some (text "f"))

def asciiOnly : Text → Option (Text → Bytes) := fun _ => some Text.ascii

end XmlrpcExtended.Dispatch
