import XmlrpcExtended.PythonCalls

namespace XmlrpcExtended.Dispatch

variable {Obj Exc World : Type} {isNone : Obj → Bool}

-- What registering fills and dispatching reads, of SimpleXMLRPCDispatcher.
structure Registry (isNone : Obj → Bool) where
  funcs : List (Text × Obj)
  instance_ : Option Obj
  allow_dotted_names : Option Bool
  callable : ∀ entry ∈ funcs, isNone entry.2 = false
  flagged : instance_.isSome → allow_dotted_names.isSome

namespace Registry

def init : Registry isNone := ⟨[],none,none,by simp,by simp⟩

def update (app : Registry isNone) (name : Text) (function : Obj) (some_ : isNone function = false) : Registry isNone :=
  {app with
    funcs := (name,function) :: app.funcs.filter (fun entry => entry.1 != name)
    callable := by
      intro entry member
      rcases List.mem_cons.mp member with rfl | old
      · exact some_
      · exact app.callable entry (List.mem_filter.mp old).1}

-- Without a function it returns a decorator and stores nothing; without a name
-- the function's `__name__` is taken, which not every callable has.
def registerFunction (nameOf : Obj → Option Text) (app : Registry isNone) (function : Obj) (name : Option Text) :
    Registry isNone :=
  if some_ : isNone function = false then
    match name.or (nameOf function) with
    | some name => app.update name function some_
    | none => app
  else app

def registerInstance (app : Registry isNone) (inst : Obj) (allow_dotted_names : Bool) : Registry isNone :=
  {app with
    instance_ := if isNone inst then none else some inst
    allow_dotted_names := some allow_dotted_names
    flagged := fun _ => rfl}

end Registry

variable (py : Python Obj Exc World)

def attrs (attr : Text) (allow_dotted_names : Bool) : List Text :=
  if allow_dotted_names then attr.splitOn 46 else [attr]

def resolve (obj : Obj) : List Text → Act Exc World Obj
  | [] => pure obj
  | i :: rest =>
    if i.startsWith (text "_") then
      throw (.attributeError (text "attempt to access private attribute \"" ++ i ++ text "\""))
    else do
      let obj ← attempt (py.getattr obj i)
      resolve obj rest

def resolveDottedAttribute (obj : Obj) (attr : Text) (allow_dotted_names : Bool) : Act Exc World Obj :=
  resolve py obj (attrs attr allow_dotted_names)

-- SimpleXMLRPCDispatcher._dispatch, as ThreadPoolXMLRPCServer inherits it.
def dispatch (app : Registry isNone) (method : Text) (params : List Obj) : Act Exc World Obj := do
  let unsupported := Failure.exception (text "method \"" ++ method ++ text "\" is not supported")
  match app.funcs.lookup method with
  | some func => if py.isNone func then throw unsupported else attempt (py.call func params)
  | none =>
    match app.instance_ with
    | none => throw unsupported
    | some inst =>
      if ← py.hasattr inst (text "_dispatch") then
        let hook ← attempt (py.getattr inst (text "_dispatch"))
        attempt (py.call hook [py.str method,py.tuple params])
      else
        let func ← py.exceptAttributeError do
          match app.allow_dotted_names with
          | some allowed => resolveDottedAttribute py inst method allowed
          | none => throw (.attributeError (text "allow_dotted_names"))
        match func.bind py.orNone with
        | some func => attempt (py.call func params)
        | none => throw unsupported

section
variable [Exceptional Exc]

-- `loop.run_in_executor` and `asyncio.to_thread` have the call made in a thread of a pool and
-- await its future.
def inThread (func : Obj) (args : List Obj) : Act Exc World Obj := py.awaitFuture (py.call func args)

def awaitCall (func : Obj) (args : List Obj) : Act Exc World Obj := do
  let coroutine ← attempt (py.call func args)
  attempt (py.await coroutine)

def callHandler (func : Obj) (args : List Obj) : Act Exc World Obj :=
  if py.iscoroutinefunction func then awaitCall py func args else inThread py func args

-- XMLRPCASGIApp._async_dispatch. Which pool a thread belongs to is no matter here.
def asyncDispatch (app : Registry isNone) (method : Text) (params : List Obj) : Act Exc World Obj := coroutine do
  let unsupported := Failure.fault (-32601) (text "Method \"" ++ method ++ text "\" is not supported")
  match (app.funcs.lookup method).bind py.orNone with
  | some func => callHandler py func params
  | none =>
    match app.instance_ with
    | none => throw unsupported
    | some inst =>
      if ← py.hasattr inst (text "_dispatch") then
        let dispatch_fn ← attempt (py.getattr inst (text "_dispatch"))
        callHandler py dispatch_fn [py.str method,py.tuple params]
      else
        let func ← py.exceptAttributeError
          (resolveDottedAttribute py inst method (app.allow_dotted_names.getD false))
        match func.bind py.orNone with
        | some func => callHandler py func params
        | none => throw unsupported

end

end XmlrpcExtended.Dispatch
