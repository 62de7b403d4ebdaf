import XmlrpcExtended.MarshaledAnswers

namespace XmlrpcExtended.Dispatch

variable {Obj World : Type} {absent : Obj → Bool}

-- Objects are references here: what the marshaller finds in one depends on when it looks.
abbrev View (Obj World : Type) := World → Obj → Value

structure Entry (Obj : Type) where
  methodName : Text
  params : List Obj

def Entry.value (look : Obj → Value) (entry : Entry Obj) : Value :=
  .struct [(some (text "methodName"),.str entry.methodName),(some (text "params"),.array (entry.params.map look))]

-- The body of the loop of system_multicall, which goes through the synchronous _dispatch, whatever class
-- it is inherited by. What it appends is given as it is found when the list is marshalled.
def entryResult (py : Python Obj (Thrown Obj) World) (view : View Obj World) (app : Registry absent) (entry : Entry Obj) :
    Act (Thrown Obj) World (World → Value) :=
  let raised (shown : ShownError) : World → Value := fun _ =>
    faultStruct (.int 1) (.str (shown.type.shown ++ text ":" ++ shown.str))
  tryCatch
    (do
      let result ← dispatch py app entry.methodName entry.params
      return fun later => .array [view later result])
    fun
      | .raised (.fault faultCode faultString) => pure fun later => faultStruct (view later faultCode) (view later faultString)
      | .raised (.error shown) => pure (raised shown)
      | .raised (.mute _ exc) => throw (.raised exc)
      | .attributeError message => pure (raised ⟨.builtin "AttributeError",message⟩)
      | .exception message => pure (raised ⟨.builtin "Exception",message⟩)
      | .fault faultCode faultString => pure fun _ => faultStruct (.int faultCode) (.str faultString)
      | .pending => throw .pending

def multicallResults (py : Python Obj (Thrown Obj) World) (view : View Obj World) (app : Registry absent) :
    List (Entry Obj) → Act (Thrown Obj) World (List (World → Value))
  | [] => pure []
  | entry :: rest => do
    let result ← entryResult py view app entry
    let results ← multicallResults py view app rest
    return result :: results

def Thrown.viewed (look : Obj → Value) : Thrown Obj → Exn
  | .fault faultCode faultString => .fault (look faultCode) (look faultString)
  | .error shown => .error shown
  | .mute type raised => .mute type (raised.viewed look)

def Failure.viewed (look : Obj → Value) : Failure (Thrown Obj) → Failure Exn
  | .raised exc => .raised (exc.viewed look)
  | .pending => .pending
  | .attributeError message => .attributeError message
  | .exception message => .exception message
  | .fault faultCode faultString => .fault faultCode faultString

-- The outcome is marshalled at once.
def viewed (view : View Obj World) (call : Act (Thrown Obj) World Obj) : Act Exn World Value := fun w =>
  match call w with
  | .ok result next => .ok (view next result) next
  | .error failure next => .error (failure.viewed (view next)) next

-- What is sent for a separate request, if anything is.
def single (py : Python Obj (Thrown Obj) World) (view : View Obj World) (app : XMLRPCASGIApp absent) (entry : Entry Obj)
    (w : World) : Option Payload :=
  responsePayload byName app.allow_none (viewed view (asyncDispatch py app.toRegistry entry.methodName entry.params) w)

-- The separate requests, one after the other.
def singles (py : Python Obj (Thrown Obj) World) (view : View Obj World) (app : XMLRPCASGIApp absent) :
    List (Entry Obj) → World → List (Option Payload)
  | [],_ => []
  | entry :: rest,w => single py view app entry w ::
      singles py view app rest (after (asyncDispatch py app.toRegistry entry.methodName entry.params w))

-- The item for an entry, by what a separate request for it gives.
def Bundled (allow_none : Bool) : Option Payload → Value → Prop
  | some (.result v),item => ∃ u, item = .array [u] ∧ dump allow_none u = dump allow_none v
  | some (.fault faultCode _),item => ∃ c s, item = faultStruct c s ∧ dump allow_none c = dump allow_none faultCode
  | none,_ => True

def multicallName : Text := text "system.multicall"

-- `callResponse` of system.multicall, over references.
def Bundles (py : Python Obj (Thrown Obj) World) (view : View Obj World) (app : XMLRPCASGIApp absent)
    (entries : List (Entry Obj)) (calls : Obj) (w : World) : Prop :=
  ∃ results response next, multicallResults py view app.toRegistry entries w = .ok results next ∧
    responseBy byName app (viewed view (asyncDispatch py app.toRegistry multicallName [calls])) w = .ok response next ∧
    Carries app response (.result (.array (results.map fun item => item next))) ∧
    List.Forall₂ (Bundled app.allow_none) (singles py view app entries w) (results.map fun item => item next)

def coroutineType : Text := text "<class 'coroutine'>"

def Coroutine (view : View Obj World) (obj : Obj) : Prop := ∀ later, ∃ id, view later obj = .plain id coroutineType

-- Calling an `async def` function runs none of its body: the parameters do not
-- fit, or the call gives a coroutine object.
def AsyncDefs (py : Python Obj (Thrown Obj) World) (view : View Obj World) : Prop :=
  ∀ f args, py.iscoroutinefunction f = true →
    (∀ w, ∃ obj, py.call f args w = (.ok obj,w) ∧ Coroutine view obj) ∨
    ∃ message, ∀ w, py.call f args w = (.error (.error (typeError message)),w)

def Entry.Suspends (py : Python Obj (Thrown Obj) World) (view : View Obj World) (app : Registry absent) (entry : Entry Obj) :
    Prop :=
  ∃ f, app.funcs.lookup entry.methodName = some f ∧ py.iscoroutinefunction f = true ∧
    ∀ w, ∃ obj, py.call f entry.params w = (.ok obj,w) ∧ Coroutine view obj

-- The calls of the registered functions, one after the other: how each ends, in which world.
def handlerCalls (py : Python Obj (Thrown Obj) World) (app : Registry absent) :
    List (Entry Obj) → World → List (Except (Thrown Obj) Obj × World)
  | [],_ => []
  | entry :: rest,w =>
    match app.funcs.lookup entry.methodName with
    | none => []
    | some f => py.call f entry.params w :: handlerCalls py app rest (py.call f entry.params w).2

def lastWorld : List (Except (Thrown Obj) Obj × World) → World → World
  | [],w => w
  | call :: rest,_ => lastWorld rest call.2

-- What a call has given is marshalled, and no later call changes it: the fault code of a Fault may change where
-- the Fault cannot be marshalled by itself. `__str__` does not raise, and no await takes the exception for a value.
def Steady (py : Python Obj (Thrown Obj) World) (view : View Obj World) (allow_none : Bool) (final : World) :
    Except (Thrown Obj) Obj × World → Prop
  | (.ok result,next) => (view next result).marshals allow_none = true ∧
      dump allow_none (view final result) = dump allow_none (view next result)
  | (.error (.fault faultCode faultString),next) =>
    (faultStruct (view final faultCode) (view final faultString)).marshals allow_none = true ∧
      ((Payload.fault (view next faultCode) (view next faultString)).marshals allow_none = true →
        dump allow_none (view final faultCode) = dump allow_none (view next faultCode))
  | (.error (.error shown),next) => shown.type.kind = .stopIterationSubclass →
      (view next (py.stopValue (.error shown))).marshals allow_none = false
  | (.error (.mute _ _),_) => False

structure MulticallBound (py : Python Obj (Thrown Obj) World) (view : View Obj World) (app : Registry absent)
    (entries : List (Entry Obj)) (bound calls : Obj) (w : World) : Prop where
  registered : app.funcs.lookup multicallName = some bound
  plain : py.iscoroutinefunction bound = false
  listed : view w calls = .array (entries.map (Entry.value (view w)))
  runs : match multicallResults py view app entries w with
    | .ok results next => ∃ made, py.call bound [calls] w = (.ok made,next) ∧
        ∀ later, view later made = .array (results.map fun item => item later)
    | .error failure next => ∃ exc, failure = .raised exc ∧ py.call bound [calls] w = (.error exc,next)

end XmlrpcExtended.Dispatch
