import XmlrpcExtended.PythonCalls

namespace XmlrpcExtended.Dispatch

-- `struct` is a dict, `inst` any other object with a `__dict__`; `plain` has none or
-- belongs to a subclass of a basic type; `enclosing` is a list or dict inside itself.
inductive Value where
  | none
  | bool (b : Bool)
  | int (i : Int)
  | double (repr : Text)
  | str (t : Text)
  | base64 (encoded : Text)
  | dateTime (iso : Text)
  | array (items : List Value)
  | struct (members : List (Option Text × Value))
  | inst (id : Nat) (members : List (Option Text × Value))
  | plain (id : Nat) (type : Text)
  | enclosing (kind : Text)

-- `type(exc)`: its `__name__`, and what `str(type(exc))` gives.
structure ExceptionType where
  name : Text
  shown : Text
  kind : ExceptionKind
  deriving DecidableEq

def ExceptionType.builtin (name : String) : ExceptionType := ⟨text name,text ("<class '" ++ name ++ "'>"),.exception⟩

-- The class that `_convert_future_exc` puts in its place; since CPython 3.11 there is one TimeoutError only.
def ExceptionType.asyncio (type : ExceptionType) : ExceptionType :=
  match type.kind with
  | .cancelledError => ⟨type.name,text "<class 'asyncio.exceptions.CancelledError'>",.baseException⟩
  | .invalidStateError => ⟨type.name,text "<class 'asyncio.exceptions.InvalidStateError'>",.exception⟩
  | _ => type

structure ShownError where
  type : ExceptionType
  str : Text
  deriving DecidableEq

-- The exceptions, over what a Fault holds: `mute` is one whose `__str__` raises.
inductive Thrown (Obj : Type) where
  | fault (faultCode faultString : Obj)
  | error (shown : ShownError)
  | mute (type : ExceptionType) (raised : Thrown Obj)

namespace Thrown
variable {Obj : Type}

def kind : Thrown Obj → ExceptionKind
  | .fault _ _ => .exception
  | .error shown => shown.type.kind
  | .mute type _ => type.kind

def rebuilt (message : Text) : Thrown Obj → Thrown Obj
  | .fault faultCode faultString => .fault faultCode faultString
  | .error shown => .error ⟨shown.type.asyncio,message⟩
  | .mute type raised => .mute type.asyncio raised

theorem asyncio_stops {type : ExceptionType} (running : type.kind.stops = false) : type.asyncio.kind.stops = false := by
  unfold ExceptionType.asyncio
  split
  · rfl
  · rfl
  · exact running

instance : Exceptional (Thrown Obj) where
  kind := kind
  rebuilt := rebuilt
  runtimeError message := .error ⟨.builtin "RuntimeError",message⟩
  rebuilt_stops message exc running := by
    cases exc with
    | fault faultCode faultString => rfl
    | error shown => exact asyncio_stops running
    | mute type raised => exact asyncio_stops running

end Thrown

-- An exception with the values that its objects are.
abbrev Exn := Thrown Value

def typeError (message : Text) : ShownError := ⟨.builtin "TypeError",message⟩

def escape (s : Text) : Text := s.flatMap fun c =>
  if c = 38 then text "&amp;" else if c = 60 then text "&lt;" else if c = 62 then text "&gt;" else [c]

def MAXINT : Int := 2147483647
def MININT : Int := -2147483648

-- Marshaller.__dump and the dump_* methods it chooses from by the type.
mutual
def dump (allow_none : Bool) : Value → Except ShownError Text
  | .none =>
    if allow_none then .ok (text "<value><nil/></value>")
    else .error (typeError (text "cannot marshal None unless allow_none is enabled"))
  | .bool b => .ok (text "<value><boolean>" ++ text (if b then "1" else "0") ++ text "</boolean></value>\n")
  | .int i =>
    if i > MAXINT ∨ i < MININT then .error ⟨.builtin "OverflowError",text "int exceeds XML-RPC limits"⟩
    else .ok (text "<value><int>" ++ text (toString i) ++ text "</int></value>\n")
  | .double repr => .ok (text "<value><double>" ++ repr ++ text "</double></value>\n")
  | .str t => .ok (text "<value><string>" ++ escape t ++ text "</string></value>\n")
  | .base64 encoded => .ok (text "<value><base64>\n" ++ encoded ++ text "</base64></value>\n")
  | .dateTime iso => .ok (text "<value><dateTime.iso8601>" ++ iso ++ text "</dateTime.iso8601></value>\n")
  | .array items => do
    let data ← dumpItems allow_none items
    .ok (text "<value><array><data>\n" ++ data ++ text "</data></array></value>\n")
  | .struct members => do
    let data ← dumpMembers allow_none members
    .ok (text "<value><struct>\n" ++ data ++ text "</struct></value>\n")
  | .inst _ members => do
    let data ← dumpMembers allow_none members
    .ok (text "<value><struct>\n" ++ data ++ text "</struct></value>\n")
  | .plain _ type => .error (typeError (text "cannot marshal " ++ type ++ text " objects"))
  | .enclosing kind => .error (typeError (text "cannot marshal recursive " ++ kind))

def dumpItems (allow_none : Bool) : List Value → Except ShownError Text
  | [] => .ok []
  | v :: rest => do
    let first ← dump allow_none v
    let others ← dumpItems allow_none rest
    .ok (first ++ others)

def dumpMembers (allow_none : Bool) : List (Option Text × Value) → Except ShownError Text
  | [] => .ok []
  | (.none,_) :: _ => .error (typeError (text "dictionary key must be string"))
  | (.some key,v) :: rest => do
    let first ← dump allow_none v
    let others ← dumpMembers allow_none rest
    .ok (text "<member>\n<name>" ++ escape key ++ text "</name>\n" ++ first ++ text "</member>\n" ++ others)
end

-- The marshaller raises a TypeError or an OverflowError.
mutual
theorem dump_raises {v : Value} (ran : dump allow_none v = .error shown) : shown.type.kind = .exception := by
  cases v with
  | none =>
    simp only [dump] at ran
    split at ran <;> cases ran
    rfl
  | bool b => cases ran
  | int i =>
    simp only [dump] at ran
    split at ran <;> cases ran
    rfl
  | double repr => cases ran
  | str t => cases ran
  | base64 encoded => cases ran
  | dateTime iso => cases ran
  | array items =>
    simp only [dump] at ran
    cases dumped : dumpItems allow_none items with
    | ok data => simp [dumped,bind,Except.bind] at ran
    | error thrown =>
      simp only [dumped,bind,Except.bind,Except.error.injEq] at ran
      exact ran ▸ items_raise dumped
  | struct members =>
    simp only [dump] at ran
    cases dumped : dumpMembers allow_none members with
    | ok data => simp [dumped,bind,Except.bind] at ran
    | error thrown =>
      simp only [dumped,bind,Except.bind,Except.error.injEq] at ran
      exact ran ▸ members_raise dumped
  | inst id members =>
    simp only [dump] at ran
    cases dumped : dumpMembers allow_none members with
    | ok data => simp [dumped,bind,Except.bind] at ran
    | error thrown =>
      simp only [dumped,bind,Except.bind,Except.error.injEq] at ran
      exact ran ▸ members_raise dumped
  | plain id type => cases ran; rfl
  | enclosing kind => cases ran; rfl

theorem items_raise {items : List Value} (ran : dumpItems allow_none items = .error shown) : shown.type.kind = .exception := by
  cases items with
  | nil => cases ran
  | cons v rest =>
    simp only [dumpItems] at ran
    cases first : dump allow_none v with
    | error thrown =>
      simp only [first,bind,Except.bind,Except.error.injEq] at ran
      exact ran ▸ dump_raises first
    | ok data =>
      cases others : dumpItems allow_none rest with
      | ok more => simp [first,others,bind,Except.bind] at ran
      | error thrown =>
        simp only [first,others,bind,Except.bind,Except.error.injEq] at ran
        exact ran ▸ items_raise others

theorem members_raise {members : List (Option Text × Value)} (ran : dumpMembers allow_none members = .error shown) :
    shown.type.kind = .exception := by
  cases members with
  | nil => cases ran
  | cons entry rest =>
    obtain ⟨key,v⟩ := entry
    cases key with
    | none => cases ran; rfl
    | some key =>
      simp only [dumpMembers] at ran
      cases first : dump allow_none v with
      | error thrown =>
        simp only [first,bind,Except.bind,Except.error.injEq] at ran
        exact ran ▸ dump_raises first
      | ok data =>
        cases others : dumpMembers allow_none rest with
        | ok more => simp [first,others,bind,Except.bind] at ran
        | error thrown =>
          simp only [first,others,bind,Except.bind,Except.error.injEq] at ran
          exact ran ▸ members_raise others
end

-- What `dumps` is given by a server: a singleton tuple with methodresponse set, or a Fault.
inductive Payload where
  | result (value : Value)
  | fault (faultCode faultString : Value)

def faultStruct (faultCode faultString : Value) : Value :=
  .struct [(some (text "faultCode"),faultCode),(some (text "faultString"),faultString)]

def marshal (allow_none : Bool) : Payload → Except ShownError Text
  | .result value => do
    let data ← dump allow_none value
    .ok (text "<params>\n<param>\n" ++ data ++ text "</param>\n</params>\n")
  | .fault faultCode faultString => do
    let data ← dump allow_none (faultStruct faultCode faultString)
    .ok (text "<fault>\n" ++ data ++ text "</fault>\n")

def xmlheader (encoding : Text) : Text :=
  if encoding = text "utf-8" then text "<?xml version='1.0'?>\n"
  else text "<?xml version='1.0' encoding='" ++ encoding ++ text "'?>\n"

def dumps (allow_none : Bool) (encoding : Text) (payload : Payload) : Except ShownError Text := do
  let data ← marshal allow_none payload
  .ok (xmlheader encoding ++ text "<methodResponse>\n" ++ data ++ text "</methodResponse>\n")

def Payload.marshals (allow_none : Bool) (payload : Payload) : Bool := (marshal allow_none payload).isOk

def Value.marshals (allow_none : Bool) (value : Value) : Bool := (dump allow_none value).isOk

end XmlrpcExtended.Dispatch
