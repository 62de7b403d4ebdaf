import XmlrpcExtended.Marshaller
import XmlrpcExtended.PythonInt
import XmlrpcExtended.XmlDeclaration

namespace XmlrpcExtended.Dispatch

-- `stack` grows at its end; `marks` has the newest first.
structure Unmarshaller where
  type : Option Text
  stack : List Value
  marks : List Nat
  data : Text
  value : Bool
  methodname : Option Text

namespace Unmarshaller

def init : Unmarshaller := ⟨none,[],[],[],false,none⟩

def dispatched : List Text :=
  [text "nil",text "boolean",text "i1",text "i2",text "i4",text "i8",text "int",text "biginteger",text "double",
   text "float",text "bigdecimal",text "string",text "name",text "array",text "struct",text "base64",
   text "dateTime.iso8601",text "value",text "params",text "fault",text "methodName"]

-- `tag.split(':')[-1]`
def localName (tag : Text) : Text := (tag.reverse.takeWhile (· != 58)).reverse

-- `none` wherever the method raises.
def start (tag : Text) (u : Unmarshaller) : Option Unmarshaller :=
  let tag := localName tag
  if u.value = true ∧ tag ∉ dispatched then none
  else some {u with
    marks := if tag = text "array" ∨ tag = text "struct" then u.stack.length :: u.marks else u.marks
    data := []
    value := tag == text "value"}

def append (u : Unmarshaller) (v : Value) : Unmarshaller := {u with stack := u.stack ++ [v],value := false}

-- A key of a dict; lists and dicts are unhashable.
def keyOf : Value → Option (Option Text)
  | .str t => some (some t)
  | .array _ | .struct _ => none
  | _ => some none

def setItem (members : List (Option Text × Value)) (key : Option Text) (v : Value) : List (Option Text × Value) :=
  if key.isSome ∧ members.any (·.1 == key) then members.map fun entry => if entry.1 == key then (key,v) else entry
  else members ++ [(key,v)]

def dictOf (members : List (Option Text × Value)) : List Value → Option (List (Option Text × Value))
  | [] => some members
  | [_] => none
  | key :: v :: rest => (keyOf key).bind fun key => dictOf (setItem members key v) rest

def collect (u : Unmarshaller) (build : List Value → Option Value) : Option Unmarshaller :=
  match u.marks with
  | [] => none
  | mark :: marks =>
    (build (u.stack.drop mark)).map fun v => {u with stack := u.stack.take mark ++ [v],marks := marks,value := false}

-- The tags for floating point numbers, binary data and dates are not read.
def stop (tag : Text) (u : Unmarshaller) : Option Unmarshaller :=
  let tag := if tag ∈ dispatched then tag else localName tag
  if tag ∉ dispatched then some u
  else if tag = text "nil" then some (u.append .none)
  else if tag = text "boolean" then
    if u.data = text "0" then some (u.append (.bool false))
    else if u.data = text "1" then some (u.append (.bool true))
    else none
  else if tag ∈ [text "i1",text "i2",text "i4",text "i8",text "int",text "biginteger"] then
    (pythonInt u.data).map fun i => u.append (.int i)
  else if tag = text "string" ∨ tag = text "name" then some (u.append (.str u.data))
  else if tag = text "array" then u.collect fun items => some (.array items)
  else if tag = text "struct" then u.collect fun items => (dictOf [] items).map .struct
  else if tag = text "value" then some (if u.value then u.append (.str u.data) else u)
  else if tag = text "params" then some {u with type := some (text "params")}
  else if tag = text "fault" then some {u with type := some (text "fault")}
  else if tag = text "methodName" then some {u with methodname := some u.data,type := some (text "methodName")}
  else none

def handler : Xml.Handler Unmarshaller := ⟨start,fun c u => {u with data := u.data ++ [c]},stop⟩

theorem data_all (u : Unmarshaller) (s : Text) :
    s.foldl (fun u c => handler.data c u) u = {u with data := u.data ++ s} := by
  induction s generalizing u with
  | nil => simp
  | cons c rest ih =>
    rw [List.foldl_cons,ih]
    simp [handler]

end Unmarshaller

-- What `xmlrpc.client.loads` returns or raises for a document: a Fault, or the values and the method.
inductive Loaded where
  | fault (faultCode faultString : Value)
  | call (params : List Value) (methodname : Option Text)

def itemOf (members : List (Option Text × Value)) (key : Text) : Option Value :=
  (members.find? (·.1 == some key)).map (·.2)

-- `Fault(**self._stack[0])`
def faultOf : List Value → Option Loaded
  | .struct members :: _ =>
    if members.all (·.1.isSome) then
      (itemOf members (text "faultCode")).bind fun faultCode =>
        (itemOf members (text "faultString")).map fun faultString => .fault faultCode faultString
    else none
  | _ => none

def Unmarshaller.close (u : Unmarshaller) : Option Loaded :=
  if u.type = none ∨ u.marks ≠ [] then none
  else if u.type = some (text "fault") then faultOf u.stack
  else some (.call u.stack u.methodname)

-- `none` where the reader or the unmarshaller raises.
def loads (document : Text) : Option Loaded :=
  (Xml.read Unmarshaller.handler Unmarshaller.init document).bind Unmarshaller.close

def faultHead : Text :=
  text "<methodResponse>\n<fault>\n<value><struct>\n<member>\n<name>faultCode</name>\n<value><int>"

def faultMiddle : Text := text "</int></value>\n</member>\n<member>\n<name>faultString</name>\n<value><string>"

def faultTail : Text := text "</string></value>\n</member>\n</struct></value>\n</fault>\n</methodResponse>\n"

def faultBody (faultCode : Int) (faultString : Text) : Text :=
  faultHead ++ (text (toString faultCode) ++ (faultMiddle ++ (escape faultString ++ faultTail)))

def faultDocument (encoding : Text) (faultCode : Int) (faultString : Text) : Text :=
  xmlheader encoding ++ faultBody faultCode faultString

theorem dumps_fault (allow_none : Bool) (encoding : Text) (faultCode : Int) (faultString : Text) :
    dumps allow_none encoding (.fault (.int faultCode) (.str faultString)) =
      if faultCode > MAXINT ∨ faultCode < MININT then .error ⟨.builtin "OverflowError",text "int exceeds XML-RPC limits"⟩
      else .ok (faultDocument encoding faultCode faultString) := by
  by_cases large : faultCode > MAXINT ∨ faultCode < MININT
  · rw [if_pos large]
    simp [dumps,marshal,faultStruct,dump,dumpMembers,large,bind,Except.bind]
  · rw [if_neg large]
    simp only [dumps,marshal,faultStruct,dump,dumpMembers,large,bind,Except.bind,if_false]
    have open_ : faultHead = text "<methodResponse>\n" ++ text "<fault>\n" ++ text "<value><struct>\n" ++
        text "<member>\n<name>" ++ escape (text "faultCode") ++ text "</name>\n" ++ text "<value><int>" := by decide +kernel
    have middle : faultMiddle = text "</int></value>\n" ++ text "</member>\n" ++ text "<member>\n<name>" ++
        escape (text "faultString") ++ text "</name>\n" ++ text "<value><string>" := by decide +kernel
    have close : faultTail = text "</string></value>\n" ++ text "</member>\n" ++ text "</struct></value>\n" ++
        text "</fault>\n" ++ text "</methodResponse>\n" := by decide +kernel
    rw [faultDocument,faultBody,open_,middle,close]
    simp only [List.append_assoc,List.append_nil]

open Xml

theorem xmlheader_declared {encoding : Text} (other : encoding ≠ text "utf-8") :
    xmlheader encoding = text "<" ++ declarationOf encoding ++ text ">" ++ text "\n" := by
  have front : text "<?xml version='1.0' encoding='" = text "<" ++ text "?xml version='1.0' encoding='" := by decide
  have back : text "'?>\n" = text "'?" ++ text ">" ++ text "\n" := by decide
  rw [xmlheader,if_neg other,declarationOf,front,back]
  simp only [List.append_assoc]

theorem header_read {encoding : Text} (declared : encoding = text "utf-8" ∨ isEncodingName encoding = true)
    (h : Handler σ) (target : σ) :
    (Reader.init target).run h (xmlheader encoding) = some ⟨.content,[],true,false,target⟩ := by
  by_cases same : encoding = text "utf-8"
  · rw [xmlheader,if_pos same]
    rfl
  · rw [xmlheader_declared same,run_append,declaration_read h target (declared.resolve_left same)]
    rfl

def blank : Token := .data (text "\n")

def memberTokens (name : Text) : List Token :=
  [.start (text "member"),blank,.start (text "name"),.data name,.stop (text "name"),blank,.start (text "value")]

def headTokens : List Token :=
  [.start (text "methodResponse"),blank,.start (text "fault"),blank,.start (text "value"),.start (text "struct"),blank] ++
    memberTokens (text "faultCode") ++ [.start (text "int")]

def middleTokens : List Token :=
  [.stop (text "int"),.stop (text "value"),blank,.stop (text "member"),blank] ++
    memberTokens (text "faultString") ++ [.start (text "string")]

def tailTokens : List Token :=
  [.stop (text "string"),.stop (text "value"),blank,.stop (text "member"),blank,.stop (text "struct"),
    .stop (text "value"),blank,.stop (text "fault"),blank,.stop (text "methodResponse")]

theorem fault_written : faultHead = headTokens.flatMap Token.write ∧ faultMiddle = middleTokens.flatMap Token.write ∧
    faultTail = tailTokens.flatMap Token.write ++ text "\n" := by decide +kernel

def inFault : List Text := [text "value",text "member",text "struct",text "value",text "fault",text "methodResponse"]

def inCode (data : Text) : Unmarshaller := ⟨none,[.str (text "faultCode")],[0],data,false,none⟩

def inString (faultCode : Int) (data : Text) : Unmarshaller :=
  ⟨none,[.str (text "faultCode"),.int faultCode,.str (text "faultString")],[0],data,false,none⟩

theorem faultHead_read : Reader.run Unmarshaller.handler ⟨.content,[],true,false,.init⟩ faultHead =
    some ⟨.content,text "int" :: inFault,true,true,inCode []⟩ := by
  rw [fault_written.1]
  exact run_tokens false (by decide) rfl rfl

theorem faultMiddle_read {shown : Text} (parsed : pythonInt shown = some faultCode) :
    Reader.run Unmarshaller.handler ⟨.content,text "int" :: inFault,true,true,inCode shown⟩ faultMiddle =
      some ⟨.content,text "string" :: inFault,true,true,inString faultCode []⟩ := by
  rw [fault_written.2.1]
  apply run_tokens false (by decide) rfl
  have stopped : Reader.token Unmarshaller.handler ⟨.content,text "int" :: inFault,true,true,inCode shown⟩
      (.stop (text "int")) =
      some ⟨.content,inFault,true,true,⟨none,[.str (text "faultCode"),.int faultCode],[0],shown,false,none⟩⟩ := by
    change ((pythonInt shown).map _).map _ = _
    rw [parsed]
    rfl
  change (Reader.token _ _ (.stop (text "int"))).bind _ = _
  rw [stopped]
  rfl

def readFault (faultCode : Int) (faultString data : Text) : Unmarshaller :=
  ⟨some (text "fault"),
    [.struct [(some (text "faultCode"),.int faultCode),(some (text "faultString"),.str faultString)]],[],data,false,none⟩

-- Of the line ends between the end tags nothing is ever made.
theorem faultTail_read (returned : Bool) (faultCode : Int) (shown : Text) :
    ∃ data, Reader.run Unmarshaller.handler ⟨.after returned,text "string" :: inFault,true,true,inString faultCode shown⟩
      faultTail = some ⟨.content,[],true,true,readFault faultCode shown data⟩ := by
  have folded : tailTokens.foldlM (Reader.token Unmarshaller.handler)
      ⟨.after returned,text "string" :: inFault,true,true,inString faultCode shown⟩ =
      some ⟨.content,[],true,true,readFault faultCode shown (shown ++ [10] ++ [10] ++ [10] ++ [10])⟩ := by
    rfl
  rw [fault_written.2.2,run_append,run_tokens returned (by decide) rfl folded]
  exact ⟨_,rfl⟩

theorem shown_bounds {faultCode : Int} (member : c ∈ text (toString faultCode)) : 45 ≤ c ∧ c ≤ 57 := by
  rw [Int.toString_eq_repr,Int.repr_eq_if] at member
  split at member
  · have digit := repr_clean member
    omega
  · have shown : text ("-" ++ (-faultCode).toNat.repr) = 45 :: text (-faultCode).toNat.repr := by simp [text]
    rw [shown] at member
    rcases List.mem_cons.mp member with rfl | inside
    · omega
    · have digit := repr_clean inside
      omega

theorem shown_plain (faultCode : Int) (member : c ∈ text (toString faultCode)) :
    isChar c = true ∧ c ≠ 13 ∧ entity c = [c] := by
  have bounds := shown_bounds member
  refine ⟨?_,by omega,?_⟩
  · simp only [isChar,Bool.or_eq_true,Bool.and_eq_true,decide_eq_true_eq,beq_iff_eq]
    omega
  · rw [entity,if_neg (by omega),if_neg (by omega),if_neg (by omega)]

theorem code_read (faultCode : Int) :
    Reader.run Unmarshaller.handler ⟨.content,text "int" :: inFault,true,true,inCode []⟩ (text (toString faultCode)) =
      some ⟨.content,text "int" :: inFault,true,true,inCode (text (toString faultCode))⟩ := by
  rw [run_plain Unmarshaller.handler true (text "int") inFault (inCode []) fun c member => shown_plain faultCode member,
    Unmarshaller.data_all]
  rfl

theorem string_read (faultCode : Int) {faultString : Text} (valid : faultString.all isChar = true) :
    Reader.run Unmarshaller.handler ⟨.content,text "string" :: inFault,true,true,inString faultCode []⟩ (escape faultString) =
      some ⟨.after (endsReturned false faultString),text "string" :: inFault,true,true,
        inString faultCode (newlines false faultString)⟩ := by
  have ran := run_escaped Unmarshaller.handler false true (text "string") inFault (inString faultCode []) faultString
  rw [Unmarshaller.data_all,if_pos valid] at ran
  exact ran

theorem faultBody_read {faultCode : Int} {faultString : Text} (small : faultCode.natAbs < 10 ^ 10)
    (valid : faultString.all isChar = true) :
    ∃ data, Reader.run Unmarshaller.handler ⟨.content,[],true,false,.init⟩ (faultBody faultCode faultString) =
      some ⟨.content,[],true,true,readFault faultCode (newlines false faultString) data⟩ := by
  obtain ⟨data,closed⟩ := faultTail_read (endsReturned false faultString) faultCode (newlines false faultString)
  refine ⟨data,?_⟩
  rw [faultBody,run_append,faultHead_read,Option.bind_some,run_append,code_read,Option.bind_some,run_append,
    faultMiddle_read (pythonInt_toString faultCode small),Option.bind_some,run_append,string_read faultCode valid,
    Option.bind_some,closed]

theorem fault_chars {encoding : Text} {faultCode : Int} {faultString : Text} {last : Unmarshaller}
    (made : Xml.read Unmarshaller.handler .init (faultDocument encoding faultCode faultString) = some last) :
    faultString.all isChar = true := by
  obtain ⟨_,ran,_⟩ := read_ran made
  have chars := run_chars ran
  rw [faultDocument,faultBody] at chars
  simp only [List.all_append,Bool.and_eq_true] at chars
  rw [← escaped_chars]
  exact chars.2.2.2.2.1

theorem header_unclosed {encoding : Text} (declared : encoding = text "utf-8" ∨ isEncodingName encoding = true) :
    Unclosed (xmlheader encoding) := by
  have fixed : 93 ∉ text "<?xml version='1.0'?>\n" ∧ 93 ∉ text "<?xml version='1.0' encoding='" ∧ 93 ∉ text "'?>\n" := by decide
  unfold xmlheader
  split
  · exact unclosed_plain (by decide) fixed.1
  · rename_i other
    refine unclosed_plain (by simp [text]) ?_
    have named := Bool.and_eq_true_iff.mp (declared.resolve_left other)
    intro member
    simp only [List.mem_append,fixed,false_or,or_false] at member
    exact absurd (List.all_eq_true.mp named.1 93 member) (by decide)

theorem number_unclosed (n : Int) : Unclosed (text (toString n)) :=
  unclosed_text fun member => by
    have bounds := shown_bounds member
    omega

theorem fault_unclosed {encoding string : Text} (declared : encoding = text "utf-8" ∨ isEncodingName encoding = true)
    (faultCode : Int) (unclosed : Unclosed string) :
    Unclosed (xmlheader encoding ++ (faultHead ++ (text (toString faultCode) ++ (faultMiddle ++ (string ++ faultTail))))) := by
  have fixed : 93 ∉ faultHead ∧ 93 ∉ faultMiddle ∧ 93 ∉ faultTail := by decide +kernel
  have head : Unclosed faultHead := unclosed_plain (by decide +kernel) fixed.1
  have middle : Unclosed faultMiddle := unclosed_plain (by decide +kernel) fixed.2.1
  have tail : Unclosed faultTail := unclosed_plain (by decide +kernel) fixed.2.2
  exact (header_unclosed declared).append (head.append ((number_unclosed faultCode).append (middle.append (unclosed.append tail))))

theorem loads_fault {encoding : Text} {faultCode : Int} (declared : encoding = text "utf-8" ∨ isEncodingName encoding = true)
    (small : faultCode.natAbs < 10 ^ 10) (faultString : Text) :
    loads (faultDocument encoding faultCode faultString) =
      if faultString.all isChar = true then some (.fault (.int faultCode) (.str (newlines false faultString))) else none := by
  by_cases valid : faultString.all isChar = true
  · obtain ⟨data,ran⟩ := faultBody_read small valid
    have unclosed := fault_unclosed declared faultCode (escaped_unclosed faultString)
    change Unclosed (faultDocument encoding faultCode faultString) at unclosed
    rw [if_pos valid,loads,read_unclosed unclosed,faultDocument,run_append,header_read declared,Option.bind_some,ran]
    rfl
  · rw [if_neg valid,loads,Option.bind_eq_none_iff]
    exact fun last made => absurd (fault_chars made) valid

-- The string comes back as it was, of all strings that an XML document can hold unchanged.
theorem loads_fault_same {encoding : Text} {faultCode : Int} (declared : encoding = text "utf-8" ∨ isEncodingName encoding = true)
    (small : faultCode.natAbs < 10 ^ 10) (faultString : Text) :
    loads (faultDocument encoding faultCode faultString) = some (.fault (.int faultCode) (.str faultString)) ↔
      ∀ c ∈ faultString, isChar c = true ∧ c ≠ 13 := by
  rw [loads_fault declared small]
  constructor
  · intro same
    split at same
    · rename_i valid
      have string : newlines false faultString = faultString := by simpa using same
      refine fun c member => ⟨List.all_eq_true.mp valid c member,?_⟩
      rintro rfl
      exact newlines_same.mp string member
    · cases same
  · intro characters
    have valid : faultString.all isChar = true := List.all_eq_true.mpr fun c member => (characters c member).1
    have string := newlines_same.mpr fun member => (characters 13 member).2 rfl
    rw [if_pos valid,string]

theorem loads_undeclared {encoding : Text} {faultCode : Int} (other : encoding ≠ text "utf-8")
    (unnamed : isEncodingName encoding = false) (small : faultCode.natAbs < 10 ^ 10) (faultString : Text) :
    loads (faultDocument encoding faultCode faultString) = none := by
  rw [loads,Option.bind_eq_none_iff]
  intro last made
  obtain ⟨data,ran⟩ := faultBody_read small (fault_chars made)
  have parts : faultDocument encoding faultCode faultString =
      text "<" ++ declarationOf encoding ++ text ">" ++ (text "\n" ++ faultBody faultCode faultString) := by
    rw [faultDocument,xmlheader_declared other,List.append_assoc]
  have started : Reader.run Unmarshaller.handler ⟨.content,[],true,false,.init⟩ (text "\n") =
      some ⟨.content,[],true,false,.init⟩ := rfl
  have balanced : Reader.run Unmarshaller.handler ⟨.content,[],true,false,.init⟩ (text "\n" ++ faultBody faultCode faultString) =
      some ⟨.content,[],true,true,readFault faultCode (newlines false faultString) data⟩ := by
    rw [run_append,started,Option.bind_some,ran]
  rw [parts,undeclared_refused Unmarshaller.handler .init unnamed balanced] at made
  cases made

end XmlrpcExtended.Dispatch
