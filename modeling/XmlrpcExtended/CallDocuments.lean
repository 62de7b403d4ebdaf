import XmlrpcExtended.ReadableFaults
import XmlrpcExtended.ValueReading

namespace XmlrpcExtended.Dispatch
open Xml Charset Unmarshaller

-- The parameter block of Marshaller.dumps, one value after another.
def marshalParams (allow_none : Bool) : List Value → Except ShownError Text
  | [] => .ok []
  | v :: rest => do
    let first ← dump allow_none v
    let others ← marshalParams allow_none rest
    .ok (text "<param>\n" ++ first ++ text "</param>\n" ++ others)

-- `dumps` as a client calls it, with a method name; an empty one is as none.
def dumpsCall (allow_none : Bool) (encoding methodname : Text) (params : List Value) : Except ShownError Text := do
  let data ← marshalParams allow_none params
  let data := text "<params>\n" ++ data ++ text "</params>\n"
  if methodname = [] then .ok data
  else .ok (xmlheader encoding ++ text "<methodCall>\n<methodName>" ++ methodname ++ text "</methodName>\n" ++ data ++
    text "</methodCall>\n")

def Payload.within (fits : Text → Bool) : Payload → Bool
  | .result value => value.within fits
  | .fault faultCode faultString => faultCode.within fits && faultString.within fits

abbrev Payload.readable (payload : Payload) : Bool := payload.within isText

def Payload.native : Payload → Bool
  | .result value => value.native
  | .fault faultCode faultString => faultCode.native && faultString.native

def Payload.asSent : Payload → Loaded
  | .result value => .call [value] none
  | .fault faultCode faultString => .fault faultCode faultString

def Payload.received : Payload → Loaded
  | .result value => .call [value.received] none
  | .fault faultCode faultString => .fault faultCode.received faultString.received

section
variable {cs : Charset} {allow_none : Bool}

theorem params_dumped {v : Value} {rest : List Value} {data : Text} (dumped : marshalParams allow_none (v :: rest) = .ok data) :
    ∃ front back, dump allow_none v = .ok front ∧ marshalParams allow_none rest = .ok back ∧
      data = text "<param>\n" ++ front ++ text "</param>\n" ++ back := by
  unfold marshalParams at dumped
  obtain ⟨front,first,remaining⟩ := bind_ok dumped
  obtain ⟨back,later,same⟩ := bind_ok remaining
  cases same
  exact ⟨front,back,first,later,rfl⟩

theorem params_read (cs : Charset) {params : List Value} {data : Text} (readable : itemsWithin isText params = true)
    (dumped : marshalParams allow_none params = .ok data) (u : Unmarshaller) (clear : u.value = false) :
    ∃ last, Reads handler (cs.replaced data) u (u.pushed (receivedItems params) last) := by
  induction params generalizing data u with
  | nil =>
    cases dumped
    refine ⟨u.data,?_⟩
    change Reads handler [] u (u.pushed [] u.data)
    rw [pushed_nothing clear]
    exact Reads.nil
  | cons v rest ih =>
    obtain ⟨one,others⟩ := Bool.and_eq_true_iff.mp readable
    obtain ⟨front,back,first,later,rfl⟩ := params_dumped dumped
    have opens : cs.replaced (text "<param>\n") = opening (text "param") ++ [10] := literal (by decide) (by decide)
    have closes : cs.replaced (text "</param>\n") = closing (text "param") ++ [10] := literal (by decide) (by decide)
    have parts : cs.replaced (text "<param>\n" ++ front ++ text "</param>\n" ++ back) =
        ((opening (text "param") ++ (([10] ++ cs.replaced front) ++ closing (text "param"))) ++ [10]) ++ cs.replaced back := by
      rw [replaced_append,replaced_append,replaced_append,opens,closes]
      simp only [List.append_assoc]
    have single : ∃ last, Reads handler
        ((opening (text "param") ++ (([10] ++ cs.replaced front) ++ closing (text "param"))) ++ [10]) u
        (u.pushed [v.received] last) := by
      apply ended
      exact wrapped (by decide) (by decide) (by decide) clear fun u _ => value_read cs allow_none v one first u
    rw [parts]
    exact next_read single (ih others later)

theorem block_read (cs : Charset) {params : List Value} {data : Text} (readable : itemsWithin isText params = true)
    (dumped : marshalParams allow_none params = .ok data) (u : Unmarshaller) (clear : u.value = false) :
    ∃ last, Reads handler (cs.replaced (text "<params>\n" ++ data ++ text "</params>\n")) u
      {u.pushed (receivedItems params) last with type := some (text "params")} := by
  have opens : cs.replaced (text "<params>\n") = opening (text "params") ++ [10] := literal (by decide) (by decide)
  have closes : cs.replaced (text "</params>\n") = closing (text "params") ++ [10] := literal (by decide) (by decide)
  have parts : cs.replaced (text "<params>\n" ++ data ++ text "</params>\n") =
      (opening (text "params") ++ (([10] ++ cs.replaced data) ++ closing (text "params"))) ++ [10] := by
    rw [replaced_append,replaced_append,opens,closes]
    simp only [List.append_assoc]
  have kind : localName (text "params") ≠ text "array" ∧ localName (text "params") ≠ text "struct" ∧
      localName (text "params") ≠ text "value" := by decide
  have started : handler.start (text "params") u = some {u with data := [],value := false} :=
    start_other u kind (.inl clear)
  obtain ⟨last,reads⟩ := params_read cs readable dumped {u with data := [10],value := false} rfl
  refine ⟨last ++ [10],?_⟩
  rw [parts]
  exact (Reads.element (by decide) started ((line_end _).append reads) rfl).append (line_end _)

theorem fault_read (cs : Charset) {faultCode faultString : Value} {data : Text}
    (readable : (Payload.fault faultCode faultString).readable = true)
    (dumped : dump allow_none (faultStruct faultCode faultString) = .ok data) (u : Unmarshaller) (clear : u.value = false) :
    ∃ last, Reads handler (cs.replaced (text "<fault>\n" ++ data ++ text "</fault>\n")) u
      {u.pushed [.struct [(some (text "faultCode"),faultCode.received),(some (text "faultString"),faultString.received)]] last with
        type := some (text "fault")} := by
  have opens : cs.replaced (text "<fault>\n") = opening (text "fault") ++ [10] := literal (by decide) (by decide)
  have closes : cs.replaced (text "</fault>\n") = closing (text "fault") ++ [10] := literal (by decide) (by decide)
  have parts : cs.replaced (text "<fault>\n" ++ data ++ text "</fault>\n") =
      (opening (text "fault") ++ (([10] ++ cs.replaced data) ++ closing (text "fault"))) ++ [10] := by
    rw [replaced_append,replaced_append,opens,closes]
    simp only [List.append_assoc]
  have kind : localName (text "fault") ≠ text "array" ∧ localName (text "fault") ≠ text "struct" ∧
      localName (text "fault") ≠ text "value" := by decide
  have started : handler.start (text "fault") u = some {u with data := [],value := false} :=
    start_other u kind (.inl clear)
  obtain ⟨code,string⟩ := Bool.and_eq_true_iff.mp readable
  have inside : (faultStruct faultCode faultString).readable = true := by
    have keys : isText (text "faultCode") = true ∧ isText (text "faultString") = true := by decide
    simp [faultStruct,Value.readable,Value.within,membersWithin,keys,code,string]
  have got : (faultStruct faultCode faultString).received =
      .struct [(some (text "faultCode"),faultCode.received),(some (text "faultString"),faultString.received)] := by
    have keys : newlines false (text "faultCode") = text "faultCode" ∧ newlines false (text "faultString") = text "faultString" := by
      decide
    have apart : [some (text "faultCode"),some (text "faultString")].Nodup := by decide
    simp only [faultStruct,Value.received,receivedMembers,Option.map_some,keys]
    exact congrArg Value.struct (merged_distinct apart)
  obtain ⟨last,reads⟩ := value_read cs allow_none _ inside dumped {u with data := [10],value := false}
  rw [got] at reads
  refine ⟨last ++ [10],?_⟩
  rw [parts]
  exact (Reads.element (by decide) started ((line_end _).append reads) rfl).append (line_end _)

-- The element that a document consists of.
theorem root_read {encoding data : Text} {last : Unmarshaller} (root front back : Text)
    (declared : encoding = text "utf-8" ∨ isEncodingName encoding = true)
    (opens : front = opening root ++ [10]) (closes : back = closing root ++ [10]) (ascii : ∀ c ∈ front ++ back, c < 128)
    (named : isName root = true) (unknown : localName root ∉ dispatched ∧ root ∉ dispatched)
    (body : Reads handler (cs.replaced data) {Unmarshaller.init with data := [10]} last) :
    Xml.read handler Unmarshaller.init (cs.replaced (xmlheader encoding ++ front ++ data ++ back)) = some last := by
  have parts : cs.replaced (xmlheader encoding ++ front ++ data ++ back) =
      xmlheader encoding ++ (opening root ++ (([10] ++ cs.replaced data) ++ (closing root ++ [10]))) := by
    rw [replaced_append,replaced_append,replaced_append,replaced_ascii fun c => header_ascii declared,
      literal opens fun c member => ascii c (List.mem_append_left _ member),
      literal closes fun c member => ascii c (List.mem_append_right _ member)]
    simp only [List.append_assoc]
  have other : ∀ tag ∈ dispatched, localName root ≠ tag := fun tag known same => unknown.1 (same ▸ known)
  have started : handler.start root Unmarshaller.init = some Unmarshaller.init :=
    start_other Unmarshaller.init ⟨other _ (by decide),other _ (by decide),other _ (by decide)⟩ (.inl rfl)
  have stopped : handler.stop root last = some last := by
    simp only [handler,stop,unknown.1,unknown.2,if_false,not_false_eq_true,if_true]
  rw [parts]
  exact document_read (header_unclosed declared) (header_read declared handler Unmarshaller.init) named started ((line_end _).append body) stopped

theorem block_dumped {v : Value} {data : Text} (dumped : marshal allow_none (.result v) = .ok data) :
    ∃ inner, marshalParams allow_none [v] = .ok inner ∧ data = text "<params>\n" ++ inner ++ text "</params>\n" := by
  unfold marshal at dumped
  obtain ⟨front,first,same⟩ := bind_ok dumped
  cases same
  have opens : text "<params>\n<param>\n" = text "<params>\n" ++ text "<param>\n" := by decide
  have closes : text "</param>\n</params>\n" = text "</param>\n" ++ text "</params>\n" := by decide
  refine ⟨text "<param>\n" ++ front ++ text "</param>\n" ++ [],?_,?_⟩
  · simp only [marshalParams,first,bind,Except.bind]
  · rw [opens,closes]
    simp only [List.append_assoc,List.append_nil]

theorem payload_read (cs : Charset) {payload : Payload} {data : Text} (readable : payload.readable = true)
    (dumped : marshal allow_none payload = .ok data) :
    ∃ last, Reads handler (cs.replaced data) {Unmarshaller.init with data := [10]} last ∧ last.close = some payload.received := by
  cases payload with
  | result v =>
    obtain ⟨inner,made,rfl⟩ := block_dumped dumped
    have single : itemsWithin isText [v] = true := Bool.and_eq_true_iff.mpr ⟨readable,rfl⟩
    obtain ⟨last,reads⟩ := block_read cs single made {Unmarshaller.init with data := [10]} rfl
    exact ⟨_,reads,rfl⟩
  | fault faultCode faultString =>
    unfold marshal at dumped
    obtain ⟨inner,made,same⟩ := bind_ok dumped
    cases same
    obtain ⟨last,reads⟩ := fault_read cs readable made {Unmarshaller.init with data := [10]} rfl
    exact ⟨_,reads,rfl⟩

theorem response_read (cs : Charset) {encoding : Text} {payload : Payload} {document : Text}
    (declared : encoding = text "utf-8" ∨ isEncodingName encoding = true)
    (dumped : dumps allow_none encoding payload = .ok document) (readable : payload.readable = true) :
    loads (cs.replaced document) = some payload.received := by
  unfold dumps at dumped
  obtain ⟨data,made,same⟩ := bind_ok dumped
  cases same
  obtain ⟨last,reads,closed⟩ := payload_read cs readable made
  have read := root_read (text "methodResponse") (text "<methodResponse>\n") (text "</methodResponse>\n") declared
    (by decide) (by decide) (by decide) (by decide) (by decide) reads
  rw [loads,read,Option.bind_some,closed]

theorem payload_chars {payload : Payload} {data : Text} (typed : payload.within (fun _ => true) = true)
    (dumped : marshal allow_none payload = .ok data) : data.all isChar = payload.readable := by
  cases payload with
  | result v =>
    unfold marshal at dumped
    obtain ⟨inner,made,same⟩ := bind_ok dumped
    cases same
    rw [framed (by decide)]
    exact value_chars allow_none v typed made
  | fault faultCode faultString =>
    unfold marshal at dumped
    obtain ⟨inner,made,same⟩ := bind_ok dumped
    cases same
    obtain ⟨code,string⟩ := Bool.and_eq_true_iff.mp typed
    have whole : (faultStruct faultCode faultString).within (fun _ => true) = true := by
      simp [faultStruct,Value.within,membersWithin,code,string]
    have keys : isText (text "faultCode") = true ∧ isText (text "faultString") = true := by decide
    rw [framed (by decide),value_chars allow_none _ whole made]
    simp only [faultStruct,Value.readable,Payload.readable,Payload.within,Value.within,membersWithin,Option.all_some,keys,
      Bool.true_and,Bool.and_true]

theorem response_chars {encoding : Text} {payload : Payload} {document : Text}
    (declared : encoding = text "utf-8" ∨ isEncodingName encoding = true) (typed : payload.within (fun _ => true) = true)
    (dumped : dumps allow_none encoding payload = .ok document) : document.all isChar = payload.readable := by
  unfold dumps at dumped
  obtain ⟨data,made,same⟩ := bind_ok dumped
  cases same
  have header : (xmlheader encoding).all isChar = true := by
    obtain ran := header_read declared handler Unmarshaller.init
    exact run_chars ran
  have fixed : (text "<methodResponse>\n").all isChar = true ∧ (text "</methodResponse>\n").all isChar = true := by decide
  simp only [List.all_append,header,fixed,payload_chars typed made,Bool.true_and,Bool.and_true]

theorem received_asSent {payload : Payload} (plain : payload.within isPlain = true) (native : payload.native = true) :
    payload.received = payload.asSent := by
  cases payload with
  | result v =>
    have same := received_same v plain native
    simp only [Payload.received,Payload.asSent,same]
  | fault faultCode faultString =>
    obtain ⟨code,string⟩ := Bool.and_eq_true_iff.mp plain
    obtain ⟨first,second⟩ := Bool.and_eq_true_iff.mp native
    simp only [Payload.received,Payload.asSent,received_same faultCode code first,received_same faultString string second]

-- Of a response in any charset the reader makes what was sent, but for line ends, objects and keys that fall together.
theorem response_round_trip (allow_none : Bool) (encoding : Text) (payload : Payload) (document : Text)
    (declared : encoding = text "utf-8" ∨ isEncodingName encoding = true)
    (dumped : dumps allow_none encoding payload = .ok document) (typed : payload.within (fun _ => true) = true) :
    loads document = (if payload.readable then some payload.received else none) ∧
    (payload.readable = true → ∀ cs : Charset, loads (cs.replaced document) = some payload.received) ∧
    (payload.within isPlain = true → payload.native = true → payload.received = payload.asSent) := by
  have anyCharset : payload.readable = true → ∀ cs : Charset, loads (cs.replaced document) = some payload.received :=
    fun readable cs => response_read cs declared dumped readable
  refine ⟨?_,anyCharset,received_asSent⟩
  have chars := response_chars declared typed dumped
  by_cases readable : payload.readable = true
  · rw [readable] at chars
    have kept : utf8.replaced document = document :=
      replaced_same fun c member => utf8_has (List.all_eq_true.mp chars c member)
    rw [if_pos readable,← anyCharset readable utf8,kept]
  · rw [if_neg readable,loads,Option.bind_eq_none_iff]
    intro last read
    obtain ⟨_,ran,_⟩ := read_ran read
    exact absurd (chars.symm.trans (run_chars ran)) readable

def nested : Payload :=
  .result (.struct [(some (text "clé"),.array [.int (-3),.none]),(some (text "b"),.str (text "<&>"))])

theorem response_round_trip_nested : ∃ document, dumps true (text "iso-8859-1") nested = .ok document ∧
    loads document = some nested.asSent := by
  obtain ⟨read,_,same⟩ := response_round_trip true (text "iso-8859-1") nested _ (.inr (by decide)) rfl (by decide)
  rw [if_pos (by decide),same (by decide) (by decide)] at read
  exact ⟨_,rfl,read⟩

-- The name is written as it is, without escapes.
def isMethodName (name : Text) : Bool := !name.isEmpty && name.all fun c => isChar c && c != 13 && c != 38 && c != 60 && c != 62

theorem method_plain {name : Text} (plain : isMethodName name = true) (member : c ∈ name) :
    isChar c = true ∧ c ≠ 13 ∧ entity c = [c] := by
  have letter := List.all_eq_true.mp (Bool.and_eq_true_iff.mp plain).2 c member
  simp only [Bool.and_eq_true,bne_iff_ne,ne_eq] at letter
  obtain ⟨⟨⟨⟨valid,carriage⟩,amp⟩,lt⟩,gt⟩ := letter
  exact ⟨valid,carriage,by rw [entity,if_neg amp,if_neg lt,if_neg gt]⟩

theorem name_read (cs : Charset) {name : Text} (plain : isMethodName name = true) (u : Unmarshaller) (clear : u.value = false) :
    Reads handler (opening (text "methodName") ++ (cs.replaced name ++ closing (text "methodName"))) u
      {u with data := name,value := false,methodname := some name,type := some (text "methodName")} := by
  have chars : ∀ c ∈ name, isChar c = true ∧ c ≠ 13 ∧ entity c = [c] := fun c member => method_plain plain member
  have written : escaped name = name := escaped_same fun c member => (chars c member).2.2
  have kept : newlines false name = name := newlines_same.mpr fun member => (chars 13 member).2.1 rfl
  have kind : localName (text "methodName") ≠ text "array" ∧ localName (text "methodName") ≠ text "struct" ∧
      localName (text "methodName") ≠ text "value" := by decide
  have started : handler.start (text "methodName") u = some {u with data := [],value := false} :=
    start_other u kind (.inl clear)
  have valid : name.all isChar = true := List.all_eq_true.mpr fun c member => (chars c member).1
  rw [← written]
  apply Reads.leaf cs name (by decide) started valid
  rw [data_all,kept,written]
  rfl

theorem name_some {name : Text} (plain : isMethodName name = true) : name ≠ [] := by
  rintro rfl
  cases plain

theorem call_headed {encoding methodname : Text} {params : List Value} {document : Text} (named : isMethodName methodname = true)
    (dumped : dumpsCall allow_none encoding methodname params = .ok document) : ∃ rest, document = xmlheader encoding ++ rest := by
  unfold dumpsCall at dumped
  obtain ⟨data,_,same⟩ := bind_ok dumped
  rw [if_neg (name_some named)] at same
  cases same
  simp only [List.append_assoc]
  exact ⟨_,rfl⟩

theorem request_read (cs : Charset) {encoding methodname : Text} {params : List Value} {document : Text}
    (declared : encoding = text "utf-8" ∨ isEncodingName encoding = true) (named : isMethodName methodname = true)
    (dumped : dumpsCall allow_none encoding methodname params = .ok document) (readable : itemsWithin isText params = true) :
    loads (cs.replaced document) = some (.call (receivedItems params) (some methodname)) := by
  unfold dumpsCall at dumped
  obtain ⟨data,made,same⟩ := bind_ok dumped
  rw [if_neg (name_some named)] at same
  cases same
  have front : text "<methodCall>\n<methodName>" = text "<methodCall>\n" ++ opening (text "methodName") := by decide
  have opens : cs.replaced (opening (text "methodName")) = opening (text "methodName") := literal rfl (by decide)
  have closes : cs.replaced (text "</methodName>\n") = closing (text "methodName") ++ [10] := literal (by decide) (by decide)
  have parts : cs.replaced (opening (text "methodName") ++ methodname ++ text "</methodName>\n" ++
      (text "<params>\n" ++ data ++ text "</params>\n")) =
      ((opening (text "methodName") ++ (cs.replaced methodname ++ closing (text "methodName"))) ++ [10]) ++
        cs.replaced (text "<params>\n" ++ data ++ text "</params>\n") := by
    rw [replaced_append,replaced_append,replaced_append,opens,closes]
    simp only [List.append_assoc]
  have document : xmlheader encoding ++ text "<methodCall>\n<methodName>" ++ methodname ++ text "</methodName>\n" ++
      (text "<params>\n" ++ data ++ text "</params>\n") ++ text "</methodCall>\n" =
      xmlheader encoding ++ text "<methodCall>\n" ++ (opening (text "methodName") ++ methodname ++ text "</methodName>\n" ++
        (text "<params>\n" ++ data ++ text "</params>\n")) ++ text "</methodCall>\n" := by
    rw [front]
    simp only [List.append_assoc]
  have reads := (name_read cs named {Unmarshaller.init with data := [10]} rfl).append (line_end _)
  obtain ⟨last,block⟩ := block_read cs readable made
    {Unmarshaller.init with data := methodname ++ [10],methodname := some methodname,type := some (text "methodName")} rfl
  have body := reads.append block
  rw [← parts] at body
  have read := root_read (text "methodCall") (text "<methodCall>\n") (text "</methodCall>\n") declared
    (by decide) (by decide) (by decide) (by decide) (by decide) body
  rw [document,loads,read]
  rfl

theorem request_round_trip (cs : Charset) (allow_none : Bool) (encoding methodname : Text) (params : List Value) (document : Text)
    (declared : encoding = text "utf-8" ∨ isEncodingName encoding = true) (named : isMethodName methodname = true)
    (dumped : dumpsCall allow_none encoding methodname params = .ok document) (readable : itemsWithin isText params = true) :
    loads (cs.replaced document) = some (.call (receivedItems params) (some methodname)) ∧
    (itemsWithin isPlain params = true → itemsNative params = true → receivedItems params = params) :=
  ⟨request_read cs declared named dumped readable,items_same params⟩

theorem request_round_trip_nested : ∃ document,
    dumpsCall true (text "utf-8") (text "f.g") [.str (text "clé"),.array [.int (-3),.none]] = .ok document ∧
      loads (usAscii.replaced document) = some (.call [.str (text "clé"),.array [.int (-3),.none]] (some (text "f.g"))) := by
  obtain ⟨read,same⟩ := request_round_trip usAscii true (text "utf-8") (text "f.g")
    [.str (text "clé"),.array [.int (-3),.none]] _ (.inl rfl) (by decide) rfl (by decide)
  rw [same (by decide) (by decide)] at read
  exact ⟨_,rfl,read⟩

end

end XmlrpcExtended.Dispatch
