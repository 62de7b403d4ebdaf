import XmlrpcExtended.RejectResponse

namespace XmlrpcExtended.Server

open Dispatch

-- The lines of a head, each of them ended by CRLF, up to the empty one, and what comes after it.
def splitHead (line : Bytes) : Bytes → Option (List Bytes × Bytes)
  | [] => none
  | b :: rest =>
    if line.getLast? = some 13 ∧ b = 10 then
      if line = [13] then some ([],rest)
      else (splitHead [] rest).map fun (lines,body) => (line.dropLast :: lines,body)
    else splitHead (line ++ [b]) rest

def contentLengthField : Bytes := Text.ascii (text "Content-Length: ")

def contentLength (lines : List Bytes) : Option Nat :=
  (lines.find? (contentLengthField.isPrefixOf ·)).bind fun line =>
    (scanDigits ((line.drop contentLengthField.length).map UInt8.toNat)).map digitsValue

theorem splitHead_line {line : Bytes} (before rest : Bytes) (single : 13 ∉ before ++ line) (some_ : before ++ line ≠ []) :
    splitHead before (line ++ 13 :: 10 :: rest) =
      (splitHead [] rest).map fun (lines,body) => ((before ++ line) :: lines,body) := by
  induction line generalizing before with
  | nil =>
    rw [List.append_nil] at single some_
    have open_ : ¬ (before.getLast? = some 13 ∧ (13 : UInt8) = 10) := by simp
    have whole : ¬ before ++ [13] = [13] := by simpa using some_
    simp [splitHead,whole]
  | cons b line ih =>
    have open_ : ¬ (before.getLast? = some 13 ∧ b = 10) := by
      rintro ⟨last,_⟩
      exact single (List.mem_append_left _ (List.mem_of_getLast? last))
    have assoc : before ++ [b] ++ line = before ++ b :: line := by simp
    rw [List.cons_append,splitHead,if_neg open_,ih (before ++ [b]) (by rwa [assoc]) (by rwa [assoc]),assoc]

theorem splitHead_lines {lines : List Bytes} (body : Bytes) (plain : ∀ line ∈ lines, 13 ∉ line ∧ line ≠ []) :
    splitHead [] (lines.flatMap (· ++ [13,10]) ++ 13 :: 10 :: body) = some (lines,body) := by
  induction lines with
  | nil => rfl
  | cons line rest ih =>
    obtain ⟨single,some_⟩ := plain line List.mem_cons_self
    have parts : (line :: rest).flatMap (· ++ [13,10]) ++ 13 :: 10 :: body =
        line ++ 13 :: 10 :: (rest.flatMap (· ++ [13,10]) ++ 13 :: 10 :: body) := by simp
    rw [parts,splitHead_line [] _ single some_,ih fun other member => plain other (List.mem_cons_of_mem _ member)]
    rfl

def lengthLine (body : Bytes) : Bytes := contentLengthField ++ Text.ascii (text (toString body.length))

def faultLines (body : Bytes) : List Bytes :=
  [Text.ascii (text "HTTP/1.1 200 OK"),Text.ascii (text "Content-Type: text/xml"),lengthLine body,
    Text.ascii (text "Connection: close")]

theorem length_digits {n : Nat} (member : b ∈ Text.ascii (text (toString n))) : 48 ≤ b.toNat ∧ b.toNat ≤ 57 := by
  obtain ⟨c,inside,rfl⟩ := List.mem_map.mp member
  have digit := repr_clean inside
  rw [UInt8.toNat_ofNat_of_lt' (show c < 256 by omega)]
  exact digit

theorem length_read (n : Nat) : (Text.ascii (text (toString n))).map UInt8.toNat = text (toString n) := by
  rw [Text.ascii,List.map_map]
  refine (List.map_congr_left fun c member => ?_).trans (List.map_id _)
  have digit := repr_clean member
  exact UInt8.toNat_ofNat_of_lt' (show c < 256 by omega)

theorem faultHttp_lines (body : Bytes) :
    faultHttp body = (faultLines body).flatMap (· ++ [13,10]) ++ 13 :: 10 :: body := by
  have front : Text.ascii (text "HTTP/1.1 200 OK\r\nContent-Type: text/xml\r\nContent-Length: ") =
      Text.ascii (text "HTTP/1.1 200 OK") ++ [13,10] ++ Text.ascii (text "Content-Type: text/xml") ++ [13,10] ++
        contentLengthField := by decide +kernel
  have back : Text.ascii (text "\r\nConnection: close\r\n\r\n") =
      [13,10] ++ Text.ascii (text "Connection: close") ++ [13,10] ++ [13,10] := by decide
  have parts : ∀ a b c : Text, Text.ascii (a ++ b ++ c) = Text.ascii a ++ Text.ascii b ++ Text.ascii c := fun a b c => by
    simp only [Text.ascii,List.map_append]
  rw [faultHttp,parts,front,back,faultLines,lengthLine]
  simp

theorem faultHttp_split (body : Bytes) : splitHead [] (faultHttp body) = some (faultLines body,body) := by
  rw [faultHttp_lines]
  apply splitHead_lines
  intro line member
  have known : ∀ line ∈ [Text.ascii (text "HTTP/1.1 200 OK"),Text.ascii (text "Content-Type: text/xml"),
      Text.ascii (text "Connection: close")], 13 ∉ line ∧ line ≠ [] := by decide +kernel
  have field : 13 ∉ contentLengthField ∧ contentLengthField ≠ [] := by decide
  by_cases same : line = lengthLine body
  · subst same
    refine ⟨?_,List.append_ne_nil_of_left_ne_nil field.2 _⟩
    intro inside
    rcases List.mem_append.mp inside with name | value
    · exact field.1 name
    · exact absurd (length_digits value).1 (by decide)
  · exact known line (by simpa [faultLines,same] using member)

theorem contentLength_fault (body : Bytes) : contentLength (faultLines body) = some body.length := by
  have others : contentLengthField.isPrefixOf (Text.ascii (text "HTTP/1.1 200 OK")) = false ∧
      contentLengthField.isPrefixOf (Text.ascii (text "Content-Type: text/xml")) = false := by decide +kernel
  have here : contentLengthField.isPrefixOf (lengthLine body) = true := by simp [lengthLine]
  have found : (faultLines body).find? (contentLengthField.isPrefixOf ·) = some (lengthLine body) := by
    simp only [faultLines,List.find?_cons,others,here]
  obtain ⟨digits,scanned,_,value⟩ := scan_repr body.length
  have shown : text (toString body.length) = text body.length.repr := rfl
  rw [contentLength,found,Option.bind_some,lengthLine,List.drop_left,length_read,shown,scanned,Option.map_some,value]

theorem sendResponse_sent {peer : Peer} {response : Bytes} {made : Response}
    (answered : sendResponse peer response recvs = some made) :
    ∃ calls, made = .returned (if peer.sendall = true then some response else none) calls := by
  unfold sendResponse at answered
  by_cases sendall : peer.sendall = true
  · simp only [sendall,if_true] at answered ⊢
    split at answered
    · rename_i impossible
      cases impossible
    split at answered
    · cases answered
      exact ⟨_,rfl⟩
    split at answered
    · cases answered
      exact ⟨_,rfl⟩
    · obtain ⟨calls,_,rfl⟩ := Option.map_eq_some_iff.mp answered
      exact ⟨calls,rfl⟩
  · rw [if_pos (by simpa using sendall)] at answered
    cases answered
    exact ⟨0,by rw [if_neg sendall]⟩

-- An HTTP response with this fault for whoever decodes the body and reads it with `loads`.
def Carries (encoding : Encoding) (response : Bytes) (faultCode : Int) (faultString : Text) : Prop :=
  ∃ lines body document, splitHead [] response = some (lines,body) ∧
    lines.head? = some (Text.ascii (text "HTTP/1.1 200 OK")) ∧ contentLength lines = some body.length ∧
    encoding.decode body = some document ∧ loads document = some (.fault (.int faultCode) (.str faultString))

def Delivers (cfg : XMLRPCServerConfig) (allow_none : Bool) (encoding : Encoding) (peer : Peer) : Prop :=
  ∃ fuel r, rejectRequest cfg allow_none encoding peer fuel = some r ∧ r.raised = false ∧
    r.calls.getLast? = some .shutdownRequest ∧
    (peer.sendall = true → ∃ response, r.sent = some response ∧
      Carries encoding response cfg.overload_fault_code cfg.overload_fault_string)

-- The code is in range, the codec has the characters, the client lets go. Of a body that is sent also: it
-- decodes to the document, which an XML reader accepts, and the string has no carriage return for it to change.
structure Deliverable (cfg : XMLRPCServerConfig) (encoding : Encoding) (peer : Peer) : Prop where
  small : MININT ≤ cfg.overload_fault_code ∧ cfg.overload_fault_code ≤ MAXINT
  ends : peer.Ends
  encoded : encoding.encode (overloadDocument cfg encoding) ≠ none
  decoded : peer.sendall = true →
    ∀ body ∈ encoding.encode (overloadDocument cfg encoding),
      encoding.decode body = some (overloadDocument cfg encoding)
  declared : peer.sendall = true → encoding.name = text "utf-8" ∨ Xml.isEncodingName encoding.name = true
  characters : peer.sendall = true → ∀ c ∈ cfg.overload_fault_string, Xml.isChar c = true ∧ c ≠ 13

-- What the codec gives back for this text, if anything, is the text.
def Encoding.Keeps (encoding : Encoding) (t : Text) : Prop :=
  ∀ body, encoding.encode t = some body → ∀ u, encoding.decode body = some u → u = t

theorem fault_small {cfg : XMLRPCServerConfig} (small : MININT ≤ cfg.overload_fault_code ∧ cfg.overload_fault_code ≤ MAXINT) :
    cfg.overload_fault_code.natAbs < 10 ^ 10 := by
  simp only [MININT,MAXINT] at small
  omega

theorem loads_same {cfg : XMLRPCServerConfig} {encoding : Encoding}
    (small : MININT ≤ cfg.overload_fault_code ∧ cfg.overload_fault_code ≤ MAXINT) :
    loads (overloadDocument cfg encoding) =
        some (.fault (.int cfg.overload_fault_code) (.str cfg.overload_fault_string)) ↔
      (encoding.name = text "utf-8" ∨ Xml.isEncodingName encoding.name = true) ∧
        ∀ c ∈ cfg.overload_fault_string, Xml.isChar c = true ∧ c ≠ 13 := by
  by_cases declared : encoding.name = text "utf-8" ∨ Xml.isEncodingName encoding.name = true
  · rw [loads_fault_same declared (fault_small small)]
    exact ⟨fun characters => ⟨declared,characters⟩,fun parts => parts.2⟩
  · obtain ⟨other,unnamed⟩ := not_or.mp declared
    rw [loads_undeclared other (by simpa using unnamed) (fault_small small)]
    simp [declared]

theorem fault_rejected {cfg : XMLRPCServerConfig} {allow_none : Bool} {encoding : Encoding} {peer : Peer} {r : Rejection}
    (policy : cfg.overload_policy = .FAULT) (rejected : rejectRequest cfg allow_none encoding peer fuel = some r)
    (quiet : r.raised = false) :
    ∃ body, faultPayload cfg allow_none encoding = some body ∧
      r.calls = [.recordRejected,.sendResponse,.shutdownRequest] ∧
      r.sent = if peer.sendall = true then some (faultHttp body) else none := by
  simp only [rejectRequest,policy,sendFaultResponse] at rejected
  split at rejected
  · cases rejected
    cases quiet
  · rename_i body payload
    obtain ⟨made,answered,same⟩ := Option.map_eq_some_iff.mp rejected
    obtain ⟨calls,rfl⟩ := sendResponse_sent answered
    subst same
    exact ⟨body,payload,rfl,rfl⟩

theorem payload_parts {cfg : XMLRPCServerConfig} {allow_none : Bool} {encoding : Encoding} :
    faultPayload cfg allow_none encoding = some body ↔
      (MININT ≤ cfg.overload_fault_code ∧ cfg.overload_fault_code ≤ MAXINT) ∧
        encoding.encode (overloadDocument cfg encoding) = some body := by
  rw [faultPayload_eq]
  split
  · rename_i large
    simp only [reduceCtorEq,false_iff,not_and]
    intro small
    omega
  · rename_i small
    exact ⟨fun made => ⟨by omega,made⟩,fun parts => parts.2⟩

theorem fault_carried {encoding : Encoding} {body : Bytes} (faultCode : Int) (faultString : Text) :
    Carries encoding (faultHttp body) faultCode faultString ↔
      ∃ document, encoding.decode body = some document ∧
        loads document = some (.fault (.int faultCode) (.str faultString)) := by
  constructor
  · rintro ⟨lines,body',document,split,_,_,decoded,loaded⟩
    rw [faultHttp_split] at split
    cases split
    exact ⟨document,decoded,loaded⟩
  · rintro ⟨document,decoded,loaded⟩
    exact ⟨_,body,document,faultHttp_split body,rfl,contentLength_fault body,decoded,loaded⟩

theorem fault_delivered (cfg : XMLRPCServerConfig) (allow_none : Bool) (encoding : Encoding) (peer : Peer)
    (policy : cfg.overload_policy = .FAULT) :
    (Deliverable cfg encoding peer → Delivers cfg allow_none encoding peer) ∧
    (encoding.Keeps (overloadDocument cfg encoding) →
      Delivers cfg allow_none encoding peer → Deliverable cfg encoding peer) := by
  have returns := rejectRequest_returns cfg allow_none encoding peer
  constructor
  · intro deliverable
    obtain ⟨body,encoded⟩ := Option.ne_none_iff_exists'.mp deliverable.encoded
    have payload : faultPayload cfg allow_none encoding = some body := payload_parts.mpr ⟨deliverable.small,encoded⟩
    obtain ⟨fuel,r,rejected⟩ := returns.mpr fun _ => deliverable.ends
    have quiet : r.raised = false := by
      simp only [rejectRequest,policy,sendFaultResponse,payload] at rejected
      obtain ⟨made,answered,rfl⟩ := Option.map_eq_some_iff.mp rejected
      obtain ⟨calls,rfl⟩ := sendResponse_sent answered
      rfl
    obtain ⟨body',payload',calls,sent⟩ := fault_rejected policy rejected quiet
    cases payload.symm.trans payload'
    refine ⟨fuel,r,rejected,quiet,by rw [calls]; rfl,fun sendall => ⟨faultHttp body,by rw [sent,if_pos sendall],?_⟩⟩
    have loaded := (loads_same deliverable.small).mpr ⟨deliverable.declared sendall,deliverable.characters sendall⟩
    exact (fault_carried _ _).mpr ⟨_,deliverable.decoded sendall body encoded,loaded⟩
  · rintro keeps ⟨fuel,r,rejected,quiet,_,carries⟩
    obtain ⟨body,payload,_,sent⟩ := fault_rejected policy rejected quiet
    obtain ⟨small,encoded⟩ := payload_parts.mp payload
    have answers : Answers cfg encoding := .inr ⟨policy,small.1,small.2,by rw [encoded]; exact Option.some_ne_none body⟩
    have got : peer.sendall = true →
        encoding.decode body = some (overloadDocument cfg encoding) ∧
        loads (overloadDocument cfg encoding) =
          some (.fault (.int cfg.overload_fault_code) (.str cfg.overload_fault_string)) := by
      intro sendall
      obtain ⟨response,same,carried⟩ := carries sendall
      rw [sent,if_pos sendall] at same
      cases same
      obtain ⟨document,decoded,loaded⟩ := (fault_carried _ _).mp carried
      cases keeps body encoded document decoded
      exact ⟨decoded,loaded⟩
    exact {
      small := small
      ends := returns.mp ⟨fuel,r,rejected⟩ answers
      encoded := by rw [encoded]; exact Option.some_ne_none body
      decoded := by
        intro sendall other made
        cases encoded.symm.trans made
        exact (got sendall).1
      declared := fun sendall => ((loads_same small).mp (got sendall).2).1
      characters := fun sendall => ((loads_same small).mp (got sendall).2).2}

theorem latin1_decode (t : Text) : ∀ body ∈ latin1.encode t, latin1.decode body = some t := by
  intro body made
  simp only [latin1,Option.mem_def] at made
  split at made
  · rename_i small
    cases made
    simp only [latin1,List.map_map,Option.some.injEq]
    refine (List.map_congr_left fun c member => ?_).trans (List.map_id _)
    have bound : c < 256 := by simpa using List.all_eq_true.mp small c member
    exact UInt8.toNat_ofNat_of_lt' bound
  · cases made

def closing : Peer := ⟨true,true,true,fun _ => .endOfStream⟩

theorem fault_delivered_default : Delivers (.sized 0 0 .FAULT) false latin1 closing :=
  (fault_delivered (.sized 0 0 .FAULT) false latin1 closing rfl).1 {
    small := by decide
    ends := .inr (.inr (.inr ⟨0,by decide⟩))
    encoded := by decide +kernel
    decoded := fun _ => latin1_decode _
    declared := fun _ => .inr (by decide)
    characters := fun _ => by decide}

-- The string of the user guide.
def dashed : XMLRPCServerConfig :=
  {XMLRPCServerConfig.sized 0 0 .FAULT with overload_fault_string := text "Server overloaded — try again shortly"}

theorem dashed_undelivered : ¬ Delivers dashed false latin1 closing := by
  rintro ⟨fuel,r,rejected,quiet,_⟩
  obtain ⟨body,payload,_⟩ := fault_rejected rfl rejected quiet
  have refused : faultPayload dashed false latin1 = none := by decide +kernel
  rw [refused] at payload
  cases payload

end XmlrpcExtended.Server
