import XmlrpcExtended.AsgiRequests
import XmlrpcExtended.Charsets

namespace XmlrpcExtended.Http
open Dispatch

variable {World : Type} {isNone : Value → Bool}

-- The charset parameter of a content type.
def charsetOf (content_type : Bytes) : Option Text :=
  let parts := ((content_type.map UInt8.toNat).splitOn 59).map fun part => part.dropWhile (· == 32)
  (parts.find? fun part => Text.startsWith part (text "charset=")).map fun part => part.drop (text "charset=").length

def charsetNamed (name : Text) : Option Charset :=
  if name = text "utf-8" then some Charset.utf8
  else if name = text "iso-8859-1" then some Charset.latin1
  else if name = text "us-ascii" then some Charset.usAscii
  else none

-- Decoded as its header declares, the 200 response is the text, with references for what `cs` lacks.
def Honours (cs : Charset) (response : Text) (messages : List Message) : Prop :=
  ∃ headers body name declared, messages = [.start 200 headers,.body body] ∧
    (headers.lookup (Text.ascii (text "content-type"))).bind charsetOf = some name ∧
    charsetNamed name = some declared ∧ declared.decode body = some (cs.replaced response)

theorem xmlContentType_declares : charsetOf xmlContentType = some (text "utf-8") := by decide

theorem honours_utf8 (cs : Charset) (response : Text) (body : Bytes) :
    Honours cs response (sendHttpResponse 200 body xmlContentType []) ↔
      Charset.utf8.encode (cs.replaced response) = some body := by
  rw [← Charset.utf8_decode_iff]
  have declared : ∀ headers body', sendHttpResponse 200 body xmlContentType [] = [.start 200 headers,.body body'] →
      (headers.lookup (Text.ascii (text "content-type"))).bind charsetOf = some (text "utf-8") ∧ body' = body := by
    intro headers body' same
    cases same
    exact ⟨xmlContentType_declares,rfl⟩
  constructor
  · rintro ⟨headers,body',name,charset,same,shown,named,decoded⟩
    obtain ⟨found,rfl⟩ := declared headers body' same
    rw [found] at shown
    cases shown
    cases named
    exact decoded
  · intro decoded
    exact ⟨_,body,text "utf-8",Charset.utf8,rfl,xmlContentType_declares,rfl,decoded⟩

theorem charset_honoured (py : Python Value Exn World) (codec : Codec) (app : XMLRPCASGIApp isNone) (data : Bytes) (w : World)
    (cs : Charset) (encodes : codec.encode app.encoding = some cs.bytes) (response : Text) (next : World)
    (made : responseText py codec app data w = .ok response next) :
    ∃ messages, handleBody py codec app data w = .ok messages next ∧
      (Honours cs response messages ↔ Charset.utf8.encode (cs.replaced response) = some (cs.bytes response)) ∧
      (cs = .utf8 → Honours cs response messages) ∧
      ∀ byteOf charOf same inverse, cs = .table byteOf charOf same inverse →
        (Honours cs response messages ↔ ∀ c ∈ response, c < 128 ∨ cs.lacks c = true) := by
  refine ⟨sendHttpResponse 200 (cs.bytes response) xmlContentType [],?_,honours_utf8 cs response _,?_,?_⟩
  · rw [handleBody_run,(dispatch_returns py codec app data w).mpr ⟨cs.bytes,response,encodes,made,rfl⟩]
  · rintro rfl
    exact (honours_utf8 _ response _).mpr (Charset.replaced_encodes _ _)
  · rintro byteOf charOf same inverse rfl
    exact (honours_utf8 _ response _).trans (Charset.table_agrees response)

-- Its functions return the letter e with an acute accent.
def accented : Python Value Exn Unit :=
  {isNone := fun _ => false,iscoroutinefunction := fun _ => false,isAttributeError := fun _ => false,str := .str,
   tuple := .array,nameOf := fun _ => none,stopValue := fun _ => .none,rebuiltStr := fun _ => [],
   getattr := fun obj _ w => (.ok obj,w),
   call := fun _ _ w => (.ok (.str [233]),w),await := fun obj w => (.ok obj,w)}

def charsetCodec : Codec :=
  {readerCodec with encode := fun name => (charsetNamed name).map Charset.bytes}

def accentedApp (encoding : Text) : XMLRPCASGIApp accented.isNone :=
  {oneFunction accented with encoding := encoding}

def accentedText (encoding : Text) : Text :=
  xmlheader encoding ++ text "<methodResponse>\n" ++
    text "<params>\n<param>\n<value><string>é</string></value>\n</param>\n</params>\n" ++ text "</methodResponse>\n"

theorem accented_made (encoding : Text) :
    responseText accented charsetCodec (accentedApp encoding) callDocument () = .ok (accentedText encoding) () := by
  have dispatched : asyncDispatch accented (accentedApp encoding).toRegistry (text "f") [] () = .ok (.str [233]) () := rfl
  have data : marshal false (.result (.str [233])) =
      .ok (text "<params>\n<param>\n<value><string>é</string></value>\n</param>\n</params>\n") := rfl
  have dumped : dumps (accentedApp encoding).allow_none (accentedApp encoding).encoding (.result (.str [233])) =
      .ok (accentedText encoding) := by
    change dumps false encoding _ = _
    simp only [dumps,data,bind,Except.bind]
    rfl
  have parsed : charsetCodec.loads (accentedApp encoding).use_builtin_types callDocument = .ok ([],some (text "f")) :=
    callDocument_loads false
  simp only [responseText,parsed,Option.getD_some,callResponse_by]
  rw [responseBy_run]
  simp only [dispatched,dumped]

theorem charset_honoured_accented : ∃ messages,
    handleBody accented charsetCodec (accentedApp (text "utf-8")) callDocument () = .ok messages () ∧
      Honours .utf8 (accentedText (text "utf-8")) messages := by
  obtain ⟨messages,ran,_,honours,_⟩ := charset_honoured accented charsetCodec (accentedApp (text "utf-8")) callDocument ()
    .utf8 rfl _ () (accented_made (text "utf-8"))
  exact ⟨messages,ran,honours rfl⟩

theorem accented_garbled : ∃ messages,
    handleBody accented charsetCodec (accentedApp (text "iso-8859-1")) callDocument () = .ok messages () ∧
      ¬ Honours .latin1 (accentedText (text "iso-8859-1")) messages := by
  refine ⟨sendHttpResponse 200 (Charset.latin1.bytes (accentedText (text "iso-8859-1"))) xmlContentType [],?_,?_⟩
  · have returned := (dispatch_returns accented charsetCodec (accentedApp (text "iso-8859-1")) callDocument ()).mpr
      ⟨Charset.latin1.bytes,_,rfl,accented_made (text "iso-8859-1"),rfl⟩
    rw [handleBody_run,returned]
  · intro honours
    have small := (Charset.table_agrees _).mp ((honours_utf8 _ _ _).mp honours) 233 (by decide +kernel)
    exact absurd small (by decide)

end XmlrpcExtended.Http
