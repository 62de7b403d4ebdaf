import XmlrpcExtended.XmlDeclaration
import XmlrpcExtended.XmlReferences

namespace XmlrpcExtended.Xml
open Charset

variable {σ : Type} {h : Handler σ}

def opening (name : Text) : Text := 60 :: (name ++ [62])
def closing (name : Text) : Text := 60 :: 47 :: (name ++ [62])
def empty (name : Text) : Text := 60 :: (name ++ [47,62])

theorem name_unclosed {name : Text} (named : isName name = true) : 93 ∉ name := by
  intro member
  unfold isName at named
  exact absurd (List.all_eq_true.mp (Bool.and_eq_true_iff.mp named).1 93 member) (by decide)

theorem opening_unclosed {name : Text} (named : isName name = true) : Unclosed (opening name) :=
  unclosed_plain (by simp [opening]) (by simp [opening,name_unclosed named])

theorem closing_unclosed {name : Text} (named : isName name = true) : Unclosed (closing name) :=
  unclosed_plain (by simp [closing]) (by simp [closing,name_unclosed named])

-- Inside any element: what stands in `document` takes the target from `before` to `later`, and
-- closes what it opens.
structure Reads (h : Handler σ) (document : Text) (before later : σ) : Prop where
  unclosed : Unclosed document
  run : ∀ name opened, Reader.run h ⟨.content,name :: opened,true,true,before⟩ document =
    some ⟨.content,name :: opened,true,true,later⟩

theorem opening_read {name : Text} {before later : σ} (returned rooted : Bool) (opened : List Text) (named : isName name = true)
    (free : opened ≠ [] ∨ rooted = false) (started : h.start name before = some later) :
    Reader.run h ⟨.after returned,opened,true,rooted,before⟩ (opening name) =
      some ⟨.content,name :: opened,true,true,later⟩ := by
  have plain : ∀ c ∈ name, isChar c = true ∧ c ≠ 62 := fun c member =>
    ⟨(nameChar_plain named member).1,(nameChar_plain named member).2.1⟩
  have allowed : ¬ (isName name = false ∨ (opened = [] ∧ rooted = true)) := by
    rw [named]
    rcases free with inside | unrooted
    · simp [inside]
    · simp [unrooted]
  rw [opening,run_markup h returned true rooted opened before plain,tag_start h _ named]
  simp only [Reader.startElement,allowed,if_false,started,Option.map_some]

theorem closing_read {name : Text} {before later : σ} (returned : Bool) (opened : List Text) (named : isName name = true)
    (stopped : h.stop name before = some later) :
    Reader.run h ⟨.after returned,name :: opened,true,true,before⟩ (closing name) =
      some ⟨.content,opened,true,true,later⟩ := by
  have plain : ∀ c ∈ 47 :: name, isChar c = true ∧ c ≠ 62 := by
    intro c member
    rcases List.mem_cons.mp member with rfl | inside
    · decide
    · exact ⟨(nameChar_plain named inside).1,(nameChar_plain named inside).2.1⟩
  rw [closing,← List.cons_append,run_markup h returned true true (name :: opened) before plain]
  simp only [Reader.tag,Reader.endElement,if_true,stopped,Option.map_some]

namespace Reads
variable {first second document : Text} {before middle later : σ}

theorem nil : Reads h [] before before := ⟨unclosed_text (by simp),fun _ _ => rfl⟩

theorem append (left : Reads h first before middle) (right : Reads h second middle later) :
    Reads h (first ++ second) before later := by
  refine ⟨left.unclosed.append right.unclosed,fun name opened => ?_⟩
  rw [run_append,left.run,Option.bind_some,right.run]

theorem element {name : Text} {inner last : σ} (named : isName name = true) (started : h.start name before = some inner)
    (body : Reads h document inner last) (stopped : h.stop name last = some later) :
    Reads h (opening name ++ (document ++ closing name)) before later := by
  refine ⟨(opening_unclosed named).append (body.unclosed.append (closing_unclosed named)),fun parent opened => ?_⟩
  have enter := opening_read (h := h) false true (parent :: opened) named (.inl (List.cons_ne_nil _ _)) started
  have leave := closing_read (h := h) false (parent :: opened) named stopped
  simp only [Mode.after,Bool.false_eq_true,if_false] at enter leave
  rw [run_append,enter,Option.bind_some,run_append,body.run,Option.bind_some,leave]

-- An element with text in it, written in any charset.
theorem leaf {name : Text} {inner : σ} (cs : Charset) (s : Text) (named : isName name = true)
    (started : h.start name before = some inner) (valid : s.all isChar = true)
    (stopped : h.stop name ((newlines false s).foldl (fun target c => h.data c target) inner) = some later) :
    Reads h (opening name ++ (cs.replaced (escaped s) ++ closing name)) before later := by
  refine ⟨(opening_unclosed named).append ((replaced_unclosed cs s).append (closing_unclosed named)),fun parent opened => ?_⟩
  have enter := opening_read (h := h) false true (parent :: opened) named (.inl (List.cons_ne_nil _ _)) started
  have walked := run_replaced cs h false true name (parent :: opened) inner s
  have leave := closing_read (h := h) (endsReturned false s) (parent :: opened) named stopped
  rw [run_escaped,if_pos valid] at walked
  simp only [Mode.after,Bool.false_eq_true,if_false] at enter walked leave
  rw [run_append,enter,Option.bind_some,run_append,walked,Option.bind_some,leave]

theorem single {name : Text} {inner : σ} (named : isName name = true) (started : h.start name before = some inner)
    (stopped : h.stop name inner = some later) : Reads h (empty name) before later := by
  refine ⟨unclosed_plain (by simp [empty]) (by simp [empty,name_unclosed named]),fun parent opened => ?_⟩
  have plain : ∀ c ∈ name ++ [47], isChar c = true ∧ c ≠ 62 := by
    intro c member
    rcases List.mem_append.mp member with inside | slash
    · exact ⟨(nameChar_plain named inside).1,(nameChar_plain named inside).2.1⟩
    · obtain rfl := List.mem_singleton.mp slash
      decide
  have written : empty name = 60 :: ((name ++ [47]) ++ [62]) := by simp [empty]
  have walked := run_markup h false true true (parent :: opened) before plain
  simp only [Mode.after,Bool.false_eq_true,if_false] at walked
  rw [written,walked,Reader.tag.eq_def]
  split
  · rename_i rest same
    cases name with
    | nil => cases same
    | cons c name =>
      cases same
      exact absurd rfl (nameChar_plain named List.mem_cons_self).2.2.2
  · rename_i rest same
    cases name with
    | nil => cases named
    | cons c name =>
      cases same
      exact absurd rfl (nameChar_plain named List.mem_cons_self).2.2.1
  · rw [if_pos List.getLast?_concat,List.dropLast_concat]
    simp [Reader.startElement,Reader.endElement,named,started,stopped]

theorem plain {s : Text} (before : σ) (plain : ∀ c ∈ s, isChar c = true ∧ c ≠ 13 ∧ entity c = [c]) :
    Reads h s before (s.foldl (fun target c => h.data c target) before) := by
  refine ⟨unclosed_text fun member => ?_,fun name opened => run_plain h true name opened before plain⟩
  exact absurd (plain 62 member).2.2 (by decide)

end Reads

-- A document of one element, with a line end after it.
theorem document_read {document header name : Text} {target inner last later : σ}
    (unclosed : Unclosed header) (headed : (Reader.init target).run h header = some ⟨.content,[],true,false,target⟩)
    (named : isName name = true)
    (started : h.start name target = some inner) (body : Reads h document inner last) (stopped : h.stop name last = some later) :
    Xml.read h target (header ++ (opening name ++ (document ++ (closing name ++ [10])))) = some later := by
  have enter := opening_read (h := h) false false [] named (.inr rfl) started
  have leave := closing_read (h := h) false [] named stopped
  simp only [Mode.after,Bool.false_eq_true,if_false] at enter leave
  have end_ : Unclosed (closing name ++ [10]) := (closing_unclosed named).append (unclosed_text (by decide))
  have whole := unclosed.append ((opening_unclosed named).append (body.unclosed.append end_))
  rw [read_unclosed whole,run_append,headed,Option.bind_some,run_append,enter,Option.bind_some,run_append,body.run,
    Option.bind_some,run_append,leave]
  rfl

theorem replaced_ascii {cs : Charset} {t : Text} (ascii : ∀ c ∈ t, c < 128) : cs.replaced t = t :=
  replaced_same fun c member => ascii_had cs (ascii c member)

-- UTF-8 has every character that XML has.
theorem utf8_has (valid : isChar c = true) : utf8.lacks c = false := by
  simp only [isChar,Bool.or_eq_true,Bool.and_eq_true,decide_eq_true_eq,beq_iff_eq] at valid
  have scalar_ : c.isValidChar := by
    unfold Nat.isValidChar
    omega
  simp [lacks,utf8,scalar,scalar_]

end XmlrpcExtended.Xml
