import XmlrpcExtended.Charsets
import XmlrpcExtended.XmlReader

namespace XmlrpcExtended.Xml
open Charset

variable {σ : Type}

theorem numberOf_repr (n : Nat) : numberOf 10 decimalDigit (text n.repr) = some n := by
  obtain ⟨digits,shown,some_,all,same⟩ := repr_digits n
  have summed : ∀ (digits : List Char) (start : Nat), (∀ c ∈ digits, c.isDigit = true) →
      (digits.map Char.toNat).foldlM (fun n c => (decimalDigit c).map fun d => 10 * n + d) start =
        some (Nat.ofDigitChars 10 digits start) := by
    intro digits
    induction digits with
    | nil => exact fun start _ => rfl
    | cons c rest ih =>
      intro start all
      have bounds := char_digit (all c List.mem_cons_self)
      have here : decimalDigit c.toNat = some (c.toNat - 48) := by
        simp [decimalDigit,isDecimal,bounds]
      rw [List.map_cons,List.foldlM_cons,here]
      change (rest.map Char.toNat).foldlM _ (10 * start + (c.toNat - 48)) = _
      rw [ih _ fun d member => all d (List.mem_cons_of_mem _ member),Nat.ofDigitChars_cons]
      rfl
  have nonempty : text n.repr ≠ [] := by simpa [shown] using some_
  rw [numberOf,if_neg nonempty,shown,summed digits 0 all,same,Nat.ofDigitChars_ten_toDigits]

theorem resolve_number (n : Nat) : resolve (35 :: text n.repr) = if isChar n = true then some n else none := by
  have named : ∀ name ∈ [text "amp",text "lt",text "gt",text "quot",text "apos"], 35 :: text n.repr ≠ name := by
    intro name member same
    have heads : ∀ name ∈ [text "amp",text "lt",text "gt",text "quot",text "apos"], name.head? ≠ some 35 := by decide
    exact heads name member (by rw [← same]; rfl)
  have decimal : ∀ digits, text n.repr ≠ 120 :: digits := by
    intro digits same
    have digit := repr_clean (n := n) (c := 120) (by rw [same]; exact List.mem_cons_self)
    omega
  have value := numberOf_repr n
  unfold resolve
  rw [if_neg (named _ (by simp)),if_neg (named _ (by simp)),if_neg (named _ (by simp)),if_neg (named _ (by simp)),
    if_neg (named _ (by simp))]
  split
  · rename_i digits same
    exact absurd (List.cons.inj same).2 (decimal digits)
  · rename_i digits same
    rw [← (List.cons.inj same).2,value,Option.filter_some]
  · rename_i other
    exact absurd rfl (other (text n.repr))

theorem run_name {inside : Text} (h : Handler σ) (r : Reader σ) (before : Text)
    (plain : ∀ c ∈ inside, isChar c = true ∧ c ≠ 59) :
    Reader.run h {r with mode := .reference before} inside = some {r with mode := .reference (before ++ inside)} := by
  induction inside generalizing before with
  | nil => simp [Reader.run]
  | cons c rest ih =>
    obtain ⟨valid,other⟩ := plain c List.mem_cons_self
    have fed : Reader.feed h {r with mode := .reference before} c = some {r with mode := .reference (before ++ [c])} := by
      simp [Reader.feed,other,valid]
    rw [run_cons,fed,Option.bind_some,ih _ fun d member => plain d (List.mem_cons_of_mem _ member)]
    simp

-- A numeric reference inside an element is read as its character, if that is one.
theorem run_reference (h : Handler σ) (after rooted : Bool) (name : Text) (opened : List Text) (target : σ) (c : Nat) :
    Reader.run h ⟨.after after,name :: opened,true,rooted,target⟩ (reference c) =
      if isChar c = true then some ⟨.content,name :: opened,true,rooted,h.data c target⟩ else none := by
  have plain : ∀ d ∈ 35 :: text c.repr, isChar d = true ∧ d ≠ 59 := by
    intro d member
    rcases List.mem_cons.mp member with rfl | digit
    · decide
    · have bounds := repr_clean digit
      refine ⟨?_,by omega⟩
      simp only [isChar,Bool.or_eq_true,Bool.and_eq_true,decide_eq_true_eq,beq_iff_eq]
      omega
  have opens : Reader.feed h ⟨.after after,name :: opened,true,rooted,target⟩ 38 =
      some ⟨.reference [],name :: opened,true,rooted,target⟩ := by
    cases after <;> rfl
  have parts : reference c = 38 :: ((35 :: text c.repr) ++ [59]) := by
    simp [reference,text]
  have walked := run_name h ⟨.content,name :: opened,true,rooted,target⟩ [] plain
  dsimp only at walked
  rw [parts,run_cons,opens,Option.bind_some,run_append,walked,Option.bind_some,run_cons]
  have closed : Reader.feed h ⟨.reference ([] ++ 35 :: text c.repr),name :: opened,true,rooted,target⟩ 59 =
      (resolve (35 :: text c.repr)).map fun c => ⟨.content,name :: opened,true,rooted,h.data c target⟩ := rfl
  rw [closed,resolve_number]
  split <;> rfl

theorem ascii_had (cs : Charset) (small : c < 128) : cs.lacks c = false := by
  have has := cs.ascii c small
  simpa [lacks,Option.isNone_iff_eq_none,Option.isSome_iff_ne_none] using has

theorem replaced_entity (cs : Charset) (c : Nat) : cs.replaced (entity c) = if cs.lacks c = true then reference c else entity c := by
  by_cases special : entity c = [c]
  · rw [special]
    simp [replaced,written]
  · have small : c < 128 ∧ ∀ d ∈ entity c, d < 128 := by
      unfold entity at special ⊢
      split_ifs at special ⊢ with amp lt gt
      · exact ⟨by omega,by decide⟩
      · exact ⟨by omega,by decide⟩
      · exact ⟨by omega,by decide⟩
      · exact absurd rfl special
    rw [ascii_had cs small.1,replaced_same fun d member => ascii_had cs (small.2 d member)]
    rfl

theorem replaced_unclosed (cs : Charset) (s : Text) : Unclosed (cs.replaced (escaped s)) := by
  refine unclosed_text ?_
  induction s with
  | nil => simp [escaped,replaced]
  | cons c rest ih =>
    have parts : escaped (c :: rest) = entity c ++ escaped rest := rfl
    rw [parts,replaced_append,replaced_entity]
    refine fun member => (List.mem_append.mp member).elim ?_ ih
    split
    · intro inside
      have fixed : 62 ∉ text "&#" ∧ 62 ∉ text ";" := by decide
      simp only [reference,List.mem_append,fixed,false_or,or_false] at inside
      have digit := repr_clean inside
      omega
    · exact entity_unclosed c

-- To a reader, a text and its replacement are the same.
theorem run_replaced (cs : Charset) (h : Handler σ) (after rooted : Bool) (name : Text) (opened : List Text) (target : σ) (s : Text) :
    Reader.run h ⟨.after after,name :: opened,true,rooted,target⟩ (cs.replaced (escaped s)) =
      Reader.run h ⟨.after after,name :: opened,true,rooted,target⟩ (escaped s) := by
  induction s generalizing after target with
  | nil => rfl
  | cons c rest ih =>
    have parts : escaped (c :: rest) = entity c ++ escaped rest := rfl
    have one : Reader.run h ⟨.after after,name :: opened,true,rooted,target⟩ (cs.replaced (entity c)) =
        Reader.run h ⟨.after after,name :: opened,true,rooted,target⟩ (entity c) := by
      rw [replaced_entity]
      split
      · rename_i lacked
        have large : ¬ c < 128 := by
          intro small
          rw [ascii_had cs small] at lacked
          cases lacked
        have kept : newlines after [c] = [c] := by
          simp [newlines,show ¬ c = 13 by omega,show ¬ c = 10 by omega]
        have mode : Mode.after (c == 13) = .content := by
          simp [Mode.after,show ¬ c = 13 by omega]
        rw [run_reference,run_entity,kept,mode]
        rfl
      · rfl
    rw [parts,replaced_append,run_append,run_append,one,run_entity]
    split
    · exact ih _ _
    · rfl

end XmlrpcExtended.Xml
