import Mathlib.Algebra.Group.Nat.Defs
import XmlrpcExtended.PythonText

namespace XmlrpcExtended

-- What `int` skips around a number, in text of code points below 256.
def intSpace (c : Nat) : Bool := (9 ≤ c && c ≤ 13) || c == 32 || c == 133 || c == 160

def isDigit (c : Nat) : Bool := 48 ≤ c && c ≤ 57

-- Decimal digits with single underscores between them, to the end of the text.
def scanDigits : Text → Option (List Nat)
  | [] => none
  | [c] => if isDigit c then some [c - 48] else none
  | c :: 95 :: rest => if isDigit c then (scanDigits rest).map ((c - 48) :: ·) else none
  | c :: rest => if isDigit c then (scanDigits rest).map ((c - 48) :: ·) else none

def strip (s : Text) : Text := ((s.dropWhile intSpace).reverse.dropWhile intSpace).reverse

def digitsValue (digits : List Nat) : Nat := digits.foldl (fun n d => 10 * n + d) 0

-- `int(s)`, `none` for its ValueError; CPython converts at most 4300 digits.
def pythonInt (s : Text) : Option Int :=
  let (negative,digits) := match strip s with
    | 43 :: rest => (false,rest)
    | 45 :: rest => (true,rest)
    | rest => (false,rest)
  match scanDigits digits with
  | none => none
  | some digits =>
    if digits.length ≤ 4300 then some (if negative then -(digitsValue digits : Int) else digitsValue digits) else none

theorem char_digit {c : Char} (digit : c.isDigit = true) : 48 ≤ c.toNat ∧ c.toNat ≤ 57 := by
  simp only [Char.isDigit,Bool.and_eq_true,decide_eq_true_eq,ge_iff_le,UInt32.le_iff_toNat_le] at digit
  exact digit

theorem scanDigits_digits {digits : List Char} (some_ : digits ≠ []) (all : ∀ c ∈ digits, c.isDigit = true) :
    scanDigits (digits.map Char.toNat) = some (digits.map fun c => c.toNat - 48) := by
  have bounds : ∀ c ∈ digits, 48 ≤ c.toNat ∧ c.toNat ≤ 57 := fun c member => char_digit (all c member)
  clear all
  induction digits with
  | nil => exact absurd rfl some_
  | cons c rest ih =>
    have here : isDigit c.toNat = true := by simpa [isDigit] using bounds c List.mem_cons_self
    cases rest with
    | nil => simp [scanDigits,here]
    | cons d rest =>
      have after := ih (by simp) fun c member => bounds c (List.mem_cons_of_mem _ member)
      have plain : d.toNat ≠ 95 := by
        have bound := bounds d (by simp)
        omega
      simp only [List.map_cons] at after ⊢
      rw [scanDigits]
      · simp [here,after]
      · simp
      · intro others same
        exact plain (List.cons.inj same).1

theorem strip_clean {s : Text} (clean : ∀ c ∈ s, intSpace c = false) : strip s = s := by
  have kept : ∀ t : Text, (∀ c ∈ t, intSpace c = false) → t.dropWhile intSpace = t := by
    intro t clean
    cases t with
    | nil => rfl
    | cons c rest => simp [clean c List.mem_cons_self]
  unfold strip
  rw [kept s clean,kept s.reverse fun c member => clean c (List.mem_reverse.mp member),List.reverse_reverse]

theorem digitsValue_chars (digits : List Char) :
    digitsValue (digits.map fun c => c.toNat - 48) = Nat.ofDigitChars 10 digits 0 := by
  simp only [digitsValue,List.foldl_map,Nat.ofDigitChars_eq_foldl]
  rfl

-- The digits of a number, none of them a blank or a sign.
theorem repr_digits (n : Nat) :
    ∃ digits, text n.repr = digits.map Char.toNat ∧ digits ≠ [] ∧ (∀ c ∈ digits, c.isDigit = true) ∧
      digits = Nat.toDigits 10 n :=
  ⟨_,by rw [text,Nat.toList_repr],Nat.toDigits_ne_nil,fun c member => Nat.isDigit_of_mem_toDigits (by decide) (by decide) member,rfl⟩

theorem repr_clean {n : Nat} (member : c ∈ text n.repr) : 48 ≤ c ∧ c ≤ 57 := by
  obtain ⟨digits,shown,_,all,_⟩ := repr_digits n
  rw [shown] at member
  obtain ⟨d,inside,rfl⟩ := List.mem_map.mp member
  exact char_digit (all d inside)

theorem scan_repr (n : Nat) :
    ∃ digits, scanDigits (text n.repr) = some digits ∧ (∀ k, 0 < k → (digits.length ≤ k ↔ n < 10 ^ k)) ∧
      digitsValue digits = n := by
  obtain ⟨digits,shown,some_,all,same⟩ := repr_digits n
  refine ⟨_,by rw [shown,scanDigits_digits some_ all],?_,?_⟩
  · intro k positive
    rw [List.length_map,same,Nat.length_toDigits_le_iff (by decide) positive]
  · rw [digitsValue_chars,same,Nat.ofDigitChars_ten_toDigits]

-- Neither a sign nor a digit is skipped around a number.
theorem sign_digit_kept (c : Nat) (bounds : 45 ≤ c ∧ c ≤ 57) : intSpace c = false := by
  simp only [intSpace,Bool.or_eq_false_iff,Bool.and_eq_false_iff,decide_eq_false_iff_not,beq_eq_false_iff_ne]
  omega

theorem pythonInt_repr (n : Nat) (short : n < 10 ^ 10) : pythonInt (text n.repr) = some (n : Int) := by
  obtain ⟨digits,scanned,length,value⟩ := scan_repr n
  have few := (length 10 (by decide)).mpr short
  have clean : strip (text n.repr) = text n.repr := strip_clean fun c member => by
    have digit := repr_clean member
    exact sign_digit_kept c (by omega)
  have unsigned : ∀ c rest, text n.repr = c :: rest → 48 ≤ c := by
    intro c rest same
    have member : c ∈ text n.repr := by rw [same]; exact List.mem_cons_self
    exact (repr_clean member).1
  unfold pythonInt
  rw [clean]
  split
  rename_i negative shown parts
  split at parts
  · rename_i rest same
    have plus := unsigned _ _ same
    omega
  · rename_i rest same
    have minus := unsigned _ _ same
    omega
  · cases parts
    rw [scanned]
    simp [show digits.length ≤ 4300 by omega,value]

theorem pythonInt_negated (n : Nat) (short : n < 10 ^ 10) : pythonInt (45 :: text n.repr) = some (-(n : Int)) := by
  obtain ⟨digits,scanned,length,value⟩ := scan_repr n
  have few := (length 10 (by decide)).mpr short
  have clean : strip (45 :: text n.repr) = 45 :: text n.repr := strip_clean fun c member => by
    rcases List.mem_cons.mp member with rfl | inside
    · rfl
    · have digit := repr_clean inside
      exact sign_digit_kept c (by omega)
  unfold pythonInt
  rw [clean]
  simp only [scanned,show digits.length ≤ 4300 by omega,if_true,value]

theorem pythonInt_toString (i : Int) (short : i.natAbs < 10 ^ 10) : pythonInt (text (toString i)) = some i := by
  rw [Int.toString_eq_repr,Int.repr_eq_if]
  by_cases natural : 0 ≤ i
  · rw [if_pos natural,pythonInt_repr i.toNat (by omega),Int.toNat_of_nonneg natural]
  · have shown : text ("-" ++ (-i).toNat.repr) = 45 :: text (-i).toNat.repr := by simp [text]
    rw [if_neg natural,shown,pythonInt_negated (-i).toNat (by omega),Option.some.injEq]
    omega

example : pythonInt (text " +1_048_576\r\n") = some 1048576 := by decide

example : pythonInt (text "1__0") = none := by decide

end XmlrpcExtended
