import Mathlib.Data.List.TakeWhile
import XmlrpcExtended.PythonInt

namespace XmlrpcExtended

-- Digits with single underscores between them, and the digits alone.
inductive Grouped : Text → List Nat → Prop where
  | last (digit : isDigit c = true) : Grouped [c] [c - 48]
  | next (digit : isDigit c = true) (rest : Grouped s digits) : Grouped (c :: s) ((c - 48) :: digits)
  | apart (digit : isDigit c = true) (rest : Grouped s digits) : Grouped (c :: 95 :: s) ((c - 48) :: digits)

theorem Grouped.head (grouped : Grouped s digits) : ∃ c rest, s = c :: rest ∧ isDigit c = true := by
  cases grouped with
  | last digit => exact ⟨_,_,rfl,digit⟩
  | next digit rest => exact ⟨_,_,rfl,digit⟩
  | apart digit rest => exact ⟨_,_,rfl,digit⟩

theorem Grouped.final (grouped : Grouped s digits) : ∃ front c, s = front ++ [c] ∧ isDigit c = true := by
  induction grouped with
  | last digit => exact ⟨[],_,rfl,digit⟩
  | next digit rest ih =>
    obtain ⟨front,c,rfl,digit⟩ := ih
    exact ⟨_ :: front,c,rfl,digit⟩
  | apart digit rest ih =>
    obtain ⟨front,c,rfl,digit⟩ := ih
    exact ⟨_ :: 95 :: front,c,rfl,digit⟩

theorem scanDigits_grouped : scanDigits s = some digits ↔ Grouped s digits := by
  constructor
  · intro scanned
    induction s using scanDigits.induct generalizing digits with
    | case1 => cases scanned
    | case2 c digit =>
      simp only [scanDigits,digit,if_true] at scanned
      cases scanned
      exact .last digit
    | case3 c other => simp [scanDigits,other] at scanned
    | case4 c rest digit ih =>
      simp only [scanDigits,digit,if_true] at scanned
      obtain ⟨others,later,rfl⟩ := Option.map_eq_some_iff.mp scanned
      exact .apart digit (ih later)
    | case5 c rest other => simp [scanDigits,other] at scanned
    | case6 c rest single apart digit ih =>
      rw [scanDigits,if_pos digit] at scanned
      · obtain ⟨others,later,rfl⟩ := Option.map_eq_some_iff.mp scanned
        exact .next digit (ih later)
      · exact single
      · exact apart
    | case7 c rest single apart other =>
      rw [scanDigits,if_neg other] at scanned
      · cases scanned
      · exact single
      · exact apart
  · intro grouped
    induction grouped with
    | last digit => simp [scanDigits,digit]
    | next digit rest ih =>
      obtain ⟨d,others,rfl,plain⟩ := rest.head
      rw [scanDigits]
      · simp [digit,ih]
      · simp
      · intro others' same
        rw [(List.cons.inj same).1] at plain
        cases plain
    | apart digit rest ih => simp [scanDigits,digit,ih]

theorem digit_kept (digit : isDigit c = true) : intSpace c = false := by
  simp only [isDigit,Bool.and_eq_true,decide_eq_true_eq] at digit
  exact sign_digit_kept c (by omega)

section
variable {blank : Nat → Bool}

-- Without the blanks at its ends.
def trim (blank : Nat → Bool) (s : Text) : Text := ((s.dropWhile blank).reverse.dropWhile blank).reverse

theorem strip_trim (s : Text) : strip s = trim intSpace s := rfl

theorem trim_parts (blank : Nat → Bool) (s : Text) :
    ∃ before after, s = before ++ trim blank s ++ after ∧ ∀ c ∈ before ++ after, blank c = true := by
  refine ⟨s.takeWhile blank,((s.dropWhile blank).reverse.takeWhile blank).reverse,?_,?_⟩
  · have inner : trim blank s ++ ((s.dropWhile blank).reverse.takeWhile blank).reverse = s.dropWhile blank := by
      rw [trim,← List.reverse_append,List.takeWhile_append_dropWhile,List.reverse_reverse]
    rw [List.append_assoc,inner,List.takeWhile_append_dropWhile]
  · intro c member
    rcases List.mem_append.mp member with front | back
    · exact List.mem_takeWhile_imp front
    · exact List.mem_takeWhile_imp (List.mem_reverse.mp back)

theorem dropWhile_kept {t : Text} (first : ∀ c ∈ t.head?, blank c = false) : t.dropWhile blank = t := by
  cases t with
  | nil => rfl
  | cons c rest => simp [first c rfl]

theorem trim_around {core : Text} (before after : Text) (blanks : ∀ c ∈ before ++ after, blank c = true)
    (first : ∀ c ∈ core.head?, blank c = false) (last : ∀ c ∈ core.getLast?, blank c = false) (some_ : core ≠ []) :
    trim blank (before ++ core ++ after) = core := by
  have front : (before ++ (core ++ after)).dropWhile blank = core ++ after := by
    rw [List.dropWhile_append_of_pos fun c member => blanks c (List.mem_append_left _ member)]
    apply dropWhile_kept
    rwa [List.head?_append_of_ne_nil _ some_]
  have back : (after.reverse ++ core.reverse).dropWhile blank = core.reverse := by
    rw [List.dropWhile_append_of_pos fun c member => blanks c (List.mem_append_right _ (List.mem_reverse.mp member))]
    apply dropWhile_kept
    rwa [List.head?_reverse]
  rw [trim,List.append_assoc,front,List.reverse_append,back,List.reverse_reverse]

end

-- A sign, perhaps, and whether it negates.
inductive Signed : Text → Bool → Prop where
  | minus : Signed [45] true
  | plus : Signed [43] false
  | unsigned : Signed [] false

def signedValue (negative : Bool) (digits : List Nat) : Int :=
  if negative then -(digitsValue digits : Int) else digitsValue digits

-- What `int` takes for a number: blanks around a sign and grouped digits.
inductive Numeral (s : Text) (negative : Bool) (digits : List Nat) : Prop where
  | intro (before sign body after : Text) (parts : s = before ++ (sign ++ body) ++ after)
      (blanks : ∀ c ∈ before ++ after, intSpace c = true) (signed : Signed sign negative) (grouped : Grouped body digits)

theorem pythonInt_signed {s sign body : Text} (stripped : strip s = sign ++ body) (signed : Signed sign negative)
    (plain : sign = [] → ∀ c ∈ body.head?, c ≠ 43 ∧ c ≠ 45) :
    pythonInt s =
      (scanDigits body).bind fun digits => if digits.length ≤ 4300 then some (signedValue negative digits) else none := by
  unfold pythonInt
  rw [stripped]
  cases signed with
  | minus =>
    simp only [List.cons_append,List.nil_append]
    cases scanDigits body <;> rfl
  | plus =>
    simp only [List.cons_append,List.nil_append]
    cases scanDigits body <;> rfl
  | unsigned =>
    rw [List.nil_append]
    split
    rename_i negative digits parts
    split at parts
    · exact absurd rfl (plain rfl 43 rfl).1
    · exact absurd rfl (plain rfl 45 rfl).2
    · cases parts
      cases scanDigits body <;> rfl

theorem numeral_stripped {s sign body before after : Text} (parts : s = before ++ (sign ++ body) ++ after)
    (blanks : ∀ c ∈ before ++ after, intSpace c = true) (signed : Signed sign negative)
    (grouped : Grouped body digits) : strip s = sign ++ body := by
  obtain ⟨c,rest,begins,digit⟩ := grouped.head
  obtain ⟨front,d,ends,final⟩ := grouped.final
  rw [strip_trim,parts]
  apply trim_around _ _ blanks
  · intro e member
    cases signed with
    | minus => cases member; rfl
    | plus => cases member; rfl
    | unsigned =>
      rw [List.nil_append,begins] at member
      cases member
      exact digit_kept digit
  · intro e member
    rw [ends,← List.append_assoc,List.getLast?_concat] at member
    cases member
    exact digit_kept final
  · rw [begins]
    exact List.append_ne_nil_of_right_ne_nil _ (List.cons_ne_nil _ _)

theorem pythonInt_numeral : pythonInt s = some i ↔
    ∃ negative digits, Numeral s negative digits ∧ digits.length ≤ 4300 ∧ i = signedValue negative digits := by
  have found : ∀ {negative : Bool} {body : Text},
      ((scanDigits body).bind fun digits => if digits.length ≤ 4300 then some (signedValue negative digits) else none) =
        some i ↔ ∃ digits, Grouped body digits ∧ digits.length ≤ 4300 ∧ i = signedValue negative digits := by
    intro negative body
    simp only [Option.bind_eq_some_iff,scanDigits_grouped,Option.ite_none_right_eq_some,Option.some.injEq,
      eq_comm (a := i)]
  constructor
  · intro made
    obtain ⟨before,after,parts,blanks⟩ := trim_parts intSpace s
    rw [← strip_trim] at parts
    have signs : ∃ sign body negative, strip s = sign ++ body ∧ Signed sign negative ∧
        (sign = [] → ∀ c ∈ body.head?, c ≠ 43 ∧ c ≠ 45) := by
      cases same : strip s with
      | nil => exact ⟨[],[],false,rfl,.unsigned,by simp⟩
      | cons c rest =>
        by_cases plus : c = 43
        · exact ⟨[43],rest,false,by rw [plus]; rfl,.plus,by simp⟩
        by_cases minus : c = 45
        · exact ⟨[45],rest,true,by rw [minus]; rfl,.minus,by simp⟩
        · exact ⟨[],c :: rest,false,rfl,.unsigned,by simp [plus,minus]⟩
    obtain ⟨sign,body,negative,stripped,signed,plain⟩ := signs
    rw [pythonInt_signed stripped signed plain,found] at made
    obtain ⟨digits,grouped,few,value⟩ := made
    exact ⟨negative,digits,.intro before sign body after (by rw [← stripped]; exact parts) blanks signed grouped,few,value⟩
  · rintro ⟨negative,digits,⟨before,sign,body,after,parts,blanks,signed,grouped⟩,few,value⟩
    have plain : sign = [] → ∀ c ∈ body.head?, c ≠ 43 ∧ c ≠ 45 := by
      rintro - c member
      obtain ⟨d,rest,begins,digit⟩ := grouped.head
      rw [begins] at member
      cases member
      simp only [isDigit,Bool.and_eq_true,decide_eq_true_eq] at digit
      omega
    rw [pythonInt_signed (numeral_stripped parts blanks signed grouped) signed plain,found]
    exact ⟨digits,grouped,few,value⟩

-- Digits and nothing else.
def Decimal (s : Text) : Prop := s ≠ [] ∧ ∀ c ∈ s, isDigit c = true

instance (s : Text) : Decidable (Decimal s) := inferInstanceAs (Decidable (s ≠ [] ∧ ∀ c ∈ s, isDigit c = true))

def decimalValue (s : Text) : Nat := digitsValue (s.map (· - 48))

theorem decimal_grouped {s : Text} (decimal : Decimal s) : Grouped s (s.map (· - 48)) := by
  obtain ⟨some_,all⟩ := decimal
  induction s with
  | nil => exact absurd rfl some_
  | cons c rest ih =>
    have digit := all c List.mem_cons_self
    by_cases single : rest = []
    · rw [single]
      exact .last digit
    · exact .next digit (ih single fun d member => all d (List.mem_cons_of_mem _ member))

theorem pythonInt_decimal {s : Text} (decimal : Decimal s) :
    pythonInt s = if s.length ≤ 4300 then some (decimalValue s : Int) else none := by
  have grouped := decimal_grouped decimal
  have stripped : strip s = [] ++ s := strip_clean fun c member => digit_kept (decimal.2 c member)
  have plain : ([] : Text) = [] → ∀ c ∈ s.head?, c ≠ 43 ∧ c ≠ 45 := by
    rintro - c member
    have digit := decimal.2 c (List.mem_of_mem_head? member)
    simp only [isDigit,Bool.and_eq_true,decide_eq_true_eq] at digit
    omega
  rw [pythonInt_signed stripped .unsigned plain,scanDigits_grouped.mpr grouped,Option.bind_some,List.length_map]
  rfl

end XmlrpcExtended
