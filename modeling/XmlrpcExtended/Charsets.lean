import Mathlib.Data.List.Forall2
import XmlrpcExtended.PythonInt

namespace XmlrpcExtended

-- `encode` refuses a text for the characters it lacks, ASCII not among them, and `decode`
-- takes back what `encode` has given.
structure Charset where
  encode : Text → Option (List UInt8)
  decode : List UInt8 → Option Text
  characters : ∀ t, (encode t).isSome = true ↔ ∀ c ∈ t, (encode [c]).isSome = true
  ascii : ∀ c < 128, (encode [c]).isSome = true
  decoded : ∀ t b, encode t = some b → decode b = some t

namespace Charset

def lacks (cs : Charset) (c : Nat) : Bool := (cs.encode [c]).isNone

def reference (c : Nat) : Text := text "&#" ++ text (toString c) ++ text ";"

def written (cs : Charset) (c : Nat) : Text := if cs.lacks c then reference c else [c]

def replaced (cs : Charset) (t : Text) : Text := t.flatMap cs.written

-- `str.encode(.., "xmlcharrefreplace")`
def bytes (cs : Charset) (t : Text) : List UInt8 := (cs.encode (cs.replaced t)).getD []

theorem reference_ascii (member : c ∈ reference n) : c < 128 := by
  have bounds : ∀ c ∈ text "&#" ++ text ";", c < 128 := by decide
  simp only [reference,List.mem_append] at member
  rcases member with (front | digits) | back
  · exact bounds c (List.mem_append_left _ front)
  · have digit := repr_clean digits
    omega
  · exact bounds c (List.mem_append_right _ back)

theorem replaced_encodes (cs : Charset) (t : Text) : cs.encode (cs.replaced t) = some (cs.bytes t) := by
  have whole : (cs.encode (cs.replaced t)).isSome = true := by
    rw [cs.characters]
    intro c member
    obtain ⟨d,_,inside⟩ := List.mem_flatMap.mp member
    unfold written at inside
    split at inside
    · exact cs.ascii c (reference_ascii inside)
    · rename_i has
      rw [List.mem_singleton.mp inside]
      simpa [lacks,Option.isSome_iff_ne_none] using has
  obtain ⟨b,made⟩ := Option.isSome_iff_exists.mp whole
  rw [bytes,made,Option.getD_some]

theorem bytes_decoded (cs : Charset) (t : Text) : cs.decode (cs.bytes t) = some (cs.replaced t) :=
  cs.decoded _ _ (cs.replaced_encodes t)

theorem replaced_same {cs : Charset} {t : Text} (has : ∀ c ∈ t, cs.lacks c = false) : cs.replaced t = t := by
  unfold replaced
  induction t with
  | nil => rfl
  | cons c rest ih =>
    rw [List.flatMap_cons,ih fun d member => has d (List.mem_cons_of_mem _ member),written,has c List.mem_cons_self]
    rfl

@[simp] theorem replaced_append (cs : Charset) (s t : Text) : cs.replaced (s ++ t) = cs.replaced s ++ cs.replaced t :=
  List.flatMap_append

section
variable {α β : Type} {f : α → Option β}

theorem mapM_some {t : List α} {l : List β} : t.mapM f = some l ↔ List.Forall₂ (fun c d => f c = some d) t l := by
  induction t generalizing l with
  | nil => simp [eq_comm]
  | cons c rest ih =>
    rw [List.mapM_cons,List.forall₂_cons_left_iff]
    constructor
    · intro made
      obtain ⟨d,here,later⟩ := Option.bind_eq_some_iff.mp made
      obtain ⟨others,there,same⟩ := Option.bind_eq_some_iff.mp later
      cases same
      exact ⟨d,others,here,ih.mp there,rfl⟩
    · rintro ⟨d,others,here,there,rfl⟩
      exact Option.bind_eq_some_iff.mpr ⟨d,here,Option.bind_eq_some_iff.mpr ⟨others,ih.mpr there,rfl⟩⟩

theorem mapM_isSome {t : List α} : (t.mapM f).isSome = true ↔ ∀ c ∈ t, (f c).isSome = true := by
  induction t with
  | nil => simp
  | cons c rest ih =>
    rw [List.mapM_cons,List.forall_mem_cons,← ih]
    cases f c with
    | none => simp
    | some d => cases rest.mapM f <;> simp

end

-- A Unicode scalar value.
def scalar (c : Nat) : Option Char := if c.isValidChar then some (Char.ofNat c) else none

theorem scalar_some {d : Char} : scalar c = some d ↔ c = d.toNat := by
  unfold scalar
  constructor
  · intro same
    split at same
    · rename_i valid
      cases same
      rw [Char.ofNat,dif_pos valid]
      rfl
    · cases same
  · rintro rfl
    rw [if_pos (show d.toNat.isValidChar from d.valid),Char.ofNat_toNat]

theorem scalars_some {t : Text} {l : List Char} : t.mapM scalar = some l ↔ t = l.map Char.toNat := by
  rw [mapM_some,← List.forall₂_eq_eq_eq,List.forall₂_map_right_iff]
  simp only [scalar_some]

def utf8 : Charset where
  encode t := (t.mapM scalar).map fun l => l.flatMap String.utf8EncodeChar
  decode b := b.toByteArray.utf8Decode?.map fun l => l.toList.map Char.toNat
  characters t := by
    simp only [Option.isSome_map,mapM_isSome,List.mem_singleton,forall_eq]
  ascii c small := by
    have valid : c.isValidChar := .inl (by omega)
    simp [scalar,valid]
  decoded t b made := by
    obtain ⟨l,scalars,rfl⟩ := Option.map_eq_some_iff.mp made
    have written : (l.flatMap String.utf8EncodeChar).toByteArray = l.utf8Encode := rfl
    rw [written,List.utf8Decode?_utf8Encode,scalars_some.mp scalars]
    rfl

theorem utf8_decode_iff : utf8.decode b = some t ↔ utf8.encode t = some b := by
  refine ⟨fun read => ?_,utf8.decoded t b⟩
  obtain ⟨l,decoded,rfl⟩ := Option.map_eq_some_iff.mp read
  have bytes : l.toList.utf8Encode = b.toByteArray := by
    have got := ByteArray.utf8Encode_get_utf8Decode? (b := b.toByteArray) (h := by rw [decoded]; rfl)
    simpa only [decoded,Option.get_some] using got
  have same : l.toList.flatMap String.utf8EncodeChar = b := List.toByteArray_inj.mp bytes
  change ((l.toList.map Char.toNat).mapM scalar).map _ = some b
  rw [scalars_some.mpr rfl,Option.map_some,same]

theorem scalars_wide (l : List Char) : l.length ≤ (l.flatMap String.utf8EncodeChar).length := by
  induction l with
  | nil => exact Nat.le_refl _
  | cons d rest ih =>
    rw [List.flatMap_cons,List.length_append,String.length_utf8EncodeChar,List.length_cons]
    have := d.utf8Size_pos
    omega

-- A text that takes a byte for each character is in ASCII.
theorem scalars_narrow {l : List Char} (narrow : (l.flatMap String.utf8EncodeChar).length ≤ l.length) :
    ∀ d ∈ l, d.toNat < 128 := by
  induction l with
  | nil => simp
  | cons d rest ih =>
    rw [List.flatMap_cons,List.length_append,String.length_utf8EncodeChar,List.length_cons] at narrow
    have wide := scalars_wide rest
    have positive := d.utf8Size_pos
    rw [List.forall_mem_cons]
    refine ⟨?_,ih (by omega)⟩
    by_contra large
    have wider : d.utf8Size ≠ 1 := by
      rw [Ne,Char.utf8Size_eq_one_iff,UInt32.le_iff_toNat_le]
      change ¬ d.toNat ≤ 127
      omega
    omega

theorem utf8_ascii {t : Text} (small : ∀ c ∈ t, c < 128) : utf8.encode t = some (t.map UInt8.ofNat) := by
  have valid : ∀ c ∈ t, (Char.ofNat c).toNat = c := fun c member => by
    have bound := small c member
    rw [Char.ofNat,dif_pos (.inl (by omega))]
    rfl
  have back : t = (t.map Char.ofNat).map Char.toNat := by
    rw [List.map_map]
    exact ((List.map_congr_left valid).trans (List.map_id _)).symm
  have single : ∀ c ∈ t, String.utf8EncodeChar (Char.ofNat c) = [UInt8.ofNat c] := fun c member => by
    have bound : (Char.ofNat c).val.toNat ≤ 127 := by
      change (Char.ofNat c).toNat ≤ 127
      rw [valid c member]
      have := small c member
      omega
    have code : (Char.ofNat c).val.toNat = c := valid c member
    rw [code] at bound
    simp [String.utf8EncodeChar,code,bound]
  change (t.mapM scalar).map _ = _
  rw [scalars_some.mpr back,Option.map_some,List.flatMap_map,Option.some.injEq]
  clear back valid small
  induction t with
  | nil => rfl
  | cons c rest ih =>
    rw [List.flatMap_cons,single c List.mem_cons_self,ih fun d member => single d (List.mem_cons_of_mem _ member)]
    rfl

-- A charset with one byte for each of its characters, given by two inverse tables.
def table (byteOf : Nat → Option UInt8) (charOf : UInt8 → Option Nat)
    (same : ∀ c < 128, byteOf c = some (UInt8.ofNat c)) (inverse : ∀ c b, byteOf c = some b → charOf b = some c) :
    Charset where
  encode t := t.mapM byteOf
  decode b := b.mapM charOf
  characters t := by
    simp only [mapM_isSome,List.mem_singleton,forall_eq]
  ascii c small := by
    simp [same c small]
  decoded t b made := by
    rw [mapM_some] at made ⊢
    exact made.flip.imp fun b c written => inverse c b written

section
variable {byteOf : Nat → Option UInt8} {charOf : UInt8 → Option Nat} {same : ∀ c < 128, byteOf c = some (UInt8.ofNat c)}
  {inverse : ∀ c b, byteOf c = some b → charOf b = some c}

theorem table_utf8 {t : Text} (made : (table byteOf charOf same inverse).encode t = some b) :
    utf8.encode t = some b ↔ ∀ c ∈ t, c < 128 := by
  have paired := mapM_some.mp made
  constructor
  · intro written
    obtain ⟨l,scalars,bytes⟩ := Option.map_eq_some_iff.mp written
    obtain rfl := scalars_some.mp scalars
    have narrow := scalars_narrow (l := l) (Nat.le_of_eq (by rw [bytes,← paired.length_eq,List.length_map]))
    intro c member
    obtain ⟨d,inside,rfl⟩ := List.mem_map.mp member
    exact narrow d inside
  · intro small
    have shown : (table byteOf charOf same inverse).encode t = some (t.map UInt8.ofNat) := by
      refine mapM_some.mpr ?_
      rw [List.forall₂_map_right_iff,List.forall₂_same]
      exact fun c member => same c (small c member)
    cases made.symm.trans shown
    exact utf8_ascii small

theorem table_agrees (t : Text) :
    utf8.encode ((table byteOf charOf same inverse).replaced t) = some ((table byteOf charOf same inverse).bytes t) ↔
      ∀ c ∈ t, c < 128 ∨ (table byteOf charOf same inverse).lacks c = true := by
  rw [table_utf8 (replaced_encodes _ t)]
  constructor
  · intro small c member
    by_contra outside
    obtain ⟨large,has⟩ := not_or.mp outside
    refine large (small c (List.mem_flatMap.mpr ⟨c,member,?_⟩))
    rw [written,if_neg has]
    exact List.mem_singleton_self c
  · intro small c member
    obtain ⟨d,inside,shown⟩ := List.mem_flatMap.mp member
    unfold written at shown
    split at shown
    · exact reference_ascii shown
    · rename_i has
      rw [List.mem_singleton.mp shown]
      exact (small d inside).resolve_right has

end

def latin1 : Charset :=
  table (fun c => if c < 256 then some (UInt8.ofNat c) else none) (fun b => some b.toNat)
    (fun c small => if_pos (by omega)) (by
      intro c b written
      split at written
      · rename_i small
        cases written
        rw [UInt8.toNat_ofNat_of_lt' small]
      · cases written)

def usAscii : Charset :=
  table (fun c => if c < 128 then some (UInt8.ofNat c) else none) (fun b => if b < 128 then some b.toNat else none)
    (fun c small => if_pos small) (by
      intro c b written
      split at written
      · rename_i small
        cases written
        have same := UInt8.toNat_ofNat_of_lt' (show c < 256 by omega)
        rw [same,if_pos]
        rw [UInt8.lt_iff_toNat_lt,same]
        exact small
      · cases written)

end Charset
end XmlrpcExtended
