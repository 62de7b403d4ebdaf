import Mathlib.Data.List.Basic

namespace XmlrpcExtended

-- A Python str is a sequence of code points, lone surrogates included, which
-- a Lean String cannot hold. Literals of the source are written with `text`.
abbrev Text := List Nat

def text (literal : String) : Text := literal.toList.map Char.toNat

def Text.startsWith (whole part : Text) : Bool := part.isPrefixOf whole

-- `str.lower` on Latin-1, where no other letter lowers to an ASCII one.
def lower (c : Nat) : Nat :=
  if (65 ≤ c ∧ c ≤ 90) ∨ (192 ≤ c ∧ c ≤ 222 ∧ c ≠ 215) then c + 32 else c

end XmlrpcExtended
