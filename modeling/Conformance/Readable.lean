import Conformance.Decimal.Reading
import Conformance.Word

namespace Conformance

class Readable (α : Type) where
  read? : String → Option α

export Readable (read?)

/-- A size or count that fits a machine word. -/
instance : Readable Nat := ⟨fun s ↦ Numeral.readNat wordLimit s.toList⟩

instance : Readable UInt8 := ⟨fun s ↦ (Numeral.readNat UInt8.size s.toList).map (UInt8.ofNat ·)⟩
instance : Readable UInt16 := ⟨fun s ↦ (Numeral.readNat UInt16.size s.toList).map (UInt16.ofNat ·)⟩
instance : Readable UInt32 := ⟨fun s ↦ (Numeral.readNat UInt32.size s.toList).map (UInt32.ofNat ·)⟩
instance : Readable UInt64 := ⟨fun s ↦ (Numeral.readNat UInt64.size s.toList).map (UInt64.ofNat ·)⟩

def readSigned (bits : Nat) (s : String) : Option Int :=
  let half : Int := Nat.pow 2 (bits - 1)
  Numeral.readInt (-half) (half - 1) s.toList

instance : Readable Int8 := ⟨fun s ↦ (readSigned 8 s).map Int8.ofInt⟩
instance : Readable Int16 := ⟨fun s ↦ (readSigned 16 s).map Int16.ofInt⟩
instance : Readable Int32 := ⟨fun s ↦ (readSigned 32 s).map Int32.ofInt⟩
instance : Readable Int64 := ⟨fun s ↦ (readSigned 64 s).map Int64.ofInt⟩

instance : Readable Bool := ⟨fun | "true" => some true | "false" => some false | _ => none⟩
instance : Readable Char := ⟨fun s ↦ match s.toList with | [c] => some c | _ => none⟩
instance : Readable String := ⟨some⟩
instance : Readable Float := ⟨fun s ↦ Decimal.readFloat s.toList⟩

end Conformance
