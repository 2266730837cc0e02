import Conformance.Decimal.Floating
import Conformance.Text.Quoted

namespace Conformance

class Shown (α : Type) where
  shown : α → String

export Shown (shown)

variable {α : Type}

def bracketed (texts : List String) : String := "[" ++ ", ".intercalate texts ++ "]"

instance : Shown Bool := ⟨fun b ↦ if b then "true" else "false"⟩
instance : Shown Nat := ⟨Numeral.text⟩
instance : Shown Int := ⟨Numeral.intText⟩
instance : Shown UInt8 := ⟨fun n ↦ Numeral.text n.toNat⟩
instance : Shown UInt16 := ⟨fun n ↦ Numeral.text n.toNat⟩
instance : Shown UInt32 := ⟨fun n ↦ Numeral.text n.toNat⟩
instance : Shown UInt64 := ⟨fun n ↦ Numeral.text n.toNat⟩
instance : Shown Int8 := ⟨fun n ↦ Numeral.intText n.toInt⟩
instance : Shown Int16 := ⟨fun n ↦ Numeral.intText n.toInt⟩
instance : Shown Int32 := ⟨fun n ↦ Numeral.intText n.toInt⟩
instance : Shown Int64 := ⟨fun n ↦ Numeral.intText n.toInt⟩
instance : Shown Float := ⟨fun x ↦ Decimal.general (Decimal.ofFloat x)⟩
instance : Shown Float32 := ⟨fun x ↦ Decimal.general (Decimal.ofFloat32 x)⟩
instance : Shown Char := ⟨Quoted.quotedChar⟩
instance : Shown String := ⟨Quoted.quoted⟩

instance [Shown α] : Shown (Option α) :=
  ⟨fun | none => "None" | some a => "Some(" ++ shown a ++ ")"⟩

instance [Shown α] : Shown (List α) := ⟨fun as ↦ bracketed (as.map shown)⟩

instance [Shown α] : Shown (Array α) := ⟨fun as ↦ bracketed (as.toList.map shown)⟩

end Conformance
