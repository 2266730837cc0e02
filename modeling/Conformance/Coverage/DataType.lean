import Conformance.Device.Basic
import Conformance.Word

namespace Conformance.Coverage

inductive Scalar
  | bool
  | i8
  | u8
  | i16
  | u16
  | i32
  | u32
  | i64
  | u64
  | f32
  | f64
  deriving DecidableEq, Repr, Inhabited

namespace Scalar

def all : List Scalar := [bool, i8, u8, i16, u16, i32, u32, i64, u64, f32, f64]

def name : Scalar → String
  | bool => "bool"
  | i8 => "i8"
  | u8 => "u8"
  | i16 => "i16"
  | u16 => "u16"
  | i32 => "i32"
  | u32 => "u32"
  | i64 => "i64"
  | u64 => "u64"
  | f32 => "f32"
  | f64 => "f64"

abbrev Value : Scalar → Type
  | bool => Bool
  | i8 => Int8
  | u8 => UInt8
  | i16 => Int16
  | u16 => UInt16
  | i32 => Int32
  | u32 => UInt32
  | i64 => Int64
  | u64 => UInt64
  | f32 => Float32
  | f64 => Float

def requires : Scalar → Option Capability
  | i64 | u64 => some .atomic64
  | f64 => some .fp64
  | _ => none

def zero : (s : Scalar) → s.Value
  | bool => false
  | i8 => 0
  | u8 => 0
  | i16 => 0
  | u16 => 0
  | i32 => 0
  | u32 => 0
  | i64 => 0
  | u64 => 0
  | f32 => 0
  | f64 => 0

def bytes : Scalar → Nat
  | bool | i8 | u8 => 1
  | i16 | u16 => 2
  | i32 | u32 | f32 => 4
  | i64 | u64 | f64 => 8

def sample : (s : Scalar) → Nat → s.Value
  | bool, i => i % 2 == 1
  | i8, i => Int8.ofNat (i % 7)
  | u8, i => UInt8.ofNat (i % 7)
  | i16, i => Int16.ofNat (i % 7)
  | u16, i => UInt16.ofNat (i % 7)
  | i32, i => Int32.ofNat (i % 7)
  | u32, i => UInt32.ofNat (i % 7)
  | i64, i => Int64.ofNat (i % 7)
  | u64, i => UInt64.ofNat (i % 7)
  | f32, i => Float32.ofNat (i % 7)
  | f64, i => Float.ofNat (i % 7)

def combine : (s : Scalar) → s.Value → s.Value → s.Value
  | bool, a, b => a || b
  | i8, a, b => a + b
  | u8, a, b => a + b
  | i16, a, b => a + b
  | u16, a, b => a + b
  | i32, a, b => a + b
  | u32, a, b => a + b
  | i64, a, b => a + b
  | u64, a, b => a + b
  | f32, a, b => a + b
  | f64, a, b => a + b

def equal : (s : Scalar) → s.Value → s.Value → Bool
  | bool, a, b => a == b
  | i8, a, b => a == b
  | u8, a, b => a == b
  | i16, a, b => a == b
  | u16, a, b => a == b
  | i32, a, b => a == b
  | u32, a, b => a == b
  | i64, a, b => a == b
  | u64, a, b => a == b
  | f32, a, b => a == b
  | f64, a, b => a == b

def shown : (s : Scalar) → s.Value → String
  | bool, a => Conformance.shown a
  | i8, a => Conformance.shown a
  | u8, a => Conformance.shown a
  | i16, a => Conformance.shown a
  | u16, a => Conformance.shown a
  | i32, a => Conformance.shown a
  | u32, a => Conformance.shown a
  | i64, a => Conformance.shown a
  | u64, a => Conformance.shown a
  | f32, a => Conformance.shown a
  | f64, a => Conformance.shown a

end Scalar

inductive DataType
  | scalar (s : Scalar)
  | vector (element : DataType) (width : Nat)
  deriving DecidableEq, Repr, Inhabited

namespace DataType

abbrev Value : DataType → Type
  | scalar s => s.Value
  | vector t width => Vector t.Value width

def requires : DataType → Option Capability
  | scalar s => s.requires
  | vector t _ => t.requires

def bytes : DataType → Nat
  | scalar s => s.bytes
  | vector t width => width * t.bytes

def alignment : DataType → Nat
  | scalar s => s.bytes
  | vector t _ => t.alignment

def zero : (t : DataType) → t.Value
  | scalar s => s.zero
  | vector t width => Vector.replicate width t.zero

/-- Each lane of a vector samples the index moved on by the number of the lane, which may leave the
range of indices. -/
def sample : (t : DataType) → Nat → Except Overflow t.Value
  | scalar s, i => .ok (s.sample i)
  | vector t width, i => (Vector.range width).mapM fun lane ↦ do t.sample (← addWord i lane)

def combine : (t : DataType) → t.Value → t.Value → t.Value
  | scalar s, a, b => s.combine a b
  | vector t _, a, b => Vector.zipWith t.combine a b

def equal : (t : DataType) → t.Value → t.Value → Bool
  | scalar s, a, b => s.equal a b
  | vector t _, a, b => (Vector.zipWith t.equal a b).toList.all id

def shown : (t : DataType) → t.Value → String
  | scalar s, a => s.shown a
  | vector t _, a => bracketed (a.toList.map t.shown)

instance (t : DataType) : BEq t.Value := ⟨t.equal⟩
instance (t : DataType) : Shown t.Value := ⟨t.shown⟩

end DataType

end Conformance.Coverage
