/-!
# Bounded integers and their text

An integer type is its name and its range. Integer text is an optional sign and decimal digits;
the first character that is no digit, or the first digit that takes the value out of range,
decides the fault.
-/

namespace SqlRecords

/-- The integer types of columns and fields. -/
inductive IntType where
  | i8 | i16 | i32 | i64 | u8 | u16 | u32 | u64 | usize
  deriving DecidableEq, Repr

namespace IntType

/-- The type's name in error messages. -/
def name : IntType → String
  | i8 => "i8" | i16 => "i16" | i32 => "i32" | i64 => "i64"
  | u8 => "u8" | u16 => "u16" | u32 => "u32" | u64 => "u64" | usize => "usize"

/-- The least value. -/
def lo : IntType → Int
  | i8 => -0x80 | i16 => -0x8000 | i32 => -0x80000000 | i64 => -0x8000000000000000
  | u8 | u16 | u32 | u64 | usize => 0

/-- The greatest value; `usize` has 64 bits. -/
def hi : IntType → Int
  | i8 => 0x7F | i16 => 0x7FFF | i32 => 0x7FFFFFFF | i64 => 0x7FFFFFFFFFFFFFFF
  | u8 => 0xFF | u16 => 0xFFFF | u32 => 0xFFFFFFFF | u64 | usize => 0xFFFFFFFFFFFFFFFF

/-- The integers of the type. -/
abbrev Carrier (t : IntType) : Type := { n : Int // t.lo ≤ n ∧ n ≤ t.hi }

/-- `n` as a value of the type, when it fits. -/
def ofInt? (t : IntType) (n : Int) : Option t.Carrier :=
  if h : t.lo ≤ n ∧ n ≤ t.hi then some ⟨n, h⟩ else none

theorem lo_le_zero (t : IntType) : t.lo ≤ 0 := by cases t <;> decide

theorem zero_le_hi (t : IntType) : 0 ≤ t.hi := by cases t <;> decide

/-- Zero belongs to every type. -/
def zero (t : IntType) : t.Carrier := ⟨0, t.lo_le_zero, t.zero_le_hi⟩

instance (t : IntType) : Inhabited t.Carrier := ⟨t.zero⟩

/-- A value of one type as one of a type with a wider range. -/
def widen {t : IntType} (u : IntType) (n : t.Carrier)
    (wider : u.lo ≤ t.lo ∧ t.hi ≤ u.hi := by decide) : u.Carrier :=
  ⟨n.val, by have := n.property; omega⟩

end IntType

/-- The 32-bit integers. -/
abbrev I32 := IntType.i32.Carrier

/-- The 64-bit integers. -/
abbrev I64 := IntType.i64.Carrier

namespace Text

/-- Why a text is no integer of a range. -/
inductive IntegerFault where
  | empty | invalidDigit | tooLarge | tooSmall
  deriving DecidableEq, Repr

/-- The reason as error messages give it. -/
def IntegerFault.message : IntegerFault → String
  | empty => "cannot parse integer from empty string"
  | invalidDigit => "invalid digit found in string"
  | tooLarge => "number too large to fit in target type"
  | tooSmall => "number too small to fit in target type"

/-- The value of a decimal digit; only 0 to 9 are digits. -/
def digit? (c : Char) : Option Nat :=
  if '0' ≤ c ∧ c ≤ '9' then some (c.toNat - 48) else none

/-- The digits read on from `acc`, each counted with the sign `unit`. -/
def readDigits (lo hi unit acc : Int) : List Char → Except IntegerFault Int
  | [] => .ok acc
  | c :: rest =>
    match digit? c with
    | none => .error .invalidDigit
    | some d =>
      let n := 10 * acc + unit * d
      if hi < n then .error .tooLarge
      else if n < lo then .error .tooSmall
      else readDigits lo hi unit n rest

/-- The integer from `lo` to `hi` that a text stands for. -/
def readInteger (lo hi : Int) : List Char → Except IntegerFault Int
  | [] => .error .empty
  | ['+'] => .error .invalidDigit
  | ['-'] => .error .invalidDigit
  | '+' :: rest => readDigits lo hi 1 0 rest
  | '-' :: rest => readDigits lo hi (-1) 0 rest
  | digits => readDigits lo hi 1 0 digits

/-- The decimal digits of a natural number. -/
def natText (n : Nat) : String := String.ofList (Nat.toDigits 10 n)

/-- The decimal digits of an integer, after a minus sign when it is negative. -/
def intText (n : Int) : String :=
  if n < 0 then "-" ++ natText n.natAbs else natText n.natAbs

/-- The decimal digits of `n` after enough zeros to fill `width`. -/
def padded (width n : Nat) : String :=
  String.ofList (List.leftpad width '0' (Nat.toDigits 10 n))

end Text

end SqlRecords
