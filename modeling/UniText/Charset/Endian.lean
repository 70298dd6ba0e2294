/-! Byte order: how a code unit of several bytes is laid out. -/

namespace UniText

/-- Which byte of a code unit comes first. -/
inductive Endian where
  /-- The most significant byte comes first. -/
  | big
  /-- The least significant byte comes first. -/
  | little
  deriving DecidableEq, Repr

namespace Endian

/-- The number that bytes spell, the first of them being the least significant. -/
def ofLittle : List UInt8 → Nat
  | [] => 0
  | byte :: rest => byte.toNat + 0x100 * ofLittle rest

/-- The lowest bytes of a number, the least significant first. -/
def toLittle : (count : Nat) → Nat → List UInt8
  | 0, _ => []
  | count + 1, number => UInt8.ofNat number :: toLittle count (number / 0x100)

/-- The number of values that a count of bytes can tell apart. -/
def capacity : (count : Nat) → Nat
  | 0 => 1
  | count + 1 => 0x100 * capacity count

/-- The number that bytes spell in a byte order. -/
def read : Endian → List UInt8 → Nat
  | little, bytes => ofLittle bytes
  | big, bytes => ofLittle bytes.reverse

/-- A number written in a given count of bytes. -/
def write (order : Endian) (count number : Nat) : List UInt8 :=
  match order with
  | little => toLittle count number
  | big => (toLittle count number).reverse

/-- Writing takes exactly the bytes that were asked for. -/
@[simp] theorem length_toLittle (count number : Nat) : (toLittle count number).length = count := by
  -- One byte is written at each step, whatever is left of the number.
  induction count generalizing number with
  | zero => rfl
  | succ count ih => simp [toLittle, ih]

/-- Both byte orders take exactly the bytes that were asked for. -/
@[simp] theorem length_write (order : Endian) (count number : Nat) :
    (order.write count number).length = count := by
  cases order <;> simp [write]

/-- What fits into its bytes is read back from them. -/
theorem ofLittle_toLittle (count number : Nat) :
    ofLittle (toLittle count number) = number % capacity count := by
  -- The lowest byte is the remainder by 256, and the others spell the quotient.
  induction count generalizing number with
  | zero => simp [toLittle, ofLittle, capacity, Nat.mod_one]
  | succ count ih =>
    simp only [toLittle, ofLittle, capacity, ih, UInt8.toNat_ofNat']
    exact (Nat.mod_mul ..).symm

/-- Reading undoes writing for every number that fits. -/
theorem read_write (order : Endian) {count number : Nat} (fits : number < capacity count) :
    order.read (order.write count number) = number := by
  -- Big-endian bytes are the little-endian ones reversed, and reading reverses them back.
  cases order <;> simp [read, write, ofLittle_toLittle, Nat.mod_eq_of_lt fits]

/-- Bytes spell a number that fits into them. -/
theorem ofLittle_lt (bytes : List UInt8) : ofLittle bytes < capacity bytes.length := by
  induction bytes with
  | nil => simp [ofLittle, capacity]
  | cons byte rest ih =>
    -- The first byte is below 256, and the others take the remaining factors.
    have small := byte.toNat_lt
    simp only [ofLittle, List.length_cons, capacity]
    omega

/-- Writing undoes reading for any run of bytes. -/
theorem toLittle_ofLittle (bytes : List UInt8) :
    toLittle bytes.length (ofLittle bytes) = bytes := by
  induction bytes with
  | nil => rfl
  | cons byte rest ih =>
    -- The lowest byte of the number is the first byte, and the quotient spells the rest.
    have small := byte.toNat_lt
    have quotient : (byte.toNat + 0x100 * ofLittle rest) / 0x100 = ofLittle rest := by omega
    simp only [List.length_cons, toLittle, ofLittle, quotient, ih, List.cons.injEq, and_true]
    apply UInt8.toNat_inj.mp
    simp only [UInt8.toNat_ofNat']
    omega

end Endian

end UniText
