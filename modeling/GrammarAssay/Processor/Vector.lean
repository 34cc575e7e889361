/-!
# Vectors of integers

**Input.** A number of 64 or 128 bits is a vector of lanes, which have the same number of bits each; the
lowest lane comes first.

**Algorithm.** Most operations combine the lanes of two vectors one by one. Others interleave them, narrow
them, add neighbours, or move lanes to chosen places. A result that does not fit is cut off, or replaced by
the nearest number that fits.

**Results.**
* `Lanes.split`, `Lanes.join`: the lanes of a vector, and the vector of lanes.
* `Lanes.zip`, `Lanes.map`: operations lane by lane.
* `Lanes.interleave`, `Lanes.pack`, `Lanes.pairs`: operations on neighbours.
-/

namespace GrammarAssay
namespace Lanes

/-- How many numbers have so many bits. -/
def power (bits : Nat) : Nat :=
  1 <<< bits

/-- The lanes of a vector. -/
def split (bits : Nat) : Nat → Nat → List Nat
  | 0, _ => []
  | count + 1, n => n % power bits :: split bits count (n >>> bits)

/-- The vector of lanes. -/
def join (bits : Nat) : List Nat → Nat
  | [] => 0
  | n :: rest => n % power bits + join bits rest * power bits

/-- A lane of a vector. -/
def lane (bits n index : Nat) : Nat :=
  (n >>> (bits * index)) % power bits

/-- A vector with one lane changed. -/
def setLane (bits n index value : Nat) : Nat :=
  n - lane bits n index * power (bits * index) + value % power bits * power (bits * index)

/-- Combines two vectors lane by lane. -/
def zip (bits unit : Nat) (f : Nat → Nat → Nat) (a b : Nat) : Nat :=
  let count := unit / bits
  join bits (List.zipWith f (split bits count a) (split bits count b))

/-- Changes a vector lane by lane. -/
def map (bits unit : Nat) (f : Nat → Nat) (n : Nat) : Nat :=
  join bits ((split bits (unit / bits) n).map f)

/-- The number of a lane with its highest bit as a sign. -/
def signed (bits n : Nat) : Int :=
  if n.testBit (bits - 1) then (n : Int) - power bits else n

/-- The lane that stands for a number. -/
def ofInt (bits : Nat) (n : Int) : Nat :=
  (n % (power bits : Int)).toNat

/-- The nearest number that has so many bits with a sign. -/
def clampSigned (bits : Nat) (n : Int) : Nat :=
  let half : Int := power (bits - 1)
  ofInt bits (max (-half) (min (half - 1) n))

/-- The nearest number that has so many bits without a sign. -/
def clamp (bits : Nat) (n : Int) : Nat :=
  (max 0 (min ((power bits : Int) - 1) n)).toNat

/-- All bits of a lane set, or none. -/
def mask (bits : Nat) (b : Bool) : Nat :=
  if b then power bits - 1 else 0

/-- An operation on two lanes as numbers with signs. -/
def onSigned (bits : Nat) (f : Int → Int → Nat) (a b : Nat) : Nat :=
  f (signed bits a) (signed bits b)

/-- The mean of two numbers, rounded up. -/
def mean (a b : Nat) : Nat :=
  (a + b + 1) / 2

/-- The bits of the second number that the first has not. -/
def without (bits a b : Nat) : Nat :=
  (power bits - 1 - a) &&& b

/-- The sum of the products of the halves of two lanes, as numbers with signs. -/
def productSum (a b : Nat) : Nat :=
  let part (i : Nat) : Int := signed 16 (lane 16 a i) * signed 16 (lane 16 b i)
  ofInt 32 (part 0 + part 1)

/-- The sum of the distances of the bytes of two lanes. -/
def distanceSum (count a b : Nat) : Nat :=
  ((split 8 count a).zip (split 8 count b)).foldl
    (fun n p => n + (max p.1 p.2 - min p.1 p.2)) 0

/-- A lane with the sign of another one. -/
def takeSign (bits a b : Nat) : Nat :=
  let s := signed bits b
  if s < 0 then ofInt bits (-(signed bits a)) else if s = 0 then 0 else a

/-- The upper half of a product of fractions, rounded. -/
def roundedProduct (a b : Int) : Nat :=
  ofInt 16 ((((a * b) >>> (14 : Nat)) + 1) >>> (1 : Nat))

/-- The sum of the products of bytes without and with a sign. -/
def mixedSum (a b : Nat) : Nat :=
  let part (i : Nat) : Int := (lane 8 a i : Int) * signed 8 (lane 8 b i)
  clampSigned 16 (part 0 + part 1)

/-- An operation lane by lane: the bits of a lane, and what becomes of two lanes. -/
structure Operation where
  bits : Nat
  apply : Nat → Nat → Nat

/-- The operation whose code has a second byte. -/
def operation? (code : Nat) : Option Operation :=
  let sum (bits : Nat) : Operation := ⟨bits, (· + ·)⟩
  let difference (bits : Nat) : Operation := ⟨bits, fun a b => a + power bits - b⟩
  let onInts (bits : Nat) (f : Int → Int → Nat) : Operation := ⟨bits, onSigned bits f⟩
  let equal (bits : Nat) : Operation := ⟨bits, fun a b => mask bits (a == b)⟩
  let greater (bits : Nat) : Operation := onInts bits fun a b => mask bits (b < a)
  match code with
  | 0x64 => some (greater 8)
  | 0x65 => some (greater 16)
  | 0x66 => some (greater 32)
  | 0x74 => some (equal 8)
  | 0x75 => some (equal 16)
  | 0x76 => some (equal 32)
  | 0xD4 => some (sum 64)
  | 0xD5 => some (onInts 16 fun a b => ofInt 16 (a * b))
  | 0xD8 => some ⟨8, fun a b => clamp 8 ((a : Int) - b)⟩
  | 0xD9 => some ⟨16, fun a b => clamp 16 ((a : Int) - b)⟩
  | 0xDA => some ⟨8, min⟩
  | 0xDB => some ⟨64, (· &&& ·)⟩
  | 0xDC => some ⟨8, fun a b => clamp 8 ((a : Int) + b)⟩
  | 0xDD => some ⟨16, fun a b => clamp 16 ((a : Int) + b)⟩
  | 0xDE => some ⟨8, max⟩
  | 0xDF => some ⟨64, without 64⟩
  | 0xE0 => some ⟨8, mean⟩
  | 0xE3 => some ⟨16, mean⟩
  | 0xE4 => some ⟨16, fun a b => (a * b) >>> 16⟩
  | 0xE5 => some (onInts 16 fun a b => ofInt 16 ((a * b) >>> (16 : Nat)))
  | 0xE8 => some (onInts 8 fun a b => clampSigned 8 (a - b))
  | 0xE9 => some (onInts 16 fun a b => clampSigned 16 (a - b))
  | 0xEA => some (onInts 16 fun a b => ofInt 16 (min a b))
  | 0xEB => some ⟨64, (· ||| ·)⟩
  | 0xEC => some (onInts 8 fun a b => clampSigned 8 (a + b))
  | 0xED => some (onInts 16 fun a b => clampSigned 16 (a + b))
  | 0xEE => some (onInts 16 fun a b => ofInt 16 (max a b))
  | 0xEF => some ⟨64, (· ^^^ ·)⟩
  | 0xF4 => some ⟨64, fun a b => a % power 32 * (b % power 32)⟩
  | 0xF5 => some ⟨32, productSum⟩
  | 0xF6 => some ⟨64, distanceSum 8⟩
  | 0xF8 => some (difference 8)
  | 0xF9 => some (difference 16)
  | 0xFA => some (difference 32)
  | 0xFB => some (difference 64)
  | 0xFC => some (sum 8)
  | 0xFD => some (sum 16)
  | 0xFE => some (sum 32)
  | _ => none

/-- The operation whose code has a third byte, behind the second byte 38. -/
def laterOperation? (code : Nat) : Option Operation :=
  let onInts (bits : Nat) (f : Int → Int → Nat) : Operation := ⟨bits, onSigned bits f⟩
  match code with
  | 0x04 => some ⟨16, mixedSum⟩
  | 0x08 => some ⟨8, takeSign 8⟩
  | 0x09 => some ⟨16, takeSign 16⟩
  | 0x0A => some ⟨32, takeSign 32⟩
  | 0x0B => some (onInts 16 roundedProduct)
  | 0x1C => some ⟨8, fun _ b => (signed 8 b).natAbs⟩
  | 0x1D => some ⟨16, fun _ b => (signed 16 b).natAbs⟩
  | 0x1E => some ⟨32, fun _ b => (signed 32 b).natAbs⟩
  | 0x28 => some ⟨64, fun a b =>
      ofInt 64 (signed 32 (a % power 32) * signed 32 (b % power 32))⟩
  | 0x29 => some ⟨64, fun a b => mask 64 (a == b)⟩
  | 0x37 => some (onInts 64 fun a b => mask 64 (b < a))
  | 0x38 => some (onInts 8 fun a b => ofInt 8 (min a b))
  | 0x39 => some (onInts 32 fun a b => ofInt 32 (min a b))
  | 0x3A => some ⟨16, min⟩
  | 0x3B => some ⟨32, min⟩
  | 0x3C => some (onInts 8 fun a b => ofInt 8 (max a b))
  | 0x3D => some (onInts 32 fun a b => ofInt 32 (max a b))
  | 0x3E => some ⟨16, max⟩
  | 0x3F => some ⟨32, max⟩
  | 0x40 => some ⟨32, (· * ·)⟩
  | _ => none

/-- The lanes of two lists by turns. -/
def alternate : List Nat → List Nat → List Nat
  | a :: as, b :: bs => a :: b :: alternate as bs
  | _, _ => []

/-- Interleaves the lower or the upper lanes of two vectors. -/
def interleave (bits : Nat) (isUpper : Bool) (unit a b : Nat) : Nat :=
  let count := unit / bits / 2
  let start := if isUpper then unit / 2 else 0
  join bits (alternate (split bits count (a >>> start)) (split bits count (b >>> start)))

/-- Narrows the lanes of two vectors to half their bits. -/
def pack (bits : Nat) (isSigned : Bool) (unit a b : Nat) : Nat :=
  let half := bits / 2
  let narrow (n : Nat) : Nat :=
    if isSigned then clampSigned half (signed bits n) else clamp half (signed bits n)
  let count := unit / bits
  join half ((split bits count a ++ split bits count b).map narrow)

/-- Combines neighbours. -/
def neighbours (f : Nat → Nat → Nat) : List Nat → List Nat
  | a :: b :: rest => f a b :: neighbours f rest
  | _ => []

/-- Combines the neighbours in two vectors. -/
def pairs (bits : Nat) (f : Nat → Nat → Nat) (unit a b : Nat) : Nat :=
  let count := unit / bits
  join bits (neighbours f (split bits count a ++ split bits count b))

/-- The operation on neighbours whose code has a third byte, behind the second byte 38. -/
def pairing? (code : Nat) : Option (Nat → Nat → Nat → Nat) :=
  match code with
  | 0x01 => some (pairs 16 (· + ·))
  | 0x02 => some (pairs 32 (· + ·))
  | 0x03 => some (pairs 16 (onSigned 16 fun a b => clampSigned 16 (a + b)))
  | 0x05 => some (pairs 16 fun a b => a + power 16 - b)
  | 0x06 => some (pairs 32 fun a b => a + power 32 - b)
  | 0x07 => some (pairs 16 (onSigned 16 fun a b => clampSigned 16 (a - b)))
  | 0x2B => some (pack 32 false)
  | _ => none

/-- The operation that interleaves or narrows whose code has a second byte. -/
def mixing? (code : Nat) : Option (Nat → Nat → Nat → Nat) :=
  match code with
  | 0x60 => some (interleave 8 false)
  | 0x61 => some (interleave 16 false)
  | 0x62 => some (interleave 32 false)
  | 0x63 => some (pack 16 true)
  | 0x67 => some (pack 16 false)
  | 0x68 => some (interleave 8 true)
  | 0x69 => some (interleave 16 true)
  | 0x6A => some (interleave 32 true)
  | 0x6B => some (pack 32 true)
  | 0x6C => some (interleave 64 false)
  | 0x6D => some (interleave 64 true)
  | _ => none

/-- The ways to move the bits of lanes. -/
inductive Slide where
  | right
  | signedRight
  | left
deriving DecidableEq

/-- Moves the bits of all lanes. -/
def slide (s : Slide) (bits unit n count : Nat) : Nat :=
  match s with
  | .right => if bits ≤ count then 0 else map bits unit (· >>> count) n
  | .left => if bits ≤ count then 0 else map bits unit (· <<< count) n
  | .signedRight =>
    map bits unit (fun m => ofInt bits (signed bits m >>> min count (bits - 1))) n

/-- The move whose code has a second byte: its way, and the bits of a lane. -/
def slide? (code : Nat) : Option (Slide × Nat) :=
  match code with
  | 0xD1 => some (.right, 16)
  | 0xD2 => some (.right, 32)
  | 0xD3 => some (.right, 64)
  | 0xE1 => some (.signedRight, 16)
  | 0xE2 => some (.signedRight, 32)
  | 0xF1 => some (.left, 16)
  | 0xF2 => some (.left, 32)
  | 0xF3 => some (.left, 64)
  | _ => none

/-- Lanes of a vector at the places that a number tells, two bits for each. -/
def choose (bits : Nat) (n order : Nat) : Nat :=
  join bits ((List.range 4).map fun i => lane bits n (lane 2 order i))

/-- The bytes of a vector at the places that another vector tells. -/
def chooseBytes (unit a b : Nat) : Nat :=
  map 8 unit (fun i => if 128 ≤ i then 0 else lane 8 a (i % (unit / 8))) b

/-- The bytes of two vectors, one behind the other, from a byte on. -/
def align (unit a b count : Nat) : Nat :=
  ((a * power unit + b) >>> (8 * count)) % power unit

/-- The highest bits of lanes. -/
def signs (bits unit n : Nat) : Nat :=
  join 1 ((split bits (unit / bits) n).map fun m => (m.testBit (bits - 1)).toNat)

/-- Takes lanes from the second vector where bits of a number are set, else from the first. -/
def blend (bits unit a b order : Nat) : Nat :=
  let count := unit / bits
  join bits ((List.range count).map fun i =>
    if order.testBit i then lane bits b i else lane bits a i)

/-- Widens the lower lanes of a vector. -/
def widen (bits wide : Nat) (isSigned : Bool) (unit n : Nat) : Nat :=
  join wide ((split bits (unit / wide) n).map fun m =>
    if isSigned then ofInt wide (signed bits m) else m)

/-- The bits of lanes before and behind they are widened, in the order of codes. -/
def widening (code : Nat) : Nat × Nat :=
  match code % 8 with
  | 0 => (8, 16)
  | 1 => (8, 32)
  | 2 => (8, 64)
  | 3 => (16, 32)
  | 4 => (16, 64)
  | _ => (32, 64)

/-- The least lane and its number. -/
def least (n : Nat) : Nat :=
  let lanes := split 16 8 n
  let m := lanes.foldl min 0xFFFF
  m + (lanes.idxOf m) * power 16

/-- The sums of the distances of four bytes to all runs of four bytes from a place on. -/
def distances (a b order : Nat) : Nat :=
  let block := b >>> (32 * (order % 4))
  let start := a >>> (32 * (order / 4 % 2))
  join 16 ((List.range 8).map fun i => distanceSum 4 (start >>> (8 * i)) block)

/-- A product in which nothing is carried. -/
def carrylessProduct (a b : Nat) : Nat → Nat
  | 0 => 0
  | bits + 1 =>
    (if b.testBit bits then a <<< bits else 0) ^^^ carrylessProduct a b bits

/-- The rest of a division in which nothing is carried, by a polynomial of 32 bits. -/
def checksum (n : Nat) : Nat → Nat
  | 0 => n
  | bits + 1 =>
    checksum (if n % 2 = 1 then (n / 2) ^^^ 0x82F63B78 else n / 2) bits

end Lanes
end GrammarAssay
