import GrammarAssay.Platform.Function.Store

/-!
# Functions of the system that call functions

**Input.** The address of an array, how many elements it has and how long they are, and the address of a
function that compares two elements.

**Algorithm.** Sorting merges sorted halves; elements that compare as equal keep their order. A search
halves the range in which an element can be, or looks at one element after the other.

**Results.**
* `Routine.callers`: the functions with their names.
-/

namespace GrammarAssay
namespace Routine

open Execution

/-- A comparison of the elements at two addresses. -/
abbrev Comparison := UInt64 → UInt64 → Execution Int

/-- The comparison that a function makes. -/
def comparison (run : Runner) (function : UInt64) (more : List UInt64) : Comparison :=
  fun a b => return Width.four.signed (← callBack run function ([a, b] ++ more)).toNat

/-- Merges two sorted lists. -/
def merge (compare : Comparison) : Nat → List UInt64 → List UInt64 → Execution (List UInt64)
  | 0, as, bs => return as ++ bs
  | bound + 1, as, bs =>
    match as, bs with
    | [], _ => return bs
    | _, [] => return as
    | a :: as', b :: bs' => do
      if (← compare a b) ≤ 0 then return a :: (← merge compare bound as' bs)
      else return b :: (← merge compare bound as bs')

/-- Sorts a list. -/
def mergeSort (compare : Comparison) : Nat → List UInt64 → Execution (List UInt64)
  | 0, l => return l
  | bound + 1, l =>
    if l.length ≤ 1 then return l
    else do
      let half := l.length / 2
      let front ← mergeSort compare bound (l.take half)
      let back ← mergeSort compare bound (l.drop half)
      merge compare l.length front back

/-- The addresses of the elements of an array. -/
def elements (address : UInt64) (n size : Nat) : List UInt64 :=
  (List.range n).map fun i => address + UInt64.ofNat (i * size)

/-- Sorts an array. -/
def sort (hasExtra : Bool) (run : Runner) : Routine := do
  let address ← argument 0
  let n ← count 1
  let size ← count 2
  let extra ← argument 4
  let compare := comparison run (← argument 3) (if hasExtra then [extra] else [])
  let stretch ← allocate (n * size)
  copy stretch address (n * size)
  let sorted ← mergeSort compare n (elements stretch n size)
  let bytes ← sorted.mapM fun a => bytesAt a size
  putBytes address bytes.flatten
  return 0

/-- Searches a sorted array by halves. -/
def searchHalves (compare : UInt64 → Execution Int) (address : UInt64) (size : Nat) :
    Nat → Nat → Nat → Execution UInt64
  | 0, _, _ => return 0
  | bound + 1, low, high =>
    if high ≤ low then return 0
    else do
      let middle := (low + high) / 2
      let element := address + UInt64.ofNat (middle * size)
      let c ← compare element
      if c < 0 then searchHalves compare address size bound low middle
      else if c = 0 then return element
      else searchHalves compare address size bound (middle + 1) high

/-- Searches a sorted array. -/
def searchSorted (run : Runner) : Routine := do
  let key ← argument 0
  let address ← argument 1
  let n ← count 2
  let size ← count 3
  let compare := comparison run (← argument 4) []
  searchHalves (compare key) address size 64 0 n

/-- Searches elements one by one. -/
def searchEach (compare : UInt64 → Execution Int) : List UInt64 → Execution UInt64
  | [] => return 0
  | a :: rest => do
    if (← compare a) = 0 then return a else searchEach compare rest

/-- Searches an array, and may add what is not found. -/
def searchArray (adds : Bool) (run : Runner) : Routine := do
  let key ← argument 0
  let address ← argument 1
  let place ← argument 2
  let n := (← wordAt place).toNat
  let size ← count 3
  let compare := comparison run (← argument 4) []
  let found ← searchEach (compare key) (elements address (min n longest) size)
  if found ≠ 0 ∨ !adds then return found
  let new := address + UInt64.ofNat (n * size)
  copy new key size
  putWord place (UInt64.ofNat (n + 1))
  return new

/-- Calls a function if that was not done before. -/
def callOnce (done : Nat) (run : Runner) : Routine := do
  let place ← argument 0
  if (← readMemory place 4) = done then return 0
  discard (callBack run (← argument 1) [])
  writeMemory place done 4
  return 0

/-- The functions that call functions, with their names. -/
def callers : List (String × (Runner → Routine)) :=
  [("qsort", sort false), ("qsort_r", sort true), ("bsearch", searchSorted),
    ("lfind", searchArray false), ("lsearch", searchArray true),
    ("pthread_once", callOnce 2), ("__pthread_once", callOnce 2), ("call_once", callOnce 2)]

end Routine
end GrammarAssay
