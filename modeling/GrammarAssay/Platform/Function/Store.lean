import GrammarAssay.Platform.Function.Number

/-!
# Functions of the system on storage

**Input.** Sizes of stretches of memory that a program asks for, and of data that the system keeps for it.

**Algorithm.** A new stretch follows those that were given out before. In front of each stands its size. Data
that many functions share stand at fixed places, and are written when they are asked for.

**Results.**
* `Routine.allocate`: a new stretch of memory.
* `Routine.storage`: the functions with their names.
-/

namespace GrammarAssay
namespace Routine

open Execution

/-- Where the address of the next new stretch stands. -/
def nextStretch : UInt64 := 0x2002000

/-- Where stretches begin. -/
def firstStretch : UInt64 := 0x40000000

/-- How many bytes a stretch has that is to have so many. -/
def stretchSize (n : Nat) : Nat :=
  max 24 ((n + 23) / 16 * 16 - 8)

/-- A new stretch of memory with a number of bytes, at a multiple of an alignment. -/
def allocateAt (alignment n : Nat) : Execution UInt64 := do
  if longest * 16 < n then return 0
  let old ← wordAt nextStretch
  let start := (if old = 0 then firstStretch else old).toNat + 16
  let start := (start + alignment - 1) / alignment * alignment
  writeMemory (UInt64.ofNat (start - 8)) (stretchSize n) 8
  writeMemory nextStretch (start + stretchSize n + 8 - 16) 8
  return UInt64.ofNat start

/-- A new stretch of memory. -/
def allocate (n : Nat) : Execution UInt64 :=
  allocateAt 16 n

/-- How many bytes a stretch has. -/
def sizeOf (address : UInt64) : Execution Nat :=
  if address = 0 then return 0 else return (← wordAt (address - 8)).toNat

/-- A stretch with another size, and what was in the old one. -/
def reallocate (address : UInt64) (n : Nat) : Routine := do
  let size ← sizeOf address
  if n ≤ size then return address
  let new ← allocate n
  copy new address size
  return new

/-- A new stretch that holds a text. -/
def keepText (bs : Bytes) : Routine := do
  let new ← allocate (bs.length + 1)
  putText new bs
  return new

/-- Writes a table of numbers for the characters from -128 to 255, and gives where its address stands. -/
def characterTable (place : UInt64) (width : Nat) (f : Int → Nat) : Routine := do
  if (← wordAt place) = 0 then
    putBytes (place + 16) ((List.range 384).flatMap fun (i : Nat) =>
      let n := f ((i : Int) - 128)
      (List.range width).map fun k => UInt8.ofNat (n >>> (8 * k)))
    putWord place (place + 16 + 128 * UInt64.ofNat width)
  return place

/-- Fills a stretch of the first argument with zeros. -/
def empty (n : Nat) : Routine := do
  fill (← argument 0) 0 n
  return 0

/-- Does nothing, and gives a number. -/
def always (n : UInt64) : Routine :=
  return n

/-- Sets or resets a bit in a set of signals. -/
def changeSignal (isSet : Bool) : Routine := do
  let place ← argument 0
  let n ← int 1
  if n < 1 ∨ 64 < n ∨ n = 32 ∨ n = 33 then return ofInt (-1)
  let old ← readMemory place 8
  let bit := 1 <<< (n.toNat - 1)
  writeMemory place (if isSet then old ||| bit else if old &&& bit = 0 then old else old - bit) 8
  return 0

/-- The path without its last part. -/
def directory : Routine := do
  let address ← argument 0
  let bs ← if address = 0 then pure [] else textAt address
  let trimmed := (bs.reverse.dropWhile (· == 47)).reverse
  match findLast? 47 trimmed with
  | none => if trimmed.isEmpty ∧ !bs.isEmpty then answerText [47] else answerText [46]
  | some i =>
    let front := ((trimmed.take i).reverse.dropWhile (· == 47)).reverse
    if front.isEmpty then answerText [47]
    else
      putBytes (address + UInt64.ofNat front.length) [0]
      return address

/-- Keeps where the program is, for a jump back. -/
def keepPlace : Routine := do
  let place ← argument 0
  let p ← get
  for (r, i) in Processor.keptRegisters.zipIdx do
    putWord (place + 8 * UInt64.ofNat i) (p.register r)
  putWord (place + 48) (p.register Processor.stack + 8)
  putWord (place + 56) (p.memory.word (p.register Processor.stack))
  return 0

/-- Jumps back to where the program was. -/
def jumpBack : Execution Unit := do
  let place ← argument 0
  let value := (← argument 1) % 0x100000000
  for (r, i) in Processor.keptRegisters.zipIdx do
    writeRegister .eight r (← readMemory (place + 8 * UInt64.ofNat i) 8)
  writeRegister .eight Processor.stack (← readMemory (place + 48) 8)
  writeRegister .eight Processor.result (if value = 0 then 1 else value).toNat
  jump (← wordAt (place + 56))

/-- Where the values stand that a thread keeps under keys. -/
def keyedValues : UInt64 := 0x2003000

/-- Puts an element behind another one in a chain. -/
def insertBehind : Routine := do
  let element ← argument 0
  let before ← argument 1
  if before = 0 then
    putWord element 0
    putWord (element + 8) 0
  else
    let next ← wordAt before
    putWord before element
    if next ≠ 0 then putWord (next + 8) element
    putWord element next
    putWord (element + 8) before
  return 0

/-- Takes an element out of a chain. -/
def removeElement : Routine := do
  let element ← argument 0
  let next ← wordAt element
  let before ← wordAt (element + 8)
  if next ≠ 0 then putWord (next + 8) before
  if before ≠ 0 then putWord before next
  return 0

/-- Functions that have nothing to do here and give zero. -/
def idle : List String :=
  ["pthread_mutex_lock", "pthread_mutex_unlock", "pthread_mutex_trylock", "pthread_mutex_destroy",
    "__pthread_mutex_lock", "__pthread_mutex_unlock", "__pthread_mutex_trylock",
    "__pthread_mutex_destroy", "pthread_cond_signal", "pthread_cond_broadcast",
    "pthread_cond_destroy", "pthread_attr_destroy", "pthread_mutexattr_destroy",
    "__pthread_mutexattr_destroy", "pthread_rwlock_rdlock", "pthread_rwlock_wrlock",
    "pthread_rwlock_unlock", "pthread_rwlock_destroy", "__pthread_rwlock_rdlock",
    "__pthread_rwlock_wrlock", "__pthread_rwlock_unlock", "__pthread_rwlock_destroy",
    "pthread_setcancelstate", "pthread_setcanceltype", "pthread_testcancel", "sched_yield",
    "__sched_yield", "pthread_yield", "thrd_yield", "mtx_lock", "mtx_unlock", "mtx_destroy",
    "free", "cfree", "__libc_free", "flockfile", "funlockfile", "tzset", "getenv", "secure_getenv",
    "__secure_getenv", "__cxa_atexit", "__cxa_thread_atexit_impl", "__cxa_finalize",
    "__register_atfork", "pthread_atfork", "mcheck", "mtrace", "muntrace", "obstack_free",
    "posix_spawnattr_destroy", "posix_spawn_file_actions_destroy", "usleep", "sleep", "alarm",
    "mallopt", "malloc_trim", "__libc_freeres", "xdr_free", "endpwent", "endgrent", "closelog",
    "h_errno", "mprobe", "_dl_debug_state", "__cyg_profile_func_enter", "__cyg_profile_func_exit",
    "mcount", "_mcount", "moncontrol", "__fentry__"]

/-- Functions that fill a stretch with zeros. -/
def emptied : List (String × Nat) :=
  [("sigemptyset", 8), ("pthread_attr_init", 56), ("pthread_cond_init", 48),
    ("pthread_mutexattr_init", 4), ("__pthread_mutexattr_init", 4), ("pthread_condattr_init", 4),
    ("pthread_rwlockattr_init", 8), ("pthread_barrierattr_init", 4),
    ("posix_spawnattr_init", 336), ("posix_spawn_file_actions_init", 80),
    ("pthread_spin_init", 4)]

/-- The functions on storage with their names. -/
def storage : List (String × Routine) :=
  (idle.map (·, always 0)) ++ (emptied.map fun e => (e.1, empty e.2)) ++
  ["malloc", "__libc_malloc"].map (·, do allocate (← count 0)) ++
  ["calloc", "__libc_calloc"].map (·, do
    let n := (← argument 0).toNat * (← argument 1).toNat
    let new ← allocate n
    if new ≠ 0 then fill new 0 n
    return new) ++
  ["realloc", "__libc_realloc"].map (·, do reallocate (← argument 0) (← argument 1).toNat) ++
  ["aligned_alloc", "memalign", "__libc_memalign"].map (·, do
    allocateAt (max 16 (← count 0)) (← count 1)) ++
  [("reallocarray", do reallocate (← argument 0) ((← argument 1).toNat * (← argument 2).toNat)),
    ("posix_memalign", do
      let place ← argument 0
      putWord place (← allocateAt (max 16 (← count 1)) (← count 2))
      return 0),
    ("valloc", do allocateAt 4096 (← count 0)), ("__libc_valloc", do allocateAt 4096 (← count 0)),
    ("malloc_usable_size", do return UInt64.ofNat (← sizeOf (← argument 0))),
    ("strdup", do keepText (← text 0)), ("__strdup", do keepText (← text 0)),
    ("strndup", do keepText (← cutText 0 1)), ("__strndup", do keepText (← cutText 0 1)),
    ("__ctype_b_loc", characterTable 0x2010000 2 fun c => if c < 255 then classOf c else 0),
    ("__ctype_tolower_loc", characterTable 0x2011000 4 (caseOf lower)),
    ("__ctype_toupper_loc", characterTable 0x2012000 4 (caseOf upper)),
    ("__ctype_get_mb_cur_max", always 1),
    ("__errno_location", always errorPlace), ("__h_errno_location", always 0x2004010),
    ("getpagesize", always 4096), ("__getpagesize", always 4096),
    ("pthread_self", always Marks.threadBase), ("thrd_current", always Marks.threadBase),
    ("pthread_equal", do return if (← argument 0) = (← argument 1) then 1 else 0),
    ("thrd_equal", do return if (← argument 0) = (← argument 1) then 1 else 0),
    ("pthread_mutex_init", empty 40), ("__pthread_mutex_init", empty 40),
    ("mtx_init", empty 40), ("pthread_rwlock_init", empty 56), ("__pthread_rwlock_init", empty 56),
    ("sigfillset", do
      writeMemory (← argument 0) 0xFFFFFFFE7FFFFFFF 8
      return 0),
    ("sigaddset", changeSignal true), ("__sigaddset", changeSignal true),
    ("sigdelset", changeSignal false), ("__sigdelset", changeSignal false),
    ("sigismember", do
      let n ← int 1
      if n < 1 ∨ 64 < n then return ofInt (-1)
      return if (← readMemory (← argument 0) 8).testBit (n.toNat - 1) then 1 else 0),
    ("sigisemptyset", do return if (← readMemory (← argument 0) 8) = 0 then 1 else 0),
    ("sigandset", do
      writeMemory (← argument 0)
        ((← readMemory (← argument 1) 8) &&& (← readMemory (← argument 2) 8)) 8
      return 0),
    ("sigorset", do
      writeMemory (← argument 0)
        ((← readMemory (← argument 1) 8) ||| (← readMemory (← argument 2) 8)) 8
      return 0),
    ("gettext", argument 0), ("dgettext", argument 1), ("__dgettext", argument 1),
    ("dcgettext", argument 1), ("__dcgettext", argument 1),
    ("ngettext", do argument (if (← argument 2) = 1 then 0 else 1)),
    ("dngettext", do argument (if (← argument 3) = 1 then 1 else 2)),
    ("dcngettext", do argument (if (← argument 3) = 1 then 1 else 2)),
    ("dirname", directory),
    ("insque", insertBehind), ("remque", removeElement),
    ("setjmp", keepPlace), ("_setjmp", keepPlace), ("__sigsetjmp", keepPlace),
    ("pthread_key_create", do
      let n ← readMemory keyedValues 4
      writeMemory keyedValues (n + 1) 4
      writeMemory (← argument 0) n 4
      return 0),
    ("pthread_key_delete", always 0),
    ("pthread_setspecific", do
      putWord (keyedValues + 8 + 8 * ((← argument 0) % 0x400)) (← argument 1)
      return 0),
    ("pthread_getspecific", do wordAt (keyedValues + 8 + 8 * ((← argument 0) % 0x400))),
    ("xdr_void", always 1), ("isatty", always 0)]

end Routine
end GrammarAssay
