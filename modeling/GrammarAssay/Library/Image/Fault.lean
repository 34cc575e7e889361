/-!
# Faults of images

**Input.** A regular file that is opened as a library but cannot be put into memory, or not be linked.

**Results.**
* `ImageFault`: what can be wrong with the file.
* `ImageFault.reason`: how a loader words it.
-/

namespace GrammarAssay

/-- What can be wrong with the image of a library. -/
inductive ImageFault where
  /-- The file ends before the header does. -/
  | tooShort
  | signature
  | wordSize
  | byteOrder
  | identVersion
  | interface
  | interfaceVersion
  | padding
  | version
  /-- The file is for another machine, and is passed over. -/
  | machine
  | kind
  | segmentSize
  /-- The table of segments begins where no file has bytes. -/
  | unreachable
  /-- The table of segments reaches beyond the end. -/
  | truncated
  /-- A segment has another place in its page of memory than in its page of the file. -/
  | misaligned
  | noSegments
  /-- The file is a program, not a library. -/
  | executable
  | noDynamicSection
  /-- The memory has no room for a segment. -/
  | unmappable
  /-- The gaps between the segments reach beyond the memory that is taken. -/
  | unprotectable
  /-- The memory has no room for the zeros behind the data of a segment. -/
  | unfillable
  /-- The file is a program that can stand anywhere in memory. -/
  | movableProgram
  /-- The library refuses to be opened by a program that runs already. -/
  | refused
  /-- No library defines a symbol that the library asks for. -/
  | undefined (symbol : String)
  /-- A relocation has a kind that is not known, or not known among those of calls. -/
  | unknownRelocation (kind : Nat) (isCall : Bool)
  /-- There is no room for the data of a thread where a relocation wants them. -/
  | unplaceable
  /-- What is to be sealed after the relocation lies outside the library. -/
  | unsealable
deriving DecidableEq

namespace ImageFault

/-- The last digits of a number to the base sixteen. -/
def digits (n : Nat) : Nat → List Char
  | 0 => []
  | count + 1 => digits (n / 16) count ++ [Nat.digitChar (n % 16)]

/-- A kind as text: with two digits if they are enough, else with eight. -/
def kindText (kind : Nat) : String :=
  "0x" ++ String.ofList (digits kind (if kind < 256 then 2 else 8))

/-- Why a file with this fault does not load. -/
def reason : ImageFault → String
  | tooShort => "file too short"
  | signature => "invalid ELF header"
  | wordSize => "wrong ELF class: ELFCLASS32"
  | byteOrder => "ELF file data encoding not little-endian"
  | identVersion => "ELF file version ident does not match current one"
  | interface => "ELF file OS ABI invalid"
  | interfaceVersion => "ELF file ABI version invalid"
  | padding => "nonzero padding in e_ident"
  | version => "ELF file version does not match current one"
  | machine => "cannot open shared object file: No such file or directory"
  | kind => "only ET_DYN and ET_EXEC can be loaded"
  | segmentSize => "ELF file's phentsize not the expected size"
  | unreachable => "cannot read file data: Invalid argument"
  | truncated => "cannot read file data"
  | misaligned => "ELF load command address/offset not page-aligned"
  | noSegments => "object file has no loadable segments"
  | executable => "cannot dynamically load executable"
  | noDynamicSection => "object file has no dynamic section"
  | unmappable => "failed to map segment from shared object"
  | unprotectable => "cannot change memory protections"
  | unfillable => "cannot map zero-fill pages"
  | movableProgram => "cannot dynamically load position-independent executable"
  | refused => "shared object cannot be dlopen()ed"
  | undefined symbol => "undefined symbol: " ++ symbol
  | unknownRelocation number isCall =>
    "unexpected " ++ (if isCall then "PLT " else "") ++ "reloc type " ++ kindText number
  | unplaceable => "cannot allocate memory in static TLS block"
  | unsealable =>
    "cannot apply additional memory protection after relocation: Cannot allocate memory"

end ImageFault
end GrammarAssay
