import GrammarAssay.Proofs.Language.Lookup
import GrammarAssay.Proofs.Memory.Holding

/-!
# Tables as they are generated

**Input.** A language that is written down, and an address.

**Algorithm.** The sizes of the tables stand in front, and then where each one is: the addresses of the names of
symbols and fields, what the symbols are like, and their public numbers. The names follow. Where a table begins is
reckoned from the sizes of those in front of it. What the lookups read in memory is then what was written, symbol by
symbol and field by field.

**Results.**
* `Language.tables`: the tables of a language, as bytes.
* `IsStorable`: sizes and names are read as they are written.
* `StandsAt`: every table stands where it belongs.
* `symbolName_of_standsAt`, `text_fieldPlace_of_standsAt`, `about_of_standsAt`: what is read.
* `wellFormed_of_standsAt`: the tables in memory are as they are generated.
* `declaresKind_stored_iff`, `declaresField_stored_iff`: they declare what the language declares.
* `hasKind_stored`, `hasField_stored`: the lookups find in them what they find in the language.
* `standsAt_memory`: every such language has tables in some memory.
-/

namespace GrammarAssay
namespace Language

/-- Texts one behind the other, each with a zero at its end. -/
def textBytes (names : List String) : Bytes :=
  names.flatMap fun name => Text.Utf8.encode name ++ [0]

/-- Where such texts stand. -/
def textPlaces (place : UInt64) : List String → List UInt64
  | [] => []
  | name :: rest =>
    place :: textPlaces (place + UInt64.ofNat (Text.Utf8.encode name ++ [0]).length) rest

/-- Addresses one behind the other. -/
def wordBytes (places : List UInt64) : Bytes :=
  places.flatMap fun place => littleEndian place.toNat 8

/-- A flag as a byte. -/
def flag (isSet : Bool) : UInt8 :=
  if isSet then 1 else 0

/-- The three bytes that describe a symbol. -/
def aboutBytes (s : Symbol) : Bytes :=
  [flag s.visible, flag s.named, flag s.supertype]

section Writing

variable (l : Language)

def namesOffset : Nat := 120

def fieldNamesOffset : Nat := namesOffset + 8 * l.symbols.length

def aboutOffset : Nat := l.fieldNamesOffset + 8 * (l.fields.length + 1)

def publicOffset : Nat := l.aboutOffset + 3 * l.symbols.length

def textsOffset : Nat := l.publicOffset + 2 * l.symbols.length

def fieldTextsOffset : Nat := l.textsOffset + (textBytes (l.symbols.map Symbol.name)).length

/-- The sizes of the tables, and where they stand. No symbol is an alias. -/
def headBytes (address : UInt64) : Bytes :=
  littleEndian l.version.toNat 4 ++ littleEndian l.symbols.length 4 ++ littleEndian 0 4 ++
    littleEndian 0 20 ++ littleEndian l.fields.length 4 ++ littleEndian 0 36 ++
    littleEndian (address + UInt64.ofNat namesOffset).toNat 8 ++
    littleEndian (address + UInt64.ofNat l.fieldNamesOffset).toNat 8 ++ littleEndian 0 16 ++
    littleEndian (address + UInt64.ofNat l.aboutOffset).toNat 8 ++
    littleEndian (address + UInt64.ofNat l.publicOffset).toNat 8

/-- The tables of a language, as they are generated to stand at an address. No field has the number zero, and
every symbol is known under its own number. They are not unfolded where it is asked whether they stand in memory,
which goes through them byte by byte. -/
@[irreducible]
def tables (address : UInt64) : Bytes :=
  l.headBytes address ++
    wordBytes (textPlaces (address + UInt64.ofNat l.textsOffset) (l.symbols.map Symbol.name)) ++
    wordBytes (0 :: textPlaces (address + UInt64.ofNat l.fieldTextsOffset) l.fields) ++
    l.symbols.flatMap aboutBytes ++
    (List.range l.symbols.length).flatMap (fun i => littleEndian i 2) ++
    textBytes (l.symbols.map Symbol.name) ++ textBytes l.fields

/-- Memory with nothing but the tables of a language. -/
def memory (address : UInt64) : Memory :=
  Memory.empty.map (.ofBytes (l.tables address) address)

/-- Are sizes and names read as they are written, and do the fields stand in byte order? -/
structure IsStorable : Prop where
  version_lt : l.version.toNat < 4294967296
  symbols_lt : l.symbols.length < 65536
  fields_lt : l.fields.length < 65536
  symbols : ∀ s ∈ l.symbols, LanguageSource.IsComparable s.name
  fields : ∀ field ∈ l.fields, LanguageSource.IsComparable field
  sorted : (l.fields.map Text.Utf8.encode).Pairwise (· ≤ ·)

/-- The tables of a language stand in memory, each where it belongs. -/
structure StandsAt (m : Memory) (address : UInt64) : Prop where
  head : m.Holds address (l.headBytes address)
  names : m.Holds (address + UInt64.ofNat namesOffset)
    (wordBytes (textPlaces (address + UInt64.ofNat l.textsOffset) (l.symbols.map Symbol.name)))
  fieldNames : m.Holds (address + UInt64.ofNat l.fieldNamesOffset)
    (wordBytes (0 :: textPlaces (address + UInt64.ofNat l.fieldTextsOffset) l.fields))
  about : m.Holds (address + UInt64.ofNat l.aboutOffset) (l.symbols.flatMap aboutBytes)
  publicNumbers : m.Holds (address + UInt64.ofNat l.publicOffset)
    ((List.range l.symbols.length).flatMap fun i => littleEndian i 2)
  texts : m.Holds (address + UInt64.ofNat l.textsOffset) (textBytes (l.symbols.map Symbol.name))
  fieldTexts : m.Holds (address + UInt64.ofNat l.fieldTextsOffset) (textBytes l.fields)

end Writing

variable {l : Language} {m : Memory} {address : UInt64}

section Lengths

theorem length_textPlaces (place : UInt64) (names : List String) :
    (textPlaces place names).length = names.length := by
  induction names generalizing place with
  | nil => rfl
  | cons name rest ih => rw [textPlaces, List.length_cons, List.length_cons, ih]

theorem length_wordBytes (places : List UInt64) :
    (wordBytes places).length = 8 * places.length :=
  length_flatMap_of_forall (fun _ => length_littleEndian _ 8) places

theorem length_aboutBytes (s : Symbol) : (aboutBytes s).length = 3 :=
  rfl

theorem length_headBytes : (l.headBytes address).length = namesOffset := by
  simp [headBytes, namesOffset]

/-- The tables stand where they belong if they stand one behind the other. -/
theorem standsAt_of_holds (h : m.Holds address (l.tables address)) : l.StandsAt m address := by
  simp only [tables, Memory.holds_append, and_assoc, List.length_append, length_headBytes,
    length_wordBytes, length_textPlaces, List.length_map, List.length_cons,
    length_flatMap_of_forall length_aboutBytes,
    length_flatMap_of_forall (fun i => length_littleEndian i 2), List.length_range] at h
  obtain ⟨hhead, hnames, hfieldNames, habout, hpublic, htexts, hfieldTexts⟩ := h
  exact ⟨hhead, hnames, hfieldNames, habout, hpublic, htexts, hfieldTexts⟩

theorem length_textBytes_le {names : List String}
    (h : ∀ name ∈ names, LanguageSource.IsComparable name) :
    (textBytes names).length ≤ 65536 * names.length := by
  induction names with
  | nil => exact Nat.le_refl 0
  | cons name rest ih =>
      have hrest := ih fun other hother => h other (List.mem_cons_of_mem name hother)
      have hname : (Text.Utf8.encode name).length < 65536 := (h name List.mem_cons_self).length_lt
      rw [textBytes] at hrest ⊢
      simp only [List.flatMap_cons, List.length_append, List.length_cons, List.length_nil]
      omega

theorem IsStorable.symbolNames (hl : l.IsStorable) :
    ∀ name ∈ l.symbols.map Symbol.name, LanguageSource.IsComparable name := by
  intro name hname
  obtain ⟨s, hs, rfl⟩ := List.mem_map.mp hname
  exact hl.symbols s hs

theorem length_tables_lt (hl : l.IsStorable) : (l.tables address).length < 0x8000000000000000 := by
  have hsymbols := length_textBytes_le hl.symbolNames
  have hfields := length_textBytes_le hl.fields
  have hsymbols_lt := hl.symbols_lt
  have hfields_lt := hl.fields_lt
  simp only [tables, List.length_append, length_headBytes, length_wordBytes, length_textPlaces,
    List.length_map, List.length_cons, length_flatMap_of_forall length_aboutBytes,
    length_flatMap_of_forall (fun i => length_littleEndian i 2), List.length_range,
    namesOffset] at hsymbols ⊢
  omega

/-- Every language that is storable has tables in some memory, at every address. -/
theorem standsAt_memory (hl : l.IsStorable) (address : UInt64) :
    l.StandsAt (l.memory address) address := by
  refine standsAt_of_holds ?_
  rw [memory]
  exact Memory.holds_map_ofBytes (length_tables_lt hl) address

end Lengths

section Reading

theorem toNat_count_of_holds {n : Nat} {distance : UInt64} (hn : n < 4294967296)
    (h : m.Holds (address + distance) (littleEndian n 4)) :
    (Layout.count m address distance).toNat = n := by
  rw [Layout.count, Memory.number_of_holds hn h, UInt32.toNat_ofNat']
  exact Nat.mod_eq_of_lt hn

theorem eight_mul_ofNat (i : Nat) : 8 * UInt64.ofNat i = UInt64.ofNat (8 * i) :=
  (UInt64.ofNat_mul 8 i).symm

theorem word_of_wordBytes {places : List UInt64} (h : m.Holds address (wordBytes places)) {i : Nat}
    {place : UInt64} (hplace : places[i]? = some place) :
    m.word (address + UInt64.ofNat (8 * i)) = place := by
  obtain ⟨hi, rfl⟩ := List.getElem?_eq_some_iff.mp hplace
  exact Memory.word_of_holds (Memory.holds_flatMap (fun _ => length_littleEndian _ 8) h hi)

theorem exists_text {place : UInt64} {names : List String} (h : m.Holds place (textBytes names))
    {i : Nat} (hi : i < names.length) :
    ∃ p, (textPlaces place names)[i]? = some p ∧
      m.Holds p (Text.Utf8.encode names[i] ++ [0]) := by
  induction names generalizing place i with
  | nil => cases hi
  | cons name rest ih =>
      rw [textBytes, List.flatMap_cons, Memory.holds_append] at h
      obtain ⟨hfirst, hrest⟩ := h
      cases i with
      | zero => exact ⟨place, rfl, hfirst⟩
      | succ i => exact ih hrest (Nat.lt_of_succ_lt_succ hi)

/-- A text is read where a table of addresses tells. The table of the fields has one more in front. -/
theorem text_of_textBytes {place : UInt64} {names : List String} {places : List UInt64} {i k : Nat}
    (hnames : ∀ name ∈ names, LanguageSource.IsComparable name)
    (htexts : m.Holds place (textBytes names)) (hplaces : m.Holds address (wordBytes places))
    (hi : i < names.length) (hsame : places[k]? = (textPlaces place names)[i]?) :
    m.text (m.word (address + UInt64.ofNat (8 * k))) = Text.Utf8.encode names[i] := by
  obtain ⟨p, hp, htext⟩ := exists_text htexts hi
  have hname := hnames _ (List.getElem_mem hi)
  rw [word_of_wordBytes hplaces (hsame.trans hp)]
  exact Memory.text_of_holds hname.zero_notMem hname.length_lt htext

/-- The sizes of the tables, and where they stand, are read as they were written. -/
theorem head_of_standsAt (h : l.StandsAt m address) (hl : l.IsStorable) :
    (Layout.count m address 0).toNat = l.version.toNat ∧
    (Layout.symbolCount m address).toNat = l.symbols.length ∧
    Layout.fieldCount m address = l.fields.length ∧
    m.word (address + 72) = address + UInt64.ofNat namesOffset ∧
    m.word (address + 80) = address + UInt64.ofNat l.fieldNamesOffset ∧
    m.word (address + 104) = address + UInt64.ofNat l.aboutOffset ∧
    m.word (address + 112) = address + UInt64.ofNat l.publicOffset := by
  have hhead := h.head
  simp only [headBytes, Memory.holds_append, and_assoc, List.length_append, length_littleEndian,
    Nat.reduceAdd] at hhead
  obtain ⟨hversion, hsymbols, haliases, -, hfields, -, hnames, hfieldNames, -, habout, hpublic⟩ :=
    hhead
  have hsymbols_lt := hl.symbols_lt
  have hfields_lt := hl.fields_lt
  have hcount : (Layout.count m address 4).toNat = l.symbols.length :=
    toNat_count_of_holds (by omega) hsymbols
  have hnone : (Layout.count m address 8).toNat = 0 := toNat_count_of_holds (by decide) haliases
  refine ⟨toNat_count_of_holds hl.version_lt (by rwa [UInt64.add_zero]), ?_,
    toNat_count_of_holds (by omega) hfields, Memory.word_of_holds hnames,
    Memory.word_of_holds hfieldNames, Memory.word_of_holds habout, Memory.word_of_holds hpublic⟩
  rw [Layout.symbolCount, UInt32.toNat_add, hcount, hnone]
  omega

theorem symbolName_of_standsAt (h : l.StandsAt m address) (hl : l.IsStorable) {i : Nat}
    (hi : i < l.symbols.length) :
    Layout.symbolName m address (UInt64.ofNat i) = Text.Utf8.encode l.symbols[i].name := by
  obtain ⟨-, -, -, hnames, -⟩ := head_of_standsAt h hl
  have hi' : i < (l.symbols.map Symbol.name).length := by
    rwa [List.length_map]
  have htext := text_of_textBytes hl.symbolNames h.texts h.names hi' rfl
  rw [List.getElem_map] at htext
  rw [Layout.symbolName, Layout.symbolPlace, hnames, eight_mul_ofNat, htext]

theorem text_fieldPlace_of_standsAt (h : l.StandsAt m address) (hl : l.IsStorable) {i : Nat}
    (hi : i < l.fields.length) :
    m.text (Layout.fieldPlace m address i) = Text.Utf8.encode l.fields[i] := by
  obtain ⟨-, -, -, -, hfieldNames, -⟩ := head_of_standsAt h hl
  rw [Layout.fieldPlace, hfieldNames, eight_mul_ofNat]
  exact text_of_textBytes hl.fields h.fieldTexts h.fieldNames hi rfl

theorem about_of_standsAt (h : l.StandsAt m address) (hl : l.IsStorable) {i : Nat}
    (hi : i < l.symbols.length) :
    m.byte (Layout.aboutSymbol m address i) = flag l.symbols[i].visible ∧
    m.byte (Layout.aboutSymbol m address i + 1) = flag l.symbols[i].named ∧
    m.byte (Layout.aboutSymbol m address i + 2) = flag l.symbols[i].supertype := by
  obtain ⟨-, -, -, -, -, habout, -⟩ := head_of_standsAt h hl
  obtain ⟨hvisible, hnamed, hsupertype, -⟩ := Memory.holds_flatMap length_aboutBytes h.about hi
  have hplace : Layout.aboutSymbol m address i =
      address + UInt64.ofNat l.aboutOffset + UInt64.ofNat (3 * i) := by
    rw [Layout.aboutSymbol, habout, UInt64.ofNat_mul]
    rfl
  rw [hplace]
  rw [UInt64.add_assoc _ 1 1] at hsupertype
  exact ⟨hvisible, hnamed, hsupertype⟩

theorem publicNumber_of_standsAt (h : l.StandsAt m address) (hl : l.IsStorable) {i : Nat}
    (hi : i < l.symbols.length) : Layout.publicNumber m address i = i := by
  obtain ⟨-, -, -, -, -, -, hpublic⟩ := head_of_standsAt h hl
  have hi' : i < (List.range l.symbols.length).length := by
    rwa [List.length_range]
  have hholds := Memory.holds_flatMap (fun i => length_littleEndian i 2) h.publicNumbers hi'
  rw [List.getElem_range, UInt64.ofNat_mul] at hholds
  rw [Layout.publicNumber, hpublic]
  exact Memory.number_of_holds (Nat.lt_trans hi hl.symbols_lt) hholds

end Reading

section Telling

theorem flag_eq_one_iff {isSet : Bool} : flag isSet = 1 ↔ isSet = true := by
  cases isSet <;> decide

theorem flag_ne_zero_iff {isSet : Bool} : flag isSet ≠ 0 ↔ isSet = true := by
  cases isSet <;> decide

theorem isFindable_of_standsAt (h : l.StandsAt m address) (hl : l.IsStorable) {i : Nat}
    (hi : i < l.symbols.length) :
    Layout.isFindable m (Layout.aboutSymbol m address i) = true ↔
      l.symbols[i].isFindable = true := by
  obtain ⟨hvisible, hnamed, hsupertype⟩ := about_of_standsAt h hl hi
  rw [LanguageSource.isFindable_iff, hvisible, hnamed, hsupertype, flag_eq_one_iff,
    flag_ne_zero_iff, flag_ne_zero_iff, Symbol.isFindable, Bool.and_eq_true, Bool.or_eq_true]

/-- The version that is read is the one of the language. -/
theorem version_stored (h : l.StandsAt m address) (hl : l.IsStorable) :
    ((LanguageSource.stored address).facts m).version = l.version := by
  obtain ⟨hversion, -⟩ := head_of_standsAt h hl
  apply UInt64.toNat.inj
  exact (UInt32.toNat_toUInt64 _).trans hversion

/-- Tables that stand in memory are as they are generated. -/
theorem wellFormed_of_standsAt (h : l.StandsAt m address) (hl : l.IsStorable) :
    (LanguageSource.stored address).WellFormed m := by
  obtain ⟨-, hsymbols, hfields, -⟩ := head_of_standsAt h hl
  constructor
  case symbols_lt =>
    rw [hsymbols]
    exact hl.symbols_lt
  case fields_lt =>
    rw [hfields]
    exact hl.fields_lt
  case publicNumber_ne_zero =>
    intro i hi hfindable
    rw [hsymbols] at hi
    rw [publicNumber_of_standsAt h hl hi]
    rw [isFindable_of_standsAt h hl hi] at hfindable
    -- The first symbol marks the end of the text, and is not found.
    rintro rfl
    have hfirst : l.symbols[0] ∈ l.symbols.head? := by
      rw [List.head?_eq_getElem?, List.getElem?_eq_getElem hi]
      rfl
    rw [l.isFindable_head _ hfirst] at hfindable
    cases hfindable
  case sorted =>
    have hsame : ((List.range (Layout.fieldCount m address)).map
        (Layout.fieldPlace m address)).map m.text = l.fields.map Text.Utf8.encode := by
      refine List.ext_getElem (by simp [hfields]) fun i hi hi' => ?_
      rw [List.length_map] at hi'
      simp only [List.getElem_map, List.getElem_range]
      exact text_fieldPlace_of_standsAt h hl hi'
    rw [hsame]
    exact hl.sorted

/-- Tables in memory declare the node kinds that the language declares. -/
theorem declaresKind_stored_iff (h : l.StandsAt m address) (hl : l.IsStorable) {kind : String} :
    (LanguageSource.stored address).DeclaresKind m kind ↔
      (LanguageSource.written l).DeclaresKind m kind := by
  obtain ⟨-, hsymbols, -⟩ := head_of_standsAt h hl
  constructor
  · intro hkind
    cases hkind with
    | @stored _ i hi hname hnamed hshown =>
        rw [hsymbols] at hi
        rw [symbolName_of_standsAt h hl hi] at hname
        obtain ⟨hvisible, hnamed', hsupertype⟩ := about_of_standsAt h hl hi
        rw [hnamed', flag_eq_one_iff] at hnamed
        rw [hvisible, hsupertype, flag_ne_zero_iff, flag_ne_zero_iff] at hshown
        exact .written (List.getElem_mem hi) (Text.Utf8.encode_injective hname) hnamed hshown
  · intro hkind
    cases hkind with
    | written hmem hname hnamed hshown =>
        obtain ⟨i, hi, rfl⟩ := List.getElem_of_mem hmem
        obtain ⟨hvisible, hnamed', hsupertype⟩ := about_of_standsAt h hl hi
        refine .stored (by rwa [hsymbols]) ?_ ?_ ?_
        · rw [symbolName_of_standsAt h hl hi, hname]
        · rwa [hnamed', flag_eq_one_iff]
        · rwa [hvisible, hsupertype, flag_ne_zero_iff, flag_ne_zero_iff]

/-- Tables in memory declare the fields that the language declares. -/
theorem declaresField_stored_iff (h : l.StandsAt m address) (hl : l.IsStorable) {field : String} :
    (LanguageSource.stored address).DeclaresField m field ↔
      (LanguageSource.written l).DeclaresField m field := by
  obtain ⟨-, -, hfields, -⟩ := head_of_standsAt h hl
  constructor
  · intro hfield
    cases hfield with
    | @stored _ i hi hname =>
        rw [hfields] at hi
        rw [text_fieldPlace_of_standsAt h hl hi] at hname
        rw [← Text.Utf8.encode_injective hname]
        exact .written (List.getElem_mem hi)
  · intro hfield
    cases hfield with
    | written hmem =>
        obtain ⟨i, hi, rfl⟩ := List.getElem_of_mem hmem
        exact .stored (by rwa [hfields]) (text_fieldPlace_of_standsAt h hl hi)

/-- **Tables in memory and tables that are written down.** For a name that is compared whole, the lookup of a node
kind finds in memory what it finds in the language. -/
theorem hasKind_stored (h : l.StandsAt m address) (hl : l.IsStorable) {kind : String}
    (hkind : LanguageSource.IsComparable kind) :
    (LanguageSource.stored address).hasKind m kind = l.hasKind kind := by
  cases herror : matchesError kind.toList with
  | true => simp [LanguageSource.hasKind, Layout.hasKind, hasKind, herror]
  | false =>
      have hiff : ∀ s : LanguageSource, s.WellFormed m →
          (s.hasKind m kind = true ↔ s.DeclaresKind m kind) := fun s hwell =>
        ⟨LanguageSource.declaresKind_of_hasKind hkind.comparesWhole herror,
          LanguageSource.hasKind_of_declaresKind hkind hwell⟩
      rw [Bool.eq_iff_iff, hiff _ (wellFormed_of_standsAt h hl), declaresKind_stored_iff h hl]
      exact (hiff (.written l) trivial).symm

/-- So does the lookup of a field. -/
theorem hasField_stored (h : l.StandsAt m address) (hl : l.IsStorable) {field : String}
    (hfield : LanguageSource.IsComparable field) :
    (LanguageSource.stored address).hasField m field = l.hasField field := by
  have hiff : ∀ s : LanguageSource, s.WellFormed m →
      (s.hasField m field = true ↔ s.DeclaresField m field) := fun s hwell =>
    ⟨LanguageSource.declaresField_of_hasField hfield,
      LanguageSource.hasField_of_declaresField hfield hwell⟩
  rw [Bool.eq_iff_iff, hiff _ (wellFormed_of_standsAt h hl), declaresField_stored_iff h hl]
  exact (hiff (.written l) trivial).symm

end Telling

end Language
end GrammarAssay
