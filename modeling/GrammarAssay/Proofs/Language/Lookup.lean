import GrammarAssay.Language.Source
import GrammarAssay.Proofs.Library.FileName

/-!
# What the lookups find

**Input.** The tables of a language, written down or in memory, and the name of a node kind or of a field.

**Algorithm.** What a language declares is stated without the lookups: a node kind is the name of a symbol
that is named and is visible or a supertype. The lookups in memory compare byte by byte, up to the first
zero. The lookup of a field can end early, which misses nothing if the fields are sorted.

**Results.**
* `DeclaresKind`, `DeclaresField`: what a language declares.
* `WellFormed`: tables as they are generated.
* `isText_iff`, `lt_textUpTo_of_difference_lt`: what the comparison of two texts tells.
* `findsField_of_mem`: among sorted fields each one is found.
* `declaresKind_of_hasKind`, `declaresField_of_hasField`: what is found is declared.
* `hasKind_of_declaresKind`, `hasField_of_declaresField`: in tables as they are generated, what is declared is
  found.
-/

namespace GrammarAssay
namespace Layout

section Comparing

variable {m : Memory}

theorem toNat_sub_toNat_eq_zero_iff {b c : UInt8} : (b.toNat : Int) - c.toNat = 0 ↔ b = c := by
  rw [← UInt8.toNat_inj]
  omega

/-- A text without zeros stands at an address exactly if the bytes there, up to the first zero, are its own. -/
theorem isText_iff {text : Bytes} (hzero : 0 ∉ text) {bound : Nat} (hbound : text.length < bound)
    (address : UInt64) :
    isText m text address = true ↔ m.textUpTo bound address = text := by
  induction text generalizing bound address with
  | nil =>
      obtain ⟨bound, rfl⟩ := Nat.exists_eq_add_of_lt hbound
      simp [isText, difference, Memory.textUpTo]
  | cons b rest ih =>
      obtain ⟨left, rfl⟩ := Nat.exists_eq_add_of_lt hbound
      have hb : b ≠ 0 := fun h => hzero (h ▸ List.mem_cons_self)
      have hend : address + UInt64.ofNat (b :: rest).length =
          address + 1 + UInt64.ofNat rest.length := by
        rw [List.length_cons, Nat.add_comm, UInt64.ofNat_add, UInt64.add_assoc]
        rfl
      unfold isText at ih ⊢
      rw [hend, difference, Memory.textUpTo]
      by_cases hc : b = m.byte address
      · have hshort : rest.length < (b :: rest).length + left := by
          simp only [List.length_cons]
          omega
        have hrest := ih (fun h => hzero (List.mem_cons_of_mem _ h)) hshort (address + 1)
        simp [← hc, hb, hrest]
      · -- The first bytes differ, and so do the texts.
        have hdiff : (b != m.byte address) = true := bne_iff_ne.mpr hc
        have hne : ¬ (b.toNat : Int) - (m.byte address).toNat = 0 := fun h =>
          hc (toNat_sub_toNat_eq_zero_iff.mp h)
        have hother : (if m.byte address = 0 then []
            else m.byte address :: m.textUpTo ((b :: rest).length + left) (address + 1)) ≠
              b :: rest := by
          split
          · simp
          · simp [Ne.symm hc]
        simp only [if_pos hdiff, beq_eq_false_iff_ne.mpr hne, Bool.false_and, Bool.false_eq_true,
          hother]

/-- A text that compares as smaller is smaller than the bytes up to the first zero. -/
theorem lt_textUpTo_of_difference_lt {text : Bytes} (hzero : 0 ∉ text) {bound : Nat}
    (hbound : text.length < bound) (address : UInt64) (h : difference m text address < 0) :
    text < m.textUpTo bound address := by
  induction text generalizing bound address with
  | nil => simp [difference] at h
  | cons b rest ih =>
      obtain ⟨left, rfl⟩ := Nat.exists_eq_add_of_lt hbound
      have hb : b ≠ 0 := fun hb => hzero (hb ▸ List.mem_cons_self)
      rw [difference] at h
      rw [Memory.textUpTo]
      by_cases hc : b = m.byte address
      · simp only [← hc, bne_self_eq_false, Bool.false_eq_true, if_false, hb] at h ⊢
        exact List.cons_lt_cons_self.mpr
          (ih (fun hr => hzero (List.mem_cons_of_mem _ hr)) (by simp; omega) (address + 1) h)
      · simp only [bne_iff_ne, ne_eq, hc, not_false_eq_true, if_true] at h
        have hlt : b < m.byte address := UInt8.lt_iff_toNat_lt.mpr (by omega)
        have hne : m.byte address ≠ 0 := fun h0 => by
          rw [h0] at hlt
          exact absurd hlt (by simp)
        rw [if_neg hne]
        exact List.cons_lt_cons_iff.mpr (Or.inl hlt)

end Comparing

section Fields

variable {m : Memory}

/-- What the lookup of a field finds stands at one of the addresses. -/
theorem exists_isText_of_findsField {name : Bytes} {places : List UInt64}
    (h : findsField m name places = true) : ∃ place ∈ places, isText m name place = true := by
  induction places with
  | nil => cases h
  | cons place places ih =>
      rw [findsField] at h
      by_cases htext : isText m name place = true
      · exact ⟨place, List.mem_cons_self, htext⟩
      · rw [if_neg htext] at h
        split at h
        · cases h
        · obtain ⟨other, hother, hfound⟩ := ih h
          exact ⟨other, List.mem_cons_of_mem _ hother, hfound⟩

/-- Among sorted fields the lookup finds each. -/
theorem findsField_of_mem {name : Bytes} (hzero : 0 ∉ name) (hlength : name.length < Memory.longestText)
    {places : List UInt64} (hsorted : (places.map m.text).Pairwise (· ≤ ·))
    (hmem : name ∈ places.map m.text) :
    findsField m name places = true := by
  induction places with
  | nil => cases hmem
  | cons place places ih =>
      rw [List.map_cons, List.pairwise_cons] at hsorted
      obtain ⟨hfirst, hsorted⟩ := hsorted
      rw [List.map_cons, List.mem_cons] at hmem
      rw [findsField]
      by_cases htext : isText m name place = true
      · rw [if_pos htext]
      · have hother : m.text place ≠ name := fun heq => htext ((isText_iff hzero hlength place).mpr heq)
        have hrest := hmem.resolve_left (Ne.symm hother)
        -- A smaller field stands behind no greater one.
        have hgreater : ¬ difference m name place = -1 := by
          intro hdiff
          have hlt : name < m.text place :=
            lt_textUpTo_of_difference_lt hzero hlength place (by omega)
          exact absurd hlt (List.not_lt.mpr (hfirst name hrest))
        rw [if_neg htext, if_neg hgreater]
        exact ih hsorted hrest

end Fields

/-- Where the three bytes stand that describe a symbol: is it visible, is it named, is it a supertype? -/
def aboutSymbol (m : Memory) (address : UInt64) (i : Nat) : UInt64 :=
  m.word (address + 104) + 3 * UInt64.ofNat i

/-- The number under which a symbol is known outside of the tables. -/
def publicNumber (m : Memory) (address : UInt64) (i : Nat) : Nat :=
  m.number (m.word (address + 112) + 2 * UInt64.ofNat i) 2

/-- Where the name of a field stands. -/
def fieldPlace (m : Memory) (address : UInt64) (i : Nat) : UInt64 :=
  m.word (m.word (address + 80) + 8 * UInt64.ofNat (i + 1))

/-- How many fields there are. -/
def fieldCount (m : Memory) (address : UInt64) : Nat :=
  (count m address 32).toNat

/-- Tables in memory as they are generated. Symbols and fields have numbers of 16 bits. The number zero is
that of the end of the text, which no name finds. Fields stand in byte order. -/
structure WellFormed (m : Memory) (address : UInt64) : Prop where
  symbols_lt : (symbolCount m address).toNat < 65536
  fields_lt : fieldCount m address < 65536
  publicNumber_ne_zero : ∀ i < (symbolCount m address).toNat,
    isFindable m (aboutSymbol m address i) = true → publicNumber m address i ≠ 0
  sorted : (((List.range (fieldCount m address)).map (fieldPlace m address)).map m.text).Pairwise
    (· ≤ ·)

end Layout

namespace LanguageSource

/-- Is a text exactly the name of a symbol that is named, and is visible or a supertype? -/
inductive DeclaresKind (m : Memory) (kind : String) : LanguageSource → Prop
  | written {l : Language} {symbol : Symbol} :
      symbol ∈ l.symbols →
      symbol.name = kind →
      symbol.named = true →
      symbol.visible = true ∨ symbol.supertype = true →
      DeclaresKind m kind (.written l)
  | stored {address : UInt64} {i : Nat} :
      i < (Layout.symbolCount m address).toNat →
      Layout.symbolName m address (UInt64.ofNat i) = Text.Utf8.encode kind →
      m.byte (Layout.aboutSymbol m address i + 1) = 1 →
      m.byte (Layout.aboutSymbol m address i) ≠ 0 ∨
        m.byte (Layout.aboutSymbol m address i + 2) ≠ 0 →
      DeclaresKind m kind (.stored address)

/-- Is a text exactly the name of a field? -/
inductive DeclaresField (m : Memory) (field : String) : LanguageSource → Prop
  | written {l : Language} :
      field ∈ l.fields →
      DeclaresField m field (.written l)
  | stored {address : UInt64} {i : Nat} :
      i < Layout.fieldCount m address →
      m.text (Layout.fieldPlace m address i) = Text.Utf8.encode field →
      DeclaresField m field (.stored address)

/-- Are the tables of a language as they are generated? Tables that are written down always are. -/
def WellFormed (m : Memory) : LanguageSource → Prop
  | written _ => True
  | stored address => Layout.WellFormed m address

/-- A name that can be compared whole: it has no NUL, and less bytes than a text in memory can have. -/
structure IsComparable (name : String) : Prop where
  nul_notMem : '\x00' ∉ name.toList
  length_lt : (Text.Utf8.encode name).length < Memory.longestText

instance (name : String) : Decidable (IsComparable name) :=
  decidable_of_iff ('\x00' ∉ name.toList ∧ (Text.Utf8.encode name).length < Memory.longestText)
    ⟨fun h => ⟨h.1, h.2⟩, fun h => ⟨h.nul_notMem, h.length_lt⟩⟩

/-- Is a name compared whole? With tables that are written down every name is. -/
def ComparesWhole (name : String) : LanguageSource → Prop
  | written _ => True
  | stored _ => IsComparable name

section Finding

variable {m : Memory} {s : LanguageSource} {name : String}

theorem IsComparable.comparesWhole (h : IsComparable name) : s.ComparesWhole name := by
  cases s with
  | written l => trivial
  | stored address => exact h

theorem IsComparable.zero_notMem (h : IsComparable name) : 0 ∉ Text.Utf8.encode name := fun hmem =>
  h.nul_notMem ((Text.Utf8.mem_encode_iff (c := '\x00') (by decide) name).mp hmem)

theorem isText_encode_iff (h : IsComparable name) (address : UInt64) :
    Layout.isText m (Text.Utf8.encode name) address = true ↔
      m.text address = Text.Utf8.encode name := by
  exact Layout.isText_iff h.zero_notMem h.length_lt address

theorem isFindable_iff {about : UInt64} :
    Layout.isFindable m about = true ↔
      m.byte (about + 1) = 1 ∧ (m.byte about ≠ 0 ∨ m.byte (about + 2) ≠ 0) := by
  simp [Layout.isFindable]

/-- Only a beginning of the error kind is found without being declared. -/
theorem declaresKind_of_hasKind (h : s.ComparesWhole name)
    (herror : Language.matchesError name.toList = false) (hkind : s.hasKind m name = true) :
    s.DeclaresKind m name := by
  cases s with
  | written l =>
      simp only [hasKind, Language.hasKind, herror, Bool.false_or, Bool.and_eq_true] at hkind
      obtain ⟨symbol, hmem, hfound⟩ := List.any_eq_true.mp hkind.2
      simp only [Symbol.isFindable, Bool.and_eq_true, Bool.or_eq_true, beq_iff_eq] at hfound
      exact .written (List.mem_of_mem_tail hmem) hfound.1 hfound.2.1 hfound.2.2
  | stored address =>
      simp only [hasKind, Layout.hasKind, herror, Bool.false_or] at hkind
      obtain ⟨number, hfind, -⟩ := (Option.any_eq_true _ _).mp hkind
      have hfound := List.find?_some hfind
      obtain ⟨i, hi, rfl⟩ := List.mem_map.mp (List.mem_of_find?_eq_some hfind)
      have hlt : i < (Layout.symbolCount m address).toNat :=
        Nat.lt_of_lt_of_le (List.mem_range.mp hi) (Nat.mod_le _ _)
      simp only [Bool.and_eq_true] at hfound
      obtain ⟨hnamed, hshown⟩ := isFindable_iff.mp hfound.1
      exact .stored hlt ((isText_encode_iff h _).mp hfound.2) hnamed hshown

/-- In tables as they are generated, a node kind that is declared is found. -/
theorem hasKind_of_declaresKind (h : IsComparable name) (hwell : s.WellFormed m)
    (hkind : s.DeclaresKind m name) : s.hasKind m name = true := by
  cases hkind with
  | @written l symbol hmem hname hnamed hshown =>
      have hfindable : symbol.isFindable = true := by
        simpa [Symbol.isFindable, hnamed] using hshown
      have htail : symbol ∈ l.symbols.tail := by
        cases hsymbols : l.symbols with
        | nil => simp [hsymbols] at hmem
        | cons first rest =>
            rw [hsymbols] at hmem
            refine (List.mem_cons.mp hmem).resolve_left ?_
            rintro rfl
            have hhidden := l.isFindable_head symbol (by rw [hsymbols]; rfl)
            rw [hfindable] at hhidden
            cases hhidden
      have hany : (l.symbols.tail.any fun s => s.name == name && s.isFindable) = true :=
        List.any_eq_true.mpr ⟨symbol, htail, by simp [hname, hfindable]⟩
      simp [hasKind, Language.hasKind, h.nul_notMem, hany]
  | @stored address i hi hname hnamed hshown =>
      have hlookup : Layout.lookupCount (Layout.symbolCount m address) =
          (Layout.symbolCount m address).toNat := Nat.mod_eq_of_lt hwell.symbols_lt
      have hfinds : ((Layout.findSymbol? m address (Text.Utf8.encode name))).isSome = true := by
        unfold Layout.findSymbol?
        rw [List.find?_isSome, hlookup]
        refine ⟨UInt64.ofNat i, List.mem_map_of_mem (List.mem_range.mpr hi), ?_⟩
        rw [Bool.and_eq_true]
        exact ⟨isFindable_iff.mpr ⟨hnamed, hshown⟩, (isText_encode_iff h _).mpr hname⟩
      -- The first symbol of the name need not be this one, but it has a public number too.
      obtain ⟨number, hfind⟩ := Option.isSome_iff_exists.mp hfinds
      have hfound := List.find?_some hfind
      obtain ⟨first, hfirst, rfl⟩ := List.mem_map.mp (List.mem_of_find?_eq_some hfind)
      rw [hlookup] at hfirst
      rw [Bool.and_eq_true] at hfound
      have hpublic := hwell.publicNumber_ne_zero first (List.mem_range.mp hfirst) hfound.1
      have hany : ((Layout.findSymbol? m address (Text.Utf8.encode name)).any fun i =>
          m.number (m.word (address + 112) + 2 * i) 2 != 0) = true := by
        rw [hfind]
        exact bne_iff_ne.mpr hpublic
      rw [hasKind, Layout.hasKind, hany, Bool.or_true]

/-- A language that declares a node kind counts some. -/
theorem nodeKindCount_ne_zero (hwell : s.WellFormed m) (hkind : s.DeclaresKind m name) :
    (s.facts m).nodeKindCount ≠ 0 := by
  cases hkind with
  | @written l _ hmem _ _ _ => exact l.nodeKindCount_ne_zero (List.ne_nil_of_mem hmem)
  | @stored address i hi _ _ _ =>
      intro hzero
      change (Layout.symbolCount m address).toUInt64 = 0 at hzero
      have hnone : (Layout.symbolCount m address).toNat = 0 := by
        rw [← UInt32.toNat_toUInt64, hzero]
        rfl
      omega

theorem declaresKind_written_iff {language : Language} :
    (written language).DeclaresKind m name ↔
      ∃ symbol ∈ language.symbols, symbol.name = name ∧ symbol.isFindable = true := by
  simp only [Symbol.isFindable, Bool.and_eq_true, Bool.or_eq_true]
  constructor
  · intro h
    cases h with
    | written hmem hname hnamed hshown => exact ⟨_, hmem, hname, hnamed, hshown⟩
  · rintro ⟨symbol, hmem, hname, hnamed, hshown⟩
    exact .written hmem hname hnamed hshown

/-- A field that is found is declared. -/
theorem declaresField_of_hasField (h : IsComparable name) (hfield : s.hasField m name = true) :
    s.DeclaresField m name := by
  cases s with
  | written l => exact .written (List.contains_iff_mem.mp hfield)
  | stored address =>
      obtain ⟨place, hplace, htext⟩ := Layout.exists_isText_of_findsField hfield
      obtain ⟨i, hi, rfl⟩ := List.mem_map.mp hplace
      have hlt : i < Layout.fieldCount m address :=
        Nat.lt_of_lt_of_le (List.mem_range.mp hi) (Nat.mod_le _ _)
      exact .stored hlt ((isText_encode_iff h _).mp htext)

/-- In tables as they are generated, a field that is declared is found. -/
theorem hasField_of_declaresField (h : IsComparable name) (hwell : s.WellFormed m)
    (hfield : s.DeclaresField m name) : s.hasField m name = true := by
  cases hfield with
  | written hmem => exact List.contains_iff_mem.mpr hmem
  | @stored address i hi hname =>
      have hlookup : Layout.lookupCount (Layout.count m address 32) = Layout.fieldCount m address :=
        Nat.mod_eq_of_lt hwell.fields_lt
      have hmem : Text.Utf8.encode name ∈
          ((List.range (Layout.fieldCount m address)).map (Layout.fieldPlace m address)).map m.text := by
        rw [← hname]
        exact List.mem_map_of_mem (List.mem_map_of_mem (List.mem_range.mpr hi))
      have hfinds := Layout.findsField_of_mem h.zero_notMem h.length_lt hwell.sorted hmem
      rw [← hlookup] at hfinds
      exact hfinds

end Finding
end LanguageSource

end GrammarAssay
