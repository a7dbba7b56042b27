-- Requests as a caller writes them. Which texts write a part of a request is told
-- apart from how they are read: words in any case, numerals with zeros before them,
-- blanks around either, and nothing at all for a default. The words of a caller are
-- read as the request that they write, and if they write none, the first part that
-- nobody can mean is named.
import FeedSearch.Proofs.CacheKeys
import FeedSearch.Proofs.DecimalDigits
import FeedSearch.Proofs.FeedEntries
import FeedSearch.Proofs.TrimmedTexts

namespace FeedSearch

/-! ## What is written -/

/-- A parameter that is missing or blank. -/
def Silent (raw : Option String) : Prop := ∀ s ∈ raw, ∀ c ∈ s.toList, Text.isBlank c = true

/-- A parameter that holds a word of a sort, and nothing else but blanks around it. -/
def Holds (sort : List Char → Prop) (raw : Option String) : Prop :=
  ∃ before word after, raw = some (String.ofList (before ++ (word ++ after))) ∧ sort word ∧
    (∀ c ∈ before, Text.isBlank c = true) ∧ ∀ c ∈ after, Text.isBlank c = true

/-- The letters of a name, each of them small or capital. -/
def InAnyCase (name : String) (word : List Char) : Prop := word.map Char.toLower = name.toList

/-- A numeral of a number of 64 bits. -/
def CountNumeral (n : Nat) (word : List Char) : Prop :=
  n ≤ Number.maxCount ∧ Number.IsNumeral n word

/-- A parameter that says a value: with a word for it, or with nothing if it is the default. -/
def Says {α : Type} (standard : α) (sort : α → List Char → Prop) (raw : Option String) (a : α) :
    Prop :=
  (a = standard ∧ Silent raw) ∨ Holds (sort a) raw

def SaysKind : Option String → Option Kind → Prop :=
  Says none fun kind => InAnyCase (Search.filterName kind)

def SaysCount : Option String → Nat → Prop := Says 0 CountNumeral

def SaysSortKey : Option String → SortKey → Prop := Says .score fun key => InAnyCase key.name

def SaysSortOrder : Option String → SortOrder → Prop :=
  Says .descending fun order => InAnyCase order.name

namespace RequestWords

variable (w : RequestWords)

/-- The words write a request, part by part. The query stands as it is, or is missing if it is
empty. -/
structure Writes (r : Request) : Prop where
  query : w.query = some r.query ∨ (w.query = none ∧ r.query = "")
  kind : SaysKind w.kind r.kind
  page : SaysCount w.page r.page
  pageSize : SaysCount w.pageSize r.pageSize
  sortBy : SaysSortKey w.sortBy r.sortBy
  sortOrder : SaysSortOrder w.sortOrder r.sortOrder

/-- A part of the words says nothing that it could say. -/
def Offends : InputField → Prop
  | .kind => ∀ a, ¬ SaysKind w.kind a
  | .page => ∀ a, ¬ SaysCount w.page a
  | .pageSize => ∀ a, ¬ SaysCount w.pageSize a
  | .sortBy => ∀ a, ¬ SaysSortKey w.sortBy a
  | .sortOrder => ∀ a, ¬ SaysSortOrder w.sortOrder a
  | .query | .id => False

/-- The parts that can offend, in the order in which they are blamed. -/
def blamed : List InputField := [.kind, .page, .pageSize, .sortBy, .sortOrder]

def FirstOffence (field : InputField) : Prop :=
  ∃ before after, blamed = before ++ field :: after ∧ w.Offends field ∧
    ∀ other ∈ before, ¬ w.Offends other

end RequestWords

/-! ## Words without blanks -/

namespace Text

theorem isBlank_of_small {c : Char} (hc : isBlank c = true) : isBlank c.toLower = true := by
  have hlower : c.toLower = c := by
    apply Char.toNat_inj.mp
    rw [toNat_toLower, if_neg]
    simp only [isBlank, Bool.or_eq_true, Bool.and_eq_true, decide_eq_true_eq, beq_iff_eq] at hc
    omega
  rw [hlower]
  exact hc

theorem not_isBlank_of_isDigit {c : Char} (hc : c.isDigit = true) : isBlank c = false := by
  rw [Number.isDigit_iff] at hc
  apply Bool.eq_false_iff.mpr
  intro hblank
  simp only [isBlank, Bool.or_eq_true, Bool.and_eq_true, decide_eq_true_eq, beq_iff_eq] at hblank
  omega

end Text

/-- What can stand between blanks: some characters, and no blank among them. -/
structure IsWord (word : List Char) : Prop where
  some : word ≠ []
  solid : ∀ c ∈ word, Text.isBlank c = false

theorem IsWord.of_letters {name : String} (h : IsWord name.toList) {word : List Char}
    (hword : InAnyCase name word) : IsWord word where
  some := by
    rintro rfl
    exact h.some hword.symm
  solid := by
    intro c hc
    apply Bool.eq_false_iff.mpr
    intro hblank
    have hmem : c.toLower ∈ name.toList := by
      rw [← hword]
      exact List.mem_map_of_mem hc
    have hsmall := Text.isBlank_of_small hblank
    rw [h.solid _ hmem] at hsmall
    cases hsmall

theorem IsWord.of_numeral {n : Nat} {word : List Char} (h : Number.IsNumeral n word) :
    IsWord word := by
  obtain ⟨sign, zeros, hsign, rfl⟩ := h
  constructor
  · intro hnil
    exact Number.toDigits_ne_nil n
      (List.append_eq_nil_iff.mp (List.append_eq_nil_iff.mp hnil).2).2
  · intro c hc
    rcases List.mem_append.mp hc with hc | hc
    · rcases hsign with rfl | rfl
      · cases hc
      · rw [List.mem_singleton.mp hc]
        decide
    · rcases List.mem_append.mp hc with hzero | hdigit
      · rw [(List.mem_replicate.mp hzero).2]
        decide
      · exact Text.not_isBlank_of_isDigit (Number.isDigit_toDigits n c hdigit)

/-- Whether a text is a word can be seen from it. -/
theorem IsWord.of_all {word : List Char}
    (h : (!word.isEmpty && word.all (!Text.isBlank ·)) = true) : IsWord word := by
  rw [Bool.and_eq_true, List.all_eq_true] at h
  constructor
  · rintro rfl
    exact absurd h.1 (by decide)
  · intro c hc
    simpa using h.2 c hc

theorem isWord_filterName (kind : Option Kind) : IsWord (Search.filterName kind).toList := by
  apply IsWord.of_all
  rcases kind with _ | _ | _ <;> decide

theorem isWord_sortKey (key : SortKey) : IsWord key.name.toList := by
  apply IsWord.of_all
  cases key <;> decide

theorem isWord_sortOrder (order : SortOrder) : IsWord order.name.toList := by
  apply IsWord.of_all
  cases order <;> decide

/-! ## Words that are given -/

theorem given?_some (s : String) :
    given? (some s) = if Text.trim s = "" then none else some (Text.trim s) := by
  unfold given?
  by_cases hempty : Text.trim s = ""
  · simp [hempty]
  · simp [Option.filter, hempty]

theorem given?_eq_none_iff (raw : Option String) : given? raw = none ↔ Silent raw := by
  unfold Silent
  cases raw with
  | none => simp [given?]
  | some s =>
    rw [given?_some]
    simp only [Option.mem_def, Option.some.injEq, forall_eq']
    simp only [ite_eq_left_iff, reduceCtorEq, imp_false, Decidable.not_not]
    rw [Text.trim_eq_empty_iff, Text.isBlankText, List.all_eq_true]

theorem given?_trimmed {raw : Option String} {word : String} (h : given? raw = some word) :
    Text.trim word = word := by
  cases raw with
  | none => cases h
  | some s =>
    rw [given?_some] at h
    split at h
    · cases h
    · obtain rfl := Option.some.inj h
      exact Text.trim_trim s

/-- A parameter holds a word exactly if this is what is given. -/
theorem holds_iff {sort : List Char → Prop} (hsort : ∀ {word}, sort word → IsWord word)
    (raw : Option String) : Holds sort raw ↔ ∃ word, given? raw = some word ∧ sort word.toList := by
  constructor
  · rintro ⟨before, word, after, rfl, hword, hbefore, hafter⟩
    refine ⟨String.ofList word, ?_, by rwa [String.toList_ofList]⟩
    have htrim : Text.trim (String.ofList (before ++ (word ++ after))) = String.ofList word := by
      unfold Text.trim
      rw [String.toList_ofList, Text.trimChars_around (hsort hword).solid hbefore hafter]
    rw [given?_some, htrim, if_neg]
    intro hempty
    apply (hsort hword).some
    rw [← String.toList_ofList (l := word), hempty]
    rfl
  · rintro ⟨word, hgiven, hword⟩
    cases raw with
    | none => cases hgiven
    | some s =>
      rw [given?_some] at hgiven
      split at hgiven
      · cases hgiven
      · obtain rfl := Option.some.inj hgiven
        obtain ⟨before, after, hs, hbefore, hafter⟩ := Text.exists_around s.toList
        refine ⟨before, (Text.trim s).toList, after, ?_, hword, hbefore, hafter⟩
        rw [Text.trim, String.toList_ofList, ← hs, String.ofList_toList]

theorem asciiLower_eq_iff (word name : String) :
    Text.asciiLower word = name ↔ InAnyCase name word.toList := by
  rw [Text.asciiLower, ← String.toList_inj, String.toList_ofList]
  rfl

/-! ## Readers -/

/-- A reader accepts a value exactly where it is said, and puts the blame on its own part. -/
structure Reads {α : Type} (read : Except InputFault α) (field : InputField) (means : α → Prop) :
    Prop where
  accepts : ∀ a, read = .ok a ↔ means a
  blames : ∀ {fault}, read = .error fault → fault.field = field

section Readers

variable {α : Type} {field : InputField}

theorem Reads.offends {read : Except InputFault α} {means : α → Prop} (h : Reads read field means)
    {fault : InputFault} (herror : read = .error fault) : ∀ a, ¬ means a := by
  intro a ha
  rw [(h.accepts a).mpr ha] at herror
  cases herror

theorem Reads.sound {read : Except InputFault α} {means : α → Prop} (h : Reads read field means)
    {a : α} (hok : read = .ok a) : ¬ ∀ a, ¬ means a :=
  fun hnone => hnone a ((h.accepts a).mp hok)

theorem reads_ok {means : α → Prop} {a : α} (h : ∀ b, means b ↔ b = a) :
    Reads (.ok a) field means := by
  refine ⟨fun b => ?_, nofun⟩
  rw [h]
  exact ⟨fun hok => (Except.ok.inj hok).symm, fun hb => congrArg Except.ok hb.symm⟩

theorem reads_error {means : α → Prop} {fault : InputFault} (hfield : fault.field = field)
    (hnone : ∀ a, ¬ means a) : Reads (.error fault) field means := by
  refine ⟨fun a => ⟨nofun, fun ha => absurd ha (hnone a)⟩, ?_⟩
  intro fault' h
  obtain rfl := Except.error.inj h
  exact hfield

/-- All parts are read alike: a default for nothing, and what a word is read as for the word. -/
theorem Reads.of_given {standard : α} {sort : α → List Char → Prop} (raw : Option String)
    {ofWord : String → Except InputFault α} (hsort : ∀ {a word}, sort a word → IsWord word)
    (hword : ∀ word, given? raw = some word → Reads (ofWord word) field (sort · word.toList)) :
    Reads (match given? raw with | none => .ok standard | some word => ofWord word) field
      (Says standard sort raw) := by
  unfold Says
  cases hgiven : given? raw with
  | none =>
    have hsilent : Silent raw := (given?_eq_none_iff raw).mp hgiven
    apply reads_ok
    intro a
    rw [holds_iff hsort, hgiven]
    constructor
    · rintro (⟨ha, -⟩ | ⟨_, h, -⟩)
      · exact ha
      · cases h
    · exact fun ha => Or.inl ⟨ha, hsilent⟩
  | some word =>
    have hloud : ¬ Silent raw := by
      rw [← given?_eq_none_iff, hgiven]
      nofun
    have hreads := hword word hgiven
    refine ⟨fun a => ?_, hreads.blames⟩
    rw [holds_iff hsort, hgiven]
    constructor
    · intro h
      exact Or.inr ⟨word, rfl, (hreads.accepts a).mp h⟩
    · rintro (⟨-, h⟩ | ⟨_, hsame, h⟩)
      · exact absurd h hloud
      · obtain rfl := Option.some.inj hsame
        exact (hreads.accepts a).mpr h

/-! ## Words for values -/

/-- A word writes one name at most. -/
theorem InAnyCase.unique {name name' : String} {word : List Char} (h : InAnyCase name word)
    (h' : InAnyCase name' word) : name = name' := String.toList_inj.mp (h.symm.trans h')

/-- The value whose name a word writes is the only one. -/
theorem named_reads {name : α → String} (hname : ∀ {a b}, name a = name b → a = b) {a : α}
    {word : List Char} (h : InAnyCase (name a) word) :
    Reads (.ok a) field fun a => InAnyCase (name a) word :=
  reads_ok fun b => ⟨fun hb => hname (hb.unique h), fun hb => by rwa [hb]⟩

/-- In a table of names, a value stands under its own name. -/
theorem lookup_names {name : α → String} (hname : ∀ {a b}, name a = name b → a = b) {all : List α}
    (hall : ∀ a, a ∈ all) (s : String) (a : α) :
    (all.map fun a => (name a, a)).lookup s = some a ↔ s = name a := by
  have hfound : ∀ {l : List α}, (l.map fun a => (name a, a)).lookup s = some a ↔
      a ∈ l ∧ s = name a := by
    intro l
    induction l with
    | nil => simp
    | cons b l ih =>
      rw [List.map_cons, List.lookup_cons]
      by_cases hs : s = name b
      · have hself : (s == name b) = true := by rwa [beq_iff_eq]
        rw [hself]
        constructor
        · intro h
          obtain rfl := Option.some.inj h
          exact ⟨List.mem_cons_self, hs⟩
        · rintro ⟨-, ha⟩
          rw [hname (hs.symm.trans ha)]
      · have hother : (s == name b) = false := by rwa [beq_eq_false_iff_ne]
        rw [hother, ih, List.mem_cons]
        constructor
        · rintro ⟨ha, h⟩
          exact ⟨Or.inr ha, h⟩
        · rintro ⟨rfl | ha, h⟩
          · exact absurd h hs
          · exact ⟨ha, h⟩
  rw [hfound]
  exact ⟨And.right, fun h => ⟨hall a, h⟩⟩

theorem readWord_reads {name : α → String} (hname : ∀ {a b}, name a = name b → a = b)
    {all : List α} (hall : ∀ a, a ∈ all) (noun known word : String) :
    Reads (readWord field noun known (all.map fun a => (name a, a)) word) field
      fun a => InAnyCase (name a) word.toList := by
  have hlookup := lookup_names hname hall (Text.asciiLower word)
  simp only [asciiLower_eq_iff] at hlookup
  unfold readWord
  dsimp only
  cases hfound : (all.map fun a => (name a, a)).lookup (Text.asciiLower word) with
  | none =>
    apply reads_error rfl
    intro a ha
    rw [(hlookup a).mpr ha] at hfound
    cases hfound
  | some a => exact named_reads hname ((hlookup a).mp hfound)

theorem readCount_reads (raw : Option String) :
    Reads (readCount field raw) field (SaysCount raw) := by
  refine Reads.of_given raw (fun h => IsWord.of_numeral h.2) fun word _ => ?_
  have hcount := Number.count?_iff word
  cases hread : Number.count? word with
  | none =>
    apply reads_error rfl
    intro n hn
    rw [(hcount n).mpr hn] at hread
    cases hread
  | some m =>
    apply reads_ok
    intro n
    rw [CountNumeral, ← hcount, hread, Option.some.injEq, eq_comm]

theorem kind_names {a b : Kind} (h : a.name = b.name) : a = b :=
  Option.some.inj (Search.filterName_injective h)

theorem sortKey_reads (raw : Option String) :
    Reads (SortKey.ofName raw) .sortBy (SaysSortKey raw) := by
  refine Reads.of_given raw (IsWord.of_letters (isWord_sortKey _)) fun word _ => ?_
  have hall : ∀ key, key ∈ [SortKey.score, .createdAt, .popularity] := by
    rintro (_ | _ | _) <;> decide
  exact readWord_reads Search.SortKey.name_injective hall _ _ word

/-- The word that a text is compared with is a name if it has no capitals. -/
theorem sameWord_iff_inAnyCase (name word : String) (hname : Text.asciiLower name = name) :
    Text.sameWord word name = true ↔ InAnyCase name word.toList := by
  rw [Text.sameWord, hname, beq_iff_eq, asciiLower_eq_iff]

theorem sortOrder_reads (raw : Option String) :
    Reads (SortOrder.ofName raw) .sortOrder (SaysSortOrder raw) := by
  refine Reads.of_given raw (IsWord.of_letters (isWord_sortOrder _)) fun word _ => ?_
  have hasc := sameWord_iff_inAnyCase "asc" word (by decide)
  have hdesc := sameWord_iff_inAnyCase "desc" word (by decide)
  by_cases hup : Text.sameWord word "asc" = true
  · rw [if_pos hup]
    exact named_reads (a := .ascending) Search.SortOrder.name_injective (hasc.mp hup)
  · rw [if_neg hup]
    by_cases hdown : Text.sameWord word "desc" = true
    · rw [if_pos hdown]
      exact named_reads (a := .descending) Search.SortOrder.name_injective (hdesc.mp hdown)
    · rw [if_neg hdown]
      apply reads_error rfl
      intro order horder
      cases order with
      | ascending => exact hup (hasc.mpr horder)
      | descending => exact hdown (hdesc.mpr horder)

/-- A filter is `all`, which is no name of a kind, or a kind. -/
theorem filterOfName_reads (raw : Option String) :
    Reads (Kind.filterOfName raw) .kind (SaysKind raw) := by
  refine Reads.of_given raw (IsWord.of_letters (isWord_filterName _)) fun word hword => ?_
  have hall : ∀ kind, kind ∈ [Kind.video, .text] := by
    rintro (_ | _) <;> decide
  have hkind : Reads (Kind.ofName word) .kind fun kind => InAnyCase kind.name word.toList := by
    unfold Kind.ofName
    rw [given?_trimmed hword]
    exact readWord_reads kind_names hall _ _ word
  have hany := sameWord_iff_inAnyCase "all" word (by decide)
  by_cases hfree : Text.sameWord word "all" = true
  · rw [if_pos hfree]
    exact named_reads (a := none) Search.filterName_injective (hany.mp hfree)
  · rw [if_neg hfree]
    cases hread : Kind.ofName word with
    | ok kind =>
      have hnamed : InAnyCase (Search.filterName (some kind)) word.toList :=
        (hkind.accepts kind).mp hread
      exact named_reads Search.filterName_injective hnamed
    | error fault =>
      apply reads_error (hkind.blames hread)
      intro filter hfilter
      cases filter with
      | none => exact hfree (hany.mpr hfilter)
      | some kind => exact hkind.offends hread kind hfilter

end Readers

/-! ## Requests -/

namespace RequestWords

variable {w : RequestWords}

/-- The words are read as a request exactly if they write it. -/
theorem request_ok_iff (w : RequestWords) (r : Request) : w.request = .ok r ↔ w.Writes r := by
  constructor
  · intro h
    obtain ⟨kind, hkind, h⟩ := bind_eq_ok h
    obtain ⟨page, hpage, h⟩ := bind_eq_ok h
    obtain ⟨pageSize, hpageSize, h⟩ := bind_eq_ok h
    obtain ⟨sortBy, hsortBy, h⟩ := bind_eq_ok h
    obtain ⟨sortOrder, hsortOrder, h⟩ := bind_eq_ok h
    obtain rfl := Except.ok.inj h
    refine ⟨?_, ((filterOfName_reads _).accepts _).mp hkind,
      ((readCount_reads _).accepts _).mp hpage,
      ((readCount_reads _).accepts _).mp hpageSize, ((sortKey_reads _).accepts _).mp hsortBy,
      ((sortOrder_reads _).accepts _).mp hsortOrder⟩
    cases w.query with
    | none => exact Or.inr ⟨rfl, rfl⟩
    | some query => exact Or.inl rfl
  · intro h
    have hquery : w.query.getD "" = r.query := by
      rcases h.query with hquery | ⟨hquery, hempty⟩
      · rw [hquery]
        rfl
      · rw [hquery, hempty]
        rfl
    unfold request
    rw [((filterOfName_reads _).accepts _).mpr h.kind, ((readCount_reads _).accepts _).mpr h.page,
      ((readCount_reads _).accepts _).mpr h.pageSize, ((sortKey_reads _).accepts _).mpr h.sortBy,
      ((sortOrder_reads _).accepts _).mpr h.sortOrder, hquery]
    rfl

/-- Reading stops at a part if it offends, and goes on behind it if it does not. -/
theorem firstOffence_of_bind {α β : Type} {read : Except InputFault α} {means : α → Prop}
    {next : α → Except InputFault β} {fault : InputFault} {field : InputField}
    (before after : List InputField) (hplace : blamed = before ++ field :: after)
    (hreads : Reads read field means) (hoffends : w.Offends field ↔ ∀ a, ¬ means a)
    (hsound : ∀ other ∈ before, ¬ w.Offends other)
    (hnext : ∀ a, (∀ other ∈ before ++ [field], ¬ w.Offends other) → next a = .error fault →
      w.FirstOffence fault.field)
    (h : read >>= next = .error fault) : w.FirstOffence fault.field := by
  cases hread : read with
  | error e =>
    rw [hread] at h
    obtain rfl : e = fault := Except.error.inj h
    have hfield : e.field = field := hreads.blames hread
    refine ⟨before, after, ?_, ?_, hsound⟩
    · rw [hfield, hplace]
    · rw [hfield, hoffends]
      exact hreads.offends hread
  | ok a =>
    rw [hread] at h
    apply hnext a ?_ h
    intro other hother
    rcases List.mem_append.mp hother with hother | hother
    · exact hsound other hother
    · rw [List.mem_singleton.mp hother, hoffends]
      exact hreads.sound hread

/-- The parts are read one after the other, up to the first that offends. -/
theorem firstOffence_of_error {fault : InputFault} (h : w.request = .error fault) :
    w.FirstOffence fault.field := by
  refine firstOffence_of_bind [] _ rfl (filterOfName_reads _) Iff.rfl nofun ?_ h
  intro kind hsound h
  refine firstOffence_of_bind [.kind] _ rfl (readCount_reads _) Iff.rfl hsound ?_ h
  intro page hsound h
  refine firstOffence_of_bind [.kind, .page] _ rfl (readCount_reads _) Iff.rfl hsound ?_ h
  intro pageSize hsound h
  refine firstOffence_of_bind [.kind, .page, .pageSize] _ rfl (sortKey_reads _) Iff.rfl hsound ?_ h
  intro sortBy hsound h
  refine firstOffence_of_bind [.kind, .page, .pageSize, .sortBy] _ rfl (sortOrder_reads _) Iff.rfl
    hsound ?_ h
  nofun

/-- Words that write a request are read as this request. For all others, the first part that says
nothing is named, in the order of kind, page, page size, sort key and sort order. -/
theorem words_are_read_as_the_request_they_write (w : RequestWords) :
    (∀ r, w.request = .ok r ↔ w.Writes r) ∧
      ((∀ r, ¬ w.Writes r) → ∃ fault, w.request = .error fault ∧ w.FirstOffence fault.field) := by
  refine ⟨request_ok_iff w, fun hnone => ?_⟩
  cases hrequest : w.request with
  | ok r => exact absurd ((request_ok_iff w r).mp hrequest) (hnone r)
  | error fault => exact ⟨fault, rfl, firstOffence_of_error hrequest⟩

/-- Words with capitals, signs, zeros and blanks where they are allowed. -/
def ornate : RequestWords where
  query := none
  kind := some "\u2003ViDeO\n"
  page := some " +007"
  pageSize := some "18446744073709551615"
  sortBy := some "Created_AT "
  sortOrder := some "\u00a0"

/-- Two parts of these words say nothing: a page size of 65 bits and an unknown key. -/
def wrong : RequestWords where
  query := some "rust"
  kind := some " ALL"
  page := none
  pageSize := some "18446744073709551616"
  sortBy := some "size"
  sortOrder := some "asc"

theorem ornate_words_are_read_and_wrong_ones_are_blamed :
    ornate.request = .ok ⟨"", some .video, 7, 18446744073709551615, .createdAt, .descending⟩ ∧
      ∃ fault, wrong.request = .error fault ∧ wrong.FirstOffence fault.field := by
  constructor
  · have hvideo : InAnyCase "video" "ViDeO".toList := by unfold InAnyCase; decide
    have hcreated : InAnyCase "created_at" "Created_AT".toList := by unfold InAnyCase; decide
    have hseven : CountNumeral 7 "+007".toList := ⟨by decide, ['+'], 2, by decide⟩
    have hmost : CountNumeral 18446744073709551615 "18446744073709551615".toList :=
      ⟨by decide, [], 0, by decide +kernel⟩
    have hsilent : Silent ornate.sortOrder := (given?_eq_none_iff _).mp (by decide)
    have hblank (s : List Char) (hs : s.all Text.isBlank = true) : ∀ c ∈ s, Text.isBlank c = true :=
      List.all_eq_true.mp hs
    exact ((words_are_read_as_the_request_they_write ornate).1 _).mpr {
      query := Or.inr ⟨rfl, rfl⟩
      kind := Or.inr ⟨['\u2003'], _, ['\n'], by decide, hvideo, hblank _ rfl, hblank _ rfl⟩
      page := Or.inr ⟨[' '], _, [], by decide, hseven, hblank _ rfl, hblank _ rfl⟩
      pageSize := Or.inr ⟨[], _, [], by decide, hmost, hblank _ rfl, hblank _ rfl⟩
      sortBy := Or.inr ⟨[], _, [' '], by decide, hcreated, hblank _ rfl, hblank _ rfl⟩
      sortOrder := Or.inl ⟨rfl, hsilent⟩ }
  · apply (words_are_read_as_the_request_they_write wrong).2
    intro r h
    have hread : readCount .pageSize wrong.pageSize = .ok r.pageSize :=
      ((readCount_reads _).accepts _).mpr h.pageSize
    cases hread

end RequestWords

end FeedSearch
