-- The grammar of JSON, apart from every reader: what a text is made of, from its
-- gaps, marks and figures up to lists and objects, and the form that it writes.
-- Texts of one form differ in gaps, in the spelling of strings and numbers, and in
-- nothing else.
import FeedSearch.Json.Token
import FeedSearch.Proofs.DecimalDigits

namespace FeedSearch.Json

/-! ## Gaps -/

/-- Blanks between tokens, or nothing. -/
structure Gap where
  chars : List Char
  blank : chars.all isGap = true

def Gap.none : Gap := ⟨[], rfl⟩

def Gap.space : Gap := ⟨[' '], rfl⟩

/-! ## Strings -/

/-- What stands between quotes: a character as it is, a letter behind a backslash, or a code unit of
16 bits in hexadecimal digits. -/
inductive Mark where
  | plain (c : Char)
  | letter (c : Char)
  | unit (a b c d : Char)
  deriving DecidableEq, Repr

namespace Mark

/-- The value of four digits. -/
def unitOf (a b c d : Char) : Nat :=
  let value := fun x => (Text.hexValue? x).getD 0
  ((value a * 16 + value b) * 16 + value c) * 16 + value d

def isSound : Mark → Bool
  | .plain c => c != '"' && c != '\\' && !isControl c
  | .letter c => (shortEscape? c).isSome
  | .unit a b c d => [a, b, c, d].all fun x => (Text.hexValue? x).isSome

def chars : Mark → List Char
  | .plain c => [c]
  | .letter c => ['\\', c]
  | .unit a b c d => ['\\', 'u', a, b, c, d]

/-- The characters that marks stand for. A unit from the range of surrogates stands for none, but
for a high one with a low one right behind it. -/
def characters? : List Mark → Option (List Char)
  | [] => some []
  | .plain c :: rest => (characters? rest).map (c :: ·)
  | .letter c :: rest => do
    let char ← shortEscape? c
    (characters? rest).map (char :: ·)
  | .unit a b c d :: rest =>
    let n := unitOf a b c d
    if 0xDC00 ≤ n ∧ n ≤ 0xDFFF then none
    else if 0xD800 ≤ n ∧ n ≤ 0xDBFF then
      match rest with
      | .unit a' b' c' d' :: rest =>
        let n' := unitOf a' b' c' d'
        if 0xDC00 ≤ n' ∧ n' ≤ 0xDFFF then
          (characters? rest).map (Char.ofNat (0x10000 + (n - 0xD800) * 0x400 + (n' - 0xDC00)) :: ·)
        else none
      | _ => none
    else (characters? rest).map (Char.ofNat n :: ·)

end Mark

/-- A string in quotes. -/
structure Quote where
  marks : List Mark
  sound : marks.all Mark.isSound = true

namespace Quote

/-- The marks and the quote behind them. -/
def tail (q : Quote) : List Char := q.marks.flatMap Mark.chars ++ ['"']

def chars (q : Quote) : List Char := '"' :: q.tail

/-- The text that is meant, if there is one: half a pair of surrogates means nothing. -/
def content? (q : Quote) : Option String := (Mark.characters? q.marks).map String.ofList

end Quote

/-- The name of a member: a string that means something. -/
structure Name where
  quote : Quote
  content : String
  readable : quote.content? = some content

theorem Mark.characters?_plain (l : List Char) : characters? (l.map .plain) = some l := by
  induction l with
  | nil => rfl
  | cons c l ih => rw [List.map_cons, characters?, ih, Option.map_some]

/-- A text in which no character needs a backslash. -/
def Quote.ofPlain (s : String) (h : (s.toList.map Mark.plain).all Mark.isSound = true) : Quote :=
  ⟨s.toList.map .plain, h⟩

def Name.ofPlain (s : String) (h : (s.toList.map Mark.plain).all Mark.isSound = true) : Name where
  quote := .ofPlain s h
  content := s
  readable := by
    rw [Quote.content?, Quote.ofPlain, Mark.characters?_plain, Option.map_some,
      String.ofList_toList]

/-! ## Numbers -/

/-- A number has digits, of which a zero at the front stands alone. There are digits in an exponent,
too. -/
def Numeral.isSound (n : Numeral) : Bool :=
  !n.whole.isEmpty && n.whole.all Char.isDigit && (n.whole.head? != some '0' || n.whole == ['0']) &&
    n.fraction.all Char.isDigit && n.exponent.all fun e => !e.2.isEmpty && e.2.all Char.isDigit

theorem Numeral.isSound_iff (n : Numeral) : n.isSound = true ↔
    n.whole ≠ [] ∧ (∀ c ∈ n.whole, c.isDigit = true) ∧
      (n.whole.head? = some '0' → n.whole = ['0']) ∧ (∀ c ∈ n.fraction, c.isDigit = true) ∧
        ∀ e ∈ n.exponent, e.2 ≠ [] ∧ ∀ c ∈ e.2, c.isDigit = true := by
  have hfront : (n.whole.head? != some '0' || n.whole == ['0']) = true ↔
      (n.whole.head? = some '0' → n.whole = ['0']) := by
    rw [Bool.or_eq_true, bne_iff_ne, beq_iff_eq, Decidable.or_iff_not_imp_left, Decidable.not_not]
  unfold Numeral.isSound
  rw [Bool.and_eq_true, Bool.and_eq_true, Bool.and_eq_true, Bool.and_eq_true, hfront,
    List.all_eq_true, List.all_eq_true, Option.all_eq_true]
  simp [and_assoc]

/-- A number as it is written. -/
structure Figure where
  numeral : Numeral
  sound : numeral.isSound = true
  /-- Whether the mark of the exponent is a capital letter. -/
  capital : Bool
  /-- Whether an exponent that is not negative has a sign. -/
  plus : Bool

namespace Figure

def sign (f : Figure) : List Char := if f.numeral.isNegative then ['-'] else []

def fraction (f : Figure) : List Char :=
  if f.numeral.fraction.isEmpty then [] else '.' :: f.numeral.fraction

def exponent (f : Figure) : List Char :=
  match f.numeral.exponent with
  | none => []
  | some (negative, digits) =>
    (if f.capital then 'E' else 'e') ::
      ((if negative then ['-'] else if f.plus then ['+'] else []) ++ digits)

def chars (f : Figure) : List Char := f.sign ++ (f.numeral.whole ++ (f.fraction ++ f.exponent))

end Figure

/-- A whole number, written with its digits and, if it is negative, a sign. -/
def Figure.ofInt (n : Int) : Figure where
  numeral := ⟨decide (n < 0), Nat.toDigits 10 n.natAbs, [], none⟩
  sound := by
    rw [Numeral.isSound_iff]
    refine ⟨Number.toDigits_ne_nil _, Number.isDigit_toDigits _, fun hzero => ?_, nofun, nofun⟩
    rw [Number.head?_toDigits _ hzero, Nat.toDigits_zero]
  capital := false
  plus := false

theorem Figure.chars_ofInt (n : Int) : (Figure.ofInt n).chars = (toString n).toList := by
  have hchars : (Figure.ofInt n).chars =
      (if n < 0 then ['-'] else []) ++ Nat.toDigits 10 n.natAbs := by
    simp [Figure.chars, Figure.sign, Figure.fraction, Figure.exponent, Figure.ofInt]
  rw [hchars, Int.toString_eq_repr, Int.repr_eq_if]
  by_cases hn : n < 0
  · have hnat : (-n).toNat = n.natAbs := by omega
    rw [if_pos hn, if_neg (by omega), hnat, String.toList_append, Nat.toList_repr]
    rfl
  · have hnat : n.toNat = n.natAbs := by omega
    rw [if_neg hn, if_pos (by omega), hnat, Nat.toList_repr]
    rfl

theorem Figure.value?_ofInt (n : Int) : (Figure.ofInt n).numeral.value? =
    if n.natAbs ≤ Number.maxCount then
      if n < 0 then
        if n.natAbs ≤ Number.signSize then some (.negative n)
        else some (signedFloat true n.natAbs.toUInt64.toFloat)
      else some (.count n.natAbs)
    else (Figure.ofInt n).numeral.float? := by
  have hwhole : Number.ofDigits (Figure.ofInt n).numeral.whole = n.natAbs :=
    Number.ofDigits_toDigits _
  have hisWhole : (Figure.ofInt n).numeral.isWhole = true := rfl
  have hnegative : (Figure.ofInt n).numeral.isNegative = decide (n < 0) := rfl
  unfold Numeral.value?
  simp only [hwhole, hisWhole, hnegative, Bool.true_and, decide_eq_true_eq]
  by_cases hn : n < 0
  · obtain ⟨k, rfl⟩ : ∃ k : Nat, n = -k := ⟨n.natAbs, by omega⟩
    have hsome : 0 < k := by omega
    simp [hsome, Nat.ne_of_gt hsome]
  · simp [hn]

/-! ## Forms -/

/-- What a text says. A number may be too large to be read, and a string may mean nothing. -/
inductive Form where
  | plain (v : Option Scalar)
  | text (s : Option String)
  | list (items : List Form)
  | object (members : List (String × Form))

namespace Form

def null : Form := .plain (some .null)

def isNull : Form → Bool
  | .plain (some .null) => true
  | _ => false

/-- No object gives a name to two members. -/
inductive NoRepeats : Form → Prop where
  | plain {v : Option Scalar} : NoRepeats (.plain v)
  | text {s : Option String} : NoRepeats (.text s)
  | list {items : List Form} (h : ∀ f ∈ items, NoRepeats f) : NoRepeats (.list items)
  | object {members : List (String × Form)} (hnames : (members.map (·.1)).Nodup)
      (h : ∀ m ∈ members, NoRepeats m.2) : NoRepeats (.object members)

@[simp] theorem noRepeats_plain (v : Option Scalar) : NoRepeats (.plain v) := .plain

@[simp] theorem noRepeats_text (s : Option String) : NoRepeats (.text s) := .text

@[simp] theorem noRepeats_list {items : List Form} :
    NoRepeats (.list items) ↔ ∀ f ∈ items, NoRepeats f :=
  ⟨fun h => by cases h; assumption, .list⟩

@[simp] theorem noRepeats_object {members : List (String × Form)} :
    NoRepeats (.object members) ↔
      (members.map (·.1)).Nodup ∧ ∀ m ∈ members, NoRepeats m.2 :=
  ⟨fun h => by cases h; exact ⟨by assumption, by assumption⟩, fun h => .object h.1 h.2⟩

end Form

/-! ## Texts -/

mutual

/-- A value as it is written. -/
inductive Written where
  | null
  | truth (b : Bool)
  | number (n : Figure)
  | quote (q : Quote)
  | emptyList (gap : Gap)
  | list (items : Items)
  | emptyObject (gap : Gap)
  | object (members : Members)

/-- One item of a list or more, with commas between them. -/
inductive Items where
  | last (before : Gap) (item : Written) (after : Gap)
  | more (before : Gap) (item : Written) (after : Gap) (rest : Items)

/-- One member of an object or more, with commas between them. -/
inductive Members where
  | last (before : Gap) (name : Name) (behind ahead : Gap) (value : Written) (after : Gap)
  | more (before : Gap) (name : Name) (behind ahead : Gap) (value : Written) (after : Gap)
      (rest : Members)

end

mutual

def Written.chars : Written → List Char
  | .null => ['n', 'u', 'l', 'l']
  | .truth true => ['t', 'r', 'u', 'e']
  | .truth false => ['f', 'a', 'l', 's', 'e']
  | .number n => n.chars
  | .quote q => q.chars
  | .emptyList gap => '[' :: (gap.chars ++ [']'])
  | .list items => '[' :: (items.chars ++ [']'])
  | .emptyObject gap => '\x7b' :: (gap.chars ++ ['\x7d'])
  | .object members => '\x7b' :: (members.chars ++ ['\x7d'])

def Items.chars : Items → List Char
  | .last before item after => before.chars ++ (item.chars ++ after.chars)
  | .more before item after rest =>
    before.chars ++ (item.chars ++ (after.chars ++ ',' :: rest.chars))

def Members.chars : Members → List Char
  | .last before name behind ahead value after =>
    before.chars ++ (name.quote.chars ++ (behind.chars ++ ':' :: (ahead.chars ++
      (value.chars ++ after.chars))))
  | .more before name behind ahead value after rest =>
    before.chars ++ (name.quote.chars ++ (behind.chars ++ ':' :: (ahead.chars ++
      (value.chars ++ (after.chars ++ ',' :: rest.chars)))))

end

mutual

def Written.form : Written → Form
  | .null => .null
  | .truth b => .plain (some (.truth b))
  | .number n => .plain (n.numeral.value?.map Scalar.number)
  | .quote q => .text q.content?
  | .emptyList _ => .list []
  | .list items => .list items.forms
  | .emptyObject _ => .object []
  | .object members => .object members.forms

def Items.forms : Items → List Form
  | .last _ item _ => [item.form]
  | .more _ item _ rest => item.form :: rest.forms

def Members.forms : Members → List (String × Form)
  | .last _ name _ _ value _ => [(name.content, value.form)]
  | .more _ name _ _ value _ rest => (name.content, value.form) :: rest.forms

end

/-- A whole text: one value, and gaps around it. -/
structure Body where
  before : Gap
  value : Written
  after : Gap

namespace Body

def text (b : Body) : String := String.ofList (b.before.chars ++ (b.value.chars ++ b.after.chars))

def form (b : Body) : Form := b.value.form

end Body

end FeedSearch.Json
