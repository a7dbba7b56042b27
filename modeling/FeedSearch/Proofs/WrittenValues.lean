-- Values as they are written. The compact text of a value is a text of the grammar
-- that says the value: strings with their escapes, numbers with their digits, and
-- lists and objects part by part.
import FeedSearch.Json.Value
import FeedSearch.Proofs.FloatTexts
import FeedSearch.Proofs.JsonGrammar

namespace FeedSearch.Json

/-! ## Strings -/

/-- The mark for a character: itself, or what stands for it behind a backslash. -/
def Mark.ofChar (c : Char) : Mark :=
  match c with
  | '"' => .letter '"'
  | '\\' => .letter '\\'
  | '\x08' => .letter 'b'
  | '\x0c' => .letter 'f'
  | '\n' => .letter 'n'
  | '\r' => .letter 'r'
  | '\t' => .letter 't'
  | c =>
    if c.toNat < 0x20 then
      .unit '0' '0' (Text.hexDigit (c.toNat / 16)) (Text.hexDigit (c.toNat % 16))
    else .plain c

namespace Mark

/-- How a character is written: with a letter, with a unit, or as it is. -/
theorem ofChar_cases (c : Char) :
    (∃ letter, shortEscape? letter = some c ∧ ofChar c = .letter letter ∧
      Value.escapeChar c = ['\\', letter]) ∨
    (∃ n < 0x20, c = Char.ofNat n ∧
      ofChar c = .unit '0' '0' (Text.hexDigit (n / 16)) (Text.hexDigit (n % 16)) ∧
      Value.escapeChar c =
        ['\\', 'u', '0', '0', Text.hexDigit (n / 16), Text.hexDigit (n % 16)]) ∨
    (isSound (.plain c) = true ∧ ofChar c = .plain c ∧ Value.escapeChar c = [c]) := by
  unfold ofChar
  split
  · exact Or.inl ⟨_, rfl, rfl, rfl⟩
  · exact Or.inl ⟨_, rfl, rfl, rfl⟩
  · exact Or.inl ⟨_, rfl, rfl, rfl⟩
  · exact Or.inl ⟨_, rfl, rfl, rfl⟩
  · exact Or.inl ⟨_, rfl, rfl, rfl⟩
  · exact Or.inl ⟨_, rfl, rfl, rfl⟩
  · exact Or.inl ⟨_, rfl, rfl, rfl⟩
  · rename_i hquote hslash _ _ _ _ _
    have hescape : Value.escapeChar c =
        if c.toNat < 0x20 then
          ['\\', 'u', '0', '0', Text.hexDigit (c.toNat / 16), Text.hexDigit (c.toNat % 16)]
        else [c] := by
      unfold Value.escapeChar
      split <;> first | contradiction | rfl
    rw [hescape]
    right
    split
    · rename_i hcontrol
      exact Or.inl ⟨c.toNat, hcontrol, (Char.ofNat_toNat c).symm, rfl, rfl⟩
    · rename_i hplain
      refine Or.inr ⟨?_, rfl, rfl⟩
      simp only [isSound, isControl, Bool.and_eq_true, bne_iff_ne, Bool.not_eq_true',
        decide_eq_false_iff_not]
      exact ⟨⟨hquote, hslash⟩, hplain⟩

theorem chars_ofChar (c : Char) : (ofChar c).chars = Value.escapeChar c := by
  rcases ofChar_cases c with ⟨_, -, hmark, hchars⟩ | ⟨_, -, -, hmark, hchars⟩ | ⟨-, hmark, hchars⟩
  · rw [hmark, hchars]
    rfl
  · rw [hmark, hchars]
    rfl
  · rw [hmark, hchars]
    rfl

/-- Control characters by their units. -/
theorem unit_control : ∀ n < 0x20,
    isSound (.unit '0' '0' (Text.hexDigit (n / 16)) (Text.hexDigit (n % 16))) = true ∧
      unitOf '0' '0' (Text.hexDigit (n / 16)) (Text.hexDigit (n % 16)) = n := by
  decide

theorem isSound_ofChar (c : Char) : (ofChar c).isSound = true := by
  rcases ofChar_cases c with ⟨_, hletter, hmark, -⟩ | ⟨n, hn, -, hmark, -⟩ | ⟨hplain, hmark, -⟩
  · rw [hmark, isSound, hletter]
    rfl
  · rw [hmark]
    exact (unit_control n hn).1
  · rw [hmark]
    exact hplain

theorem characters?_ofChar (c : Char) (rest : List Mark) :
    characters? (ofChar c :: rest) = (characters? rest).map (c :: ·) := by
  rcases ofChar_cases c with ⟨_, hletter, hmark, -⟩ | ⟨n, hn, rfl, hmark, -⟩ | ⟨-, hmark, -⟩
  · rw [hmark, characters?, hletter]
    rfl
  · rw [hmark, characters?.eq_def]
    simp only [(unit_control n hn).2]
    rw [if_neg (by omega), if_neg (by omega)]
  · rw [hmark, characters?]

theorem characters?_map_ofChar (l : List Char) : characters? (l.map ofChar) = some l := by
  induction l with
  | nil => rfl
  | cons c l ih => rw [List.map_cons, characters?_ofChar, ih, Option.map_some]

end Mark

/-- A text between quotes, with its escapes. -/
def Quote.ofText (s : String) : Quote where
  marks := s.toList.map Mark.ofChar
  sound := by
    rw [List.all_map]
    exact List.all_eq_true.mpr fun c _ => Mark.isSound_ofChar c

theorem Quote.chars_ofText (s : String) : (ofText s).chars = (Value.textForm s).toList := by
  have hmarks : (s.toList.map Mark.ofChar).flatMap Mark.chars =
      s.toList.flatMap Value.escapeChar := by
    rw [List.flatMap_map]
    exact List.flatMap_congr fun c _ => Mark.chars_ofChar c
  rw [Value.textForm, String.toList_ofList, chars, tail, ofText, hmarks, List.cons_append]

theorem Quote.content?_ofText (s : String) : (ofText s).content? = some s := by
  rw [content?, ofText, Mark.characters?_map_ofChar, Option.map_some, String.ofList_toList]

def Name.ofText (s : String) : Name := ⟨.ofText s, s, Quote.content?_ofText s⟩

/-! ## Values -/

namespace Value

/-- What the text of a number says. -/
def numberMeaning : Num → Form
  | .count n => .plain ((Figure.ofInt n).numeral.value?.map Scalar.number)
  | .negative n => .plain ((Figure.ofInt n).numeral.value?.map Scalar.number)
  | .float bits =>
    if Number.isFinite bits then .plain ((Number.figureOf bits).numeral.value?.map Scalar.number)
    else .null

mutual

/-- What the text of a value says. -/
def meaning : Value → Form
  | .null => .null
  | .truth b => .plain (some (.truth b))
  | .number n => numberMeaning n
  | .text s => .text (some s)
  | .list items => .list (meaningItems items)
  | .object members => .object (meaningMembers members)

def meaningItems : List Value → List Form
  | [] => []
  | v :: items => v.meaning :: meaningItems items

def meaningMembers : List (String × Value) → List (String × Form)
  | [] => []
  | (name, v) :: members => (name, v.meaning) :: meaningMembers members

end

theorem exists_number (n : Num) :
    ∃ w : Written, w.chars = (numberForm n).toList ∧ w.form = numberMeaning n := by
  cases n with
  | count n =>
    have htext : toString (n : Int) = toString n := by simp [Int.repr_eq_if]
    exact ⟨.number (.ofInt n), (Figure.chars_ofInt n).trans (congrArg String.toList htext), rfl⟩
  | negative n => exact ⟨.number (.ofInt n), Figure.chars_ofInt n, rfl⟩
  | float bits =>
    simp only [numberForm, numberMeaning]
    split
    · rename_i hfinite
      exact ⟨.number (Number.figureOf bits), Number.chars_figureOf hfinite, rfl⟩
    · exact ⟨.null, rfl, rfl⟩

/-- Parts with commas between them, character by character. -/
theorem toList_commas (part : String) (parts : List String) :
    (",".intercalate (part :: parts)).toList =
      part.toList ++ if parts.isEmpty then [] else ',' :: (",".intercalate parts).toList := by
  cases parts with
  | nil => simp
  | cons part' parts => simp [String.toList_append]

mutual

/-- The compact text of a value is a text of the grammar, and says the value. -/
theorem exists_written :
    (v : Value) → ∃ w : Written, w.chars = v.compact.toList ∧ w.form = v.meaning
  | .null => ⟨.null, rfl, rfl⟩
  | .truth b => ⟨.truth b, by cases b <;> rfl, rfl⟩
  | .number n => exists_number n
  | .text s =>
    ⟨.quote (.ofText s), Quote.chars_ofText s, congrArg Form.text (Quote.content?_ofText s)⟩
  | .list items => by
    rcases exists_items items with rfl | ⟨-, written, hchars, hforms⟩
    · exact ⟨.emptyList .none, rfl, rfl⟩
    · refine ⟨.list written, ?_, congrArg Form.list hforms⟩
      have hopen : "[".toList = ['['] := rfl
      have hclose : "]".toList = [']'] := rfl
      simp only [Written.chars, hchars, compact, String.toList_append, hopen, hclose,
        List.cons_append, List.nil_append]
  | .object members => by
    rcases exists_members members with rfl | ⟨-, written, hchars, hforms⟩
    · exact ⟨.emptyObject .none, rfl, rfl⟩
    · refine ⟨.object written, ?_, congrArg Form.object hforms⟩
      have hopen : "\x7b".toList = ['\x7b'] := rfl
      have hclose : "\x7d".toList = ['\x7d'] := rfl
      simp only [Written.chars, hchars, compact, String.toList_append, hopen, hclose,
        List.cons_append, List.nil_append]

theorem exists_items : (items : List Value) → items = [] ∨ (compactItems items).isEmpty = false ∧
    ∃ written : Items, written.chars = (",".intercalate (compactItems items)).toList ∧
      written.forms = meaningItems items
  | [] => Or.inl rfl
  | v :: items => by
    obtain ⟨w, hchars, hform⟩ := v.exists_written
    right
    refine ⟨rfl, ?_⟩
    rcases exists_items items with rfl | ⟨hmore, written, hrest, hforms⟩
    · refine ⟨.last .none w .none, ?_, by rw [Items.forms, hform]; rfl⟩
      rw [compactItems, toList_commas]
      simp [Items.chars, compactItems, hchars, Gap.none]
    · refine ⟨.more .none w .none written, ?_, by rw [Items.forms, hform, hforms]; rfl⟩
      rw [compactItems, toList_commas, ← hrest, hmore]
      simp [Items.chars, hchars, Gap.none]

theorem exists_members : (members : List (String × Value)) → members = [] ∨
    (compactMembers members).isEmpty = false ∧ ∃ written : Members,
      written.chars = (",".intercalate (compactMembers members)).toList ∧
        written.forms = meaningMembers members
  | [] => Or.inl rfl
  | (name, v) :: members => by
    obtain ⟨w, hchars, hform⟩ := v.exists_written
    have hname := Quote.chars_ofText name
    right
    refine ⟨rfl, ?_⟩
    rcases exists_members members with rfl | ⟨hmore, written, hrest, hforms⟩
    · refine ⟨.last .none (.ofText name) .none .none w .none, ?_, by rw [Members.forms, hform]; rfl⟩
      rw [compactMembers, toList_commas]
      simp [Members.chars, hchars, hname, Gap.none, compactMembers, Name.ofText,
        String.toList_append]
    · refine ⟨.more .none (.ofText name) .none .none w .none written, ?_,
        by rw [Members.forms, hform, hforms]; rfl⟩
      rw [compactMembers, toList_commas, ← hrest, hmore]
      simp [Members.chars, hchars, hname, Gap.none, Name.ofText, String.toList_append]

end

/-- The compact text of a value, as a text of the grammar. -/
theorem exists_body (v : Value) : ∃ b : Body, b.text = v.compact ∧ b.form = v.meaning := by
  obtain ⟨w, hchars, hform⟩ := v.exists_written
  refine ⟨⟨.none, w, .none⟩, ?_, hform⟩
  simp [Body.text, Gap.none, hchars]

theorem meaning_count {n : Nat} (h : n ≤ Number.maxCount) :
    (count n).meaning = .plain (some (.number (.count n))) := by
  show Form.plain ((Figure.ofInt n).numeral.value?.map Scalar.number) = _
  rw [Figure.value?_ofInt, Int.natAbs_natCast, if_pos h, if_neg (by omega)]
  rfl

theorem meaning_integer {n : Int} (h : Number.fitsSigned n = true) :
    (integer n).meaning =
      .plain (some (.number (if n < 0 then .negative n else .count n.toNat))) := by
  have hsize : Number.signSize ≤ Number.maxCount := by decide
  simp only [Number.fitsSigned, Bool.and_eq_true, decide_eq_true_eq] at h
  unfold integer
  split
  · rename_i hneg
    show Form.plain ((Figure.ofInt n).numeral.value?.map Scalar.number) = _
    rw [Figure.value?_ofInt, if_pos (by omega), if_pos hneg, if_pos (by omega)]
    rfl
  · exact meaning_count (by omega)

end Value

end FeedSearch.Json
