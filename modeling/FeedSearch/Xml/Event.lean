-- An XML text as a row of events: tags, pieces of text, sections of literal
-- text. Comments and processing instructions leave no event.
import FeedSearch.Text.Ascii
import FeedSearch.Xml.Fault

namespace FeedSearch.Xml

/-! ## Events -/

/-- The blanks of XML. -/
def isGap (c : Char) : Bool := c == ' ' || c == '\t' || c == '\n' || c == '\r'

/-- An opening tag: its name, and what stands in it from the name on. -/
structure Tag where
  name : List Char
  body : List Char
  deriving DecidableEq, Repr

inductive Event where
  | opening (tag : Tag)
  | closing (name : List Char)
  /-- Text as written, with its references. -/
  | text (raw : List Char)
  /-- Literal text. -/
  | literal (raw : List Char)
  | doctype
  /-- The text is no XML from here on. -/
  | broken (f : MarkupFault)
  deriving DecidableEq, Repr

def Event.isText : Event → Bool
  | .text _ => true
  | .literal _ => true
  | _ => false

/-! ## Finding the end of markup -/

/-- Splits at the first `>` that is not between quotes. -/
def splitTag (quote : Option Char) : List Char → Option (List Char × List Char)
  | [] => none
  | c :: rest =>
    match quote with
    | some q =>
      (splitTag (if c == q then none else some q) rest).map fun r => (c :: r.1, r.2)
    | none =>
      if c == '>' then some ([], rest)
      else
        let quote := if c == '"' || c == '\'' then some c else none
        (splitTag quote rest).map fun r => (c :: r.1, r.2)

/-- Splits at the first place where `mark` stands; the mark is left out. -/
def splitAt? (mark : List Char) : List Char → Option (List Char × List Char)
  | [] => if mark.isEmpty then some ([], []) else none
  | c :: rest =>
    if mark.isPrefixOf (c :: rest) then some ([], (c :: rest).drop mark.length)
    else (splitAt? mark rest).map fun r => (c :: r.1, r.2)

/-- Splits at the first `>` that closes nothing opened on the way. -/
def splitBalanced (opened : Nat) : List Char → Option (List Char × List Char)
  | [] => none
  | c :: rest =>
    if c == '>' && opened == 0 then some ([], rest)
    else
      let opened := if c == '<' then opened + 1 else if c == '>' then opened - 1 else opened
      (splitBalanced opened rest).map fun r => (c :: r.1, r.2)

theorem length_splitTag {q : Option Char} {s a b : List Char} (h : splitTag q s = some (a, b)) :
    b.length < s.length := by
  induction s generalizing q a with
  | nil => simp [splitTag] at h
  | cons c rest ih =>
    have step : ∀ q', ((splitTag q' rest).map fun r => (c :: r.1, r.2)) = some (a, b) →
        b.length < (c :: rest).length := by
      intro q' h'
      obtain ⟨r, hr, heq⟩ := Option.map_eq_some_iff.1 h'
      cases heq
      exact Nat.lt_succ_of_lt (ih hr)
    unfold splitTag at h
    split at h
    · exact step _ h
    · split at h
      · cases h
        simp
      · exact step _ h

theorem length_splitAt? {mark s a b : List Char} (h : splitAt? mark s = some (a, b)) :
    b.length ≤ s.length := by
  induction s generalizing a with
  | nil =>
    simp only [splitAt?] at h
    split at h
    · cases h
      simp
    · cases h
  | cons c rest ih =>
    simp only [splitAt?] at h
    split at h
    · cases h
      simp
    · obtain ⟨r, hr, heq⟩ := Option.map_eq_some_iff.1 h
      cases heq
      exact Nat.le_succ_of_le (ih hr)

theorem length_splitBalanced {n : Nat} {s a b : List Char} (h : splitBalanced n s = some (a, b)) :
    b.length < s.length := by
  induction s generalizing n a with
  | nil => simp [splitBalanced] at h
  | cons c rest ih =>
    simp only [splitBalanced] at h
    split at h
    · cases h
      simp
    · obtain ⟨r, hr, heq⟩ := Option.map_eq_some_iff.1 h
      cases heq
      exact Nat.lt_succ_of_lt (ih hr)

/-! ## One piece of markup -/

/-- What markup gives: its events and the text after it, or why it is none. -/
abbrev MarkupScan := Except MarkupFault (List Event × List Char)

/-- An opening tag; a slash before its end closes it at once. -/
def openingEvents (body : List Char) : List Event :=
  let selfClosing := body.getLast? == some '/'
  let body := if selfClosing then body.dropLast else body
  let name := body.takeWhile (!isGap ·)
  if selfClosing then [.opening { name, body }, .closing name] else [.opening { name, body }]

def dropGapsAtEnd (s : List Char) : List Char := (s.reverse.dropWhile isGap).reverse

/-- The name of a closing tag; blanks after it do not count. -/
def closingName (body : List Char) : List Char :=
  let name := dropGapsAtEnd body
  if name.isEmpty then body else name

/-- Markup that starts with `!`, after the mark. -/
def scanBang (s : List Char) : MarkupScan :=
  match s with
  | '-' :: rest =>
    match rest with
    | '-' :: rest =>
      match splitAt? ['-', '-', '>'] rest with
      | some (_, after) => .ok ([], after)
      | none => .error .openComment
    | _ => .error .openComment
  | '[' :: _ =>
    let opening := "[CDATA[".toList
    if opening.isPrefixOf s then
      match splitAt? [']', ']', '>'] (s.drop opening.length) with
      | some (raw, after) => .ok ([.literal raw], after)
      | none => .error .openSection
    else .error .openSection
  | 'D' :: _ => scanDoctype s
  | 'd' :: _ => scanDoctype s
  | _ => .error .unknownMarkup
where
  scanDoctype (s : List Char) : MarkupScan :=
    match splitBalanced 0 s with
    | none => .error .openDoctype
    | some (body, after) =>
      if (body.take 7).map Char.toLower != "doctype".toList then .error .openDoctype
      else if (body.drop 7).all isGap then .error .doctypeWithoutName
      else .ok ([.doctype], after)

/-- Markup after its `<`. -/
def scanMarkup (s : List Char) : MarkupScan :=
  match s with
  | '!' :: rest => scanBang rest
  | '?' :: rest =>
    match rest with
    | '>' :: _ => .error .openInstruction
    | _ =>
      match splitAt? ['?', '>'] rest with
      | some (_, after) => .ok ([], after)
      | none => .error .openInstruction
  | '/' :: rest =>
    match splitTag none rest with
    | some (body, after) => .ok ([.closing (closingName body)], after)
    | none => .error .openTag
  | _ =>
    match splitTag none s with
    | some (body, after) => .ok (openingEvents body, after)
    | none => .error .openTag

theorem length_scanDoctype {s after : List Char} {events : List Event}
    (h : scanBang.scanDoctype s = .ok (events, after)) : after.length ≤ s.length := by
  unfold scanBang.scanDoctype at h
  split at h
  · cases h
  · next hs =>
    split at h
    · cases h
    · split at h
      · cases h
      · cases h
        exact Nat.le_of_lt (length_splitBalanced hs)

theorem length_scanBang {s after : List Char} {events : List Event}
    (h : scanBang s = .ok (events, after)) : after.length ≤ s.length := by
  unfold scanBang at h
  split at h
  · split at h
    · split at h
      · next hs =>
        cases h
        have := length_splitAt? hs
        simp only [List.length_cons]
        omega
      · cases h
    · cases h
  · dsimp only at h
    split at h
    · split at h
      · next hs =>
        cases h
        have := length_splitAt? hs
        simp only [List.length_drop] at this
        omega
      · cases h
    · cases h
  · exact length_scanDoctype h
  · exact length_scanDoctype h
  · cases h

theorem length_scanMarkup {s after : List Char} {events : List Event}
    (h : scanMarkup s = .ok (events, after)) : after.length ≤ s.length := by
  unfold scanMarkup at h
  split at h
  · exact Nat.le_succ_of_le (length_scanBang h)
  · split at h
    · cases h
    · split at h
      · next hs =>
        cases h
        exact Nat.le_succ_of_le (length_splitAt? hs)
      · cases h
  · split at h
    · next hs =>
      cases h
      exact Nat.le_succ_of_le (Nat.le_of_lt (length_splitTag hs))
    · cases h
  · split at h
    · next hs =>
      cases h
      exact Nat.le_of_lt (length_splitTag hs)
    · cases h

/-! ## All events -/

/-- Whether a text right after these events loses the blanks at its front: it keeps them only after
another piece of text. Without events, nothing changes. -/
def trimsAfter (trims : Bool) (events : List Event) : Bool :=
  match events.getLast? with
  | none => trims
  | some e => !e.isText

/-- The text before the next markup, with the blanks at its front left out if `trims`. -/
def textEvents (trims : Bool) (raw : List Char) : List Event :=
  let raw := if trims then raw.dropWhile isGap else raw
  if raw.isEmpty then [] else [.text raw]

/-- The events of a text; `trims` says whether a piece of text at its front is trimmed there. -/
def eventsFrom (trims : Bool) (s : List Char) : List Event :=
  match _found : s.dropWhile (· != '<') with
  | [] => textEvents trims s
  | _ :: markup =>
    let before := textEvents trims (s.takeWhile (· != '<'))
    before ++
      match _scan : scanMarkup markup with
      | .error f => [.broken f]
      | .ok (events, after) => events ++ eventsFrom (trimsAfter trims (before ++ events)) after
termination_by s.length
decreasing_by
  have h1 := (List.dropWhile_sublist (· != '<') (l := s)).length_le
  rw [_found] at h1
  have h2 := length_scanMarkup _scan
  simp only [List.length_cons] at h1
  omega

/-- The events of a document; the mark of its encoding at the front is left out. -/
def events (text : List Char) : List Event :=
  eventsFrom true (match text with | '\uFEFF' :: rest => rest | _ => text)

end FeedSearch.Xml
