-- Documents that are no feeds. A JSON text is taken for a feed only if it is one object
-- or one list, and a list stands for its only entry. An XML text is taken for a feed
-- whatever the name of its root element: the name is told where its end is missing,
-- and asked for nowhere.
import FeedSearch.Feed.Payload
import FeedSearch.Proofs.DecodedForms
import FeedSearch.Proofs.JsonDocuments
import Mathlib.Data.List.TakeWhile

namespace FeedSearch

/-! ## Elements whatever their name -/

namespace Xml

variable {σ : Type} {slots : List (Slot σ)}

theorem checkEnding_toOption (name name' : List Char) (ending : Option Break) :
    (checkEnding name ending).toOption = (checkEnding name' ending).toOption := by
  cases ending <;> rfl

theorem checkEnding_eq_ok {name : List Char} {ending : Option Break} {u : Unit}
    (h : checkEnding name ending = .ok u) : ending = none := by
  cases ending with
  | none => rfl
  | some b => cases h

/-- An element is filled from its children in the same way whatever its name. -/
theorem fillChildren_toOption (name name' : List Char) (ending : Option Break)
    (current : Option (List Char × Slot σ)) (s : σ) (children : List Node) :
    (fillChildren slots name ending current s children).toOption =
      (fillChildren slots name' ending current s children).toOption := by
  induction children generalizing current s with
  | nil =>
    -- only here the name is used, in the message about a missing end
    simp only [fillChildren, toOption_bind]
    rw [checkEnding_toOption name name']
  | cons n rest ih =>
    cases n with
    | text content =>
      simp only [fillChildren, toOption_bind]
      congr 1
      funext t
      cases current with
      | none => exact ih none s
      | some pair => rfl
    | element tag children inner =>
      simp only [fillChildren]
      split
      · simp only [toOption_bind, ih]
      · split
        · simp only [toOption_bind, ih]
        · split
          · rfl
          · simp only [toOption_bind, ih]

/-- An element that is filled from its children has its end. -/
theorem ending_of_fillChildren {name : List Char} {ending : Option Break}
    {current : Option (List Char × Slot σ)} {s s' : σ} {children : List Node}
    (h : fillChildren slots name ending current s children = .ok s') : ending = none := by
  induction children generalizing current s with
  | nil =>
    obtain ⟨u, hending, _⟩ := bind_eq_ok h
    exact checkEnding_eq_ok hending
  | cons n rest ih =>
    cases n with
    | text content =>
      obtain ⟨t, _, h⟩ := bind_eq_ok h
      cases current with
      | none => exact ih h
      | some pair => cases h
    | element tag children inner =>
      simp only [fillChildren] at h
      split at h
      · obtain ⟨s₁, _, h⟩ := bind_eq_ok h
        exact ih h
      · split at h
        · obtain ⟨u, _, h⟩ := bind_eq_ok h
          exact ih h
        · split at h
          · cases h
          · obtain ⟨s₁, _, h⟩ := bind_eq_ok h
            exact ih h

/-- The document starts with an element that has its end and sound attributes; what follows it
does not matter. -/
def Document.HasRoot (document : Document) (name : List Char) (children : List Node) : Prop :=
  ∃ tag rest, document.nodes = .element tag children none :: rest ∧ tag.name = name ∧
    checkAttributes tag = .ok ()

/-- The name of the first element, if nothing but markup stands before it. -/
def Document.rootName? (document : Document) : Option (List Char) :=
  match document.nodes with
  | .element tag _ _ :: _ => some tag.name
  | _ => none

theorem Document.HasRoot.rootName? {document : Document} {name : List Char} {children : List Node}
    (h : document.HasRoot name children) : document.rootName? = some name := by
  obtain ⟨tag, rest, hnodes, rfl, _⟩ := h
  simp [Document.rootName?, hnodes]

/-- A structure is read of a document only if that starts with a whole element. -/
theorem hasRoot_of_readRoot {title : String} {empty s : σ} {document : Document}
    (h : readRoot title (readStruct slots empty) document = .ok s) :
    ∃ name children, document.HasRoot name children := by
  unfold readRoot at h
  split at h
  · rename_i tag children ending rest hnodes
    obtain ⟨_, hattributes, h⟩ := bind_eq_ok h
    obtain rfl := ending_of_fillChildren h
    exact ⟨tag.name, children, tag, rest, hnodes, rfl, hattributes⟩
  · obtain ⟨_, _, h⟩ := bind_eq_ok h
    cases h
  · split at h <;> cases h

theorem readRoot_of_hasRoot {title : String} {empty : σ} {document : Document} {name : List Char}
    {children : List Node} (h : document.HasRoot name children) :
    readRoot title (readStruct slots empty) document =
      fillChildren slots name none none empty children := by
  obtain ⟨tag, rest, hnodes, rfl, hattributes⟩ := h
  simp only [readRoot, hnodes, readStruct, hattributes]
  rfl

/-- Two documents whose roots hold the same are read as the same, whatever their roots' names. -/
theorem readRoot_toOption {title : String} {empty : σ} {document document' : Document}
    {name name' : List Char} {children : List Node} (h : document.HasRoot name children)
    (h' : document'.HasRoot name' children) :
    (readRoot title (readStruct slots empty) document).toOption =
      (readRoot title (readStruct slots empty) document').toOption := by
  rw [readRoot_of_hasRoot h, readRoot_of_hasRoot h']
  exact fillChildren_toOption name name' none none empty children

/-! ## Elements that hold nothing -/

/-- A name of an element: not empty, without blanks and quotes, and not the start of other
markup. -/
def IsElementName (name : List Char) : Prop :=
  (∃ c ∈ name.head?, c ≠ '!' ∧ c ≠ '?' ∧ c ≠ '/') ∧
    ∀ c ∈ name, isGap c = false ∧ c ≠ '>' ∧ c ≠ '"' ∧ c ≠ '\''

theorem splitTag_of_plain {name : List Char} (h : ∀ c ∈ name, c ≠ '>' ∧ c ≠ '"' ∧ c ≠ '\'')
    (rest : List Char) : splitTag none (name ++ '>' :: rest) = some (name, rest) := by
  induction name with
  | nil => simp [splitTag]
  | cons c name ih =>
    obtain ⟨⟨hend, hdouble, hsingle⟩, hname⟩ := List.forall_mem_cons.mp h
    simp [splitTag, hend, hdouble, hsingle, ih hname]

theorem scanMarkup_opening {c : Char} (h : c ≠ '!' ∧ c ≠ '?' ∧ c ≠ '/') {s body after : List Char}
    (hsplit : splitTag none (c :: s) = some (body, after)) :
    scanMarkup (c :: s) = .ok (openingEvents body, after) := by
  unfold scanMarkup
  split
  · rename_i hfront
    exact absurd (List.cons.inj hfront).1 h.1
  · rename_i hfront
    exact absurd (List.cons.inj hfront).1 h.2.1
  · rename_i hfront
    exact absurd (List.cons.inj hfront).1 h.2.2
  · rw [hsplit]

theorem openingEvents_closed {name : List Char} (h : ∀ c ∈ name, isGap c = false) :
    openingEvents (name ++ ['/']) = [.opening ⟨name, name⟩, .closing name] := by
  have hname : name.takeWhile (!isGap ·) = name :=
    List.takeWhile_eq_self_iff.mpr fun c hc => by simp [h c hc]
  simp [openingEvents, hname]

theorem eventsFrom_nil (trims : Bool) : eventsFrom trims [] = [] := by
  rw [eventsFrom]
  cases trims <;> rfl

/-- Markup at the front of a text gives its events first. -/
theorem eventsFrom_markup (trims : Bool) {markup after : List Char} {front : List Event}
    (h : scanMarkup markup = .ok (front, after)) :
    eventsFrom trims ('<' :: markup) = front ++ eventsFrom (trimsAfter trims front) after := by
  have htext : textEvents trims [] = [] := by cases trims <;> rfl
  rw [eventsFrom]
  split
  · rename_i hnone
    cases hnone
  · rename_i hmarkup
    obtain rfl : markup = _ := (List.cons.inj hmarkup).2
    simp only
    split
    · rename_i hscan
      rw [h] at hscan
      cases hscan
    · rename_i hscan
      rw [h] at hscan
      obtain ⟨rfl, rfl⟩ := Prod.mk.inj (Except.ok.inj hscan)
      simp [htext]

theorem events_emptyElement {name : List Char} (h : IsElementName name) :
    events ('<' :: (name ++ ['/', '>'])) = [.opening ⟨name, name⟩, .closing name] := by
  obtain ⟨⟨c, hc, hfront⟩, hplain⟩ := h
  have hsplit : splitTag none ((name ++ ['/']) ++ '>' :: []) = some (name ++ ['/'], []) :=
    splitTag_of_plain (by simpa [or_imp, forall_and] using fun c hc => (hplain c hc).2) []
  obtain ⟨rest, rfl⟩ : ∃ rest, name = c :: rest := by
    cases name with
    | nil => cases hc
    | cons d rest => exact ⟨rest, by rw [Option.some.inj hc]⟩
  have hscan := scanMarkup_opening hfront hsplit
  rw [openingEvents_closed fun c hc => (hplain c hc).1] at hscan
  have hevents := eventsFrom_markup true hscan
  rw [eventsFrom_nil, List.append_nil] at hevents
  rw [show c :: rest ++ ['/', '>'] = c :: (rest.append ['/']).append ['>'] by simp]
  exact hevents

/-- An element of any name that holds nothing is a document with this root. -/
theorem hasRoot_emptyElement {name : List Char} (h : IsElementName name) :
    (Document.ofText ('<' :: (name ++ ['/', '>']))).HasRoot name [] := by
  refine ⟨⟨name, name⟩, [], ?_, rfl, ?_⟩
  · simp [Document.ofText, steps, events_emptyElement h, stepsFrom, closeRun, State.next, State.add,
      State.finish, State.abandon]
  · simp [checkAttributes, attributesFault?, skipGaps]

end Xml

/-! ## Feeds -/

namespace Feed

/-- The body is a JSON object and nothing else. -/
def IsObject (body : String) : Prop :=
  ∃ start members stop, Json.Document.ofText body.toList =
    ⟨.object start members (.closed stop), none⟩

/-- The body is a JSON list of these entries and nothing else. -/
def IsList (body : String) (entries : List Json.Node) : Prop :=
  ∃ start stop, Json.Document.ofText body.toList = ⟨.list start entries (.closed stop), none⟩

/-- The items of a list in place of a feed: none of the empty list, and of a list with one entry
those that the entry lists. Longer lists are refused. -/
def listedItems? (body : String) : List Json.Node → Option (List Item)
  | [] => some []
  | [contents] =>
    (Json.decodeList (Json.decodeStruct itemLayout) ⟨body.toList, Json.maxDepth - 1⟩
      contents).toOption
  | _ => none

/-- Only objects and lists are read as JSON feeds. -/
theorem isObject_or_isList {body : String} {xs : List Item} (h : jsonItems body = .ok xs) :
    IsObject body ∨ ∃ entries, IsList body entries := by
  obtain ⟨root, hrun, hread⟩ := (Json.decode_struct_iff body).mp h
  have hdocument := Json.ofText_of_finished hrun
  cases Json.readAs_of_decodeStruct hread with
  | object => exact Or.inl ⟨_, _, _, hdocument⟩
  | list => exact Or.inr ⟨_, _, _, hdocument⟩

/-- The first entry of a list in place of a feed is its list of items. -/
theorem fillItems_feed (expected : String) (r : Json.Reader) (ending : Json.Ending)
    (contents : Json.Node) (more : List Json.Node) :
    (Json.fillItems expected r ending 0 feedLayout.slots (contents :: more)
        feedLayout.empty).toOption =
      (Json.decodeList (Json.decodeStruct itemLayout) r contents).toOption.map
        fun xs => (more, some xs) := by
  simp only [feedLayout, Json.fillItems, Json.Slot.of]
  cases Json.decodeList (Json.decodeStruct itemLayout) r contents <;> rfl

/-- A list in place of a feed is read by the order of its entries. -/
theorem decodeFeed_list (text : List Char) (start stop : Nat) (contents : Json.Node)
    (more : List Json.Node) :
    (Json.decodeStruct feedLayout ⟨text, Json.maxDepth⟩
        (.list start (contents :: more) (.closed stop))).toOption =
      (Json.decodeList (Json.decodeStruct itemLayout) ⟨text, Json.maxDepth - 1⟩
        contents).toOption.bind fun xs =>
          (Json.endOfItems more (.closed stop)).toOption.map fun _ => xs := by
  have henter : Json.Reader.enter ⟨text, Json.maxDepth⟩ start = .ok ⟨text, Json.maxDepth - 1⟩ := rfl
  rw [Json.decodeStruct_list "", henter]
  refine (Option.bind_some _ _).trans ?_
  rw [fillItems_feed, Option.bind_map]
  congr 1
  funext xs
  exact Option.map_eq_bind.symm

theorem jsonItems_of_isList {body : String} {entries : List Json.Node} (h : IsList body entries) :
    (jsonItems body).toOption = listedItems? body entries := by
  obtain ⟨start, stop, hdocument⟩ := h
  -- the list is whole, so the text has been read to its end
  obtain ⟨root, _, hrun⟩ := (Json.isWhole_iff body.toList).mp (by rw [hdocument]; exact ⟨rfl, rfl⟩)
  obtain rfl : root = .list start entries (.closed stop) := by
    rw [Json.ofText_of_finished hrun] at hdocument
    exact (Json.Document.mk.inj hdocument).1
  refine (Json.decode_toOption hrun).trans ?_
  cases entries with
  | nil => rfl
  | cons contents more =>
    rw [decodeFeed_list]
    cases more with
    | nil => exact Option.bind_fun_some _
    | cons n more =>
      rw [Json.endOfItems_cons]
      exact Option.bind_fun_none _

/-- The name of the root and what the root holds, if the body is read as an XML feed. -/
theorem hasRoot_of_xmlItems {body : String} {xs : List Item} (h : xmlItems body = .ok xs) :
    ∃ name children, (Xml.Document.ofText body.toList).HasRoot name children := by
  obtain ⟨entries, hroot, _⟩ := bind_eq_ok h
  exact Xml.hasRoot_of_readRoot hroot

theorem xmlItems_toOption {body body' : String} {name name' : List Char} {children : List Xml.Node}
    (h : (Xml.Document.ofText body.toList).HasRoot name children)
    (h' : (Xml.Document.ofText body'.toList).HasRoot name' children) :
    (xmlItems body).toOption = (xmlItems body').toOption := by
  unfold xmlItems
  rw [toOption_bind, toOption_bind, Xml.readRoot_toOption h h']

/-- An element that holds nothing is an empty feed, whatever its name. -/
theorem every_empty_element_is_an_empty_feed {name : List Char} (h : Xml.IsElementName name)
    (provider : String) (kind : Option Kind) (fetchedAt : Time.Moment) :
    records .xml provider (String.ofList ('<' :: (name ++ ['/', '>']))) kind fetchedAt =
      .ok [] := by
  have hroot := Xml.hasRoot_emptyElement h
  rw [← String.toList_ofList (l := '<' :: _)] at hroot
  simp only [records, items, xmlItems, Xml.readRoot_of_hasRoot hroot]
  cases kind <;> rfl

/-- What is taken for a feed. Of JSON texts it is objects, and lists that stand for their only
entry. Of XML texts it is any that start with a whole element, and the name of this root makes no
difference to what is read: under any name an element that holds nothing is an empty feed. -/
theorem what_is_taken_for_a_feed (provider body : String) (kind : Option Kind)
    (fetchedAt : Time.Moment) :
    (∀ rs, records .json provider body kind fetchedAt = .ok rs →
      IsObject body ∨ ∃ entries, IsList body entries) ∧
    (∀ entries, IsList body entries →
      (records .json provider body kind fetchedAt).toOption =
        (listedItems? body entries).map (recordsOf provider kind fetchedAt)) ∧
    (∀ rs, records .xml provider body kind fetchedAt = .ok rs →
      ∃ name children, (Xml.Document.ofText body.toList).HasRoot name children) ∧
    (∀ name children, (Xml.Document.ofText body.toList).HasRoot name children →
      ∀ name' body', (Xml.Document.ofText body'.toList).HasRoot name' children →
        (records .xml provider body' kind fetchedAt).toOption =
          (records .xml provider body kind fetchedAt).toOption) ∧
    ∀ name, Xml.IsElementName name →
      records .xml provider (String.ofList ('<' :: (name ++ ['/', '>']))) kind fetchedAt =
        .ok [] := by
  refine ⟨fun rs h => ?_, fun entries h => ?_, fun rs h => ?_,
    fun name children h name' body' h' => ?_,
    fun name h => every_empty_element_is_an_empty_feed h provider kind fetchedAt⟩
  · obtain ⟨xs, hitems, _⟩ := map_eq_ok h
    exact isObject_or_isList (mapError_eq_ok hitems)
  · rw [← jsonItems_of_isList h]
    simp only [records, items, toOption_map, toOption_mapError]
  · obtain ⟨xs, hitems, _⟩ := map_eq_ok h
    exact hasRoot_of_xmlItems (mapError_eq_ok hitems)
  · simp only [records, items, toOption_map, toOption_mapError]
    rw [xmlItems_toOption h' h]

theorem isList_brackets : IsList "[]" [] := by
  have htokens : Json.tokens "[]".toList = [⟨0, 1, .openList⟩, ⟨1, 2, .closeList⟩] := by
    simp [Json.tokens, Json.tokensFrom, Json.isGap, Json.scanToken, Json.Token.isBroken]
  refine ⟨0, 2, ?_⟩
  rw [Json.Document.ofText, htokens]
  rfl

/-- An empty page is taken for the empty feed, and an empty list for a feed. -/
theorem an_empty_page_is_read_as_the_empty_feed :
    IsList "[]" [] ∧
    (records .json "p" "[]" none ⟨0, 0⟩).toOption =
      (listedItems? "[]" []).map (recordsOf "p" none ⟨0, 0⟩) ∧
    (Xml.Document.ofText "<html/>".toList).HasRoot "html".toList [] ∧
    (Xml.Document.ofText "<feed/>".toList).HasRoot "feed".toList [] ∧
    (records .xml "p" "<html/>" none ⟨0, 0⟩).toOption =
      (records .xml "p" "<feed/>" none ⟨0, 0⟩).toOption := by
  have hpage : (Xml.Document.ofText "<html/>".toList).HasRoot "html".toList [] := by
    simpa using @Xml.hasRoot_emptyElement "html".toList (by simp [Xml.IsElementName, Xml.isGap])
  have hfeed : (Xml.Document.ofText "<feed/>".toList).HasRoot "feed".toList [] := by
    simpa using @Xml.hasRoot_emptyElement "feed".toList (by simp [Xml.IsElementName, Xml.isGap])
  exact ⟨isList_brackets, (what_is_taken_for_a_feed "p" "[]" none ⟨0, 0⟩).2.1 [] isList_brackets,
    hpage, hfeed,
    (what_is_taken_for_a_feed "p" "<feed/>" none ⟨0, 0⟩).2.2.2.1 _ _ hfeed _ _ hpage⟩

/-- A page that says what went wrong. -/
def errorPage : String :=
  "<!DOCTYPE html><html><head><title>502</title></head><body><h1>Bad Gateway</h1></body></html>"

/-- An empty list is no object and yet an empty feed, and so is a page about an error, whose root
is no feed. -/
theorem an_error_page_is_an_empty_feed :
    (records .json "p" "[]" none ⟨0, 0⟩ = .ok [] ∧ ¬IsObject "[]") ∧
    records .xml "p" errorPage none ⟨0, 0⟩ = .ok [] ∧
      ¬∃ children, (Xml.Document.ofText errorPage.toList).HasRoot "feed".toList children := by
  refine ⟨⟨by decide +kernel, ?_⟩, by decide +kernel, ?_⟩
  · rintro ⟨start, members, stop, hobject⟩
    obtain ⟨start', stop', hlist⟩ := isList_brackets
    rw [hlist] at hobject
    cases hobject
  · rintro ⟨children, hroot⟩
    exact absurd hroot.rootName? (by decide +kernel)

end Feed

end FeedSearch
