import OutletWiring.Page.Screen
import OutletWiring.Proofs.Page.Outline

/-!
# The list of elements in a page object

A page object lists its elements, one a line, in the member that gives their statuses or waits for
them. The list is found by its member, and each line of it gives the name of an element if nothing
else stands in it than the status (`Listing.names`).
-/

namespace OutletWiring.Page

open Draft (Step row)
open Line (nameOf)
open Naming (IsFragment)
open Outline (ofEntries ofLines)

def selfType : List Text := ["Self"]

def statusesType : List Text := ["[XCUIElement:", "UIStatus]"]

/-- The member lists the elements: it gives their statuses, or checks them. -/
def Member.lists (member : Member) : Bool :=
  member.type == statusesType || member.type == selfType && "check".toList.isPrefixOf member.name

def opensList (line : Text) : Bool :=
  match Entry.read line with
  | .defined member => member.lists
  | _ => false

namespace Listing

def openings : List Text := ["[", Screen.waitOpening]

def statuses : List Text := [": status", "(at: index): status", ": .exist"]

def stops : List Text := [",", "]", Screen.waitClosing]

/-- What can stand after an element of a list. -/
def endings : List Text :=
  statuses.flatMap fun status => stops.map (status ++ ·)

/-- The element at the start of the text, if nothing else stands in it than its status. -/
def element? (text : Text) : Option Text :=
  if endings.contains (text.drop (nameOf text).length) then some (nameOf text) else none

def name? (line : Text) : Option Text :=
  let text := (Line.flat line).dropWhile (· == ' ')
  ([] :: openings).findSome? fun opening => (Text.afterPrefix? opening text).bind element?

def closes (line : Text) : Bool :=
  line == row 1 "\x7d" || line == row 2 "return self"

/-- The elements in the first list of a page object, line by line. -/
def names (page : Lines) : List (Option Text) :=
  (((page.dropWhile (!opensList ·)).drop 1).takeWhile (!closes ·)).map name?

variable {name ending : Text}

theorem endings_spec : ∀ ending ∈ endings,
    Line.flat ending = ending ∧ (ending.head? = some ':' ∨ ending.head? = some '(') := by
  decide

/-- What stands after an element begins with a sign. -/
theorem exists_sign_of_mem_endings (h : ending ∈ endings) : ∃ c rest, ending = c :: rest ∧
    Line.Ends ending ∧ c ≠ ' ' ∧ Line.flat [c] = [c] ∧ c.isLower = false := by
  have hhead := (endings_spec ending h).2
  cases ending with
  | nil => simp at hhead
  | cons c rest =>
    simp only [List.head?_cons, Option.some.injEq] at hhead
    refine ⟨c, rest, rfl, ?_⟩
    rcases hhead with rfl | rfl <;> exact ⟨rfl, by decide, by decide, by decide⟩

theorem element?_append (hn : IsFragment name) (he : ending ∈ endings) :
    element? (name ++ ending) = some name := by
  obtain ⟨-, -, -, hends, -⟩ := exists_sign_of_mem_endings he
  have hname := Line.nameOf_append hn hends
  rw [element?, hname, List.drop_left, if_pos (List.contains_iff_mem.2 he)]

/-- What opens a list is not taken for an element. -/
theorem element?_opening (text : Text) :
    element? ("[" ++ text) = none ∧ element? (Screen.waitOpening ++ text) = none := by
  have hwait : Screen.waitOpening = "waitForPage".toList ++ "(elements: [[".toList := by decide
  have hends : Line.Ends ("(elements: [[".toList ++ text) := rfl
  constructor
  · have hname : nameOf ("[" ++ text) = [] := rfl
    rw [element?, hname, if_neg]
    simp [endings, statuses, stops, Screen.waitClosing]
  · rw [hwait, List.append_assoc, element?, Line.nameOf_append (by decide) hends,
      List.drop_left, if_neg]
    simp [endings, statuses, stops, Screen.waitClosing]

theorem dropWhile_spaces (count : Nat) {text : Text} (h : text.head? ≠ some ' ') :
    (List.replicate count ' ' ++ text).dropWhile (· == ' ') = text := by
  rw [List.dropWhile_append_of_pos]
  · cases text with
    | nil => rfl
    | cons c text => rw [List.dropWhile_cons_of_neg (by simpa using h)]
  · intro c hc
    simp [(List.mem_replicate.1 hc).2]

/-- An element after spaces, or after what opens a list, is found. -/
theorem name?_of_flat {line lead text : Text} (hf : Line.flat line = lead ++ text)
    (ht : text.head? ≠ some ' ') (hn : element? text = some name)
    (hl : lead ∈ openings ∨ ∃ count, lead = List.replicate count ' ') :
    name? line = some name := by
  have hnil : ∀ text : Text, Text.afterPrefix? [] text = some text := Text.afterPrefix?_append []
  rcases hl with hl | ⟨count, rfl⟩
  · rw [openings, List.mem_cons, List.mem_singleton] at hl
    rcases hl with rfl | rfl
    · have hdrop : ("[" ++ text : Text).dropWhile (· == ' ') = "[" ++ text := rfl
      rw [name?, hf, hdrop, openings, List.findSome?_cons, hnil, Option.bind_some,
        (element?_opening text).1, List.findSome?_cons, Text.afterPrefix?_append, Option.bind_some, hn]
    · have hdrop : (Screen.waitOpening ++ text).dropWhile (· == ' ') = Screen.waitOpening ++ text :=
        rfl
      have hbracket : Text.afterPrefix? "[" (Screen.waitOpening ++ text) = none := rfl
      rw [name?, hf, hdrop, openings, List.findSome?_cons, hnil, Option.bind_some,
        (element?_opening text).2, List.findSome?_cons, hbracket, Option.bind_none,
        List.findSome?_cons, Text.afterPrefix?_append, Option.bind_some, hn]
  · rw [name?, hf, dropWhile_spaces count ht, List.findSome?_cons, hnil, Option.bind_some, hn]

/-- A line of a list names its element and declares nothing. -/
theorem name?_row {lead : Text} (hl : lead ∈ openings ∨ ∃ count, lead = List.replicate count ' ')
    (hn : IsFragment name) (he : ending ∈ endings) (level : Nat) :
    name? (row level (lead ++ (name ++ ending))) = some name ∧
      Entry.read (row level (lead ++ (name ++ ending))) =
        .other (row level (lead ++ (name ++ ending))) := by
  have hflat := (endings_spec ending he).1
  obtain ⟨c, rest, rfl, -, hsign⟩ := exists_sign_of_mem_endings he
  have hspace := Line.space_not_mem_of_isFragment hn
  have hhead : (name ++ c :: rest).head? ≠ some ' ' := by
    cases name with
    | nil => simpa using hsign.1
    | cons first name => simpa using fun heq : first = ' ' => hspace (by simp [heq])
  have hlead : Line.flat lead = lead := by
    rcases hl with hl | ⟨count, rfl⟩
    · have hall : ∀ opening ∈ openings, Line.flat opening = opening := by decide
      exact hall lead hl
    · rw [Line.flat, List.filter_replicate_of_pos (by decide)]
  constructor
  · refine name?_of_flat ?_ hhead (element?_append hn he) hl
    rw [Line.flat_row, Line.flat_append, Line.flat_append, hlead, Line.flat_of_isFragment hn, hflat]
  · rcases hl with hl | ⟨count, rfl⟩
    · rw [openings, List.mem_cons, List.mem_singleton] at hl
      rcases hl with rfl | rfl
      · exact @Entry.read_of_sign level [] '[' (by decide) (by decide) 0 _
      · exact @Entry.read_of_sign level "waitForPage" '(' (by decide) (by decide) 0 _
    · exact Entry.read_of_sign hspace hsign count rest

/-- The step lists the elements, one a line. -/
structure Lists (step : Step) (elements : List Text) : Prop where
  mute : Mute step
  names_eq : step.rows.map name? = elements.map some

theorem listed_lists {elements : List Text} {status closing : Text} (hs : status ∈ statuses)
    (hc : closing ∈ stops) (hn : ∀ element ∈ elements, IsFragment element) (level count : Nat)
    {opening : Text} (ho : opening ∈ openings ∨ ∃ count, opening = List.replicate count ' ') :
    let rows := (Draft.listed opening (List.replicate count ' ') closing
      (elements.map (· ++ status))).map (row level)
    (∀ line ∈ rows, Entry.read line = .other line) ∧ rows.map name? = elements.map some := by
  have hrow : ∀ {element lead stop : Text}, IsFragment element →
      (lead ∈ openings ∨ ∃ count, lead = List.replicate count ' ') → stop ∈ stops →
      name? (row level (lead ++ (element ++ status) ++ stop)) = some element ∧
        Entry.read (row level (lead ++ (element ++ status) ++ stop)) =
          .other (row level (lead ++ (element ++ status) ++ stop)) := by
    intro element lead stop helement hlead hstop
    have hending : status ++ stop ∈ endings :=
      List.mem_flatMap.2 ⟨status, hs, List.mem_map.2 ⟨stop, hstop, rfl⟩⟩
    have htext : lead ++ (element ++ status) ++ stop = lead ++ (element ++ (status ++ stop)) := by
      simp
    rw [htext]
    exact name?_row hlead helement hending level
  induction elements generalizing opening with
  | nil => exact ⟨by simp [Draft.listed], rfl⟩
  | cons element elements ih =>
    rw [List.forall_mem_cons] at hn
    cases elements with
    | nil =>
      have hlast := hrow hn.1 ho hc
      exact ⟨List.forall_mem_singleton.2 hlast.2, congrArg (· :: []) hlast.1⟩
    | cons next elements =>
      have hfirst := hrow hn.1 ho (show ",".toList ∈ stops by decide)
      have hrest := ih hn.2 (.inr ⟨count, rfl⟩)
      refine ⟨List.forall_mem_cons.2 ⟨hfirst.2, hrest.1⟩, ?_⟩
      exact congrArg₂ List.cons hfirst.1 hrest.2

theorem lists_step {elements : List Text} {opening status closing : Text} (ho : opening ∈ openings)
    (hs : status ∈ statuses) (hc : closing ∈ stops) (hn : ∀ element ∈ elements, IsFragment element)
    (level count : Nat) :
    Lists (.list level opening (elements.map (· ++ status)) (List.replicate count ' ') closing)
      elements :=
  have hrows := listed_lists hs hc hn level count (.inl ho)
  ⟨⟨rfl, hrows.1⟩, hrows.2⟩

/-- Members that list nothing are passed over on the way to the list. -/
theorem opensList_of_defined {lines : Lines}
    (h : ∀ member ∈ (ofLines lines).defined, member.lists = false) :
    ∀ line ∈ lines, opensList line = false := by
  induction lines with
  | nil => simp
  | cons line lines ih =>
    rw [ofLines, List.map_cons, ofEntries, Outline.append_defined, List.forall_mem_append] at h
    refine List.forall_mem_cons.2 ⟨?_, ih h.2⟩
    unfold opensList
    split
    · next member hmember =>
      rw [hmember] at h
      exact h.1 member (by simp [Entry.outline])
    · rfl

/-- The first list of a page object is that of the first member that lists the elements. -/
theorem names_compose {front back : List Step} {outline : Outline} {opening closing : Text}
    {member : Member} {list : Step} {elements : List Text} {level : Nat}
    (hf : Outlined front outline) (hm : ∀ other ∈ outline.defined, other.lists = false)
    (ho : Entry.read (row 1 opening) = .defined member) (hlists : member.lists = true)
    (hl : Lists list elements) (hc : closes (row level closing) = true)
    (hb : ∀ step ∈ back, step.whole = true) :
    names (Draft.compose (front ++ ([.line 1 opening, list, .line level closing] ++ back))) =
      elements.map some := by
  have hfront : ∀ line ∈ front.flatMap Step.rows, opensList line = false := by
    rw [← Draft.compose_eq_flatMap_rows hf.whole]
    refine opensList_of_defined ?_
    rw [hf.compose]
    exact hm
  have hopens : opensList (row 1 opening) = true := by
    rw [opensList, ho]
    exact hlists
  have hopen : ∀ line ∈ list.rows, closes line = false := by
    intro line hline
    have hname : name? line ∈ elements.map some :=
      hl.names_eq ▸ List.mem_map_of_mem hline
    have hclosing : ∀ line, closes line = true → name? line = none := by
      intro line hcloses
      rw [closes, Bool.or_eq_true, beq_iff_eq, beq_iff_eq] at hcloses
      rcases hcloses with rfl | rfl <;> decide
    rw [← Bool.not_eq_true]
    intro hcloses
    rw [hclosing line hcloses] at hname
    simp at hname
  have hwhole : ∀ step ∈ front ++ ([.line 1 opening, list, .line level closing] ++ back),
      step.whole = true := by
    simp only [List.forall_mem_append, List.forall_mem_cons]
    exact ⟨hf.whole, ⟨rfl, hl.mute.whole, rfl, by simp⟩, hb⟩
  have hrows : Draft.compose (front ++ ([.line 1 opening, list, .line level closing] ++ back)) =
      front.flatMap Step.rows ++ row 1 opening ::
        (list.rows ++ row level closing :: back.flatMap Step.rows) := by
    rw [Draft.compose_eq_flatMap_rows hwhole]
    simp [Step.rows]
  rw [names, hrows, List.dropWhile_append_of_pos (by simpa using hfront),
    List.dropWhile_cons_of_neg (by simp [hopens]), List.drop_succ_cons, List.drop_zero,
    List.takeWhile_append_of_pos (by simpa using hopen), List.takeWhile_cons_of_neg (by simp [hc]),
    List.append_nil, hl.names_eq]

end Listing

end OutletWiring.Page
