/-!
# Text as a list of characters

Source lines, names and everything written are texts. A text is the list of its characters, so
that searching, cutting and joining are recursions on lists; a string literal stands for its
characters. Conversion from and to `String` happens only where text is read or printed.
-/

namespace OutletWiring

abbrev Text := List Char

instance : Coe String Text := ⟨String.toList⟩

namespace Text

/-- A property of all characters of a text is decided along the text, not over the whole alphabet. -/
instance (priority := 1100) decidableForallMem {p : Char → Prop} [DecidablePred p] (text : Text) :
    Decidable (∀ c ∈ text, p c) :=
  List.decidableBAll p text

def occursIn (needle : Text) : Text → Bool
  | [] => needle.isEmpty
  | c :: cs => needle.isPrefixOf (c :: cs) || occursIn needle cs

theorem occursIn_iff {needle text : Text} : occursIn needle text = true ↔ needle <:+: text := by
  induction text with
  | nil => simp [occursIn]
  | cons c cs ih => simp [occursIn, ih, List.infix_cons_iff]

/-- The text without its first `mark`, if it starts with `mark`. -/
def afterPrefix? (mark text : Text) : Option Text :=
  if mark.isPrefixOf text then some (text.drop mark.length) else none

/-- The last `count` characters, or the whole text if it is shorter. -/
def lastChars (count : Nat) (text : Text) : Text :=
  text.drop (text.length - count)

/-- The text without a final `mark`, or the text itself if it does not end in `mark`. -/
def withoutSuffix (mark text : Text) : Text :=
  if mark.isSuffixOf text then text.take (text.length - mark.length) else text

/-- The pieces between the separators; one more than there are separators. -/
def split (separator : Char) : Text → List Text
  | [] => [[]]
  | c :: cs =>
    if c = separator then [] :: split separator cs
    else match split separator cs with
      | [] => [[c]]
      | piece :: pieces => (c :: piece) :: pieces

def byteSize (text : Text) : Nat :=
  text.foldr (fun c size => c.utf8Size + size) 0

/-- The text after its first `count` bytes, unless they end within a character. -/
def dropBytes? : Nat → Text → Option Text
  | 0, text => some text
  | _ + 1, [] => none
  | count + 1, c :: cs =>
    if c.utf8Size ≤ count + 1 then dropBytes? (count + 1 - c.utf8Size) cs else none

def takeBytes? : Nat → Text → Option Text
  | 0, _ => some []
  | _ + 1, [] => none
  | count + 1, c :: cs =>
    if c.utf8Size ≤ count + 1 then (takeBytes? (count + 1 - c.utf8Size) cs).map (c :: ·) else none

def join (separator : Text) : List Text → Text
  | [] => []
  | [piece] => piece
  | piece :: pieces => piece ++ separator ++ join separator pieces

/-- The non-empty pieces between spaces; any other blank belongs to the word it touches. -/
def words (line : Text) : List Text :=
  (split ' ' line).filter (! ·.isEmpty)

/-- The text without any `mark`, found from left to right; what closes up around a gap is not
searched again. `skip` counts what is still to be left out of the current one. -/
def eraseFrom (mark : Text) : Nat → Text → Text
  | _, [] => []
  | skip + 1, _ :: cs => eraseFrom mark skip cs
  | 0, c :: cs =>
    if mark.isPrefixOf (c :: cs) then eraseFrom mark (mark.length - 1) cs
    else c :: eraseFrom mark 0 cs

def erase (mark text : Text) : Text :=
  eraseFrom mark 0 text

/-- What follows the last occurrence of `mark`, or the whole text if there is none. -/
def afterLast (mark : Text) : Text → Text
  | [] => []
  | c :: cs =>
    if occursIn mark cs then afterLast mark cs
    else (afterPrefix? mark (c :: cs)).getD (c :: cs)

/-- The text with the first occurrence of `mark` replaced; an empty `mark` stands at the start. -/
def replaceFirst (mark replacement : Text) : Text → Text
  | [] => if mark.isEmpty then replacement else []
  | c :: cs =>
    if mark.isPrefixOf (c :: cs) then replacement ++ (c :: cs).drop mark.length
    else c :: replaceFirst mark replacement cs

end Text

end OutletWiring
