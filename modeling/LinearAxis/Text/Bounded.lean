/-!
# Texts of bounded size

Names and messages are kept in a fixed number of UTF-8 bytes.  A name that does not fit is refused;
a message is cut to the longest run of whole characters that fits.
-/

namespace LinearAxis

/-- A text of at most `limit` UTF-8 bytes. -/
@[ext] structure BoundedText (limit : Nat) where
  text : String
  size_le : text.utf8ByteSize ≤ limit
deriving DecidableEq

namespace BoundedText

variable {limit : Nat}

/-- The empty text. -/
def empty : BoundedText limit := ⟨"", Nat.zero_le _⟩

instance : Inhabited (BoundedText limit) := ⟨empty⟩

/-- A text as it stands, if it fits. -/
def ofString? (text : String) : Option (BoundedText limit) :=
  if fits : text.utf8ByteSize ≤ limit then some ⟨text, fits⟩ else none

/-- A text as it stands, or the empty text in place of one that does not fit. -/
def ofStringOrEmpty (text : String) : BoundedText limit :=
  (ofString? text).getD empty

/-- The characters from the front that fit into a number of bytes, up to the first that does not. -/
def fitting : Nat → List Char → List Char
  | _, [] => []
  | budget, char :: rest =>
    if char.utf8Size ≤ budget then char :: fitting (budget - char.utf8Size) rest else []

theorem size_fitting_le (budget : Nat) (chars : List Char) :
    (String.ofList (fitting budget chars)).utf8ByteSize ≤ budget := by
  induction chars generalizing budget with
  | nil => simp [fitting]
  | cons char rest ih =>
    rw [fitting]
    split
    · next fits =>
      have := ih (budget - char.utf8Size)
      rw [String.ofList_cons, String.utf8ByteSize_append, String.utf8ByteSize_singleton]
      omega
    · simp

/-- The longest run of whole characters from the front that fits. -/
def truncated (text : String) : BoundedText limit :=
  ⟨String.ofList (fitting limit text.toList), size_fitting_le limit text.toList⟩

end BoundedText

end LinearAxis
