import LinearAxis.Text.Bounded
import Mathlib.Data.List.Infix

/-!
# Messages that are cut

A message that does not fit is cut between two characters.  What is kept is the longest run of whole
characters from the front that fits, so that at most three bytes of the room are left over, and it
depends on no more than the bytes that there is room for
(`LinearAxis.BoundedText.truncated_longest`).
-/

namespace LinearAxis.BoundedText

variable {limit budget : Nat} {chars run : List Char} {text front left right : String}

/-! ## Characters that fit -/

theorem fitting_isPrefix (budget : Nat) (chars : List Char) : fitting budget chars <+: chars := by
  induction chars generalizing budget with
  | nil => exact List.nil_prefix
  | cons char rest ih =>
    rw [fitting]
    split
    · exact (List.prefix_cons_inj char).mpr (ih _)
    · exact List.nil_prefix

/-- Every run from the front that fits is part of what is kept: no character that fits is left out,
and none behind the first that does not is taken up. -/
theorem prefix_fitting (leads : run <+: chars)
    (fits : (String.ofList run).utf8ByteSize ≤ budget) : run <+: fitting budget chars := by
  induction chars generalizing run budget with
  | nil =>
    rw [List.prefix_nil.mp leads]
    exact List.nil_prefix
  | cons char rest ih =>
    cases run with
    | nil => exact List.nil_prefix
    | cons first others =>
      obtain ⟨rfl, behind⟩ := List.cons_prefix_cons.mp leads
      rw [String.ofList_cons, String.utf8ByteSize_append, String.utf8ByteSize_singleton] at fits
      rw [fitting, if_pos (Nat.le_trans (Nat.le_add_right _ _) fits)]
      exact (List.prefix_cons_inj first).mpr (ih behind (Nat.le_sub_of_add_le' fits))

/-! ## Texts that fit -/

theorem toList_truncated :
    (truncated text : BoundedText limit).text.toList = fitting limit text.toList :=
  String.toList_ofList

theorem truncated_isPrefix :
    (truncated text : BoundedText limit).text.toList <+: text.toList := by
  rw [toList_truncated]
  exact fitting_isPrefix limit text.toList

theorem prefix_truncated (leads : front.toList <+: text.toList)
    (fits : front.utf8ByteSize ≤ limit) :
    front.toList <+: (truncated text : BoundedText limit).text.toList := by
  rw [toList_truncated]
  apply prefix_fitting leads
  rwa [String.ofList_toList]

/-- No narrower character is taken up behind one that does not fit. -/
example : (truncated "aé€z" : BoundedText 5).text = "aé" := by decide +kernel

/-- A text that fits is kept as it stands. -/
theorem truncated_of_fits (fits : text.utf8ByteSize ≤ limit) :
    (truncated text : BoundedText limit).text = text := by
  have whole := prefix_truncated List.prefix_rfl fits
  exact String.toList_inj.mp (truncated_isPrefix.eq_of_length_le whole.length_le)

/-- A text that is cut leaves less room than the widest character takes. -/
theorem lt_size_truncated_add (long : limit < text.utf8ByteSize) :
    limit < (truncated text : BoundedText limit).text.utf8ByteSize + 4 := by
  obtain ⟨rest, split⟩ : (truncated text : BoundedText limit).text.toList <+: text.toList :=
    truncated_isPrefix
  cases rest with
  | nil =>
    rw [List.append_nil] at split
    have fits := (truncated text : BoundedText limit).size_le
    rw [String.toList_inj.mp split] at fits
    omega
  | cons next rest =>
    -- One more character would still be a run from the front, so it cannot fit.
    let longer := (truncated text : BoundedText limit).text ++ String.singleton next
    have leads : longer.toList <+: text.toList := by
      rw [String.toList_append, ← split, List.append_cons]
      exact ⟨rest, by rw [String.toList_singleton]⟩
    have size : longer.utf8ByteSize =
        (truncated text : BoundedText limit).text.utf8ByteSize + next.utf8Size := by
      rw [String.utf8ByteSize_append, String.utf8ByteSize_singleton]
    have exceeds : limit < longer.utf8ByteSize := by
      by_contra fits
      have short := (prefix_truncated leads (Nat.le_of_not_lt fits)).length_le
      rw [String.toList_append, List.length_append, String.toList_singleton,
        List.length_singleton] at short
      omega
    have narrow := next.utf8Size_le_four
    omega

/-! ## Bytes -/

/-- Characters are a run from the front of a text exactly if their bytes are. -/
theorem prefix_iff_extract : front.toList <+: text.toList ↔
    text.toByteArray.extract 0 front.utf8ByteSize = front.toByteArray := by
  constructor
  · rintro ⟨rest, split⟩
    have joined : text.toByteArray = front.toByteArray ++ rest.utf8Encode := by
      rw [← String.utf8Encode_toList, ← split, List.utf8Encode_append, String.utf8Encode_toList]
    rw [joined]
    exact ByteArray.extract_append_eq_left String.size_toByteArray.symm
  · intro same
    apply List.isPrefix_of_utf8Encode_append_eq_utf8Encode
      (text.toByteArray.extract front.utf8ByteSize text.toByteArray.size)
    rw [String.utf8Encode_toList, String.utf8Encode_toList, ← same,
      ByteArray.extract_append_extract, Nat.zero_min]
    have size := congrArg ByteArray.size same
    rw [ByteArray.size_extract, String.size_toByteArray, String.size_toByteArray] at size
    rw [Nat.max_eq_right (by rw [String.size_toByteArray]; omega), ByteArray.extract_zero_size]

theorem utf8ByteSize_le_of_isPrefix (leads : front.toList <+: text.toList) :
    front.utf8ByteSize ≤ text.utf8ByteSize := by
  have size := congrArg ByteArray.size (prefix_iff_extract.mp leads)
  rw [ByteArray.size_extract, String.size_toByteArray, String.size_toByteArray] at size
  omega

/-- A run that fits is at the front of every text that starts with the same bytes. -/
theorem prefix_of_extract
    (same : left.toByteArray.extract 0 limit = right.toByteArray.extract 0 limit)
    (leads : front.toList <+: left.toList) (fits : front.utf8ByteSize ≤ limit) :
    front.toList <+: right.toList := by
  have within (text : String) : (text.toByteArray.extract 0 limit).extract 0 front.utf8ByteSize =
      text.toByteArray.extract 0 front.utf8ByteSize := by
    rw [ByteArray.extract_extract, Nat.zero_add, Nat.zero_add, Nat.min_eq_left fits]
  rw [prefix_iff_extract, ← within right, ← same, within left]
  exact prefix_iff_extract.mp leads

theorem truncated_eq_of_extract
    (same : left.toByteArray.extract 0 limit = right.toByteArray.extract 0 limit) :
    (truncated left : BoundedText limit) = truncated right := by
  have onto := prefix_truncated (prefix_of_extract same truncated_isPrefix (truncated left).size_le)
    (truncated left : BoundedText limit).size_le
  have back := prefix_truncated
    (prefix_of_extract same.symm truncated_isPrefix (truncated right).size_le)
    (truncated right : BoundedText limit).size_le
  exact BoundedText.ext (String.toList_inj.mp (onto.eq_of_length_le back.length_le))

/-! ## Messages -/

/-- **Messages are cut as late as possible, and between characters.** What is kept of a message is a
run of whole characters from its front of at most 128 bytes, and every other such run is part of it.
A message that fits is kept as it stands; of one that does not fit, at least 125 bytes are kept.
Cutting twice is cutting once, and messages with the same first 128 bytes are cut alike. -/
theorem truncated_longest (message : String) :
    let kept := (truncated message : BoundedText 128)
    kept.text.toList <+: message.toList ∧
    kept.text.utf8ByteSize ≤ 128 ∧
    (message.utf8ByteSize ≤ 128 → kept.text = message) ∧
    (∀ front : String, front.toList <+: message.toList → front.utf8ByteSize ≤ 128 →
      front.toList <+: kept.text.toList ∧ front.utf8ByteSize ≤ kept.text.utf8ByteSize) ∧
    (128 < message.utf8ByteSize → 125 ≤ kept.text.utf8ByteSize) ∧
    truncated kept.text = kept ∧
    ∀ other : String,
      other.toByteArray.extract 0 128 = message.toByteArray.extract 0 128 →
        truncated other = kept := by
  intro kept
  refine ⟨truncated_isPrefix, kept.size_le, truncated_of_fits, ?_, ?_, ?_, ?_⟩
  · intro front leads fits
    have inside := prefix_truncated leads fits
    exact ⟨inside, utf8ByteSize_le_of_isPrefix inside⟩
  · exact fun long => Nat.le_of_add_le_add_right (b := 4) (lt_size_truncated_add long)
  · exact BoundedText.ext (truncated_of_fits kept.size_le)
  · exact fun other same => truncated_eq_of_extract same

end LinearAxis.BoundedText
