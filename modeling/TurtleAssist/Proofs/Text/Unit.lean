import Mathlib.Data.List.Basic
import TurtleAssist.Proofs.Json.Characters
import TurtleAssist.Proofs.Pattern.Stretch

/-!
# Places of a line in bytes and in UTF-16 code units

A span counts characters, a byte offset counts the bytes of the UTF-8 encoding and a column the
code units of the UTF-16 encoding. The two encodings are put together character by character, so a
number of characters from the beginning of a line is always a place between two characters in
either of them. For the bytes this is what makes slicing at the offset possible
(`isSliceEnd_append`). For the code units it means that a column does not fall between the halves
of a pair, since no encoded text ends with a first half (`not_splitsPair_append`).

So a text that stands in a line is in the encoded line what its columns say
(`StandsAt.isUnitRange`).
-/

namespace TurtleAssist.Text

open Json (isHighHalf isLowHalf joinHalves)

variable {line text s t : List Char} {span : Span}

/-! ## The UTF-16 encoding -/

/-- **The UTF-16 encoding of a character**: its number, or beyond the first plane the two halves
that stand for it. -/
def encode16 (c : Char) : List UInt16 :=
  if c.toNat < 0x10000 then [.ofNat c.toNat]
  else [.ofNat (0xD800 + (c.toNat - 0x10000) / 0x400),
    .ofNat (0xDC00 + (c.toNat - 0x10000) % 0x400)]

/-- The UTF-16 encoding of a text. -/
def utf16 (text : List Char) : List UInt16 :=
  text.flatMap encode16

example : utf16 ['a', '🐢'] = [0x61, 0xD83D, 0xDC22] := by decide

/-- **A character is encoded by one unit, which is no half, or by two halves** that stand for
it. -/
theorem encode16_cases (c : Char) :
    (∃ unit, encode16 c = [unit] ∧ unit.toNat = c.toNat ∧ isHighHalf unit.toNat = false)
      ∨ ∃ high low, encode16 c = [high, low] ∧ isHighHalf high.toNat = true
          ∧ isLowHalf low.toNat = true ∧ joinHalves high.toNat low.toNat = c := by
  have hvalid : c.toNat < 0xD800 ∨ 0xDFFF < c.toNat ∧ c.toNat < 0x110000 := c.valid
  unfold encode16
  by_cases hplane : c.toNat < 0x10000
  · rw [if_pos hplane]
    have hunit : (UInt16.ofNat c.toNat).toNat = c.toNat := by
      rw [UInt16.toNat_ofNat', Nat.mod_eq_of_lt hplane]
    exact Or.inl ⟨_, rfl, hunit, by rw [hunit]; exact (Json.not_half c).2⟩
  · rw [if_neg hplane]
    have hhigh : (UInt16.ofNat (0xD800 + (c.toNat - 0x10000) / 0x400)).toNat
        = 0xD800 + (c.toNat - 0x10000) / 0x400 := by
      rw [UInt16.toNat_ofNat', Nat.mod_eq_of_lt (by omega)]
    have hlow : (UInt16.ofNat (0xDC00 + (c.toNat - 0x10000) % 0x400)).toNat
        = 0xDC00 + (c.toNat - 0x10000) % 0x400 := by
      rw [UInt16.toNat_ofNat', Nat.mod_eq_of_lt (by omega)]
    refine Or.inr ⟨_, _, rfl, ?_, ?_, ?_⟩
    · simp only [hhigh, isHighHalf, Bool.and_eq_true, decide_eq_true_eq]
      omega
    · simp only [hlow, isLowHalf, Bool.and_eq_true, decide_eq_true_eq]
      omega
    · have hnumber : (0xD800 + (c.toNat - 0x10000) / 0x400 - 0xD800) * 0x400
          + (0xDC00 + (c.toNat - 0x10000) % 0x400 - 0xDC00) + 0x10000 = c.toNat := by
        omega
      rw [hhigh, hlow, joinHalves, hnumber, Char.ofNat_toNat]

theorem utf16_append (s t : List Char) : utf16 (s ++ t) = utf16 s ++ utf16 t :=
  List.flatMap_append

/-- **The units of a text are the length of its encoding.** -/
theorem length_utf16 (text : List Char) : (utf16 text).length = units text := by
  have hchar : ∀ c, (encode16 c).length = units16 c := by
    intro c
    unfold encode16 units16
    by_cases hplane : c.toNat < 0x10000
    · rw [if_pos hplane, if_pos hplane]
      rfl
    · rw [if_neg hplane, if_neg hplane]
      rfl
  induction text with
  | nil => rfl
  | cons c text ih =>
    show (encode16 c ++ utf16 text).length = units16 c + units text
    rw [List.length_append, hchar, ih]

/-- An encoded text does not end with the first half of a pair. -/
theorem isHighHalf_getLast?_utf16 (text : List Char) :
    ∀ unit ∈ (utf16 text).getLast?, isHighHalf unit.toNat = false := by
  intro unit hunit
  rcases List.eq_nil_or_concat' text with rfl | ⟨others, c, rfl⟩
  · cases hunit
  · have hlast : utf16 (others ++ [c]) = utf16 others ++ encode16 c := by
      rw [utf16_append, utf16, utf16, List.flatMap_singleton]
    rw [hlast] at hunit
    rcases encode16_cases c with ⟨only, hcode, -, hhalf⟩ | ⟨high, low, hcode, -, hhalf, -⟩
    · rw [hcode, List.getLast?_concat] at hunit
      obtain rfl := Option.some.inj hunit
      exact hhalf
    · have hpair : utf16 others ++ [high, low] = (utf16 others ++ [high]) ++ [low] := by simp
      rw [hcode, hpair, List.getLast?_concat] at hunit
      obtain rfl := Option.some.inj hunit
      -- a second half is no first half
      simp only [isLowHalf, Bool.and_eq_true, decide_eq_true_eq] at hhalf
      simp only [isHighHalf, Bool.and_eq_false_iff, decide_eq_false_iff_not]
      omega

/-- **A column between the halves of a pair.** -/
def SplitsPair (units : List UInt16) (column : Nat) : Prop :=
  ∃ before high low after, units = before ++ high :: low :: after ∧ column = before.length + 1
    ∧ isHighHalf high.toNat = true ∧ isLowHalf low.toNat = true

/-- **The units of the beginning of a text** are a column that splits no pair. -/
theorem not_splitsPair_append (s t : List Char) : ¬ SplitsPair (utf16 (s ++ t)) (units s) := by
  rintro ⟨before, high, low, after, heq, hcolumn, hhigh, -⟩
  have hsplit : utf16 s ++ utf16 t = (before ++ [high]) ++ low :: after := by
    rw [← utf16_append, heq, List.append_assoc, List.singleton_append]
  have hlength : (utf16 s).length = (before ++ [high]).length := by
    rw [length_utf16, hcolumn, List.length_append, List.length_singleton]
  have hlast : (utf16 s).getLast? = some high := by
    rw [(List.append_inj hsplit hlength).1, List.getLast?_concat]
  rw [isHighHalf_getLast?_utf16 s high hlast] at hhigh
  cases hhigh

/-! ## Stretches in columns -/

/-- **A text takes up the columns of a line**: there is something between them, they lie in the
encoded line and split no pair in it, and the units from the one to the other encode the text. -/
structure IsUnitRange (line : List Char) (start stop : Nat) (text : List Char) : Prop where
  start_lt_stop : start < stop
  stop_le_length : stop ≤ (utf16 line).length
  units_eq : ((utf16 line).drop start).take (stop - start) = utf16 text
  start_splits_no_pair : ¬ SplitsPair (utf16 line) start
  stop_splits_no_pair : ¬ SplitsPair (utf16 line) stop

/-- What stands at a span comes after the characters before it and ends where the span stops. -/
theorem StandsAt.take_eq (h : StandsAt line span text) :
    line.take span.stop = line.take span.start ++ text
      ∧ ∃ rest, line = line.take span.start ++ (text ++ rest) := by
  obtain ⟨before, rest, rfl, rfl⟩ := h
  have hstart : (before ++ (text ++ rest)).take before.length = before := List.take_left
  have hstop : (before ++ (text ++ rest)).take (before.length + text.length) = before ++ text := by
    rw [← List.append_assoc, ← List.length_append, List.take_left]
  exact ⟨by rw [hstart, hstop], rest, by rw [hstart]⟩

/-- **What stands in a line takes up the columns of its span.** -/
theorem StandsAt.isUnitRange (h : StandsAt line span text) (hne : text ≠ []) :
    IsUnitRange line (units (line.take span.start)) (units (line.take span.stop)) text := by
  obtain ⟨hstop, rest, hline⟩ := h.take_eq
  have hfront : line = line.take span.stop ++ rest := by
    rw [hstop, List.append_assoc]
    exact hline
  have hcode : utf16 line
      = utf16 (line.take span.start) ++ (utf16 text ++ utf16 rest) := by
    rw [← utf16_append, ← utf16_append, ← hline]
  have hcolumn : units (line.take span.stop)
      = units (line.take span.start) + (utf16 text).length := by
    rw [hstop, ← length_utf16, utf16_append, List.length_append, length_utf16]
  have hpos : 0 < (utf16 text).length := by
    obtain ⟨c, others, rfl⟩ := List.exists_cons_of_ne_nil hne
    show 0 < (encode16 c ++ utf16 others).length
    rcases encode16_cases c with ⟨only, hchar, -⟩ | ⟨high, low, hchar, -⟩ <;> simp [hchar]
  constructor
  · omega
  · rw [hcode, List.length_append, List.length_append, length_utf16 (line.take span.start), hcolumn]
    omega
  · rw [hcolumn, Nat.add_sub_cancel_left, hcode, ← length_utf16, List.drop_left, List.take_left]
  · have hsplit := not_splitsPair_append (line.take span.start) (text ++ rest)
    rwa [← hline] at hsplit
  · have hsplit := not_splitsPair_append (line.take span.stop) rest
    rwa [← hfront] at hsplit

/-! ## Slices in bytes -/

/-- **A byte offset between two characters of a line**, with what the slice of the line up to it
holds. -/
def IsSliceEnd (line : List Char) (offset : Nat) (front : List Char) : Prop :=
  ∃ position : (String.ofList line).Pos, position.offset.byteIdx = offset
    ∧ ((String.ofList line).sliceTo position).copy = String.ofList front

theorem bytes_eq_utf8ByteSize (text : List Char) :
    bytes text = (String.ofList text).utf8ByteSize := by
  induction text with
  | nil => rfl
  | cons c text ih =>
    have hfirst : String.ofList (c :: text) = String.singleton c ++ String.ofList text := by
      rw [String.singleton_eq_ofList, ← String.ofList_append]
      rfl
    show c.utf8Size + bytes text = _
    rw [hfirst, String.utf8ByteSize_append, String.utf8ByteSize_singleton, ih]

/-- **The bytes of the beginning of a text** are an offset at which the text can be sliced. -/
theorem isSliceEnd_append (s t : List Char) : IsSliceEnd (s ++ t) (bytes s) s := by
  have hsplit : String.ofList (s ++ t) = String.ofList s ++ String.ofList t := String.ofList_append
  have hvalid : String.Pos.Raw.IsValid (String.ofList (s ++ t)) (String.ofList s).rawEndPos :=
    String.Pos.Raw.isValid_iff_exists_append.mpr ⟨_, _, hsplit, rfl⟩
  refine ⟨⟨(String.ofList s).rawEndPos, hvalid⟩, ?_, ?_⟩
  · rw [bytes_eq_utf8ByteSize]
    rfl
  · exact String.Pos.Splits.copy_sliceTo_eq ⟨hsplit, rfl⟩

/-- So a number of characters is always such an offset. -/
theorem isSliceEnd_take (line : List Char) (n : Nat) :
    IsSliceEnd line (bytes (line.take n)) (line.take n) := by
  have hslice := isSliceEnd_append (line.take n) (line.drop n)
  rwa [List.take_append_drop] at hslice

end TurtleAssist.Text
