/-
This file shows that reading glyphs loses no byte, that a text can be cut between any two of its
glyphs and at every newline, and that an encoded string reads back as its characters.
-/

import Mathlib.Data.List.Basic
import Reckon.Text.Glyph

namespace Reckon.Text

namespace Utf8

/-- A glyph starts with the byte that it was read at. -/
theorem glyph_bytes (lead : UInt8) (rest : List UInt8) :
    ∃ count, (glyph lead rest).bytes = lead :: rest.take count ∧ count ≤ rest.length := by
  fun_cases glyph lead rest
  case case2 => exact ⟨1, by simp⟩
  case case5 => exact ⟨2, by simp⟩
  case case8 => exact ⟨3, by simp⟩
  all_goals exact ⟨0, by simp +zetaDelta⟩

/-- The bytes after a glyph have no influence on it. -/
theorem glyph_truncated (lead : UInt8) (first more : List UInt8)
    (complete : (glyph lead (first ++ more)).width ≤ first.length + 1) :
    glyph lead first = glyph lead (first ++ more) := by
  revert complete
  rcases first with _ | ⟨second, _ | ⟨third, _ | ⟨fourth, rest⟩⟩⟩
  · rcases more with _ | ⟨second, _ | ⟨third, _ | ⟨fourth, rest⟩⟩⟩ <;>
      simp only [glyph, List.nil_append] <;> (repeat' split) <;> simp [Glyph.width]
  · rcases more with _ | ⟨third, _ | ⟨fourth, rest⟩⟩ <;>
      simp only [glyph, List.cons_append, List.nil_append] <;> (repeat' split) <;>
      simp [Glyph.width]
  · rcases more with _ | ⟨fourth, rest⟩ <;>
      simp only [glyph, List.cons_append, List.nil_append] <;> (repeat' split) <;>
      simp [Glyph.width]
  · simp [glyph]

/-- These are the glyphs of a list of bytes. -/
def read (bytes : List UInt8) : List Glyph := glyphsAfter [] 0 bytes

/-- The glyphs that were read before come first, and bytes that belong to them are skipped. -/
theorem glyphsAfter_eq (read : List Glyph) (skip : Nat) (bytes : List UInt8) :
    glyphsAfter read skip bytes = read.reverse ++ glyphsAfter [] 0 (bytes.drop skip) := by
  induction bytes generalizing read skip with
  | nil => simp [glyphsAfter]
  | cons lead rest ih =>
      cases skip with
      | succ skip => simpa [glyphsAfter] using ih read skip
      | zero =>
          simp only [glyphsAfter, List.drop_zero]
          rw [ih, ih [_]]
          simp

@[simp] theorem read_nil : read [] = [] := rfl

/-- The first glyph is followed by the glyphs of the bytes after it. -/
theorem read_cons (lead : UInt8) (rest : List UInt8) :
    read (lead :: rest) =
      glyph lead rest :: read ((lead :: rest).drop (glyph lead rest).width) := by
  obtain ⟨count, bytes, _⟩ := glyph_bytes lead rest
  have width : (glyph lead rest).width = (glyph lead rest).width - 1 + 1 := by
    simp [Glyph.width, bytes]
  rw [width, List.drop_succ_cons, read, glyphsAfter, glyphsAfter_eq]
  rfl

/-- No glyph is empty, and the glyph at a byte is the start of what follows. -/
theorem glyph_width (lead : UInt8) (rest : List UInt8) :
    0 < (glyph lead rest).width ∧
      (glyph lead rest).bytes = (lead :: rest).take (glyph lead rest).width := by
  obtain ⟨count, bytes, within⟩ := glyph_bytes lead rest
  have width : (glyph lead rest).width = count + 1 := by
    simp [Glyph.width, bytes, Nat.min_eq_left within]
  rw [width, bytes, List.take_succ_cons]
  exact ⟨Nat.succ_pos count, rfl⟩

/-- A fact about all lists of bytes is shown glyph by glyph. -/
theorem read_induction {motive : List UInt8 → Prop} (nil : motive [])
    (cons : ∀ lead rest, motive ((lead :: rest).drop (glyph lead rest).width) →
      motive (lead :: rest))
    (bytes : List UInt8) : motive bytes := by
  induction size : bytes.length using Nat.strongRecOn generalizing bytes with
  | _ count ih =>
      cases bytes with
      | nil => exact nil
      | cons lead rest =>
          obtain ⟨positive, _⟩ := glyph_width lead rest
          refine cons lead rest (ih _ ?_ _ rfl)
          rw [List.length_drop]
          simp only [List.length_cons] at size ⊢
          omega

/-- Every byte belongs to exactly one glyph. -/
theorem read_bytes (bytes : List UInt8) : (read bytes).flatMap Glyph.bytes = bytes := by
  induction bytes using read_induction with
  | nil => rfl
  | cons lead rest ih =>
      rw [read_cons, List.flatMap_cons, ih, (glyph_width lead rest).2]
      exact List.take_append_drop _ _

/-- No glyph of a text is empty. -/
theorem width_pos_of_mem_read (bytes : List UInt8) (glyph : Glyph) (member : glyph ∈ read bytes) :
    0 < glyph.width := by
  induction bytes using read_induction with
  | nil => simp at member
  | cons lead rest ih =>
      rw [read_cons, List.mem_cons] at member
      rcases member with first | later
      · rw [first]
        exact (glyph_width lead rest).1
      · exact ih later

end Utf8

/-- Glyphs form a text when their bytes read back as them. -/
def IsText (glyphs : List Glyph) : Prop := Utf8.read (glyphs.flatMap Glyph.bytes) = glyphs

namespace IsText

theorem read (bytes : List UInt8) : IsText (Utf8.read bytes) := by
  rw [IsText, Utf8.read_bytes]

/-- The first glyph of a text is the one at its first byte. -/
theorem cons_iff (glyph : Glyph) (glyphs : List Glyph) :
    IsText (glyph :: glyphs) ↔
      (∃ lead rest, glyph.bytes = lead :: rest ∧
        Utf8.glyph lead (rest ++ glyphs.flatMap Glyph.bytes) = glyph) ∧ IsText glyphs := by
  rw [IsText, List.flatMap_cons]
  cases bytes : glyph.bytes with
  | nil =>
      constructor
      · intro text
        have member : glyph ∈ Utf8.read (glyphs.flatMap Glyph.bytes) := by
          rw [List.nil_append] at text
          simp [text]
        have positive := Utf8.width_pos_of_mem_read _ _ member
        simp [Glyph.width, bytes] at positive
      · rintro ⟨⟨lead, rest, impossible, _⟩, _⟩
        cases impossible
  | cons lead rest =>
      rw [List.cons_append, Utf8.read_cons, List.cons.injEq]
      constructor
      · rintro ⟨first, later⟩
        refine ⟨⟨lead, rest, rfl, first⟩, ?_⟩
        rw [first, Glyph.width, bytes, ← List.cons_append, List.drop_left] at later
        exact later
      · rintro ⟨⟨_, _, same, first⟩, later⟩
        cases same
        refine ⟨first, ?_⟩
        rw [first, Glyph.width, bytes, ← List.cons_append, List.drop_left]
        exact later

/-- A text is cut between any two of its glyphs into two texts. -/
theorem of_append (first second : List Glyph) (text : IsText (first ++ second)) :
    IsText first ∧ IsText second := by
  induction first with
  | nil => exact ⟨rfl, text⟩
  | cons glyph glyphs ih =>
      rw [List.cons_append] at text
      obtain ⟨⟨lead, rest, bytes, start⟩, later⟩ := (cons_iff _ _).1 text
      obtain ⟨left, right⟩ := ih later
      refine ⟨(cons_iff _ _).2 ⟨⟨lead, rest, bytes, ?_⟩, left⟩, right⟩
      rw [List.flatMap_append, ← List.append_assoc] at start
      rw [← start]
      apply Utf8.glyph_truncated
      rw [start, Glyph.width, bytes]
      simp

end IsText

/-- A text is the bytes of its glyphs. -/
theorem glyphBytes_glyphs (text : Bytes) : glyphBytes text.glyphs = text := by
  change (List.flatMap Glyph.bytes (Utf8.read text.toList)).toArray = text
  rw [Utf8.read_bytes]

/-- Each part of a text between two glyphs reads by itself as these glyphs. -/
theorem glyphs_glyphBytes (glyphs : List Glyph) (text : IsText glyphs) :
    (glyphBytes glyphs).glyphs = glyphs := text

theorem isText_glyphs (text : Bytes) : IsText text.glyphs := IsText.read text.toList

namespace Utf8

theorem isTail_iff (byte : UInt8) :
    isTail byte = true ↔ 0x80 ≤ byte.toNat ∧ byte.toNat ≤ 0xBF := by
  simp [isTail, UInt8.le_iff_toNat_le]

/-- The second of three bytes excludes long forms and surrogates. -/
theorem isSecondOfThree_iff (lead second : UInt8) :
    isSecondOfThree lead second = true ↔
      0x80 ≤ second.toNat ∧ second.toNat ≤ 0xBF ∧ (lead.toNat = 0xE0 → 0xA0 ≤ second.toNat) ∧
        (lead.toNat = 0xED → second.toNat ≤ 0x9F) := by
  simp only [isSecondOfThree, beq_iff_eq, ← UInt8.toNat_inj]
  change (if lead.toNat = 0xE0 then _ else if lead.toNat = 0xED then _ else _) = true ↔ _
  split_ifs <;> simp [isTail, UInt8.le_iff_toNat_le] <;> omega

/-- The second of four bytes excludes long forms and what is beyond the last character. -/
theorem isSecondOfFour_iff (lead second : UInt8) :
    isSecondOfFour lead second = true ↔
      0x80 ≤ second.toNat ∧ second.toNat ≤ 0xBF ∧ (lead.toNat = 0xF0 → 0x90 ≤ second.toNat) ∧
        (lead.toNat = 0xF4 → second.toNat ≤ 0x8F) := by
  simp only [isSecondOfFour, beq_iff_eq, ← UInt8.toNat_inj]
  change (if lead.toNat = 0xF0 then _ else if lead.toNat = 0xF4 then _ else _) = true ↔ _
  split_ifs <;> simp [isTail, UInt8.le_iff_toNat_le] <;> omega

/-- A byte below 0x80 is a character of its own. -/
theorem glyph_one (lead : UInt8) (rest : List UInt8) (ascii : lead.toNat < 0x80) :
    glyph lead rest = ⟨Char.ofNat lead.toNat, [lead]⟩ := by
  have small : lead < 0x80 := UInt8.lt_iff_toNat_lt.2 ascii
  simp [glyph, small]

/-- A lead of two bytes and a tail byte are one character. -/
theorem glyph_two (lead second : UInt8) (rest : List UInt8)
    (leads : 0xC2 ≤ lead.toNat ∧ lead.toNat ≤ 0xDF) (tail : isTail second = true) :
    glyph lead (second :: rest) =
      ⟨Char.ofNat (lead.toNat % 0x20 * 0x40 + payload second), [lead, second]⟩ := by
  have large : ¬lead < 0x80 := by
    rw [UInt8.lt_iff_toNat_lt]
    change ¬lead.toNat < 0x80
    omega
  have two : 0xC2 ≤ lead ∧ lead ≤ 0xDF := by
    rw [UInt8.le_iff_toNat_le, UInt8.le_iff_toNat_le]
    exact leads
  simp [glyph, large, two, tail]

/-- A lead of three bytes and two tail bytes are one character. -/
theorem glyph_three (lead second third : UInt8) (rest : List UInt8)
    (leads : 0xE0 ≤ lead.toNat ∧ lead.toNat ≤ 0xEF) (next : isSecondOfThree lead second = true)
    (tail : isTail third = true) :
    glyph lead (second :: third :: rest) =
      ⟨Char.ofNat (lead.toNat % 0x10 * 0x1000 + payload second * 0x40 + payload third),
        [lead, second, third]⟩ := by
  have two : ¬lead ≤ 0xDF := by
    rw [UInt8.le_iff_toNat_le]
    change ¬lead.toNat ≤ 0xDF
    omega
  have large : ¬lead < 0x80 := fun small => two (UInt8.le_trans (UInt8.le_of_lt small) (by decide))
  have three : 0xE0 ≤ lead ∧ lead ≤ 0xEF := by
    rw [UInt8.le_iff_toNat_le, UInt8.le_iff_toNat_le]
    exact leads
  simp [glyph, large, two, three, next, tail]

/-- A lead of four bytes and three tail bytes are one character. -/
theorem glyph_four (lead second third fourth : UInt8) (rest : List UInt8)
    (leads : 0xF0 ≤ lead.toNat ∧ lead.toNat ≤ 0xF4) (next : isSecondOfFour lead second = true)
    (tails : isTail third = true ∧ isTail fourth = true) :
    glyph lead (second :: third :: fourth :: rest) =
      ⟨Char.ofNat (lead.toNat % 0x08 * 0x40000 + payload second * 0x1000 + payload third * 0x40 +
          payload fourth), [lead, second, third, fourth]⟩ := by
  have three : ¬lead ≤ 0xEF := by
    rw [UInt8.le_iff_toNat_le]
    change ¬lead.toNat ≤ 0xEF
    omega
  have two : ¬lead ≤ 0xDF := fun small => three (UInt8.le_trans small (by decide))
  have large : ¬lead < 0x80 := fun small => two (UInt8.le_trans (UInt8.le_of_lt small) (by decide))
  have four : 0xF0 ≤ lead ∧ lead ≤ 0xF4 := by
    rw [UInt8.le_iff_toNat_le, UInt8.le_iff_toNat_le]
    exact leads
  simp [glyph, large, two, three, four, next, tails]

/-- An encoded character reads as a glyph that shows it, whatever follows. -/
theorem glyph_utf8EncodeChar (character : Char) (more : List UInt8) :
    ∃ lead rest, String.utf8EncodeChar character = lead :: rest ∧
      glyph lead (rest ++ more) = ⟨character, String.utf8EncodeChar character⟩ := by
  have same : Char.ofNat character.val.toNat = character := Char.ofNat_toNat character
  have valid : character.val.toNat < 0xD800 ∨
      0xDFFF < character.val.toNat ∧ character.val.toNat < 0x110000 := character.valid
  have byte (value : Nat) (small : value < 256) : (UInt8.ofNat value).toNat = value :=
    UInt8.toNat_ofNat_of_lt' small
  fun_cases String.utf8EncodeChar character with
  | case1 code ascii =>
      refine ⟨_, _, rfl, ?_⟩
      have lead := byte code (by omega)
      rw [List.nil_append, glyph_one _ _ (by omega), lead, same]
  | case2 code _ _ =>
      refine ⟨_, _, rfl, ?_⟩
      have lead := byte (code / 64 % 32 + 192) (by omega)
      have second := byte (code % 64 + 128) (by omega)
      have value : (code / 64 % 32 + 192) % 32 * 64 + (code % 64 + 128) % 64 = code := by omega
      rw [List.cons_append, List.nil_append, glyph_two _ _ _ (by omega) ((isTail_iff _).2 (by omega)),
        payload, lead, second, value, same]
  | case3 code _ _ _ =>
      refine ⟨_, _, rfl, ?_⟩
      have lead := byte (code / 4096 % 16 + 224) (by omega)
      have second := byte (code / 64 % 64 + 128) (by omega)
      have third := byte (code % 64 + 128) (by omega)
      have value : (code / 4096 % 16 + 224) % 16 * 4096 + (code / 64 % 64 + 128) % 64 * 64 +
          (code % 64 + 128) % 64 = code := by omega
      rw [List.cons_append, List.cons_append, List.nil_append,
        glyph_three _ _ _ _ (by omega) ((isSecondOfThree_iff _ _).2 (by omega))
          ((isTail_iff _).2 (by omega)),
        payload, payload, lead, second, third, value, same]
  | case4 code _ _ _ =>
      refine ⟨_, _, rfl, ?_⟩
      have lead := byte (code / 262144 % 8 + 240) (by omega)
      have second := byte (code / 4096 % 64 + 128) (by omega)
      have third := byte (code / 64 % 64 + 128) (by omega)
      have fourth := byte (code % 64 + 128) (by omega)
      have value : (code / 262144 % 8 + 240) % 8 * 262144 + (code / 4096 % 64 + 128) % 64 * 4096 +
          (code / 64 % 64 + 128) % 64 * 64 + (code % 64 + 128) % 64 = code := by omega
      rw [List.cons_append, List.cons_append, List.cons_append, List.nil_append,
        glyph_four _ _ _ _ _ (by omega) ((isSecondOfFour_iff _ _).2 (by omega))
          ⟨(isTail_iff _).2 (by omega), (isTail_iff _).2 (by omega)⟩,
        payload, payload, payload, lead, second, third, fourth, value, same]

end Utf8

/-- This is the glyph of a character in an encoded string. -/
def glyphOf (character : Char) : Glyph := ⟨character, String.utf8EncodeChar character⟩

@[simp] theorem glyphOf_character (character : Char) : (glyphOf character).character = character :=
  rfl

namespace Utf8

/-- An ASCII byte is part of no longer glyph, so nothing after it has an influence on one before it. -/
theorem glyph_ascii {byte : UInt8} (ascii : byte.toNat < 0x80) (lead : UInt8) (first more : List UInt8) :
    glyph lead (first ++ byte :: more) = glyph lead first := by
  have second (lead : UInt8) : isSecondOfThree lead byte = false ∧ isSecondOfFour lead byte = false := by
    rw [← Bool.not_eq_true, isSecondOfThree_iff, ← Bool.not_eq_true, isSecondOfFour_iff]
    omega
  have tail : isTail byte = false := by
    rw [← Bool.not_eq_true, isTail_iff]
    omega
  rcases first with _ | ⟨_, _ | ⟨_, _ | ⟨_, rest⟩⟩⟩
  · rcases more with _ | ⟨_, _ | ⟨_, rest⟩⟩ <;> simp [glyph, second, tail]
  · rcases more with _ | ⟨_, rest⟩ <;> simp [glyph, tail]
  · simp [glyph, tail]
  · simp [glyph]

/-- An ASCII byte is a glyph of its own, and cuts a text into two. -/
theorem read_ascii {byte : UInt8} (ascii : byte.toNat < 0x80) (first second : List UInt8) :
    read (first ++ byte :: second) = read first ++ ⟨Char.ofNat byte.toNat, [byte]⟩ :: read second := by
  induction first using read_induction with
  | nil =>
      rw [List.nil_append, read_cons, glyph_one byte second ascii]
      rfl
  | cons lead rest ih =>
      obtain ⟨count, bytes, within⟩ := glyph_bytes lead rest
      have width : (glyph lead rest).width ≤ (lead :: rest).length := by
        simp only [Glyph.width, bytes, List.length_cons, List.length_take]
        omega
      rw [List.cons_append, read_cons, read_cons lead rest, glyph_ascii ascii, ← List.cons_append,
        List.drop_append_of_le_length width, ih]
      rfl

theorem read_newline (first second : List UInt8) :
    read (first ++ 0x0A :: second) = read first ++ glyphOf '\n' :: read second :=
  read_ascii (by decide) first second

theorem read_return (first : List UInt8) : read (first ++ [0x0D]) = read first ++ [glyphOf '\r'] :=
  read_ascii (by decide) first []

theorem toNat_ofNat {code : Nat} (valid : code.isValidChar) : (Char.ofNat code).toNat = code := by
  rw [Char.ofNat, dif_pos valid]
  rfl

/-- A glyph with a lead byte beyond ASCII shows a character beyond ASCII. -/
theorem character_beyond (lead : UInt8) (rest : List UInt8) (beyond : 0x80 ≤ lead.toNat) :
    0x80 ≤ (glyph lead rest).character.toNat := by
  have stray : 0x80 ≤ replacement.toNat := by decide
  fun_cases glyph lead rest
  case case1 ascii => exact absurd (UInt8.lt_iff_toNat_lt.1 ascii) (Nat.not_lt.2 beyond)
  case case2 leads second more tail =>
    simp only [Bool.and_eq_true, decide_eq_true_eq, UInt8.le_iff_toNat_le] at leads
    have low : 0xC2 ≤ lead.toNat := leads.1
    have high : lead.toNat ≤ 0xDF := leads.2
    have bounds := (isTail_iff second).1 tail
    unfold payload
    rw [toNat_ofNat (.inl (by omega))]
    omega
  case case5 leads second third more tails =>
    simp only [Bool.and_eq_true, decide_eq_true_eq, UInt8.le_iff_toNat_le] at leads tails
    have low : 0xE0 ≤ lead.toNat := leads.1
    have high : lead.toNat ≤ 0xEF := leads.2
    have bounds := (isSecondOfThree_iff lead second).1 tails.1
    have bounds' := (isTail_iff third).1 tails.2
    unfold payload
    rw [toNat_ofNat (by unfold Nat.isValidChar; omega)]
    omega
  case case8 leads second third fourth more tails =>
    simp only [Bool.and_eq_true, decide_eq_true_eq, UInt8.le_iff_toNat_le] at leads tails
    have low : 0xF0 ≤ lead.toNat := leads.1
    have high : lead.toNat ≤ 0xF4 := leads.2
    have bounds := (isSecondOfFour_iff lead second).1 tails.1.1
    have bounds' := (isTail_iff third).1 tails.1.2
    have bounds'' := (isTail_iff fourth).1 tails.2
    unfold payload
    rw [toNat_ofNat (by unfold Nat.isValidChar; omega)]
    omega
  all_goals exact stray

/-- Only the code ten is that of a newline. -/
theorem ofNat_newline {code : Nat} (same : Char.ofNat code = '\n') : code = 10 := by
  by_cases valid : code.isValidChar
  · rw [← toNat_ofNat valid, same]
    rfl
  · rw [Char.ofNat, dif_neg valid] at same
    exact absurd same (by decide)

/-- A glyph with a lead byte beyond ASCII is no newline, and has none among its bytes. -/
theorem glyph_beyond (lead : UInt8) (rest : List UInt8) (beyond : 0x80 ≤ lead.toNat) :
    (glyph lead rest).character ≠ '\n' ∧ 0x0A ∉ (glyph lead rest).bytes := by
  have wide {byte : UInt8} (large : 0x80 ≤ byte.toNat) : (0x0A : UInt8) ≠ byte := by
    rintro rfl
    exact absurd large (by decide)
  have stray : (0x0A : UInt8) ∉ [lead] := by simpa using wide beyond
  constructor
  · intro same
    have above := character_beyond lead rest beyond
    rw [same] at above
    exact absurd above (by decide)
  · fun_cases glyph lead rest
    case case1 ascii => exact absurd (UInt8.lt_iff_toNat_lt.1 ascii) (Nat.not_lt.2 beyond)
    case case2 leads second more tail =>
      have bounds := (isTail_iff second).1 tail
      simp [wide beyond, wide bounds.1]
    case case5 leads second third more tails =>
      simp only [Bool.and_eq_true] at tails
      have bounds := (isSecondOfThree_iff lead second).1 tails.1
      have bounds' := (isTail_iff third).1 tails.2
      simp [wide beyond, wide bounds.1, wide bounds'.1]
    case case8 leads second third fourth more tails =>
      simp only [Bool.and_eq_true] at tails
      have bounds := (isSecondOfFour_iff lead second).1 tails.1.1
      have bounds' := (isTail_iff third).1 tails.1.2
      have bounds'' := (isTail_iff fourth).1 tails.2
      simp [wide beyond, wide bounds.1, wide bounds'.1, wide bounds''.1]
    all_goals exact stray

/-- The newlines of a text are the bytes of a newline. -/
theorem glyph_count_newline (lead : UInt8) (rest : List UInt8) :
    (glyph lead rest).bytes.count 0x0A = if (glyph lead rest).is '\n' then 1 else 0 := by
  by_cases ascii : lead.toNat < 0x80
  · rw [glyph_one lead rest ascii, List.count_singleton, Glyph.is]
    by_cases newline : lead = 0x0A
    · rw [newline]
      rfl
    · have other : Char.ofNat lead.toNat ≠ '\n' := fun same =>
        newline (UInt8.toNat_inj.1 (ofNat_newline same))
      simp [newline, other]
  · obtain ⟨other, none⟩ := glyph_beyond lead rest (Nat.le_of_not_lt ascii)
    rw [List.count_eq_zero.2 none, Glyph.is, beq_eq_false_iff_ne.2 other]
    rfl

/-- A character of ASCII is read from its only byte. -/
theorem mem_read_ascii {bytes : List UInt8} {glyph : Glyph} (member : glyph ∈ read bytes)
    (ascii : glyph.character.toNat < 0x80) : glyph = glyphOf glyph.character := by
  induction bytes using read_induction with
  | nil => cases member
  | cons lead rest ih =>
      rw [read_cons] at member
      rcases List.mem_cons.1 member with rfl | later
      · by_cases small : lead.toNat < 0x80
        · have code : (Char.ofNat lead.toNat).val.toNat = lead.toNat := toNat_ofNat (.inl (by omega))
          have encoded : String.utf8EncodeChar (Char.ofNat lead.toNat) = [lead] := by
            rw [String.utf8EncodeChar, code, if_pos (Nat.le_of_lt_succ small), UInt8.ofNat_toNat]
          rw [glyph_one lead rest small, glyphOf, encoded]
        · exact absurd (character_beyond lead rest (Nat.le_of_not_lt small)) (Nat.not_le.2 ascii)
      · exact ih later

/-- There are as many newlines among the glyphs as among the bytes. -/
theorem count_newline (bytes : List UInt8) :
    ((read bytes).countP fun glyph => glyph.is '\n') = bytes.count 0x0A := by
  induction bytes using read_induction with
  | nil => rfl
  | cons lead rest ih =>
      rw [read_cons, List.countP_cons, ih, ← glyph_count_newline, Nat.add_comm,
        (glyph_width lead rest).2, ← List.count_append, List.take_append_drop]

end Utf8

/-- A newline between two texts cuts them apart. -/
theorem glyphs_newline (first second : Bytes) :
    (first ++ #[0x0A] ++ second).glyphs = first.glyphs ++ glyphOf '\n' :: second.glyphs := by
  have bytes : (first ++ #[0x0A] ++ second).toList = first.toList ++ 0x0A :: second.toList := by simp
  exact (congrArg Utf8.read bytes).trans (Utf8.read_newline _ _)

/-- An encoded string reads back as its characters. -/
theorem glyphs_encode (text : String) : (encode text).glyphs = text.toList.map glyphOf := by
  have bytes : (encode text).toList = (text.toList.map glyphOf).flatMap Glyph.bytes := by
    rw [encode, String.toUTF8_eq_toByteArray, ← String.utf8Encode_toList, List.utf8Encode,
      List.flatMap_map]
    simp [glyphOf]
  have isText (characters : List Char) : IsText (characters.map glyphOf) := by
    induction characters with
    | nil => rfl
    | cons character characters ih =>
        obtain ⟨lead, rest, encoded, start⟩ := Utf8.glyph_utf8EncodeChar character
          ((characters.map glyphOf).flatMap Glyph.bytes)
        exact (IsText.cons_iff _ _).2 ⟨⟨lead, rest, encoded, start⟩, ih⟩
  change Utf8.read (encode text).toList = _
  rw [bytes]
  exact isText text.toList

/-- A text that was encoded is decoded again. -/
theorem decode_encode (text : String) : (encode text).decode = text := by
  rw [Bytes.decode, glyphs_encode, List.map_map]
  change String.ofList (text.toList.map id) = text
  rw [List.map_id, String.ofList_toList]

/-- A text of ASCII characters is read back from its characters. -/
theorem encode_decode {text : Bytes}
    (ascii : ∀ character ∈ text.decode.toList, character.toNat < 0x80) : encode text.decode = text := by
  rw [Bytes.decode, String.toList_ofList] at ascii
  have same : (encode text.decode).glyphs = text.glyphs := by
    rw [glyphs_encode, Bytes.decode, String.toList_ofList, List.map_map]
    refine (List.map_congr_left fun glyph member => ?_).trans (List.map_id _)
    exact (Utf8.mem_read_ascii member (ascii _ (List.mem_map_of_mem member))).symm
  rw [← glyphBytes_glyphs (encode text.decode), same, glyphBytes_glyphs]

end Reckon.Text
