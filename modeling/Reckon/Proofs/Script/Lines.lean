/-
This file describes the lines of a script by the rows of its text: the lines are the rows up to the first
one that is too long, each without a carriage return at its end.
-/

import Mathlib.Data.List.Basic
import Reckon.Script

namespace Reckon

open Text

namespace Lines

/-- The rows of a text are what stands between its newlines. A text that ends with a newline has no
empty last row. -/
def rows (text : List UInt8) : List (List UInt8) :=
  let parts := text.splitOn 0x0A
  if parts.getLast? = some [] then parts.dropLast else parts

/-- A row fits when it is short enough for a line. -/
def fits (row : List UInt8) : Bool := row.length < lineLimit

/-- This is the line of a row. -/
def ofRow (row : List UInt8) : Bytes := ofReversed row.reverse

theorem ofRow_return (row : List UInt8) : ofRow (row ++ [0x0D]) = row.toArray := by
  rw [ofRow, List.reverse_append, List.reverse_singleton, List.singleton_append, ofReversed,
    List.reverse_reverse]

/-- A row without a carriage return at its end is a line as it is. -/
theorem ofRow_plain {row : List UInt8} (plain : row.getLast? ≠ some 0x0D) :
    ofRow row = row.toArray := by
  rw [ofRow, ofReversed.eq_def]
  split
  · rename_i rest same
    rw [← List.head?_reverse, same] at plain
    exact absurd rfl plain
  · rw [List.reverse_reverse]

/-- A newline ends a row. -/
theorem rows_newline (first second : List UInt8) :
    rows (first ++ 0x0A :: second) = first.splitOn 0x0A ++ rows second := by
  have split := List.splitOn_append_cons_self (a := (0x0A : UInt8)) first second
  have some : second.splitOn 0x0A ≠ [] := List.splitOnP_ne_nil _ second
  rw [rows, rows, split, List.getLast?_append_of_ne_nil _ some]
  split
  · exact List.dropLast_append_of_ne_nil some
  · rfl

/-- A text is one row after the other, and the last one may have no newline after it. -/
theorem rows_induction {motive : List UInt8 → Prop} (nil : motive [])
    (last : ∀ row, row ≠ [] → 0x0A ∉ row → motive row)
    (newline : ∀ row rest, 0x0A ∉ row → motive rest → motive (row ++ 0x0A :: rest))
    (text : List UInt8) : motive text := by
  induction size : text.length using Nat.strongRecOn generalizing text with
  | ind count ih =>
      by_cases inside : 0x0A ∈ text
      · obtain ⟨row, rest, rfl, outside⟩ := List.eq_append_cons_of_mem inside
        refine newline row rest outside (ih rest.length ?_ rest rfl)
        rw [List.length_append, List.length_cons] at size
        omega
      · by_cases empty : text = []
        · exact empty ▸ nil
        · exact last text empty inside

theorem rows_nil : rows [] = [] := rfl

theorem rows_last {row : List UInt8} (some : row ≠ []) (outside : 0x0A ∉ row) : rows row = [row] := by
  rw [rows, List.splitOn_eq_singleton outside]
  exact if_neg (by simpa using some)

/-- A row ends with its newline. -/
theorem rows_cons {row : List UInt8} (outside : 0x0A ∉ row) (rest : List UInt8) :
    rows (row ++ 0x0A :: rest) = row :: rows rest := by
  rw [rows_newline, List.splitOn_eq_singleton outside]
  rfl

/-- The first row of a text goes on with the bytes before the first newline. -/
theorem exists_rows {row : List UInt8} (some : row ≠ []) (outside : 0x0A ∉ row) (text : List UInt8) :
    ∃ more others, rows (row ++ text) = (row ++ more) :: others := by
  by_cases inside : 0x0A ∈ text
  · obtain ⟨more, rest, rfl, outside'⟩ := List.eq_append_cons_of_mem inside
    refine ⟨more, rows rest, ?_⟩
    rw [← List.append_assoc, rows_cons (by simp [outside, outside'])]
  · exact ⟨text, [], rows_last (by simp [some]) (by simp [outside, inside])⟩

/-- These are the lines of rows. -/
def ofRows (rows : List (List UInt8)) : Lines :=
  ⟨(rows.takeWhile fits).map ofRow, !rows.all fits⟩

theorem ofRows_cons {row : List UInt8} (short : fits row = true) (rows : List (List UInt8)) :
    ofRows (row :: rows) = ⟨ofRow row :: (ofRows rows).lines, (ofRows rows).tooLong⟩ := by
  simp [ofRows, short]

theorem ofRows_long {row : List UInt8} (long : fits row = false) (rows : List (List UInt8)) :
    ofRows (row :: rows) = ⟨[], true⟩ := by
  simp [ofRows, long]

/-- Reading lines byte by byte gives the lines of the rows, up to the first one that is too long. -/
theorem split_eq (read : List Bytes) (reversed text : List UInt8) (outside : 0x0A ∉ reversed)
    (short : reversed.length < lineLimit) :
    split read reversed reversed.length text =
      ⟨read.reverse ++ (ofRows (rows (reversed.reverse ++ text))).lines,
        (ofRows (rows (reversed.reverse ++ text))).tooLong⟩ := by
  induction text generalizing read reversed with
  | nil =>
      rw [split, List.append_nil]
      by_cases empty : reversed = []
      · subst empty
        rw [if_pos List.length_nil, List.reverse_nil, rows_nil]
        simp [ofRows]
      · have row := rows_last (mt List.reverse_eq_nil_iff.1 empty) (mt List.mem_reverse.1 outside)
        rw [if_neg (mt List.length_eq_zero_iff.1 empty), row, ofRows_cons (by simpa [fits] using short)]
        simp [ofRows, ofRow]
  | cons byte text ih =>
      rw [split]
      by_cases newline : byte = 0x0A
      · have later := ih (ofReversed reversed :: read) [] List.not_mem_nil (by decide)
        rw [List.length_nil, List.reverse_nil, List.nil_append] at later
        rw [if_pos newline, later, newline, rows_cons (mt List.mem_reverse.1 outside),
          ofRows_cons (by simpa [fits] using short)]
        simp [ofRow]
      · have outside' : 0x0A ∉ byte :: reversed := by simp [Ne.symm newline, outside]
        have same : reversed.reverse ++ byte :: text = (byte :: reversed).reverse ++ text := by simp
        rw [if_neg newline, same]
        by_cases further : reversed.length + 1 < lineLimit
        · rw [if_pos further]
          exact ih read (byte :: reversed) outside' further
        · obtain ⟨more, others, split⟩ := exists_rows
            (mt List.reverse_eq_nil_iff.1 (List.cons_ne_nil byte reversed))
            (mt List.mem_reverse.1 outside') text
          have long : fits ((byte :: reversed).reverse ++ more) = false := by
            simp only [fits, List.length_append, List.length_reverse, List.length_cons,
              decide_eq_false_iff_not]
            omega
          rw [if_neg further, split, ofRows_long long, List.append_nil]

/-- The lines of a text are those of its rows. -/
theorem ofBytes_eq (text : Bytes) : ofBytes text = ofRows (rows text.toList) := by
  exact split_eq [] [] text.toList List.not_mem_nil (by decide)

/-- What stands between newlines has none. -/
theorem not_mem_of_mem_splitOn (text : List UInt8) :
    ∀ row ∈ text.splitOn 0x0A, (0x0A : UInt8) ∉ row := by
  induction text using rows_induction with
  | nil =>
      rw [List.splitOn_nil, List.forall_mem_singleton]
      exact List.not_mem_nil
  | last row _ outside =>
      rw [List.splitOn_eq_singleton outside, List.forall_mem_singleton]
      exact outside
  | newline row rest outside ih =>
      rw [List.splitOn_append_cons_self, List.splitOn_eq_singleton outside, List.singleton_append,
        List.forall_mem_cons]
      exact ⟨outside, ih⟩

/-- There is one row more than there are newlines. -/
theorem length_splitOn (text : List UInt8) :
    (text.splitOn 0x0A).length = text.count 0x0A + 1 := by
  induction text using rows_induction with
  | nil => rfl
  | last row _ outside =>
      rw [List.splitOn_eq_singleton outside, List.count_eq_zero.2 outside]
      rfl
  | newline row rest outside ih =>
      rw [List.splitOn_append_cons_self, List.splitOn_eq_singleton outside, List.singleton_append,
        List.length_cons, ih, List.count_append, List.count_eq_zero.2 outside, List.count_cons_self,
        Nat.zero_add]

/-- Between the newlines there are the rows, and nothing after a newline at the end. -/
theorem splitOn_cases (text : List UInt8) :
    text.splitOn 0x0A = rows text ∨ text.splitOn 0x0A = rows text ++ [[]] := by
  rw [rows]
  split
  · rename_i last
    exact .inr (List.dropLast_append_getLast? [] last).symm
  · exact .inl rfl

/-- The lines of short rows come before those of the others. -/
theorem ofRows_append {first : List (List UInt8)} (short : ∀ row ∈ first, fits row = true)
    (second : List (List UInt8)) : ofRows (first ++ second) =
      ⟨first.map ofRow ++ (ofRows second).lines, (ofRows second).tooLong⟩ := by
  induction first with
  | nil => rfl
  | cons row first ih =>
      obtain ⟨here, later⟩ := List.forall_mem_cons.1 short
      rw [List.cons_append, ofRows_cons here, ih later]
      rfl

/-- Short rows are all read. -/
theorem ofRows_short {rows : List (List UInt8)} (short : ∀ row ∈ rows, fits row = true) :
    ofRows rows = ⟨rows.map ofRow, false⟩ := by
  have whole := ofRows_append short []
  rw [List.append_nil] at whole
  rw [whole]
  simp [ofRows]

/-- A text with another one after a newline has the lines of both, and the first text may end with an
empty line. -/
theorem ofBytes_newline (first second : Bytes) (complete : (ofBytes first).tooLong = false) :
    ∃ lines, ofBytes (first ++ #[0x0A] ++ second) =
        ⟨lines ++ (ofBytes second).lines, (ofBytes second).tooLong⟩ ∧
      lines.length = first.toList.count 0x0A + 1 ∧
      (lines = (ofBytes first).lines ∨ lines = (ofBytes first).lines ++ [#[]]) := by
  have bytes : (first ++ #[0x0A] ++ second).toList = first.toList ++ 0x0A :: second.toList := by simp
  have short : ∀ row ∈ rows first.toList, fits row = true := by
    rw [ofBytes_eq] at complete
    simpa [ofRows] using complete
  have cases := splitOn_cases first.toList
  have short' : ∀ row ∈ first.toList.splitOn 0x0A, fits row = true := by
    rcases cases with same | same
    · rw [same]
      exact short
    · rw [same, List.forall_mem_append, List.forall_mem_singleton]
      exact ⟨short, by decide⟩
  refine ⟨(first.toList.splitOn 0x0A).map ofRow, ?_, ?_, ?_⟩
  · rw [ofBytes_eq, ofBytes_eq second, bytes, rows_newline, ofRows_append short']
  · rw [List.length_map, length_splitOn]
  · rw [ofBytes_eq, ofRows_short short]
    rcases cases with same | same
    · exact .inl (congrArg _ same)
    · refine .inr ?_
      rw [same, List.map_append]
      rfl

/-- These are the first rows of a text, each of them ended by a newline. -/
def leading (count : Nat) (text : Bytes) : Bytes :=
  (((text.toList.splitOn 0x0A).take count).flatMap fun row => row ++ [0x0A]).toArray

/-- Rows that are written with newlines are read again. -/
theorem rows_ended {parts : List (List UInt8)} (outside : ∀ row ∈ parts, (0x0A : UInt8) ∉ row) :
    rows (parts.flatMap fun row => row ++ [0x0A]) = parts := by
  induction parts with
  | nil => rfl
  | cons row parts ih =>
      obtain ⟨here, later⟩ := List.forall_mem_cons.1 outside
      rw [List.flatMap_cons, List.append_assoc, List.singleton_append, rows_cons here, ih later]

/-- The first rows of a text have its first lines. -/
theorem ofBytes_leading (text : Bytes) (count : Nat) (inside : count ≤ (ofBytes text).lines.length) :
    ofBytes (leading count text) = ⟨(ofBytes text).lines.take count, false⟩ := by
  rw [ofBytes_eq, ofRows, List.length_map] at inside
  have front : (rows text.toList).take count = ((rows text.toList).takeWhile fits).take count := by
    conv_lhs => rw [← List.takeWhile_append_dropWhile (p := fits) (l := rows text.toList)]
    exact List.take_append_of_le_length inside
  have taken : (text.toList.splitOn 0x0A).take count = (rows text.toList).take count := by
    have within := Nat.le_trans inside (List.takeWhile_prefix fits).length_le
    rcases splitOn_cases text.toList with same | same
    · rw [same]
    · rw [same, List.take_append_of_le_length within]
  have outside : ∀ row ∈ (rows text.toList).take count, (0x0A : UInt8) ∉ row := by
    rw [← taken]
    exact fun row member => not_mem_of_mem_splitOn _ row (List.mem_of_mem_take member)
  have short : ∀ row ∈ (rows text.toList).take count, fits row = true := by
    rw [front]
    exact fun row member => List.all_eq_true.1 List.all_takeWhile row (List.mem_of_mem_take member)
  rw [ofBytes_eq, ofBytes_eq, leading, taken, rows_ended outside, ofRows_short short, front, ofRows,
    List.map_take]

end Lines

end Reckon
