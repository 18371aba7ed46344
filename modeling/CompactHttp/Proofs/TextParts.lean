import CompactHttp.Text.Blank
import CompactHttp.Text.Number
import Mathlib.Data.List.TakeWhile

/-! # Parts of a text

The parts of a text between the occurrences of a separator are those that `List.splitOn` gives
(`splitAtChar_eq_splitOn`), so they make up the text again and no others do that have no separator
in them. White space at the ends of a text does not matter to what is left when it is taken away
(`Blank.trimChars_of_blank`).
-/

namespace CompactHttp

/-- What is true of all codes up to a bound is true of the characters with these codes. -/
theorem forall_char_of_forall_code {bound : Nat} (property : Char → Prop)
    (all : ∀ code < bound, property (Char.ofNat code)) {char : Char}
    (below : char.toNat < bound) : property char := by
  have holds := all char.toNat below
  rwa [Char.ofNat_toNat] at holds

/-- What has been checked of each of some characters is true of all of them. -/
theorem forall_mem_of_all {property : Char → Prop} [DecidablePred property] {chars : List Char}
    (all : (chars.all fun char => property char) = true) : ∀ char ∈ chars, property char :=
  fun char member => of_decide_eq_true (List.all_eq_true.mp all char member)

variable {char separator : Char} {chars part : List Char}

/-- Splitting is that of the library. -/
theorem splitAtChar_eq_splitOn (separator : Char) (chars : List Char) :
    splitAtChar separator chars = chars.splitOn separator := by
  induction chars with
  | nil => exact (List.splitOn_nil separator).symm
  | cons first rest ih =>
    rw [splitAtChar, ih, List.splitOn_cons_eq_if_modifyHead]
    match parts : rest.splitOn separator with
    | [] => exact absurd parts (List.splitOn_ne_nil separator rest)
    | part :: others => simp only [beq_iff_eq, List.modifyHead_cons]

theorem splitAtChar_ne_nil (separator : Char) (chars : List Char) :
    splitAtChar separator chars ≠ [] := by
  rw [splitAtChar_eq_splitOn]
  exact List.splitOn_ne_nil separator chars

/-- The parts between separators make up the whole again. -/
theorem intercalate_splitAtChar (separator : Char) (chars : List Char) :
    [separator].intercalate (splitAtChar separator chars) = chars := by
  rw [splitAtChar_eq_splitOn]
  exact List.intercalate_splitOn separator

/-- Parts without a separator are those of the whole that they make up. -/
theorem splitAtChar_intercalate {parts : List (List Char)} (some : parts ≠ [])
    (free : ∀ part ∈ parts, separator ∉ part) :
    splitAtChar separator ([separator].intercalate parts) = parts := by
  rw [splitAtChar_eq_splitOn]
  exact List.splitOn_intercalate separator free some

/-- A part is made of characters of the whole other than the separator. -/
theorem of_mem_splitAtChar (among : part ∈ splitAtChar separator chars) (member : char ∈ part) :
    char ∈ chars ∧ char ≠ separator := by
  rw [splitAtChar_eq_splitOn] at among
  induction chars generalizing part with
  | nil =>
    rw [List.splitOn_nil, List.mem_singleton] at among
    rw [among] at member
    cases member
  | cons first rest ih =>
    have behind {part : List Char} (among : part ∈ rest.splitOn separator) (member : char ∈ part) :
        char ∈ first :: rest ∧ char ≠ separator :=
      (ih among member).imp_left (List.mem_cons_of_mem first)
    rw [List.splitOn_cons_eq_if_modifyHead] at among
    by_cases same : first = separator
    · rw [if_pos (beq_iff_eq.mpr same), List.mem_cons] at among
      obtain rfl | later := among
      · cases member
      · exact behind later member
    · rw [if_neg (mt beq_iff_eq.mp same)] at among
      match parts : rest.splitOn separator with
      | [] => exact absurd parts (List.splitOn_ne_nil separator rest)
      | next :: others =>
        rw [parts] at among behind
        rw [List.modifyHead_cons, List.mem_cons] at among
        obtain rfl | later := among
        · obtain rfl | inside := List.mem_cons.mp member
          · exact ⟨List.mem_cons_self, same⟩
          · exact behind List.mem_cons_self inside
        · exact behind (List.mem_cons_of_mem next later) member

/-- A character behind every separator might as well stand in front of every part but the first. -/
theorem intercalate_append_singleton (separator : List Char) (char : Char) (first : List Char)
    (rest : List (List Char)) : (separator ++ [char]).intercalate (first :: rest) =
      separator.intercalate (first :: rest.map (char :: ·)) := by
  induction rest generalizing first with
  | nil => rfl
  | cons next others ih =>
    rw [List.intercalate_cons_cons, ih, List.map_cons, List.intercalate_cons_cons,
      List.intercalate_cons_cons_left]
    simp only [List.append_assoc, List.singleton_append]

theorem map_toList_map_ofList (parts : List (List Char)) :
    (parts.map String.ofList).map String.toList = parts := by
  rw [List.map_map]
  exact (List.map_congr_left fun part _ => String.toList_ofList).trans parts.map_id

namespace Blank

variable {left right : List Char}

/-- What is left without the white space at the ends stands between white space. -/
theorem exists_blank_trimChars (chars : List Char) : ∃ left right,
    chars = left ++ trimChars chars ++ right ∧ ∀ char ∈ left ++ right, isBlank char = true := by
  have front := chars.takeWhile_append_dropWhile (p := isBlank)
  have back := (chars.dropWhile isBlank).reverse.takeWhile_append_dropWhile (p := isBlank)
  refine ⟨chars.takeWhile isBlank,
    ((chars.dropWhile isBlank).reverse.takeWhile isBlank).reverse, ?_, fun char member => ?_⟩
  · rw [trimChars, List.append_assoc, ← List.reverse_append, back, List.reverse_reverse, front]
  · rw [List.mem_append, List.mem_reverse] at member
    exact member.elim List.mem_takeWhile_imp List.mem_takeWhile_imp

/-- White space around a text is no part of what is left. -/
theorem trimChars_of_blank (blank : ∀ char ∈ left ++ right, isBlank char = true) :
    trimChars (left ++ chars ++ right) = trimChars chars := by
  rw [List.forall_mem_append] at blank
  obtain ⟨front, back⟩ := blank
  have turned : ∀ char ∈ right.reverse, isBlank char = true :=
    fun char member => back char (List.mem_reverse.mp member)
  unfold trimChars
  rw [List.append_assoc, List.dropWhile_append_of_pos front, List.dropWhile_append]
  by_cases nothing : (chars.dropWhile isBlank).isEmpty = true
  · rw [if_pos nothing, List.isEmpty_iff.mp nothing, List.dropWhile_eq_nil_iff.mpr back]
  · rw [if_neg nothing, List.reverse_append, List.dropWhile_append_of_pos turned]

end Blank

end CompactHttp
