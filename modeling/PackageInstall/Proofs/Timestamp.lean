import Mathlib.Algebra.Group.Nat.Defs
import PackageInstall.Timestamp.Reader

namespace PackageInstall.Timestamp

open Calendar

theorem valueOf_eq_ofDigitChars (digits : List Char) :
    valueOf digits = Nat.ofDigitChars 10 digits 0 := by
  simp only [valueOf, Nat.ofDigitChars_eq_foldl, Nat.mul_comm]

theorem valueOf_padded (width n : Nat) : valueOf (padded width n) = n := by
  rw [valueOf_eq_ofDigitChars, padded, Nat.ofDigitChars_append, Nat.ofDigitChars_replicate_zero,
    Nat.mul_zero, Nat.ofDigitChars_ten_toDigits]

theorem isDigit_of_mem_padded {width n : Nat} {c : Char} (member : c ∈ padded width n) :
    c.isDigit = true := by
  rcases List.mem_append.1 member with zero | digit
  · rw [List.eq_of_mem_replicate zero]
    decide
  · exact Nat.isDigit_of_mem_toDigits (by decide) (by decide) digit

theorem length_padded {width n : Nat} (positive : 0 < width) (bound : n < 10 ^ width) :
    (padded width n).length = width := by
  have fits := (Nat.length_toDigits_le_iff (b := 10) (by decide) positive).2 bound
  simp only [padded, List.length_append, List.length_replicate]
  omega

theorem padded_ne_nil (width n : Nat) : padded width n ≠ [] := by
  simp [padded]

theorem isBlank_of_isDigit {c : Char} (digit : c.isDigit = true) : Text.isBlank c = false := by
  have bounds : 48 ≤ c.toNat ∧ c.toNat ≤ 57 := by
    simpa [Char.isDigit, UInt32.le_iff_toNat_le] using digit
  simp only [Text.isBlank, decide_eq_false_iff_not]
  omega

theorem trimStart_cons {c : Char} (solid : Text.isBlank c = false) (rest : List Char) :
    Text.trimStart (c :: rest) = c :: rest := by
  simp [Text.trimStart, solid]

theorem trimStart_padded (width n : Nat) (rest : List Char) :
    Text.trimStart (padded width n ++ rest) = padded width n ++ rest := by
  obtain ⟨c, tail, shape⟩ := List.exists_cons_of_ne_nil (padded_ne_nil width n)
  have digit := isDigit_of_mem_padded (c := c) (shape ▸ List.mem_cons_self)
  rw [shape, List.cons_append, trimStart_cons (isBlank_of_isDigit digit)]

theorem takeWhile_padded (width n : Nat) (rest : List Char) :
    (padded width n ++ rest).takeWhile Char.isDigit =
      padded width n ++ rest.takeWhile Char.isDigit :=
  List.takeWhile_append_of_pos fun _ => isDigit_of_mem_padded

theorem readDigits_padded (width : Nat) {n : Nat} (positive : 0 < width) (bound : n < 10 ^ width)
    (rest : List Char) :
    readDigits (some width) (padded width n ++ rest) = .ok (padded width n, rest) := by
  have taken : ((padded width n ++ rest).takeWhile Char.isDigit).take width = padded width n := by
    rw [takeWhile_padded]
    exact List.take_left' (length_padded positive bound)
  simp [readDigits, taken, padded_ne_nil]

theorem readDigits_all (width n : Nat) {rest : List Char}
    (ends : rest.takeWhile Char.isDigit = []) :
    readDigits none (padded width n ++ rest) = .ok (padded width n, rest) := by
  simp [readDigits, takeWhile_padded, ends, padded_ne_nil]

theorem readNumber_padded {low high n : Nat} (least : low ≤ n) (most : n ≤ high)
    (bound : n < 100) (rest : List Char) :
    readNumber low high (padded 2 n ++ rest) = .ok (n, rest) := by
  simp [readNumber, trimStart_padded, readDigits_padded 2 (by decide) bound,
    valueOf_padded, least, most, bind, Except.bind]

theorem readSeparator_cons {c : Char} (solid : Text.isBlank c = false) (rest : List Char) :
    readSeparator c (c :: rest) = .ok rest := by
  simp [readSeparator, trimStart_cons solid]

theorem readYear_of_digits {n : Nat} (bound : n < 10 ^ 4) (rest : List Char) :
    readYear (padded 4 n ++ rest) = .ok ((n : Int), rest) := by
  have digits := readDigits_padded 4 (by decide) bound rest
  obtain ⟨c, tail, shape⟩ := List.exists_cons_of_ne_nil (padded_ne_nil 4 n)
  have digit := isDigit_of_mem_padded (c := c) (shape ▸ List.mem_cons_self)
  have noMinus : c ≠ '-' := by rintro rfl; exact absurd digit (by decide)
  have noPlus : c ≠ '+' := by rintro rfl; exact absurd digit (by decide)
  have value := valueOf_padded 4 n
  simp only [readYear, trimStart_padded]
  rw [shape] at digits value ⊢
  simp only [List.cons_append] at digits ⊢
  split
  · rename_i same
    exact absurd (List.cons.inj same).1 noMinus
  · rename_i same
    exact absurd (List.cons.inj same).1 noPlus
  · simp [digits, value, bind, Except.bind]

theorem readYear_yearText {year : Int} (least : -262143 ≤ year) (most : year ≤ 262142)
    (rest : List Char) :
    readYear (yearText year ++ '-' :: rest) = .ok (year, '-' :: rest) := by
  have ends : ('-' :: rest).takeWhile Char.isDigit = [] := by simp
  unfold yearText
  split
  · rename_i short
    have whole : (year.toNat : Int) = year := by omega
    rw [readYear_of_digits (by omega), whole]
  · rename_i long
    have digits := readDigits_all 4 year.natAbs ends
    by_cases negative : year < 0
    · have whole : -(year.natAbs : Int) = year := by omega
      simp only [negative, if_true, List.cons_append, readYear,
        trimStart_cons (show Text.isBlank '-' = false by decide)]
      generalize year.natAbs = n at *
      simp [digits, valueOf_padded, yearBound, whole, bind, Except.bind]
      omega
    · have whole : (year.natAbs : Int) = year := by omega
      simp only [negative, if_false, List.cons_append, readYear,
        trimStart_cons (show Text.isBlank '+' = false by decide)]
      generalize year.natAbs = n at *
      simp [digits, valueOf_padded, yearBound, whole, bind, Except.bind]
      omega

theorem daysIn_le (year : Int) (month : Nat) : daysIn year month ≤ 31 := by
  unfold daysIn
  split <;> try decide
  split <;> decide

theorem readDate_dateText {d : Date} (valid : d.Valid) (rest : List Char) :
    readDate (dateText d ++ rest) = .ok (d, rest) := by
  obtain ⟨least, most, firstMonth, lastMonth, firstDay, lastDay⟩ := valid
  have lastOf := daysIn_le d.year d.month
  have dash := readSeparator_cons (show Text.isBlank '-' = false by decide)
  simp only [readDate, dateText, List.append_assoc, List.cons_append,
    readYear_yearText least most, dash,
    readNumber_padded firstMonth lastMonth (by omega),
    readNumber_padded firstDay (Nat.le_trans lastDay lastOf) (by omega), bind, Except.bind]

theorem readFraction_digits {width n scale : Nat} (positive : 0 < width) (most : width ≤ 9)
    (bound : n < 10 ^ width) (scaled : tenTo (9 - width) = scale) :
    readFraction ('.' :: padded width n ++ ['Z']) = .ok (n * scale, ['Z']) := by
  have length := length_padded positive bound
  have taken : ((padded width n ++ ['Z']).takeWhile Char.isDigit).take 9 = padded width n := by
    rw [takeWhile_padded]
    simpa using List.take_of_length_le (Nat.le_trans (Nat.le_of_eq length) most)
  have digits : readDigits (some 9) (padded width n ++ ['Z']) = .ok (padded width n, ['Z']) := by
    simp [readDigits, taken, padded_ne_nil]
  simp only [readFraction, List.cons_append, digits, bind, Except.bind, valueOf_padded, length,
    scaled]
  rfl

theorem readFraction_fractionText {nanosecond : Nat} (bound : nanosecond < 1_000_000_000) :
    readFraction (fractionText nanosecond ++ ['Z']) = .ok (nanosecond, ['Z']) := by
  unfold fractionText
  split
  · rename_i zero
    rw [zero]
    rfl
  · split
    · rw [readFraction_digits (by decide) (by decide) (by omega) (show tenTo 6 = 1000000 by decide)]
      have whole : nanosecond / 1000000 * 1000000 = nanosecond := by omega
      rw [whole]
    · split
      · rw [readFraction_digits (by decide) (by decide) (by omega) (show tenTo 3 = 1000 by decide)]
        have whole : nanosecond / 1000 * 1000 = nanosecond := by omega
        rw [whole]
      · rw [readFraction_digits (by decide) (by decide) (by omega) (show tenTo 0 = 1 by decide),
          Nat.mul_one]

theorem readClock_clockText {c : Clock} (valid : c.Valid) :
    readClock (clockText c ++ ['Z']) = .ok (c, ['Z']) := by
  obtain ⟨hour, minute, second, nanosecond⟩ := valid
  have colon := readSeparator_cons (show Text.isBlank ':' = false by decide)
  simp only [readClock, clockText, List.append_assoc, List.cons_append, colon,
    readNumber_padded (Nat.zero_le _) (show c.hour ≤ 23 by omega) (by omega),
    readNumber_padded (Nat.zero_le _) (show c.minute ≤ 59 by omega) (by omega),
    readNumber_padded (Nat.zero_le _) second (by omega),
    readFraction_fractionText nanosecond, bind, Except.bind]

theorem toUniversal_zero (d : Date) {c : Clock} (valid : c.Valid) :
    toUniversal d c 0 = (d, c) := by
  obtain ⟨hour, minute, -, -⟩ := valid
  have minutes : ((c.hour * 60 + c.minute - 0 : Int) % 1440).toNat = c.hour * 60 + c.minute := by
    omega
  have noPrevious : ¬ ((c.hour * 60 + c.minute - 0 : Int) < 0) := by omega
  have noNext : ¬ ((1440 : Int) ≤ c.hour * 60 + c.minute - 0) := by omega
  have hours : (c.hour * 60 + c.minute) / 60 = c.hour := by omega
  have rest : (c.hour * 60 + c.minute) % 60 = c.minute := by omega
  simp only [toUniversal, minutes, noPrevious, noNext, hours, rest, if_false]

theorem ofLocal_zero (t : Timestamp) : ofLocal t.date t.clock 0 = .ok t := by
  simp [ofLocal, t.isDate, t.isClock, toUniversal_zero t.date t.isClock, ofParts?]

theorem ofText_text (t : Timestamp) : ofText t.text = .ok t := by
  have shape : t.text.toList = dateText t.date ++ ('T' :: (clockText t.clock ++ ['Z'])) := by
    simp [text]
  have universal : readOffset ['Z'] = .ok (0, []) := by rfl
  simp only [ofText, ofChars, shape, readDate_dateText t.isDate, readClock_clockText t.isClock,
    universal, bind, Except.bind]
  exact ofLocal_zero t

end PackageInstall.Timestamp
