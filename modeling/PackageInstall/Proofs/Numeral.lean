import Mathlib.Data.List.Basic
import Mathlib.Data.List.Induction
import Mathlib.Data.List.TakeWhile
import PackageInstall.Decimal.Notation
import PackageInstall.Decimal.Numeral

namespace PackageInstall.Numeral

def Digits (cs : List Char) : Prop := cs ≠ [] ∧ ∀ c ∈ cs, c.isDigit = true

/-- Characters after a sign, if there is one, and whether that is a minus. -/
inductive Signed : List Char → Bool → List Char → Prop where
  | minus (rest : List Char) : Signed ('-' :: rest) true rest
  | plus (rest : List Char) : Signed ('+' :: rest) false rest
  | bare (cs : List Char) : Signed cs false cs

def signedValue (negative : Bool) (digits : List Char) : Int :=
  if negative then -(valueOf digits : Int) else valueOf digits

def Whole (cs : List Char) (n : Int) : Prop :=
  ∃ negative digits, Signed cs negative digits ∧ Digits digits ∧ n = signedValue negative digits

theorem digit_ten (c : Char) : digit 10 c = if c.isDigit then some (c.toNat - 48) else none := by
  unfold digit
  by_cases isDigit : c.isDigit
  · have bounds := Char.isDigit_iff_toNat.1 isDigit
    have ten : c.toNat - 48 < 10 := by
      have most : c.toNat ≤ 57 := bounds.2
      omega
    simp [isDigit, ten]
  · have small : 'a' ≤ c → ¬c.toNat - 87 < 10 := by
      intro least
      have code : 97 ≤ c.toNat := least
      omega
    have large : 'A' ≤ c → ¬c.toNat - 55 < 10 := by
      intro least
      have code : 65 ≤ c.toNat := least
      omega
    simp only [isDigit, Bool.false_eq_true, if_false]
    split
    · next letter => simp [small letter.1]
    · split
      · next letter => simp [large letter.1]
      · simp

theorem foldlM_digits (cs : List Char) (start n : Nat) :
    cs.foldlM (fun n c => (digit 10 c).map (n * 10 + ·)) start = some n ↔
      (∀ c ∈ cs, c.isDigit = true) ∧ cs.foldl (fun n c => n * 10 + (c.toNat - 48)) start = n := by
  induction cs generalizing start with
  | nil => simp
  | cons c rest ih =>
    rw [List.foldlM_cons, digit_ten]
    by_cases isDigit : c.isDigit
    · simp [isDigit, ih]
    · simp [isDigit]

theorem nat_eq_some_iff (cs : List Char) (n : Nat) :
    nat 10 cs = some n ↔ Digits cs ∧ valueOf cs = n := by
  unfold nat Digits
  by_cases empty : cs = []
  · simp [empty]
  · simp [empty, foldlM_digits, valueOf]

theorem not_digits_cons {c : Char} (other : c.isDigit = false) (rest : List Char) :
    ¬Digits (c :: rest) := by
  rintro ⟨-, digits⟩
  have isDigit := digits c List.mem_cons_self
  rw [other] at isDigit
  cases isDigit

theorem whole_of_nat {cs digits : List Char} {negative : Bool} (sign : Signed cs negative digits)
    {m : Nat} (reads : nat 10 digits = some m) :
    Whole cs (if negative then -(m : Int) else m) := by
  obtain ⟨isDigits, rfl⟩ := (nat_eq_some_iff digits m).1 reads
  exact ⟨negative, digits, sign, isDigits, rfl⟩

theorem int_eq_some_iff (cs : List Char) (n : Int) : int 10 cs = some n ↔ Whole cs n := by
  have minus : '-'.isDigit = false := by decide
  have plus : '+'.isDigit = false := by decide
  constructor
  · intro reads
    unfold int at reads
    split at reads
    · next rest =>
      obtain ⟨_, cast, rfl⟩ := Option.map_eq_some_iff.1 reads
      obtain ⟨m, isNat, ⟨⟩⟩ := Option.bind_eq_some_iff.1 cast
      exact whole_of_nat (.minus rest) isNat
    · next rest =>
      obtain ⟨_, cast, rfl⟩ := Option.map_eq_some_iff.1 reads
      obtain ⟨m, isNat, ⟨⟩⟩ := Option.bind_eq_some_iff.1 cast
      exact whole_of_nat (.plus rest) isNat
    · obtain ⟨_, cast, rfl⟩ := Option.map_eq_some_iff.1 reads
      obtain ⟨m, isNat, ⟨⟩⟩ := Option.bind_eq_some_iff.1 cast
      exact whole_of_nat (.bare cs) isNat
  · rintro ⟨negative, digits, sign, isDigits, rfl⟩
    have isNat := (nat_eq_some_iff digits _).2 ⟨isDigits, rfl⟩
    cases sign with
    | minus => simp [int, isNat, signedValue]
    | plus => simp [int, isNat, signedValue]
    | bare =>
      -- Digits have no sign of their own.
      unfold int
      split
      · next rest => exact absurd isDigits (not_digits_cons minus rest)
      · next rest => exact absurd isDigits (not_digits_cons plus rest)
      · simp [isNat, signedValue]

theorem Whole.unique {cs : List Char} {m n : Int} (left : Whole cs m) (right : Whole cs n) :
    m = n := by
  have reads := (int_eq_some_iff cs m).2 left
  rw [(int_eq_some_iff cs n).2 right] at reads
  exact (Option.some.inj reads).symm

def Pointed (point fraction : List Char) : Prop :=
  point = '.' :: fraction ∨ point = [] ∧ fraction = []

def Powered (mark : List Char) (power : Int) : Prop :=
  mark = [] ∧ power = 0 ∨ ∃ c rest, mark = c :: rest ∧ (c = 'e' ∨ c = 'E') ∧ Whole rest power

inductive Magnitude : List Char → Nat → Prop where
  | infinite {cs : List Char} (word : lower cs = "inf".toList ∨ lower cs = "infinity".toList) :
      Magnitude cs Binary64.infinite
  | noNumber {cs : List Char} (word : lower cs = "nan".toList) :
      Magnitude cs (Binary64.infinite + twoTo 51)
  | decimal {whole point fraction mark : List Char} {power : Int}
      (digits : Digits (whole ++ fraction)) (pointed : Pointed point fraction)
      (powered : Powered mark power) :
      Magnitude (whole ++ (point ++ mark))
        (Binary64.roundDecimal (valueOf (whole ++ fraction)) (power - fraction.length))

def Number (cs : List Char) (x : Binary64) : Prop :=
  ∃ negative rest m, Signed cs negative rest ∧ Magnitude rest m ∧
    x = Binary64.ofMagnitude negative m

def Undigited (cs : List Char) : Prop := ∀ c rest, cs = c :: rest → c.isDigit = false

theorem span_digits {digits rest : List Char} (all : ∀ c ∈ digits, c.isDigit = true)
    (ends : Undigited rest) :
    (digits ++ rest).takeWhile Char.isDigit = digits ∧
      (digits ++ rest).dropWhile Char.isDigit = rest := by
  rw [List.takeWhile_append_of_pos all, List.dropWhile_append_of_pos all]
  cases rest with
  | nil => simp
  | cons c rest => simp [ends c rest rfl]

theorem Powered.undigited {mark : List Char} {power : Int} (powered : Powered mark power) :
    Undigited mark := by
  rintro c rest rfl
  rcases powered with ⟨empty, -⟩ | ⟨c', rest', same, letter, -⟩
  · cases empty
  · cases same
    rcases letter with rfl | rfl <;> decide

theorem Pointed.undigited {point fraction mark : List Char} {power : Int}
    (pointed : Pointed point fraction) (powered : Powered mark power) :
    Undigited (point ++ mark) := by
  rcases pointed with rfl | ⟨rfl, -⟩
  · rintro c rest ⟨⟩
    decide
  · exact powered.undigited

theorem exponent_eq_some_iff (cs : List Char) (e : Int) : exponent cs = some e ↔ Powered cs e := by
  unfold exponent Powered
  cases cs with
  | nil => simp [eq_comm]
  | cons c rest =>
    by_cases letter : c = 'e' ∨ c = 'E'
    · simp [letter, int_eq_some_iff]
    · simp [letter]

def fractionOf (rest : List Char) : List Char × List Char :=
  match rest with
  | '.' :: rest => (rest.takeWhile Char.isDigit, rest.dropWhile Char.isDigit)
  | _ => ([], rest)

theorem magnitude_eq (cs : List Char) :
    magnitude cs =
      if (cs.takeWhile Char.isDigit).isEmpty = true ∧
          (fractionOf (cs.dropWhile Char.isDigit)).1.isEmpty = true then none
      else (exponent (fractionOf (cs.dropWhile Char.isDigit)).2).map fun e =>
        Binary64.roundDecimal
          (valueOf (cs.takeWhile Char.isDigit ++ (fractionOf (cs.dropWhile Char.isDigit)).1))
          (e - (fractionOf (cs.dropWhile Char.isDigit)).1.length) := rfl

theorem isEmpty_and_iff {front back : List Char} :
    (front.isEmpty = true ∧ back.isEmpty = true) ↔ front ++ back = [] := by
  simp

theorem fractionOf_pointed {point fraction mark : List Char} (pointed : Pointed point fraction)
    (digits : ∀ c ∈ fraction, c.isDigit = true) {power : Int} (powered : Powered mark power) :
    fractionOf (point ++ mark) = (fraction, mark) := by
  rcases pointed with rfl | ⟨rfl, rfl⟩
  · obtain ⟨taken, left⟩ := span_digits digits powered.undigited
    simp [fractionOf, taken, left]
  · rcases powered with ⟨rfl, -⟩ | ⟨c, rest, rfl, letter, -⟩
    · rfl
    · rcases letter with rfl | rfl <;> rfl

theorem pointed_fractionOf (rest : List Char) :
    ∃ point, Pointed point (fractionOf rest).1 ∧ rest = point ++ (fractionOf rest).2 ∧
      ∀ c ∈ (fractionOf rest).1, c.isDigit = true := by
  unfold fractionOf
  split
  · next rest =>
    refine ⟨'.' :: rest.takeWhile Char.isDigit, .inl rfl, ?_, fun _ => List.mem_takeWhile_imp⟩
    simp
  · exact ⟨[], .inr ⟨rfl, rfl⟩, rfl, by simp⟩

theorem magnitude_eq_some_iff (cs : List Char) (m : Nat) :
    magnitude cs = some m ↔ ∃ whole point fraction mark power, Digits (whole ++ fraction) ∧
      Pointed point fraction ∧ Powered mark power ∧ cs = whole ++ (point ++ mark) ∧
      m = Binary64.roundDecimal (valueOf (whole ++ fraction)) (power - fraction.length) := by
  constructor
  · intro reads
    rw [magnitude_eq] at reads
    split at reads
    · cases reads
    · next some =>
      obtain ⟨power, powered, rfl⟩ := Option.map_eq_some_iff.1 reads
      obtain ⟨point, pointed, rest, digits⟩ := pointed_fractionOf (cs.dropWhile Char.isDigit)
      refine ⟨cs.takeWhile Char.isDigit, point, _, _, power, ⟨mt isEmpty_and_iff.2 some, ?_⟩,
        pointed, (exponent_eq_some_iff _ _).1 powered, ?_, rfl⟩
      · intro c member
        rcases List.mem_append.1 member with front | back
        · exact List.mem_takeWhile_imp front
        · exact digits c back
      · rw [← rest, List.takeWhile_append_dropWhile]
  · rintro ⟨whole, point, fraction, mark, power, ⟨some, digits⟩, pointed, powered, rfl, rfl⟩
    have front : ∀ c ∈ whole, c.isDigit = true := fun c member =>
      digits c (List.mem_append_left _ member)
    have back : ∀ c ∈ fraction, c.isDigit = true := fun c member =>
      digits c (List.mem_append_right _ member)
    obtain ⟨taken, left⟩ := span_digits front (pointed.undigited powered)
    rw [magnitude_eq, taken, left, fractionOf_pointed pointed back powered,
      if_neg (mt isEmpty_and_iff.1 some),
      (exponent_eq_some_iff _ _).2 powered]
    rfl

theorem toLower_ne {c letter : Char} (first : c.isDigit = true ∨ c = '.')
    (noDigit : letter.isDigit = false) (noPoint : letter ≠ '.') : c.toLower ≠ letter := by
  have small : c.toNat < 65 := by
    rcases first with isDigit | rfl
    · exact Nat.lt_of_le_of_lt (Char.isDigit_iff_toNat.1 isDigit).2 (by decide)
    · decide
  have stays : c.toLower = c := by
    refine dif_neg ?_
    rintro ⟨least, -⟩
    have code : 65 ≤ c.toNat := least
    omega
  rw [stays]
  rintro rfl
  rcases first with isDigit | point
  · rw [noDigit] at isDigit
    cases isDigit
  · exact noPoint point

theorem decimal_head {whole point fraction : List Char} (digits : Digits (whole ++ fraction))
    (pointed : Pointed point fraction) (mark : List Char) :
    ∃ c rest, whole ++ (point ++ mark) = c :: rest ∧ (c.isDigit = true ∨ c = '.') := by
  cases whole with
  | cons c rest => exact ⟨c, _, rfl, .inl (digits.2 c List.mem_cons_self)⟩
  | nil =>
    rcases pointed with rfl | ⟨-, rfl⟩
    · exact ⟨'.', _, rfl, .inr rfl⟩
    · exact absurd rfl digits.1

theorem anyMagnitude_eq_some_iff (cs : List Char) (m : Nat) :
    anyMagnitude cs = some m ↔ Magnitude cs m := by
  constructor
  · intro reads
    unfold anyMagnitude at reads
    split at reads
    · next word =>
      cases reads
      exact .infinite word
    · split at reads
      · next word =>
        cases reads
        exact .noNumber word
      · obtain ⟨whole, point, fraction, mark, power, digits, pointed, powered, rfl, rfl⟩ :=
          (magnitude_eq_some_iff cs m).1 reads
        exact .decimal digits pointed powered
  · intro shape
    cases shape with
    | infinite word => rw [anyMagnitude, if_pos word]
    | noNumber word =>
      have other : ¬(lower cs = "inf".toList ∨ lower cs = "infinity".toList) := by
        rw [word]
        decide
      rw [anyMagnitude, if_neg other, if_pos word]
    | @decimal whole point fraction mark power digits pointed powered =>
      -- It begins with no letter, so it is none of the words.
      obtain ⟨c, rest, shape, first⟩ := decimal_head digits pointed mark
      have noI : c.toLower ≠ 'i' := toLower_ne first (by decide) (by decide)
      have noN : c.toLower ≠ 'n' := toLower_ne first (by decide) (by decide)
      have noInfinity : ¬(lower (c :: rest) = "inf".toList ∨
          lower (c :: rest) = "infinity".toList) := by
        simp [lower, noI]
      have noWord : ¬lower (c :: rest) = "nan".toList := by
        simp [lower, noN]
      have reads := (magnitude_eq_some_iff _ _).2
        ⟨whole, point, fraction, mark, power, digits, pointed, powered, rfl, rfl⟩
      rw [shape] at reads ⊢
      rw [anyMagnitude, if_neg noInfinity, if_neg noWord, reads]

theorem head_of_lower {cs word : List Char} {letter : Char} (same : lower cs = letter :: word) :
    ∃ c rest, cs = c :: rest ∧ c.toLower = letter := by
  cases cs with
  | nil => cases same
  | cons c rest => exact ⟨c, rest, rfl, (List.cons.inj same).1⟩

theorem Magnitude.head {cs : List Char} {m : Nat} (shape : Magnitude cs m) :
    ∃ c rest, cs = c :: rest ∧
      ((c.isDigit = true ∨ c = '.') ∨ c.toLower = 'i' ∨ c.toLower = 'n') := by
  cases shape with
  | infinite word =>
    have first : ∃ c rest, cs = c :: rest ∧ c.toLower = 'i' := by
      rcases word with short | long
      · exact head_of_lower short
      · exact head_of_lower long
    obtain ⟨c, rest, shape, letter⟩ := first
    exact ⟨c, rest, shape, .inr (.inl letter)⟩
  | noNumber word =>
    obtain ⟨c, rest, shape, letter⟩ := head_of_lower word
    exact ⟨c, rest, shape, .inr (.inr letter)⟩
  | @decimal whole point fraction mark power digits pointed powered =>
    obtain ⟨c, rest, shape, first⟩ := decimal_head digits pointed mark
    exact ⟨c, rest, shape, .inl first⟩

theorem Magnitude.unsigned {cs : List Char} {m : Nat} (shape : Magnitude cs m) (rest : List Char) :
    cs ≠ '-' :: rest ∧ cs ≠ '+' :: rest := by
  obtain ⟨c, rest', rfl, first⟩ := shape.head
  constructor
  · rintro ⟨⟩
    revert first
    decide
  · rintro ⟨⟩
    revert first
    decide

theorem float_eq_some_iff (cs : List Char) (x : Binary64) : float cs = some x ↔ Number cs x := by
  constructor
  · intro reads
    unfold float at reads
    split at reads
    · next rest =>
      obtain ⟨m, isMagnitude, rfl⟩ := Option.map_eq_some_iff.1 reads
      exact ⟨true, rest, m, .minus rest, (anyMagnitude_eq_some_iff _ _).1 isMagnitude, rfl⟩
    · next rest =>
      obtain ⟨m, isMagnitude, rfl⟩ := Option.map_eq_some_iff.1 reads
      exact ⟨false, rest, m, .plus rest, (anyMagnitude_eq_some_iff _ _).1 isMagnitude, rfl⟩
    · obtain ⟨m, isMagnitude, rfl⟩ := Option.map_eq_some_iff.1 reads
      exact ⟨false, cs, m, .bare cs, (anyMagnitude_eq_some_iff _ _).1 isMagnitude, rfl⟩
  · rintro ⟨negative, rest, m, sign, shape, rfl⟩
    have isMagnitude := (anyMagnitude_eq_some_iff rest m).2 shape
    cases sign with
    | minus => simp [float, isMagnitude]
    | plus => simp [float, isMagnitude]
    | bare =>
      unfold float
      split
      · next rest' => exact absurd rfl (shape.unsigned rest').1
      · next rest' => exact absurd rfl (shape.unsigned rest').2
      · simp [isMagnitude]

theorem Whole.number {cs : List Char} {n : Int} (whole : Whole cs n) : ∃ x, Number cs x := by
  obtain ⟨negative, digits, sign, isDigits, -⟩ := whole
  have unpointed : Pointed [] [] := .inr ⟨rfl, rfl⟩
  have unpowered : Powered [] 0 := .inl ⟨rfl, rfl⟩
  have plain : Digits (digits ++ []) := by rwa [List.append_nil]
  have shape := Magnitude.decimal plain unpointed unpowered
  rw [List.nil_append, List.append_nil] at shape
  exact ⟨_, negative, digits, _, sign, shape, rfl⟩

theorem Number.unique {cs : List Char} {x y : Binary64} (left : Number cs x) (right : Number cs y) :
    x = y := by
  have reads := (float_eq_some_iff cs x).2 left
  rw [(float_eq_some_iff cs y).2 right] at reads
  exact (Option.some.inj reads).symm

theorem Number.head {cs : List Char} {x : Binary64} (number : Number cs x) :
    ∃ c rest, cs = c :: rest ∧ c.toLower ≠ 't' ∧ c.toLower ≠ 'f' := by
  obtain ⟨negative, rest, m, sign, shape, -⟩ := number
  cases sign with
  | minus => exact ⟨_, _, rfl, by decide, by decide⟩
  | plus => exact ⟨_, _, rfl, by decide, by decide⟩
  | bare =>
    obtain ⟨c, rest, shape, first | letter | letter⟩ := shape.head
    · exact ⟨c, rest, shape, toLower_ne first (by decide) (by decide),
        toLower_ne first (by decide) (by decide)⟩
    · exact ⟨c, rest, shape, by rw [letter]; decide, by rw [letter]; decide⟩
    · exact ⟨c, rest, shape, by rw [letter]; decide, by rw [letter]; decide⟩

def Leading (digits : List Char) : Prop := Digits digits ∧ digits.head? ≠ some '0'

/-- The shortest way to write a whole number: no plus, and no zero before other digits. -/
def Shortest (cs : List Char) : Prop :=
  cs = ['0'] ∨ ∃ digits, (cs = digits ∨ cs = '-' :: digits) ∧ Leading digits

theorem valueOf_append_digit (ds : List Char) (c : Char) :
    valueOf (ds ++ [c]) = 10 * valueOf ds + (c.toNat - 48) := by
  simp [valueOf, Nat.mul_comm]

theorem digitChar_of_isDigit {c : Char} (isDigit : c.isDigit = true) :
    (c.toNat - 48).digitChar = c := by
  have table : ∀ k < 10, Nat.digitChar k = Char.ofNat (48 + k) := by decide
  have bounds : 48 ≤ c.toNat ∧ c.toNat ≤ 57 := Char.isDigit_iff_toNat.1 isDigit
  rw [table _ (by omega), Nat.add_sub_of_le bounds.1, Char.ofNat_toNat]

theorem toDigits_valueOf {digits : List Char} (leading : Leading digits) :
    0 < valueOf digits ∧ Nat.toDigits 10 (valueOf digits) = digits := by
  obtain ⟨⟨some, all⟩, first⟩ := leading
  -- The last digit is the remainder by ten, and those before it are the digits of the quotient.
  induction digits using List.reverseRecOn with
  | nil => exact absurd rfl some
  | append_singleton front c ih =>
    have isDigit := all c (by simp)
    have last : c.toNat - 48 < 10 := by
      have most : c.toNat ≤ 57 := (Char.isDigit_iff_toNat.1 isDigit).2
      omega
    rw [valueOf_append_digit]
    cases front with
    | nil =>
      have nonzero : c.toNat ≠ 48 := by
        intro zero
        have same : c = '0' := Char.toNat_inj.1 zero
        simp [same] at first
      have least : 48 ≤ c.toNat := (Char.isDigit_iff_toNat.1 isDigit).1
      refine ⟨by omega, ?_⟩
      rw [show valueOf [] = 0 from rfl, Nat.mul_zero, Nat.zero_add, Nat.toDigits_of_lt_base last,
        digitChar_of_isDigit isDigit]
      rfl
    | cons d front =>
      have earlier : ∀ c' ∈ d :: front, c'.isDigit = true := fun c' member =>
        all c' (List.mem_append_left _ member)
      obtain ⟨positive, digits⟩ := ih (by simpa using first) (List.cons_ne_nil d front) earlier
      refine ⟨by omega, ?_⟩
      rw [← Nat.toDigits_append_toDigits (by decide) positive last, digits,
        Nat.toDigits_of_lt_base last, digitChar_of_isDigit isDigit]

theorem leading_toDigits {n : Nat} (positive : 0 < n) : Leading (Nat.toDigits 10 n) := by
  refine ⟨⟨Nat.toDigits_ne_nil, fun c => Nat.isDigit_of_mem_toDigits (by decide) (by decide)⟩, ?_⟩
  induction n using Nat.strongRecOn with
  | ind n ih =>
    rw [Nat.toDigits_eq_if (by decide)]
    by_cases small : n < 10
    · rw [if_pos small]
      have table : ∀ k < 10, 0 < k → [k.digitChar].head? ≠ some '0' := by decide
      exact table n small positive
    · -- The first digit is that of a tenth of the number.
      have fewer := ih (n / 10) (by omega) (by omega)
      rw [if_neg small, List.head?_append_of_ne_nil _ Nat.toDigits_ne_nil]
      exact fewer

theorem toList_toString (n : Int) :
    (toString n).toList =
      if n < 0 then '-' :: Nat.toDigits 10 n.natAbs else Nat.toDigits 10 n.natAbs := by
  rw [Int.toString_eq_repr, Int.repr_eq_if]
  by_cases negative : n < 0
  · have magnitude : (-n).toNat = n.natAbs := by omega
    rw [if_neg (by omega), if_pos negative, magnitude, Nat.repr_eq_ofList_toDigits]
    simp
  · have magnitude : n.toNat = n.natAbs := by omega
    rw [if_pos (by omega), if_neg negative, magnitude, Nat.repr_eq_ofList_toDigits]
    simp

theorem shortest_toString (n : Int) : Shortest (toString n).toList := by
  rw [toList_toString]
  rcases Nat.eq_zero_or_pos n.natAbs with zero | positive
  · have none : ¬n < 0 := by omega
    left
    rw [if_neg none, zero, Nat.toDigits_zero]
  · right
    refine ⟨Nat.toDigits 10 n.natAbs, ?_, leading_toDigits positive⟩
    split
    · exact .inr rfl
    · exact .inl rfl

/-- A whole number is shown as it was written where that was the shortest way. -/
theorem toString_eq_iff {v : String} {n : Int} (whole : Whole v.toList n) :
    toString n = v ↔ Shortest v.toList := by
  constructor
  · rintro rfl
    exact shortest_toString n
  · intro shortest
    apply String.toList_inj.1
    rw [toList_toString]
    rcases shortest with zero | ⟨digits, shape, leading⟩
    · have isZero : Whole ['0'] 0 := ⟨false, ['0'], .bare _, ⟨by simp, by simp⟩, rfl⟩
      have value : n = 0 := whole.unique (zero ▸ isZero)
      rw [zero, value]
      rfl
    · obtain ⟨positive, same⟩ := toDigits_valueOf leading
      rcases shape with plain | negated
      · have isValue : Whole digits (valueOf digits) := ⟨false, digits, .bare _, leading.1, rfl⟩
        have value : n = valueOf digits := whole.unique (plain ▸ isValue)
        rw [if_neg (by omega), value, Int.natAbs_natCast, same, plain]
      · have isValue : Whole ('-' :: digits) (-valueOf digits) :=
          ⟨true, digits, .minus _, leading.1, rfl⟩
        have value : n = -valueOf digits := whole.unique (negated ▸ isValue)
        rw [if_pos (by omega), value, Int.natAbs_neg, Int.natAbs_natCast, same, negated]

theorem Signed.mem {cs rest : List Char} {negative : Bool} (sign : Signed cs negative rest)
    {c : Char} (member : c ∈ cs) : c = '-' ∨ c = '+' ∨ c ∈ rest := by
  cases sign with
  | minus =>
    rcases List.mem_cons.1 member with same | later
    · exact .inl same
    · exact .inr (.inr later)
  | plus =>
    rcases List.mem_cons.1 member with same | later
    · exact .inr (.inl same)
    · exact .inr (.inr later)
  | bare => exact .inr (.inr member)

def isNumeric (c : Char) : Bool :=
  c.isDigit || c = '-' || c = '+' || c = '.' || "infityae".toList.contains c.toLower

theorem isNumeric_of_isDigit {c : Char} (isDigit : c.isDigit = true) : isNumeric c = true := by
  simp [isNumeric, isDigit]

theorem Whole.isNumeric {cs : List Char} {n : Int} (whole : Whole cs n) {c : Char}
    (member : c ∈ cs) : isNumeric c = true := by
  obtain ⟨negative, digits, sign, isDigits, -⟩ := whole
  rcases sign.mem member with rfl | rfl | inner
  · decide
  · decide
  · exact isNumeric_of_isDigit (isDigits.2 c inner)

theorem isNumeric_of_lower {cs word : List Char} (same : lower cs = word)
    (letters : word.all "infityae".toList.contains = true) {c : Char} (member : c ∈ cs) :
    isNumeric c = true := by
  have letter := List.all_eq_true.1 letters c.toLower (same ▸ List.mem_map_of_mem member)
  rw [isNumeric, letter, Bool.or_true]

theorem Magnitude.isNumeric {cs : List Char} {m : Nat} (shape : Magnitude cs m) {c : Char}
    (member : c ∈ cs) : isNumeric c = true := by
  cases shape with
  | infinite word =>
    rcases word with short | long
    · exact isNumeric_of_lower short (by decide) member
    · exact isNumeric_of_lower long (by decide) member
  | noNumber word => exact isNumeric_of_lower word (by decide) member
  | decimal digits pointed powered =>
    rcases List.mem_append.1 member with front | rest
    · exact isNumeric_of_isDigit (digits.2 c (List.mem_append_left _ front))
    rcases List.mem_append.1 rest with middle | back
    · rcases pointed with rfl | ⟨rfl, -⟩
      · rcases List.mem_cons.1 middle with rfl | later
        · decide
        · exact isNumeric_of_isDigit (digits.2 c (List.mem_append_right _ later))
      · cases middle
    · rcases powered with ⟨rfl, -⟩ | ⟨c', rest', rfl, letter, whole⟩
      · cases back
      · rcases List.mem_cons.1 back with rfl | later
        · rcases letter with rfl | rfl <;> decide
        · exact whole.isNumeric later

theorem Number.isNumeric {cs : List Char} {x : Binary64} (number : Number cs x) {c : Char}
    (member : c ∈ cs) : isNumeric c = true := by
  obtain ⟨negative, rest, m, sign, shape, -⟩ := number
  rcases sign.mem member with rfl | rfl | inner
  · decide
  · decide
  · exact shape.isNumeric inner

def isShown (c : Char) : Bool := c.isDigit || "-.infNa".toList.contains c

theorem isShown_of_isDigit {c : Char} (isDigit : c.isDigit = true) : isShown c = true := by
  simp [isShown, isDigit]

theorem shown_toString (n : Nat) : (toString n).toList.all isShown = true := by
  rw [List.all_eq_true, Nat.toString_eq_repr, Nat.repr_eq_ofList_toDigits, String.toList_ofList]
  exact fun c member =>
    isShown_of_isDigit (Nat.isDigit_of_mem_toDigits (by decide) (by decide) member)

theorem shown_zeros (n : Nat) : (Binary64.zeros n).toList.all isShown = true := by
  rw [List.all_eq_true, Binary64.zeros, String.toList_ofList]
  intro c member
  rw [List.eq_of_mem_replicate member]
  decide

theorem shown_positional (digits : Nat) (power : Int) :
    (Binary64.positional digits power).toList.all isShown = true := by
  have text := shown_toString digits
  have taken : ∀ n,
      (String.ofList ((toString digits).toList.take n)).toList.all isShown = true := by
    intro n
    rw [String.toList_ofList, List.all_eq_true]
    exact fun c member => List.all_eq_true.1 text c (List.mem_of_mem_take member)
  have dropped : ∀ n,
      (String.ofList ((toString digits).toList.drop n)).toList.all isShown = true := by
    intro n
    rw [String.toList_ofList, List.all_eq_true]
    exact fun c member => List.all_eq_true.1 text c (List.mem_of_mem_drop member)
  have point : ".".toList.all isShown = true := by decide
  have zero : "0.".toList.all isShown = true := by decide
  unfold Binary64.positional
  simp only
  split
  · rw [String.toList_append, List.all_append, text, shown_zeros]
    rfl
  · split
    · rw [String.toList_append, String.toList_append, List.all_append, List.all_append, taken,
        dropped, point]
      rfl
    · rw [String.toList_append, String.toList_append, List.all_append, List.all_append, text, zero,
        shown_zeros]
      rfl

theorem shown_signed (x : Binary64) {text : String} (shown : text.toList.all isShown = true) :
    (x.signed text).toList.all isShown = true := by
  have minus : "-".toList.all isShown = true := by decide
  unfold Binary64.signed
  split
  · rw [String.toList_append, List.all_append, minus, shown]
    rfl
  · exact shown

theorem shown_plain (x : Binary64) : x.plain.toList.all isShown = true := by
  unfold Binary64.plain
  split
  · decide
  · split
    · exact shown_signed x (by decide)
    · split
      · exact shown_signed x (by decide)
      · generalize Binary64.shortest x.magnitude = found
        exact shown_signed x (shown_positional found.1 found.2)

theorem isShown_of_shortest {cs : List Char} (shortest : Shortest cs) {c : Char}
    (member : c ∈ cs) : isShown c = true := by
  rcases shortest with rfl | ⟨digits, rfl | rfl, ⟨-, all⟩, -⟩
  · rw [List.mem_singleton.1 member]
    decide
  · exact isShown_of_isDigit (all c member)
  · rcases List.mem_cons.1 member with rfl | inner
    · decide
    · exact isShown_of_isDigit (all c inner)

end PackageInstall.Numeral
