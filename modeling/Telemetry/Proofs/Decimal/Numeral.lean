import Telemetry.Decimal.Reader
import Telemetry.Proofs.Decimal.Range
import Telemetry.Proofs.Decimal.Rounding
import Telemetry.Proofs.Text.Lines

/-! Numbers with a point or an exponent, read back. Such a text comes apart into the digits before the
point, those behind it and the exponent; the reader puts them together to the decimal that was written,
and rounds it to the double that it was written for. -/
namespace Telemetry.Decimal
open Binary64
variable {c : Char} {quanta n : Nat} {tie : Tie} {layout : Layout}

/-- The exponent of a number as it is spelled. -/
def exponentText (exponent : Int) : List Char :=
  'e' :: (if exponent < 0 then '-' else '+') :: digitText exponent.natAbs

/-- A number taken apart. Without digits behind it there is no point. -/
structure Numeral where
  whole : List Char
  fraction : List Char
  exponent? : Option Int

namespace Numeral

/-- What follows the digits. -/
def tail (numeral : Numeral) : List Char :=
  match numeral.exponent? with
  | none => []
  | some exponent => exponentText exponent

/-- The text of a number. -/
def text (numeral : Numeral) : List Char :=
  numeral.whole ++ ((if numeral.fraction = [] then [] else '.' :: numeral.fraction) ++ numeral.tail)

/-- The digits that count, without zeros in front. -/
def digits (numeral : Numeral) : List Char :=
  (numeral.whole ++ numeral.fraction).dropWhile (· = '0')

/-- The place of the last digit. -/
def place (numeral : Numeral) : Int := numeral.exponent?.getD 0 - numeral.fraction.length

/-- What everybody reads as a number: it has digits before the point, of which a zero is the only one
if it comes first. -/
structure Proper (numeral : Numeral) : Prop where
  whole : ∀ c ∈ numeral.whole, c.isDigit = true
  fraction : ∀ c ∈ numeral.fraction, c.isDigit = true
  some : numeral.whole ≠ []
  leading : numeral.whole = ['0'] ∨ numeral.whole.head? ≠ .some '0'

end Numeral

/-! ## What is read -/

theorem all_isDigit_digitText (n : Nat) : (digitText n).all Char.isDigit = true :=
  List.all_eq_true.mpr fun _ member => isDigit_of_mem_digitText member

theorem digitsValue_digitText (n : Nat) : digitsValue (digitText n) = n :=
  Nat.ofDigitChars_ten_toDigits

private theorem readExponent_exponentText (exponent : Int) :
    readExponent (exponentText exponent) = some exponent := by
  have some : (digitText exponent.natAbs).isEmpty = false :=
    List.isEmpty_eq_false_iff.mpr Nat.toDigits_ne_nil
  by_cases negative : exponent < 0
  · simp only [exponentText, readExponent, if_pos negative, readSign, some,
      all_isDigit_digitText, digitsValue_digitText, true_or, not_true_eq_false, Bool.false_eq_true,
      or_self, if_true, if_false]
    exact congrArg Option.some (by omega)
  · simp only [exponentText, readExponent, if_neg negative, readSign, some,
      all_isDigit_digitText, digitsValue_digitText, true_or, not_true_eq_false, Bool.false_eq_true,
      or_self, if_true, if_false]
    exact congrArg Option.some (by omega)

private theorem readExponent_tail (numeral : Numeral) :
    readExponent numeral.tail = some (numeral.exponent?.getD 0) := by
  unfold Numeral.tail
  split
  · rename_i absent
    rw [absent]
    rfl
  · rename_i exponent present
    rw [present]
    exact readExponent_exponentText exponent

/-- An exponent goes on with neither a digit nor a point. -/
theorem head?_tail (numeral : Numeral) : numeral.tail = [] ∨ ∃ rest, numeral.tail = 'e' :: rest := by
  unfold Numeral.tail
  split
  · exact .inl rfl
  · exact .inr ⟨_, rfl⟩

private theorem isDigit_head?_tail (numeral : Numeral) :
    ∀ c ∈ numeral.tail.head?, c.isDigit = false := by
  rcases head?_tail numeral with none | ⟨rest, mark⟩
  · rw [none]
    exact nofun
  · rw [mark]
    rintro c ⟨⟩
    rfl

/-- Before anything else a proper number has its whole digits. -/
theorem Numeral.Proper.takeWhile_text {numeral : Numeral} (proper : numeral.Proper) :
    numeral.text.takeWhile Char.isDigit = numeral.whole ∧ numeral.text.dropWhile Char.isDigit =
      (if numeral.fraction = [] then [] else '.' :: numeral.fraction) ++ numeral.tail := by
  refine Text.takeWhile_dropWhile_append proper.whole ?_
  split
  · exact isDigit_head?_tail numeral
  · rintro c ⟨⟩
    rfl

/-- A proper number is read as its digits at the place that the last of them has. -/
theorem Numeral.Proper.readUnsigned {numeral : Numeral} (proper : numeral.Proper) (negative : Bool) :
    readUnsigned negative numeral.text =
      .some (nearest negative (digitsValue numeral.digits) numeral.digits.length numeral.place) := by
  have exponent := readExponent_tail numeral
  have notEmpty : numeral.whole.isEmpty = false := List.isEmpty_eq_false_iff.mpr proper.some
  obtain ⟨whole, rest⟩ := proper.takeWhile_text
  unfold Decimal.readUnsigned
  by_cases pointless : numeral.fraction = []
  · rw [if_pos pointless, List.nil_append] at rest
    simp only [whole, rest, Numeral.digits, Numeral.place, pointless]
    rcases head?_tail numeral with none | ⟨spelled, mark⟩
    · rw [none] at exponent ⊢
      simp only [notEmpty, Bool.false_eq_true, false_and, if_false]
      exact congrArg (Option.map _) exponent
    · rw [mark] at exponent ⊢
      simp only [notEmpty, Bool.false_eq_true, false_and, if_false]
      exact congrArg (Option.map _) exponent
  · rw [if_neg pointless, List.cons_append] at rest
    obtain ⟨fraction, tail⟩ := Text.takeWhile_dropWhile_append proper.fraction
      (isDigit_head?_tail numeral)
    simp only [whole, rest, fraction, tail, notEmpty, exponent, Numeral.digits, Numeral.place,
      Bool.false_eq_true, false_and, if_false, Option.map_some]

/-- What a proper number is spelled with. -/
theorem Numeral.Proper.mem_text {numeral : Numeral} (proper : numeral.Proper)
    (member : c ∈ numeral.text) :
    c.isDigit = true ∨ c = '.' ∨ c = 'e' ∨ c = '+' ∨ c = '-' := by
  rcases List.mem_append.mp member with whole | rest
  · exact .inl (proper.whole c whole)
  rcases List.mem_append.mp rest with point | tail
  · split at point
    · cases point
    · rcases List.mem_cons.mp point with mark | fraction
      · exact .inr (.inl mark)
      · exact .inl (proper.fraction c fraction)
  · unfold Numeral.tail at tail
    split at tail
    · cases tail
    · simp only [exponentText, List.mem_cons] at tail
      rcases tail with mark | sign | digit
      · exact .inr (.inr (.inl mark))
      · split at sign
        · exact .inr (.inr (.inr (.inr sign)))
        · exact .inr (.inr (.inr (.inl sign)))
      · exact .inl (isDigit_of_mem_digitText digit)

/-! ## Digits -/

/-- The first digit of a positive number is no zero. -/
theorem head?_digitText (positive : 0 < n) : (digitText n).head? ≠ some '0' := by
  induction n using Nat.strongRecOn with
  | ind n ih =>
    have digits : ∀ k < 10, 0 < k → [k.digitChar].head? ≠ some '0' := by decide
    by_cases single : n < 10
    · rw [digitText, Nat.toDigits_of_lt_base single]
      exact digits n single positive
    · obtain ⟨first, rest, split⟩ := List.exists_cons_of_ne_nil
        (Nat.toDigits_ne_nil : Nat.toDigits 10 (n / 10) ≠ [])
      have prefixed := ih (n / 10) (by omega) (by omega)
      rw [digitText, split] at prefixed
      rw [digitText, Nat.toDigits_of_base_le (by decide) (Nat.le_of_not_lt single), split]
      exact prefixed

private theorem dropWhile_zeros (count : Nat) {digits : List Char} (first : digits.head? ≠ some '0') :
    (List.replicate count '0' ++ digits).dropWhile (· = '0') = digits := by
  rw [List.dropWhile_append_of_pos fun c member => decide_eq_true (List.eq_of_mem_replicate member)]
  cases digits with
  | nil => rfl
  | cons c rest =>
    have other : c ≠ '0' := fun same => first (by rw [same]; rfl)
    simp [other]

/-- The digits of a decimal with zeros behind them. -/
def padded (d : Decimal) (zeros : Nat) : List Char :=
  digitText d.digits ++ List.replicate zeros '0'

private theorem digitsValue_padded (d : Decimal) (zeros : Nat) :
    digitsValue (padded d zeros) = d.digits * 10 ^ zeros := by
  change Nat.ofDigitChars 10 (padded d zeros) 0 = d.digits * 10 ^ zeros
  rw [padded, Nat.ofDigitChars_append, Nat.ofDigitChars_replicate_zero, Nat.mul_comm]
  exact congrArg (· * 10 ^ zeros) (digitsValue_digitText d.digits)

private theorem head?_padded {d : Decimal} (positive : 0 < d.digits) (zeros : Nat) :
    (padded d zeros).head? ≠ some '0' := by
  have first := head?_digitText positive
  have some : digitText d.digits ≠ [] := Nat.toDigits_ne_nil
  obtain ⟨digit, rest, split⟩ := List.exists_cons_of_ne_nil some
  rw [split] at first
  rw [padded, split]
  exact first

private theorem dropWhile_padded {d : Decimal} (positive : 0 < d.digits) (before zeros : Nat) :
    (List.replicate before '0' ++ padded d zeros).dropWhile (· = '0') = padded d zeros :=
  dropWhile_zeros before (head?_padded positive zeros)

/-- The digits of the shortest decimal of a double, at their place, are read as that double. -/
theorem nearest_shortest (negative : Bool) (positive : 0 < quanta) (double : IsDouble quanta)
    (zeros : Nat) :
    nearest negative (digitsValue (padded (shortest tie quanta) zeros))
      (padded (shortest tie quanta) zeros).length ((shortest tie quanta).exponent - zeros) =
        .finite negative quanta double := by
  have contains := contains_shortest tie positive double.onGrid
  obtain ⟨digits, last, first⟩ := shortest_inRange tie positive double
  rw [numerator, denominator] at contains
  generalize shortest tie quanta = d at contains digits last first ⊢
  have length : (padded d zeros).length = (digitText d.digits).length + zeros := by
    rw [padded, List.length_append, List.length_replicate]
  have some : 0 < (digitText d.digits).length := Nat.length_toDigits_pos
  have first : d.exponent + (digitText d.digits).length ≤ 310 := first
  have moved : d.exponent = d.exponent - zeros + zeros := by omega
  rw [moved] at contains
  rw [digitsValue_padded, length, nearest,
    if_neg (Nat.ne_of_gt (Nat.mul_pos digits (Nat.pow_pos (by decide)))),
    if_neg (by rw [exponentBound]; omega), if_neg (by rw [exponentBound]; omega)]
  exact round_of_contains negative double (Nat.pow_pos (by decide)) (contains_zeros_iff.mpr contains)

/-! ## What is written -/

/-- A number spells a decimal: its digits are those of the decimal, maybe with zeros behind them, and
their place is the same. It has a point or an exponent, so nobody takes it for a whole number. -/
structure Numeral.Spells (numeral : Numeral) (d : Decimal) : Prop where
  proper : numeral.Proper
  marked : numeral.fraction ≠ [] ∨ numeral.exponent? ≠ none
  value : ∃ zeros : Nat, numeral.digits = padded d zeros ∧ numeral.place = d.exponent - zeros

variable {d : Decimal}

private theorem padded_zero (d : Decimal) : padded d 0 = digitText d.digits := List.append_nil _

private theorem isDigit_of_mem_zeros (zeros : Nat) (member : c ∈ List.replicate zeros '0') :
    c.isDigit = true := by
  rw [List.eq_of_mem_replicate member]
  decide

private theorem isDigit_of_mem_padded {zeros : Nat} (member : c ∈ padded d zeros) :
    c.isDigit = true := by
  rcases List.mem_append.mp member with digit | zero
  · exact isDigit_of_mem_digitText digit
  · exact isDigit_of_mem_zeros _ zero

/-- A whole number, with a point and a zero behind it. -/
private theorem spells_whole (positive : 0 < d.digits) (large : 0 ≤ d.exponent) :
    (⟨padded d d.exponent.toNat, ['0'], none⟩ : Numeral).Spells d where
  proper := {
    whole := fun _ member => isDigit_of_mem_padded member
    fraction := fun _ member => isDigit_of_mem_zeros 1 member
    some := List.append_ne_nil_of_left_ne_nil Nat.toDigits_ne_nil _
    leading := .inr (head?_padded positive _) }
  marked := .inl (List.cons_ne_nil _ _)
  value := by
    refine ⟨d.exponent.toNat + 1, ?_, ?_⟩
    · have more : padded d d.exponent.toNat ++ ['0'] = padded d (d.exponent.toNat + 1) := by
        rw [padded, padded, List.replicate_succ', List.append_assoc]
      rw [Numeral.digits, more]
      exact dropWhile_padded positive 0 _
    · simp only [Numeral.place, Option.getD_none, List.length_singleton]
      omega

/-- A number with its point among the digits. -/
private theorem spells_pointAmong (positive : 0 < d.digits) (small : d.exponent < 0)
    (inside : (-d.exponent).toNat < (digitText d.digits).length) :
    (⟨(digitText d.digits).take ((digitText d.digits).length - (-d.exponent).toNat),
      (digitText d.digits).drop ((digitText d.digits).length - (-d.exponent).toNat), none⟩ :
        Numeral).Spells d := by
  have behind : (digitText d.digits).drop ((digitText d.digits).length - (-d.exponent).toNat) ≠ [] := by
    rw [Ne, List.drop_eq_nil_iff]
    omega
  have before : (digitText d.digits).length - (-d.exponent).toNat ≠ 0 := by omega
  have head := List.head?_take (l := digitText d.digits)
    (i := (digitText d.digits).length - (-d.exponent).toNat)
  rw [if_neg before] at head
  refine ⟨⟨fun _ member => isDigit_of_mem_digitText (List.mem_of_mem_take member),
    fun _ member => isDigit_of_mem_digitText (List.mem_of_mem_drop member), ?_, .inr ?_⟩,
    .inl behind, 0, ?_, ?_⟩
  · rw [Ne, List.take_eq_nil_iff, not_or]
    exact ⟨before, Nat.toDigits_ne_nil⟩
  · rw [head]
    exact head?_digitText positive
  · rw [Numeral.digits, List.take_append_drop, ← padded_zero]
    exact dropWhile_padded positive 0 0
  · simp only [Numeral.place, Option.getD_none, List.length_drop]
    omega

/-- A number below one, with zeros between the point and its digits. -/
private theorem spells_zerosBefore (positive : 0 < d.digits) (small : d.exponent < 0)
    (outside : (digitText d.digits).length ≤ (-d.exponent).toNat) :
    (⟨['0'], List.replicate ((-d.exponent).toNat - (digitText d.digits).length) '0' ++
      digitText d.digits, none⟩ : Numeral).Spells d := by
  refine ⟨⟨fun _ member => isDigit_of_mem_zeros 1 member, fun c member => ?_,
    List.cons_ne_nil _ _, .inl rfl⟩,
    .inl (List.append_ne_nil_of_right_ne_nil _ Nat.toDigits_ne_nil), 0, ?_, ?_⟩
  · rcases List.mem_append.mp member with zero | digit
    · exact isDigit_of_mem_zeros _ zero
    · exact isDigit_of_mem_digitText digit
  · have kept := dropWhile_padded positive
      ((-d.exponent).toNat - (digitText d.digits).length + 1) 0
    rw [padded_zero] at kept ⊢
    exact kept
  · simp only [Numeral.place, Option.getD_none, List.length_append, List.length_replicate]
    omega

/-- A number with one digit before the point and an exponent. -/
private theorem spells_scientific (positive : 0 < d.digits) {first : Char} {rest : List Char}
    (split : digitText d.digits = first :: rest) :
    (⟨[first], rest, some (rest.length + d.exponent)⟩ : Numeral).Spells d := by
  have all : ∀ c ∈ first :: rest, c.isDigit = true := fun c member =>
    isDigit_of_mem_digitText (split ▸ member)
  have head := head?_digitText positive
  rw [split] at head
  refine ⟨⟨fun c member => all c (List.mem_cons.mpr (.inl (List.mem_singleton.mp member))),
    fun c member => all c (List.mem_cons_of_mem _ member), List.cons_ne_nil _ _, .inr head⟩,
    .inr (Option.some_ne_none _), 0, ?_, ?_⟩
  · rw [Numeral.digits, List.singleton_append, ← split, ← padded_zero]
    exact dropWhile_padded positive 0 0
  · simp only [Numeral.place, Option.getD_some]
    omega

private theorem text_of_point {whole fraction : List Char} (some : fraction ≠ []) :
    (⟨whole, fraction, none⟩ : Numeral).text = whole ++ '.' :: fraction := by
  rw [Numeral.text, if_neg some]
  exact congrArg (whole ++ ·) (List.append_nil _)

private theorem exists_spells_positional (suffix : layout.wholeSuffix = ".0")
    (positive : 0 < d.digits) :
    ∃ numeral : Numeral, numeral.text = positional layout d ∧ numeral.Spells d := by
  unfold positional
  dsimp only
  split
  · rename_i large
    refine ⟨_, ?_, spells_whole positive large⟩
    rw [suffix]
    rfl
  · rename_i small
    have small : d.exponent < 0 := Int.lt_of_not_ge small
    split
    · rename_i inside
      have spells := spells_pointAmong positive small inside
      exact ⟨_, text_of_point (spells.marked.resolve_right fun other => other rfl), spells⟩
    · rename_i outside
      have spells := spells_zerosBefore positive small (Nat.le_of_not_lt outside)
      exact ⟨_, text_of_point (spells.marked.resolve_right fun other => other rfl), spells⟩

private theorem exists_spells_scientific (positive : 0 < d.digits) :
    ∃ numeral : Numeral,
      numeral.text = scientific d ((digitText d.digits).length - 1 + d.exponent) ∧
        numeral.Spells d := by
  have some : digitText d.digits ≠ [] := Nat.toDigits_ne_nil
  obtain ⟨first, rest, split⟩ := List.exists_cons_of_ne_nil some
  have place : ((digitText d.digits).length : Int) - 1 + d.exponent = rest.length + d.exponent := by
    rw [split, List.length_cons]
    omega
  refine ⟨_, ?_, spells_scientific positive split⟩
  rw [place, scientific, split]
  cases rest <;> rfl

private theorem exists_spells_magnitude (suffix : layout.wholeSuffix = ".0") (positive : 0 < quanta)
    (double : IsDouble quanta) :
    ∃ numeral : Numeral, numeral.text = magnitude layout quanta ∧
      numeral.Spells (shortest layout.tie quanta) := by
  have digits := digits_pos layout.tie positive double.onGrid
  unfold magnitude
  dsimp only
  split
  · exact exists_spells_scientific digits
  · exact exists_spells_positional suffix digits

/-- **Every finite number is read back**: its text without the sign is a number that nobody takes for a
whole one, and that reads as the very double with whatever sign. -/
theorem exists_numeral_unsigned (layout : Layout) (suffix : layout.wholeSuffix = ".0")
    (double : IsDouble quanta) :
    ∃ numeral : Numeral, numeral.text = unsigned layout quanta ∧ numeral.Proper ∧
      (numeral.fraction ≠ [] ∨ numeral.exponent? ≠ none) ∧
      ∀ negative, readUnsigned negative numeral.text = some (.finite negative quanta double) := by
  unfold unsigned
  split
  · rename_i zero
    subst zero
    have zeros : ∀ c ∈ ['0'], c.isDigit = true := fun _ member => isDigit_of_mem_zeros 1 member
    have proper : (⟨['0'], ['0'], none⟩ : Numeral).Proper :=
      ⟨zeros, zeros, List.cons_ne_nil _ _, .inl rfl⟩
    refine ⟨_, ?_, proper, .inl (List.cons_ne_nil _ _), fun negative => ?_⟩
    · rw [suffix]
      rfl
    · rw [proper.readUnsigned]
      rfl
  · rename_i nonzero
    have positive := Nat.pos_of_ne_zero nonzero
    obtain ⟨numeral, text, spells⟩ := exists_spells_magnitude suffix positive double
    obtain ⟨zeros, digits, place⟩ := spells.value
    refine ⟨numeral, text, spells.proper, spells.marked, fun negative => ?_⟩
    rw [spells.proper.readUnsigned, digits, place, nearest_shortest negative positive double]

end Telemetry.Decimal
