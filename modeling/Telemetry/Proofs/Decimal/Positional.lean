import Mathlib.Data.List.TakeWhile
import Telemetry.Decimal.Layout
import Telemetry.Proofs.Decimal.Shortest

/-! Numbers written out in full. The digits of such a text, read without the point, over the power of
ten of the places behind it are the decimal that was written; so the text of a double rounds to that
double, and no two doubles share a text. -/
namespace Telemetry.Decimal
open Binary64

/-- The digits of a text as one natural, the point left out. -/
def digitsIn (text : List Char) : Nat := Nat.ofDigitChars 10 (text.filter Char.isDigit) 0

/-- How many characters follow the point. -/
def placesIn (text : List Char) : Nat := (text.dropWhile (· ≠ '.')).length - 1

/-- Whether a text has a character that no number has. -/
def isWord (text : String) : Bool := text.toList.any fun c => !(c.isDigit || c = '.' || c = '-')

/-- A layout that writes every finite number out in full, and infinities and NaN as words of their
own. -/
structure Layout.Positional (layout : Layout) : Prop where
  notFrom : layout.scientificFrom = none
  notBelow : layout.scientificBelow = none
  whole : layout.wholeSuffix = ""
  words : [layout.nanText, layout.positiveInfinity, layout.negativeInfinity].all isWord = true
  distinct : [layout.nanText, layout.positiveInfinity, layout.negativeInfinity].Nodup

theorem plain_positional : plain.Positional := by
  constructor <;> decide

theorem signedInfinity_positional : signedInfinity.Positional := by
  constructor <;> decide

/-! ## Digits -/

theorem isDigit_of_mem_digitText (member : c ∈ digitText n) : c.isDigit = true :=
  Nat.isDigit_of_mem_toDigits (by decide) (by decide) member

/-- A whole number is its digits, behind a sign if it is negative. -/
theorem toList_toString (n : Int) :
    (toString n).toList = if n < 0 then '-' :: digitText n.natAbs else digitText n.natAbs := by
  cases n with
  | ofNat m =>
    have sign : ¬ (Int.ofNat m < 0) := Int.not_lt.mpr (Int.natCast_nonneg m)
    rw [if_neg sign]
    exact Nat.toList_repr
  | negSucc m =>
    rw [if_pos (Int.negSucc_lt_zero m)]
    change ("-" ++ Nat.repr (m + 1)).toList = '-' :: digitText (m + 1)
    rw [String.toList_append, Nat.toList_repr]
    rfl

theorem mem_toString {n : Int} (member : c ∈ (toString n).toList) : c.isDigit = true ∨ c = '-' := by
  rw [toList_toString] at member
  split at member
  · rcases List.mem_cons.mp member with sign | digit
    · exact .inr sign
    · exact .inl (isDigit_of_mem_digitText digit)
  · exact .inl (isDigit_of_mem_digitText member)

private theorem ne_point_of_isDigit {c : Char} (digit : c.isDigit = true) : c ≠ '.' := by
  rintro rfl
  exact absurd digit (by decide)

private theorem digitsIn_digits {text : List Char} (digits : ∀ c ∈ text, c.isDigit = true) :
    digitsIn text = Nat.ofDigitChars 10 text 0 := by
  rw [digitsIn, List.filter_eq_self.mpr digits]

private theorem placesIn_digits {text : List Char} (digits : ∀ c ∈ text, c.isDigit = true) :
    placesIn text = 0 := by
  have none : text.dropWhile (· ≠ '.') = [] := by
    rw [List.dropWhile_eq_nil_iff]
    exact fun c member => decide_eq_true (ne_point_of_isDigit (digits c member))
  rw [placesIn, none]
  rfl

private theorem digitsIn_point {whole fraction : List Char}
    (digits : ∀ c ∈ whole ++ fraction, c.isDigit = true) :
    digitsIn (whole ++ '.' :: fraction) = Nat.ofDigitChars 10 (whole ++ fraction) 0 := by
  have point : ('.' : Char).isDigit = false := by decide
  rw [digitsIn, List.filter_append, List.filter_cons, point, if_neg (by decide),
    ← List.filter_append, List.filter_eq_self.mpr digits]

private theorem placesIn_point {whole fraction : List Char}
    (digits : ∀ c ∈ whole ++ fraction, c.isDigit = true) :
    placesIn (whole ++ '.' :: fraction) = fraction.length := by
  have before : ∀ c ∈ whole, decide (c ≠ '.') = true := fun c member =>
    decide_eq_true (ne_point_of_isDigit (digits c (List.mem_append_left _ member)))
  rw [placesIn, List.dropWhile_append_of_pos before]
  simp

/-- Zeros behind the digits multiply by ten, and there are no places. -/
private theorem read_zerosBehind {digits : List Char} (all : ∀ c ∈ digits, c.isDigit = true)
    (zeros : Nat) :
    digitsIn (digits ++ List.replicate zeros '0') = Nat.ofDigitChars 10 digits 0 * 10 ^ zeros ∧
      placesIn (digits ++ List.replicate zeros '0') = 0 := by
  have both : ∀ c ∈ digits ++ List.replicate zeros '0', c.isDigit = true := by
    intro c member
    rcases List.mem_append.mp member with own | zero
    · exact all c own
    · rw [List.eq_of_mem_replicate zero]
      decide
  rw [digitsIn_digits both, Nat.ofDigitChars_append, Nat.ofDigitChars_replicate_zero, Nat.mul_comm]
  exact ⟨rfl, placesIn_digits both⟩

/-- A point among the digits changes nothing but the places. -/
private theorem read_pointAmong {digits : List Char} (all : ∀ c ∈ digits, c.isDigit = true)
    {places : Nat} (inside : places ≤ digits.length) :
    digitsIn (digits.take (digits.length - places) ++ '.' :: digits.drop (digits.length - places)) =
        Nat.ofDigitChars 10 digits 0 ∧
      placesIn (digits.take (digits.length - places) ++ '.' :: digits.drop (digits.length - places)) =
        places := by
  have joined : digits.take (digits.length - places) ++ digits.drop (digits.length - places) = digits :=
    List.take_append_drop _ _
  rw [← joined] at all
  rw [digitsIn_point all, placesIn_point all, joined, List.length_drop]
  exact ⟨rfl, by omega⟩

/-- Zeros between the point and the digits fill the places. -/
private theorem read_zerosBefore {digits : List Char} (all : ∀ c ∈ digits, c.isDigit = true)
    {places : Nat} (outside : digits.length ≤ places) :
    digitsIn ('0' :: '.' :: (List.replicate (places - digits.length) '0' ++ digits)) =
        Nat.ofDigitChars 10 digits 0 ∧
      placesIn ('0' :: '.' :: (List.replicate (places - digits.length) '0' ++ digits)) = places := by
  have both : ∀ c ∈ ['0'] ++ (List.replicate (places - digits.length) '0' ++ digits),
      c.isDigit = true := by
    intro c member
    simp only [List.mem_append, List.mem_singleton] at member
    rcases member with rfl | zero | own
    · decide
    · rw [List.eq_of_mem_replicate zero]
      decide
    · exact all c own
  have zeros : Nat.ofDigitChars 10 (['0'] ++ (List.replicate (places - digits.length) '0' ++ digits)) 0 =
      Nat.ofDigitChars 10 digits 0 := by
    rw [Nat.ofDigitChars_append, Nat.ofDigitChars_append, Nat.ofDigitChars_replicate_zero]
    rfl
  have length := placesIn_point both
  rw [List.length_append, List.length_replicate] at length
  exact ⟨(digitsIn_point both).trans zeros, length.trans (by omega)⟩

/-! ## Decimals -/

/-- The text of a decimal reads as that decimal. -/
theorem positional_spec {layout : Layout} (whole : layout.wholeSuffix = "") (d : Decimal) :
    digitsIn (positional layout d) = numerator d ∧
      10 ^ placesIn (positional layout d) = denominator d := by
  have all (c : Char) (member : c ∈ digitText d.digits) := isDigit_of_mem_digitText member
  have value : Nat.ofDigitChars 10 (digitText d.digits) 0 = d.digits := Nat.ofDigitChars_ten_toDigits
  unfold positional numerator denominator
  dsimp only
  split
  · rename_i large
    obtain ⟨digits, places⟩ := read_zerosBehind all d.exponent.toNat
    rw [whole, String.toList_empty, List.append_nil, digits, places, value,
      show (-d.exponent).toNat = 0 by omega]
    exact ⟨rfl, rfl⟩
  · rename_i small
    rw [show d.exponent.toNat = 0 by omega, Nat.pow_zero, Nat.mul_one]
    split
    · rename_i inside
      obtain ⟨digits, places⟩ := read_pointAmong all (Nat.le_of_lt inside)
      rw [digits, places, value]
      exact ⟨rfl, rfl⟩
    · rename_i outside
      obtain ⟨digits, places⟩ := read_zerosBefore all (Nat.le_of_not_lt outside)
      rw [digits, places, value]
      exact ⟨rfl, rfl⟩

/-- What a number is made of when it is written out in full. -/
theorem mem_positional {layout : Layout} (whole : layout.wholeSuffix = "") {d : Decimal}
    (member : c ∈ positional layout d) : c.isDigit = true ∨ c = '.' := by
  unfold positional at member
  dsimp only at member
  split at member
  · rw [whole, String.toList_empty, List.append_nil] at member
    rcases List.mem_append.mp member with own | zero
    · exact .inl (isDigit_of_mem_digitText own)
    · rw [List.eq_of_mem_replicate zero]
      decide
  · split at member
    · rcases List.mem_append.mp member with own | rest
      · exact .inl (isDigit_of_mem_digitText (List.mem_of_mem_take own))
      · rcases List.mem_cons.mp rest with point | own
        · exact .inr point
        · exact .inl (isDigit_of_mem_digitText (List.mem_of_mem_drop own))
    · simp only [List.mem_cons, List.mem_append] at member
      rcases member with rfl | point | zero | own
      · decide
      · exact .inr point
      · rw [List.eq_of_mem_replicate zero]
        decide
      · exact .inl (isDigit_of_mem_digitText own)

private theorem positional_ne_nil (layout : Layout) (d : Decimal) : positional layout d ≠ [] := by
  have digits : digitText d.digits ≠ [] := Nat.toDigits_ne_nil
  unfold positional
  dsimp only
  split
  · simp [digits]
  · split <;> simp

/-! ## Doubles -/

variable {layout : Layout}

/-- The text of a finite number without its sign. -/
def unsigned (layout : Layout) (quanta : Nat) : List Char :=
  if quanta = 0 then '0' :: layout.wholeSuffix.toList else magnitude layout quanta

theorem magnitude_eq (written : layout.Positional) (quanta : Nat) :
    magnitude layout quanta = positional layout (shortest layout.tie quanta) := by
  simp [magnitude, written.notFrom, written.notBelow]

private theorem mem_unsigned (written : layout.Positional) (member : c ∈ unsigned layout quanta) :
    c.isDigit = true ∨ c = '.' := by
  unfold unsigned at member
  split at member
  · rw [written.whole, String.toList_empty] at member
    rw [List.mem_singleton.mp member]
    decide
  · rw [magnitude_eq written] at member
    exact mem_positional written.whole member

private theorem unsigned_ne_nil (written : layout.Positional) (quanta : Nat) :
    unsigned layout quanta ≠ [] := by
  unfold unsigned
  split
  · exact List.cons_ne_nil _ _
  · rw [magnitude_eq written]
    exact positional_ne_nil _ _

/-- The text of a double rounds to that double. -/
theorem contains_unsigned (written : layout.Positional) (double : IsDouble quanta) :
    (roundingInterval quanta).Contains (digitsIn (unsigned layout quanta))
      (10 ^ placesIn (unsigned layout quanta)) := by
  unfold unsigned
  split
  · rename_i zero
    rw [written.whole, zero]
    have closed : (roundingInterval 0).closed = true := rfl
    have digits : digitsIn ('0' :: "".toList) = 0 := by decide
    have low : (roundingInterval 0).low = 0 := Nat.zero_sub _
    rw [RoundingInterval.Contains, if_pos closed, digits, low, Nat.mul_zero, Nat.zero_mul]
    exact ⟨Nat.le_refl 0, Nat.zero_le _⟩
  · rename_i nonzero
    obtain ⟨digits, places⟩ := positional_spec written.whole (shortest layout.tie quanta)
    rw [magnitude_eq written, digits, places]
    exact contains_shortest layout.tie (Nat.pos_of_ne_zero nonzero) double.onGrid

private theorem eq_of_unsigned (written : layout.Positional) (first : IsDouble p)
    (second : IsDouble q) (same : unsigned layout p = unsigned layout q) : p = q := by
  have own := contains_unsigned written first
  have other := contains_unsigned written second
  rw [← same] at other
  exact eq_of_contains first second (Nat.pow_pos (by decide)) own other

theorem write_finite (negative : Bool) (double : IsDouble quanta) :
    (layout.write (.finite negative quanta double)).toList =
      if negative then '-' :: unsigned layout quanta else unsigned layout quanta := by
  rw [Layout.write, unsigned, String.toList_ofList]

/-- The text of a finite number has nothing but digits, a point and a sign. -/
theorem mem_write_finite (written : layout.Positional) {negative : Bool} {double : IsDouble quanta}
    (member : c ∈ (layout.write (.finite negative quanta double)).toList) :
    c.isDigit = true ∨ c = '.' ∨ c = '-' := by
  rw [write_finite] at member
  cases negative with
  | false =>
    rcases mem_unsigned written member with digit | point
    · exact .inl digit
    · exact .inr (.inl point)
  | true =>
    rcases List.mem_cons.mp member with sign | rest
    · exact .inr (.inr sign)
    · rcases mem_unsigned written rest with digit | point
      · exact .inl digit
      · exact .inr (.inl point)

/-- What digits, the point, the sign and the three words are made of, every number is made of. -/
theorem forall_mem_write (written : layout.Positional) {p : Char → Bool}
    (digits : ∀ c : Char, c.isDigit = true → p c = true) (point : p '.' = true) (sign : p '-' = true)
    (words : ∀ word ∈ [layout.nanText, layout.positiveInfinity, layout.negativeInfinity],
      word.toList.all p = true)
    {x : Binary64} (member : c ∈ (layout.write x).toList) : p c = true := by
  have ofWord {word : String}
      (own : word ∈ [layout.nanText, layout.positiveInfinity, layout.negativeInfinity])
      (inside : c ∈ word.toList) : p c = true := List.all_eq_true.mp (words word own) c inside
  cases x with
  | nan => exact ofWord List.mem_cons_self member
  | infinity negative =>
    cases negative with
    | false => exact ofWord (List.mem_cons_of_mem _ List.mem_cons_self) member
    | true => exact ofWord (List.mem_cons_of_mem _ (List.mem_cons_of_mem _ List.mem_cons_self)) member
  | finite negative quanta double =>
    rcases mem_write_finite written member with digit | rfl | rfl
    · exact digits c digit
    · exact point
    · exact sign

theorem write_finite_ne_empty (written : layout.Positional) (negative : Bool)
    (double : IsDouble quanta) : layout.write (.finite negative quanta double) ≠ "" := by
  intro empty
  have text := congrArg String.toList empty
  rw [write_finite] at text
  cases negative with
  | false => exact unsigned_ne_nil written quanta text
  | true => exact List.cons_ne_nil _ _ text

private theorem write_finite_ne_word (written : layout.Positional) {negative : Bool}
    {double : IsDouble quanta} {word : String}
    (member : word ∈ [layout.nanText, layout.positiveInfinity, layout.negativeInfinity]) :
    layout.write (.finite negative quanta double) ≠ word := by
  rintro rfl
  obtain ⟨c, inside, foreign⟩ := List.any_eq_true.mp (List.all_eq_true.mp written.words _ member)
  rcases mem_write_finite written inside with digit | rfl | rfl
  · simp [digit] at foreign
  · exact absurd foreign (by decide)
  · exact absurd foreign (by decide)

private theorem eq_of_write_finite (written : layout.Positional) {s t : Bool} {first : IsDouble p}
    {second : IsDouble q} (same : layout.write (.finite s p first) = layout.write (.finite t q second)) :
    s = t ∧ p = q := by
  have texts := congrArg String.toList same
  rw [write_finite, write_finite] at texts
  have noSign (quanta : Nat) : '-' ∉ unsigned layout quanta := by
    intro member
    rcases mem_unsigned written member with digit | point
    · exact absurd digit (by decide)
    · exact absurd point (by decide)
  cases s <;> cases t <;> simp only [if_true, Bool.false_eq_true, if_false] at texts
  case false.false => exact ⟨rfl, eq_of_unsigned written first second texts⟩
  case true.true => exact ⟨rfl, eq_of_unsigned written first second (List.cons.inj texts).2⟩
  case false.true => exact absurd (texts ▸ List.mem_cons_self) (noSign p)
  case true.false => exact absurd (texts ▸ List.mem_cons_self) (noSign q)

/-- **Different numbers have different texts**, the zeros of either sign included. -/
theorem write_injective (written : layout.Positional) {a b : Binary64}
    (same : layout.write a = layout.write b) : a = b := by
  have nan : layout.write .nan ∈ [layout.nanText, layout.positiveInfinity, layout.negativeInfinity] :=
    List.mem_cons_self
  have infinity (negative : Bool) : layout.write (.infinity negative) ∈
      [layout.nanText, layout.positiveInfinity, layout.negativeInfinity] := by
    cases negative <;> simp [Layout.write]
  have distinct := written.distinct
  simp only [List.nodup_cons, List.mem_cons, List.not_mem_nil, or_false, not_or] at distinct
  obtain ⟨⟨nanPositive, nanNegative⟩, positiveNegative, -⟩ := distinct
  cases a with
  | nan =>
    cases b with
    | nan => rfl
    | infinity t => cases t <;> simp_all [Layout.write]
    | finite t q second => exact absurd same.symm (write_finite_ne_word written nan)
  | infinity s =>
    cases b with
    | nan => cases s <;> simp_all [Layout.write]
    | infinity t => cases s <;> cases t <;> simp_all [Layout.write]
    | finite t q second => exact absurd same.symm (write_finite_ne_word written (infinity s))
  | finite s p first =>
    cases b with
    | nan => exact absurd same (write_finite_ne_word written nan)
    | infinity t => exact absurd same (write_finite_ne_word written (infinity t))
    | finite t q second =>
      obtain ⟨rfl, rfl⟩ := eq_of_write_finite written same
      rfl

end Telemetry.Decimal
