import Telemetry.Proofs.Text.Blank
import Telemetry.Settings.Value

/-! What the values of settings have to look like. Numbers and durations are read exactly where they
are written by their rules, and as what these rules say that they denote. -/
namespace Telemetry

/-! ## Numbers -/

/-- A text writes a number: in decimal digits, perhaps behind a plus sign. -/
def WritesNumber (text : List Char) (n : Nat) : Prop :=
  ∃ sign digits, text = sign ++ digits ∧ (sign = [] ∨ sign = ['+']) ∧ digits ≠ [] ∧
    (∀ c ∈ digits, c.isDigit = true) ∧ Nat.ofDigitChars 10 digits 0 = n

/-- The number that digits without a sign denote. -/
def readDigits? (bound : Nat) (digits : List Char) : Option Nat :=
  if digits.isEmpty || !digits.all Char.isDigit then none
  else if Nat.ofDigitChars 10 digits 0 < bound then some (Nat.ofDigitChars 10 digits 0) else none

private theorem readNumber?_plus (bound : Nat) (digits : List Char) :
    readNumber? bound ('+' :: digits) = readDigits? bound digits := rfl

private theorem readNumber?_of_head_ne {text : List Char} (unsigned : text.head? ≠ some '+')
    (bound : Nat) : readNumber? bound text = readDigits? bound text := by
  unfold readNumber?
  split
  · exact absurd rfl unsigned
  · rfl

theorem readDigits?_eq_some_iff {bound n : Nat} {digits : List Char} :
    readDigits? bound digits = some n ↔
      (digits ≠ [] ∧ (∀ c ∈ digits, c.isDigit = true) ∧ Nat.ofDigitChars 10 digits 0 = n) ∧
        n < bound := by
  have proper : (digits.isEmpty || !digits.all Char.isDigit) = false ↔
      digits ≠ [] ∧ ∀ c ∈ digits, c.isDigit = true := by
    simp [List.isEmpty_eq_false_iff]
  unfold readDigits?
  cases refused : digits.isEmpty || !digits.all Char.isDigit with
  | true =>
    rw [if_pos rfl]
    refine ⟨nofun, fun written => ?_⟩
    rw [proper.mpr ⟨written.1.1, written.1.2.1⟩] at refused
    cases refused
  | false =>
    obtain ⟨some, all⟩ := proper.mp refused
    rw [if_neg Bool.false_ne_true]
    by_cases below : Nat.ofDigitChars 10 digits 0 < bound
    · rw [if_pos below, Option.some.injEq]
      exact ⟨fun same => ⟨⟨some, all, same⟩, same ▸ below⟩, fun written => written.1.2.2⟩
    · rw [if_neg below]
      refine ⟨nofun, ?_⟩
      rintro ⟨⟨-, -, rfl⟩, low⟩
      exact absurd low below

private theorem head?_ne_plus_of_digits {digits : List Char} (all : ∀ c ∈ digits, c.isDigit = true) :
    digits.head? ≠ some '+' := by
  intro plus
  exact absurd (all '+' (List.mem_of_mem_head? plus)) (by decide)

/-- A number is read exactly if it is written, and below the bound. -/
theorem readNumber?_eq_some_iff {bound n : Nat} {text : List Char} :
    readNumber? bound text = some n ↔ WritesNumber text n ∧ n < bound := by
  constructor
  · intro read
    by_cases plus : text.head? = some '+'
    · obtain ⟨digits, rfl⟩ := List.head?_eq_some_iff.mp plus
      rw [readNumber?_plus, readDigits?_eq_some_iff] at read
      exact ⟨⟨['+'], digits, rfl, .inr rfl, read.1⟩, read.2⟩
    · rw [readNumber?_of_head_ne plus, readDigits?_eq_some_iff] at read
      exact ⟨⟨[], text, rfl, .inl rfl, read.1⟩, read.2⟩
  · rintro ⟨⟨sign, digits, rfl, rfl | rfl, proper⟩, below⟩
    · rw [List.nil_append, readNumber?_of_head_ne (head?_ne_plus_of_digits proper.2.1)]
      exact readDigits?_eq_some_iff.mpr ⟨proper, below⟩
    · exact readDigits?_eq_some_iff.mpr ⟨proper, below⟩

/-- Digits are seen, and no letter is one. -/
private theorem isBlank_of_isDigit {c : Char} (digit : c.isDigit = true) :
    Text.isBlank c = false := by
  rw [Char.isDigit, Bool.and_eq_true, decide_eq_true_eq, decide_eq_true_eq] at digit
  have low : 48 ≤ c.toNat := digit.1
  have high : c.toNat ≤ 57 := digit.2
  simp only [Text.isBlank, Text.CodePoints.has, Text.CodePoints.hasCode, Text.blanks, List.any_cons,
    List.any_nil, Bool.or_false, Bool.or_eq_false_iff, Bool.and_eq_false_iff,
    decide_eq_false_iff_not]
  omega

theorem WritesNumber.isDigit_getLast {text : List Char} {n : Nat} (writes : WritesNumber text n) :
    ∃ front last, text = front ++ [last] ∧ last.isDigit = true := by
  obtain ⟨sign, digits, rfl, -, some, all, -⟩ := writes
  refine ⟨sign ++ digits.dropLast, digits.getLast some, ?_, all _ (List.getLast_mem some)⟩
  rw [List.append_assoc, List.dropLast_concat_getLast]

theorem WritesNumber.trimmed {text : List Char} {n : Nat} (writes : WritesNumber text n) :
    Text.Trimmed text := by
  constructor
  · obtain ⟨sign, digits, rfl, rfl | rfl, -, all, -⟩ := writes
    · exact fun c head => isBlank_of_isDigit (all c (List.mem_of_mem_head? head))
    · rintro c ⟨⟩
      decide
  · obtain ⟨front, last, rfl, digit⟩ := writes.isDigit_getLast
    intro c isLast
    rw [List.getLast?_concat] at isLast
    cases isLast
    exact isBlank_of_isDigit digit

/-! ## Durations -/

/-- A text writes a duration: a number, then perhaps a unit, with or without white space between; a
number alone counts seconds. Case does not matter, nor does white space around the text, and what is
longer than a word of milliseconds is cut to that. -/
def WritesDuration (text : String) (duration : Duration) : Prop :=
  ∃ number blanks unit n millis,
    Text.lowerCase (Text.trim text.toList) = number ++ blanks ++ unit ∧
    WritesNumber number n ∧ n < 2 ^ 64 ∧ (∀ c ∈ blanks, Text.isBlank c = true) ∧
    ((∃ name, (name, millis) ∈ durationUnits ∧ unit = name.toList) ∨
      blanks = [] ∧ unit = [] ∧ millis = 1000) ∧
    duration = .ofMilliseconds (min (n * millis) (2 ^ 64 - 1))

theorem stripEnd?_eq_some_iff {ending text front : List Char} :
    stripEnd? ending text = some front ↔ text = front ++ ending := by
  unfold stripEnd?
  constructor
  · intro stripped
    split at stripped
    · rename_i isSuffix
      obtain ⟨start, rfl⟩ := List.isSuffixOf_iff_suffix.mp isSuffix
      simpa using stripped
    · cases stripped
  · rintro rfl
    have isSuffix : ending.isSuffixOf (front ++ ending) = true :=
      List.isSuffixOf_iff_suffix.mpr (List.suffix_append front ending)
    simp [isSuffix]

/-- A unit is split off, or none is there and the number counts seconds. -/
private theorem splitUnit_cases {text front : List Char} {millis : Nat}
    (split : splitUnit text = (front, millis)) :
    (∃ name, (name, millis) ∈ durationUnits ∧ text = front ++ name.toList) ∨
      front = text ∧ millis = 1000 := by
  unfold splitUnit at split
  generalize found : durationUnits.findSome? _ = answer at split
  cases answer with
  | none =>
    cases split
    exact .inr ⟨rfl, rfl⟩
  | some answer =>
    obtain ⟨⟨name, millis⟩, isUnit, mapped⟩ := List.exists_of_findSome?_eq_some found
    obtain ⟨rest, stripped, rfl⟩ : ∃ front, stripEnd? name.toList text = some front ∧
        (front, millis) = answer := Option.map_eq_some_iff.mp mapped
    cases split
    exact .inl ⟨name, isUnit, stripEnd?_eq_some_iff.mp stripped⟩

private theorem stripEnd?_append (front ending : List Char) :
    stripEnd? ending (front ++ ending) = some front :=
  stripEnd?_eq_some_iff.mpr rfl

/-- An ending that ends otherwise is not there. -/
theorem stripEnd?_of_last_ne {last other : Char} (apart : last ≠ other) (front ending : List Char) :
    stripEnd? (ending ++ [other]) (front ++ [last]) = none := by
  cases stripped : stripEnd? (ending ++ [other]) (front ++ [last]) with
  | none => rfl
  | some rest =>
    rw [stripEnd?_eq_some_iff, ← List.append_assoc] at stripped
    exact absurd (List.append_inj' stripped rfl).2 (by simpa using apart)

/-- A text that ends in a digit has no unit. -/
theorem splitUnit_of_isDigit {front : List Char} {last : Char} (digit : last.isDigit = true) :
    splitUnit (front ++ [last]) = (front ++ [last], 1000) := by
  have apart (letter : Char) (isLetter : letter.isDigit = false) : last ≠ letter := by
    rintro rfl
    rw [digit] at isLetter
    cases isLetter
  have millis : stripEnd? "ms".toList (front ++ [last]) = none :=
    stripEnd?_of_last_ne (apart 's' rfl) front ['m']
  have seconds : stripEnd? "s".toList (front ++ [last]) = none :=
    stripEnd?_of_last_ne (apart 's' rfl) front []
  have minutes : stripEnd? "m".toList (front ++ [last]) = none :=
    stripEnd?_of_last_ne (apart 'm' rfl) front []
  have hours : stripEnd? "h".toList (front ++ [last]) = none :=
    stripEnd?_of_last_ne (apart 'h' rfl) front []
  simp only [splitUnit, durationUnits, List.findSome?_cons, List.findSome?_nil, millis, seconds,
    minutes, hours, Option.map_none, Option.getD_none]

/-- A unit is split off whole, unless it is the end of a longer one. -/
theorem splitUnit_append {front : List Char} {name : String} {millis : Nat}
    (isUnit : (name, millis) ∈ durationUnits) (apart : front.getLast? ≠ some 'm') :
    splitUnit (front ++ name.toList) = (front, millis) := by
  have own := stripEnd?_append front name.toList
  simp only [durationUnits, List.mem_cons, Prod.mk.injEq, List.not_mem_nil, or_false] at isUnit
  obtain ⟨rfl, rfl⟩ | ⟨rfl, rfl⟩ | ⟨rfl, rfl⟩ | ⟨rfl, rfl⟩ := isUnit
  · simp only [splitUnit, durationUnits, List.findSome?_cons, own, Option.map_some, Option.getD_some]
  · -- The longer unit would need its first letter before the shorter one.
    have millis : stripEnd? "ms".toList (front ++ "s".toList) = none := by
      cases stripped : stripEnd? "ms".toList (front ++ "s".toList) with
      | none => rfl
      | some rest =>
        have same : front ++ ['s'] = rest ++ ['m'] ++ ['s'] := by
          simpa using stripEnd?_eq_some_iff.mp stripped
        rw [(List.append_inj' same rfl).1, List.getLast?_concat] at apart
        exact absurd rfl apart
    simp only [splitUnit, durationUnits, List.findSome?_cons, millis, own, Option.map_none,
      Option.map_some, Option.getD_some]
  · have millis : stripEnd? "ms".toList (front ++ "m".toList) = none :=
      stripEnd?_of_last_ne (by decide) front ['m']
    have seconds : stripEnd? "s".toList (front ++ "m".toList) = none :=
      stripEnd?_of_last_ne (by decide) front []
    simp only [splitUnit, durationUnits, List.findSome?_cons, millis, seconds, own,
      Option.map_none, Option.map_some, Option.getD_some]
  · have millis : stripEnd? "ms".toList (front ++ "h".toList) = none :=
      stripEnd?_of_last_ne (by decide) front ['m']
    have seconds : stripEnd? "s".toList (front ++ "h".toList) = none :=
      stripEnd?_of_last_ne (by decide) front []
    have minutes : stripEnd? "m".toList (front ++ "h".toList) = none :=
      stripEnd?_of_last_ne (by decide) front []
    simp only [splitUnit, durationUnits, List.findSome?_cons, millis, seconds, minutes, own,
      Option.map_none, Option.map_some, Option.getD_some]

/-- A number with white space behind it does not end in a letter. -/
theorem WritesNumber.getLast?_append_ne {number blanks : List Char} {n : Nat}
    (writes : WritesNumber number n) (blank : ∀ c ∈ blanks, Text.isBlank c = true) :
    (number ++ blanks).getLast? ≠ some 'm' := by
  intro isLast
  rw [List.getLast?_append, Option.or_eq_some_iff] at isLast
  rcases isLast with behind | ⟨-, own⟩
  · exact absurd (blank 'm' (List.mem_of_getLast? behind)) (by decide)
  · obtain ⟨front, last, rfl, digit⟩ := writes.isDigit_getLast
    rw [List.getLast?_concat, Option.some.injEq] at own
    subst own
    exact absurd digit (by decide)

/-- A duration is read exactly if it is written. -/
theorem Duration.read?_eq_some_iff {text : String} {duration : Duration} :
    Duration.read? text = some duration ↔ WritesDuration text duration := by
  have trimmed : Text.Trimmed (Text.lowerCase (Text.trim text.toList)) :=
    (Text.trimmed_trim text.toList).lowerCase
  rw [WritesDuration]
  generalize lowered : Text.lowerCase (Text.trim text.toList) = low at trimmed ⊢
  constructor
  · intro read
    rcases split : splitUnit low with ⟨front, millis⟩
    simp only [Duration.read?, lowered, split, Option.map_eq_some_iff, readNumber?_eq_some_iff]
      at read
    obtain ⟨n, ⟨writes, bound⟩, rfl⟩ := read
    rcases splitUnit_cases split with ⟨name, isUnit, rfl⟩ | ⟨rfl, rfl⟩
    · obtain ⟨blanks, blank, cut⟩ := Text.exists_blanks_of_trimEnd front
      -- A number is in front, so no white space is cut off there.
      have seen : front.dropWhile Text.isBlank = front := by
        refine Text.dropWhile_blank_eq_self fun c head => trimmed.1 c ?_
        rw [List.head?_append, head]
        rfl
      rw [Text.trim, seen] at writes
      exact ⟨_, blanks, name.toList, n, millis, by rw [← cut], writes, bound, blank,
        .inl ⟨name, isUnit, rfl⟩, rfl⟩
    · rw [trimmed.trim_eq] at writes
      exact ⟨front, [], [], n, 1000, by simp, writes, bound, List.forall_mem_nil _,
        .inr ⟨rfl, rfl, rfl⟩, rfl⟩
  · rintro ⟨number, blanks, unit, n, millis, rfl, writes, bound, blank, units, rfl⟩
    have split : splitUnit (number ++ blanks ++ unit) = (number ++ blanks, millis) := by
      rcases units with ⟨name, isUnit, rfl⟩ | ⟨rfl, rfl, rfl⟩
      · exact splitUnit_append isUnit (writes.getLast?_append_ne blank)
      · obtain ⟨front, last, rfl, digit⟩ := writes.isDigit_getLast
        rw [List.append_nil, List.append_nil]
        exact splitUnit_of_isDigit digit
    have number := readNumber?_eq_some_iff.mpr ⟨writes, bound⟩
    simp only [Duration.read?, lowered, split, writes.trimmed.trim_append blank, number,
      Option.map_some]
    rfl

/-! ## Flags -/

/-- A text writes a flag: one of the words for it, in any case and with white space around it. -/
def WritesFlag (text : String) (flag : Bool) : Prop :=
  String.ofList (Text.lowerCase (Text.trim text.toList)) ∈
    if flag then ["true", "1", "yes", "on"] else ["false", "0", "no", "off"]

/-- A flag is read exactly if it is written. -/
theorem readFlag?_eq_some_iff {text : String} {flag : Bool} :
    readFlag? text = some flag ↔ WritesFlag text flag := by
  unfold readFlag? WritesFlag
  generalize String.ofList (Text.lowerCase (Text.trim text.toList)) = word
  by_cases isTrue : word ∈ ["true", "1", "yes", "on"]
  · -- No word says both.
    have notFalse : word ∉ ["false", "0", "no", "off"] := by
      intro isFalse
      revert isTrue isFalse
      simp only [List.mem_cons, List.not_mem_nil, or_false]
      rintro (rfl | rfl | rfl | rfl) <;> decide
    cases flag <;> simp [isTrue, notFalse]
  · by_cases isFalse : word ∈ ["false", "0", "no", "off"] <;> cases flag <;>
      simp [isTrue, isFalse]

end Telemetry
