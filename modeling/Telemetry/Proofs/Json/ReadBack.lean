import Telemetry.Proofs.Decimal.Numeral
import Telemetry.Proofs.Json.Reader

/-! Documents, read back. Every document is read as it was written, whatever its strings hold; only
numbers that are not finite, which have no text, come back as `null`. -/
namespace Telemetry.Json
open Decimal (digitText Numeral)
variable {c : Char} {word rest : List Char} {value : Json}

/-! ## Strings -/

private theorem hexDigits_eq {n : Nat} (small : n < 32) :
    coded? '0' '0' (Nat.digitChar (n / 16)) (Nat.digitChar (n % 16)) = some (Char.ofNat n) := by
  revert n
  decide +kernel

private theorem string?_coded {a b c d char : Char} (code : coded? a b c d = some char)
    (rest : List Char) :
    string? ('\\' :: 'u' :: a :: b :: c :: d :: rest) = (string? rest).map (onto char) := by
  rw [string?.eq_def]
  simp [code]

private theorem string?_escaped {kind char : Char} (stands : escaped? kind = some char)
    (letter : kind ≠ 'u') (rest : List Char) :
    string? ('\\' :: kind :: rest) = (string? rest).map (onto char) := by
  rw [string?.eq_def]
  simp [stands, letter]

private theorem string?_plain (noQuote : c ≠ '"') (noBackslash : c ≠ '\\')
    (printable : ¬ c.toNat < 0x20) (rest : List Char) :
    string? (c :: rest) = (string? rest).map (onto c) := by
  rw [string?.eq_def]
  simp [noQuote, noBackslash, printable]

/-- A character is read back, however it is written. -/
private theorem string?_escapeChar (c : Char) (rest : List Char) :
    string? (escapeChar c ++ rest) = (string? rest).map (onto c) := by
  unfold escapeChar
  split
  case h_8 noQuote noBackslash _ _ _ _ _ =>
    split
    · rename_i control
      have code := hexDigits_eq control
      rw [Char.ofNat_toNat] at code
      exact string?_coded code rest
    · rename_i printable
      exact string?_plain noQuote noBackslash printable rest
  all_goals exact string?_escaped rfl (by decide) rest

private theorem string?_body (chars rest : List Char) :
    string? (chars.flatMap escapeChar ++ '"' :: rest) = some (chars, rest) := by
  induction chars with
  | nil =>
    rw [List.flatMap_nil, string?.eq_def]
    simp
  | cons c more ih =>
    rw [List.flatMap_cons, List.append_assoc, string?_escapeChar, ih]
    rfl

/-! ## Words -/

private theorem isInWord_of_isDigit (digit : c.isDigit = true) : isInWord c = true := by
  have others : ∀ other : Char, other.isDigit = false → c ≠ other := by
    rintro _ notDigit rfl
    rw [digit] at notDigit
    cases notDigit
  have unmarked : mark? c = none := by
    unfold mark?
    split
    case h_7 => rfl
    all_goals exact absurd digit (by decide)
  have blank : isBlank c = false := by
    simp [isBlank, others]
  rw [isInWord, blank, unmarked]
  simp [others '"' rfl]

private theorem tokens?_word (inWord : ∀ c ∈ word, isInWord c = true)
    (read : scalar? word = some value) (apart : ∀ c ∈ rest.head?, isInWord c = false) :
    tokens? (word ++ rest) = (tokens? rest).map (.scalar value :: ·) := by
  cases word with
  | nil => cases read
  | cons c more =>
    have first := inWord c List.mem_cons_self
    obtain ⟨own, left⟩ := Text.takeWhile_dropWhile_append
      (fun d member => inWord d (List.mem_cons_of_mem _ member)) apart
    simp only [isInWord, Bool.and_eq_true, Bool.not_eq_true', decide_eq_true_eq,
      Option.isNone_iff_eq_none] at first
    obtain ⟨⟨notBlank, notQuote⟩, unmarked⟩ := first
    rw [List.cons_append, tokens?, if_neg (by simp [notBlank]), if_neg notQuote]
    simp only [unmarked, own, left, read]

/-! ## Numbers -/

private theorem isInWord_of_mem_text {numeral : Numeral} (proper : numeral.Proper)
    (member : c ∈ numeral.text) : isInWord c = true := by
  rcases proper.mem_text member with digit | rfl | rfl | rfl | rfl
  · exact isInWord_of_isDigit digit
  all_goals decide

/-- A proper number has the grammar of a number. -/
theorem isGrammatical_text {numeral : Numeral} (proper : numeral.Proper) :
    isGrammatical numeral.text = true := by
  obtain ⟨whole, rest⟩ := proper.takeWhile_text
  have leading : (numeral.whole = ['0'] || !numeral.whole.isEmpty &&
      numeral.whole.head? ≠ some '0') = true := by
    have some := List.isEmpty_eq_false_iff.mpr proper.some
    rcases proper.leading with zero | other
    · simp [zero]
    · simp [some, other]
  unfold isGrammatical
  simp only [whole, rest, leading, Bool.true_and]
  by_cases pointless : numeral.fraction = []
  · rw [if_pos pointless, List.nil_append]
    rcases Decimal.head?_tail numeral with none | ⟨spelled, mark⟩
    · rw [none]
      rfl
    · rw [mark]
      rfl
  · obtain ⟨digit, more, split⟩ := List.exists_cons_of_ne_nil pointless
    have isDigit := proper.fraction digit (split ▸ List.mem_cons_self)
    rw [if_neg pointless, split]
    simp [isDigit]

/-- A point or an exponent keeps a number from being whole. -/
private theorem all_isDigit_text {numeral : Numeral}
    (marked : numeral.fraction ≠ [] ∨ numeral.exponent? ≠ none) :
    numeral.text.all Char.isDigit = false := by
  -- A point is behind the whole digits, and an exponent begins with a letter.
  have foreign : ∃ c ∈ numeral.text, c.isDigit = false := by
    rcases marked with pointed | scaled
    · refine ⟨'.', ?_, rfl⟩
      rw [Numeral.text, if_neg pointed]
      simp
    · obtain ⟨exponent, present⟩ := Option.ne_none_iff_exists'.mp scaled
      refine ⟨'e', ?_, rfl⟩
      simp [Numeral.text, Numeral.tail, present, Decimal.exponentText]
  obtain ⟨c, member, notDigit⟩ := foreign
  exact List.all_eq_false.mpr ⟨c, member, by simp [notDigit]⟩

private theorem proper_digitText (n : Nat) : (⟨digitText n, [], none⟩ : Numeral).Proper := by
  refine ⟨fun _ member => Decimal.isDigit_of_mem_digitText member, nofun, Nat.toDigits_ne_nil, ?_⟩
  cases n with
  | zero => exact .inl rfl
  | succ m => exact .inr (Decimal.head?_digitText (Nat.succ_pos m))

private theorem text_digitText (n : Nat) : (⟨digitText n, [], none⟩ : Numeral).text = digitText n :=
  List.append_nil _

private theorem unsigned?_digitText (negative : Bool) (n : Nat) :
    unsigned? negative (digitText n) = some (.integer (if negative then -(n : Int) else n)) := by
  have grammatical := isGrammatical_text (proper_digitText n)
  rw [text_digitText] at grammatical
  simp only [unsigned?, grammatical, Decimal.all_isDigit_digitText, Decimal.digitsValue_digitText,
    Bool.not_true, Bool.false_eq_true, if_false, if_true]

/-- What begins with a digit is no name and has no sign. -/
theorem scalar?_text {numeral : Numeral} (proper : numeral.Proper) :
    scalar? numeral.text = unsigned? false numeral.text := by
  obtain ⟨first, rest, split⟩ := List.exists_cons_of_ne_nil proper.some
  have digit : first.isDigit = true := proper.whole first (split ▸ List.mem_cons_self)
  rw [Numeral.text, split, List.cons_append]
  unfold scalar?
  split
  · rename_i same
    cases same
    exact absurd digit (by decide)
  · have noName : first :: (rest ++ ((if numeral.fraction = [] then [] else
        '.' :: numeral.fraction) ++ numeral.tail)) ≠ "null".toList := by
      intro same
      rw [(List.cons.inj same).1] at digit
      exact absurd digit (by decide)
    rw [if_neg noName]

private theorem scalar?_toString (n : Int) : scalar? (toString n).toList = some (.integer n) := by
  rw [Decimal.toList_toString]
  by_cases negative : n < 0
  · rw [if_pos negative]
    change unsigned? true (digitText n.natAbs) = some (.integer n)
    rw [unsigned?_digitText, if_pos rfl]
    exact congrArg (some ∘ Json.integer) (by omega)
  · have unsigned := scalar?_text (proper_digitText n.natAbs)
    rw [text_digitText, unsigned?_digitText, if_neg Bool.false_ne_true] at unsigned
    rw [if_neg negative, unsigned]
    exact congrArg (some ∘ Json.integer) (by omega)

/-- A number is read as itself if it is finite, and nothing else has a text to read. -/
def settledNumber (x : Binary64) : Json := if x.isFinite then .number x else .null

private theorem scalar?_writeNumber (x : Binary64) :
    scalar? (writeNumber x) = some (settledNumber x) := by
  cases x with
  | nan => rfl
  | infinity negative => cases negative <;> rfl
  | finite negative quanta double =>
    obtain ⟨numeral, text, proper, marked, read⟩ :=
      Decimal.exists_numeral_unsigned Decimal.document rfl double
    have unsigned (sign : Bool) : unsigned? sign numeral.text =
        some (.number (.finite sign quanta double)) := by
      simp only [unsigned?, isGrammatical_text proper, all_isDigit_text marked, read, Bool.not_true,
        Bool.false_eq_true, if_false, Option.map_some]
    rw [writeNumber, Decimal.write_finite, ← text]
    cases negative with
    | true => exact unsigned true
    | false => exact (scalar?_text proper).trans (unsigned false)

/-! ## Documents -/

mutual
/-- What a document is read as: numbers that are not finite are nulls. -/
def settled : Json → Json
  | null => null
  | integer n => integer n
  | number x => settledNumber x
  | string s => string s
  | array items => array (settledItems items)
  | object fields => object (settledFields fields)

def settledItems : List Json → List Json
  | [] => []
  | item :: rest => settled item :: settledItems rest

def settledFields : List (String × Json) → List (String × Json)
  | [] => []
  | (name, value) :: rest => (name, settled value) :: settledFields rest
end

theorem settledItems_eq (items : List Json) : settledItems items = items.map settled := by
  induction items with
  | nil => rfl
  | cons item rest ih => rw [settledItems, ih, List.map_cons]

mutual
/-- The tokens that a document is written in. -/
def tokens : Json → List Token
  | null => [.scalar null]
  | integer n => [.scalar (integer n)]
  | number x => [.scalar (settledNumber x)]
  | string s => [.string s]
  | array items => .openArray :: (tokensOfItems items ++ [.closeArray])
  | object fields => .openObject :: (tokensOfFields fields ++ [.closeObject])

def tokensOfItems : List Json → List Token
  | [] => []
  | [item] => tokens item
  | item :: next :: rest => tokens item ++ .comma :: tokensOfItems (next :: rest)

def tokensOfFields : List (String × Json) → List Token
  | [] => []
  | [(name, value)] => .string name :: .colon :: tokens value
  | (name, value) :: next :: rest =>
    .string name :: .colon :: (tokens value ++ .comma :: tokensOfFields (next :: rest))
end

private theorem tokens?_mark {token : Token} (mark : mark? c = some token)
    (notBlank : isBlank c = false) (notQuote : c ≠ '"') (rest : List Char) :
    tokens? (c :: rest) = (tokens? rest).map (token :: ·) := by
  rw [tokens?, if_neg (by simp [notBlank]), if_neg notQuote]
  simp only [mark]

private theorem tokens?_writeString (s : String) (rest : List Char) :
    tokens? (writeString s ++ rest) = (tokens? rest).map (.string s :: ·) := by
  have body := string?_body s.toList rest
  rw [writeString, List.cons_append, List.append_assoc, List.singleton_append, tokens?,
    if_neg (by decide), if_pos rfl]
  split
  · rename_i unread
    rw [body] at unread
    cases unread
  · rename_i chars after read
    rw [body] at read
    cases read
    rw [String.ofList_toList]

private theorem isInWord_of_mem_toString {n : Int} (member : c ∈ (toString n).toList) :
    isInWord c = true := by
  rcases Decimal.mem_toString member with digit | rfl
  · exact isInWord_of_isDigit digit
  · decide

private theorem isInWord_of_mem_writeNumber {x : Binary64} (member : c ∈ writeNumber x) :
    isInWord c = true := by
  have null (member : c ∈ "null".toList) : isInWord c = true :=
    List.all_eq_true.mp (by decide : "null".toList.all isInWord = true) c member
  cases x with
  | nan => exact null member
  | infinity negative => cases negative <;> exact null member
  | finite negative quanta double =>
    obtain ⟨numeral, text, proper, -, -⟩ :=
      Decimal.exists_numeral_unsigned Decimal.document rfl double
    rw [writeNumber, Decimal.write_finite, ← text] at member
    cases negative with
    | false => exact isInWord_of_mem_text proper member
    | true =>
      rcases List.mem_cons.mp member with rfl | rest
      · decide
      · exact isInWord_of_mem_text proper rest

/-- A mark ends every word. -/
theorem apart_of_mark {mark : Char} (ends : isInWord mark = false) (rest : List Char) :
    ∀ c ∈ (mark :: rest).head?, isInWord c = false := by
  rintro c ⟨⟩
  exact ends

mutual
/-- A document is cut into its tokens, whatever follows that does not go on with its last word. -/
theorem tokens?_write (document : Json) (rest : List Char)
    (apart : ∀ c ∈ rest.head?, isInWord c = false) :
    tokens? (write document ++ rest) = (tokens? rest).map (tokens document ++ ·) := by
  match document with
  | null => exact tokens?_word (List.all_eq_true.mp (by decide)) rfl apart
  | integer n =>
    exact tokens?_word (fun c member => isInWord_of_mem_toString member) (scalar?_toString n) apart
  | number x =>
    exact tokens?_word (fun c member => isInWord_of_mem_writeNumber member) (scalar?_writeNumber x)
      apart
  | string s => exact tokens?_writeString s rest
  | array items =>
    rw [write, List.cons_append, tokens?_mark rfl rfl (by decide), List.append_assoc,
      List.singleton_append, tokens?_writeItems items _ (apart_of_mark rfl rest),
      tokens?_mark rfl rfl (by decide)]
    simp only [Option.map_map, Function.comp_def, tokens, List.cons_append, List.append_assoc,
      List.nil_append]
  | object fields =>
    rw [write, List.cons_append, tokens?_mark rfl rfl (by decide), List.append_assoc,
      List.singleton_append, tokens?_writeFields fields _ (apart_of_mark rfl rest),
      tokens?_mark rfl rfl (by decide)]
    simp only [Option.map_map, Function.comp_def, tokens, List.cons_append, List.append_assoc,
      List.nil_append]

private theorem tokens?_writeItems (items : List Json) (rest : List Char)
    (apart : ∀ c ∈ rest.head?, isInWord c = false) :
    tokens? (writeItems items ++ rest) = (tokens? rest).map (tokensOfItems items ++ ·) := by
  match items with
  | [] => simp [writeItems, tokensOfItems]
  | [item] =>
    rw [writeItems, tokensOfItems]
    exact tokens?_write item rest apart
  | item :: next :: more =>
    rw [writeItems, List.append_assoc, List.cons_append,
      tokens?_write item _ (apart_of_mark rfl _), tokens?_mark rfl rfl (by decide),
      tokens?_writeItems (next :: more) rest apart]
    simp only [Option.map_map, Function.comp_def, tokensOfItems, List.cons_append, List.append_assoc]

private theorem tokens?_writeFields (fields : List (String × Json)) (rest : List Char)
    (apart : ∀ c ∈ rest.head?, isInWord c = false) :
    tokens? (writeFields fields ++ rest) = (tokens? rest).map (tokensOfFields fields ++ ·) := by
  match fields with
  | [] => simp [writeFields, tokensOfFields]
  | [(name, value)] =>
    rw [writeFields, List.append_assoc, List.cons_append, tokens?_writeString,
      tokens?_mark rfl rfl (by decide), tokens?_write value rest apart]
    simp only [Option.map_map, Function.comp_def, tokensOfFields, List.cons_append]
  | (name, value) :: next :: more =>
    rw [writeFields, List.append_assoc, List.cons_append, tokens?_writeString,
      tokens?_mark rfl rfl (by decide), List.append_assoc, List.cons_append,
      tokens?_write value _ (apart_of_mark rfl _), tokens?_mark rfl rfl (by decide),
      tokens?_writeFields (next :: more) rest apart]
    simp only [Option.map_map, Function.comp_def, tokensOfFields, List.cons_append,
      List.append_assoc]
end

mutual
/-- The tokens of a document are put together to it, whatever is open around it. -/
theorem value?_tokens (document : Json) (stack : List Frame) (rest : List Token) :
    value? stack (tokens document ++ rest) = after? (settled document) stack rest := by
  match document with
  | null => rfl
  | integer n => rfl
  | number x => rfl
  | string s => rfl
  | array items =>
    rw [tokens, List.cons_append, List.append_assoc, List.singleton_append, value?, settled]
    exact value?_tokensOfItems items [] stack rest (.inr rfl)
  | object fields =>
    rw [tokens, List.cons_append, List.append_assoc, List.singleton_append, value?, settled]
    exact name?_tokensOfFields fields [] stack rest (.inr rfl)

/-- The items that are left of an array, to its end; only in front may there be none. -/
theorem value?_tokensOfItems (items before : List Json) (stack : List Frame) (rest : List Token)
    (proper : items ≠ [] ∨ before = []) :
    value? (.array before :: stack) (tokensOfItems items ++ .closeArray :: rest) =
      after? (.array (before.reverse ++ settledItems items)) stack rest := by
  match items with
  | [] =>
    rw [proper.resolve_left fun some => some rfl]
    rfl
  | [item] =>
    rw [tokensOfItems, value?_tokens item, after?, settledItems, settledItems, List.reverse_cons]
  | item :: next :: more =>
    rw [tokensOfItems, List.append_assoc, List.cons_append, value?_tokens item, after?,
      value?_tokensOfItems (next :: more) _ stack rest (.inl (List.cons_ne_nil _ _)),
      List.reverse_cons, List.append_assoc]
    rfl

/-- The fields that are left of an object, to its end. -/
theorem name?_tokensOfFields (fields before : List (String × Json)) (stack : List Frame)
    (rest : List Token) (proper : fields ≠ [] ∨ before = []) :
    name? before stack (tokensOfFields fields ++ .closeObject :: rest) =
      after? (.object (before.reverse ++ settledFields fields)) stack rest := by
  match fields with
  | [] =>
    rw [proper.resolve_left fun some => some rfl]
    rfl
  | [(name, value)] =>
    rw [tokensOfFields, List.cons_append, List.cons_append, name?, value?_tokens value, after?,
      settledFields, settledFields, List.reverse_cons]
  | (name, value) :: next :: more =>
    rw [tokensOfFields, List.cons_append, List.cons_append, List.append_assoc, List.cons_append,
      name?, value?_tokens value, after?,
      name?_tokensOfFields (next :: more) _ stack rest (.inl (List.cons_ne_nil _ _)),
      List.reverse_cons, List.append_assoc]
    rfl
end

/-- **Every document is read back** from its text. -/
theorem read?_render (document : Json) : read? (render document) = some (settled document) := by
  have cut := tokens?_write document [] nofun
  have put := value?_tokens document [] []
  have none : tokens? [] = some [] := by rw [tokens?]
  rw [List.append_nil, none, Option.map_some, List.append_nil] at cut
  rw [List.append_nil] at put
  rw [read?, render, String.toList_ofList, cut, Option.bind_some, put]
  rfl

end Telemetry.Json
