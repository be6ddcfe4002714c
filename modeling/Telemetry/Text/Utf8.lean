/-!
Reading bytes as UTF-8 without ever failing. Each longest piece that begins a character but cannot
be completed, and each byte that can begin none, becomes one replacement character.
-/
namespace Telemetry.Text

/-- Stands for bytes that are no text. -/
def replacement : Char := '\ufffd'

/-- The bytes that may follow the first byte of a character: the bounds of the second byte, the
number of bytes after it, and the bits that the first byte gives. -/
structure Lead where
  low : Nat
  high : Nat
  further : Nat
  bits : Nat

/-- What the first byte of a character of several bytes announces. -/
def lead? (byte : Nat) : Option Lead :=
  if byte < 0xc2 then none
  else if byte < 0xe0 then some ⟨0x80, 0xbf, 0, byte - 0xc0⟩
  else if byte < 0xf0 then
    some ⟨if byte = 0xe0 then 0xa0 else 0x80, if byte = 0xed then 0x9f else 0xbf, 1, byte - 0xe0⟩
  else if byte < 0xf5 then
    some ⟨if byte = 0xf0 then 0x90 else 0x80, if byte = 0xf4 then 0x8f else 0xbf, 2, byte - 0xf0⟩
  else none

/-- Takes `count` continuation bytes off the front: the code point they complete, or nothing if
one is missing, and the bytes after those that were taken. -/
def continueWith : Nat → Nat → List UInt8 → Option Nat × List UInt8
  | 0, code, bytes => (some code, bytes)
  | _ + 1, _, [] => (none, [])
  | count + 1, code, byte :: bytes =>
    if 0x80 ≤ byte.toNat ∧ byte.toNat ≤ 0xbf then
      continueWith count (64 * code + (byte.toNat - 0x80)) bytes
    else (none, byte :: bytes)

theorem length_continueWith_le (count code : Nat) (bytes : List UInt8) :
    (continueWith count code bytes).2.length ≤ bytes.length := by
  fun_induction continueWith count code bytes with
  | case1 => exact Nat.le_refl _
  | case2 => exact Nat.le_refl _
  | case3 _ _ _ _ _ ih => exact Nat.le_succ_of_le ih
  | case4 => exact Nat.le_refl _

/-- One character and the bytes after it. -/
def decodeOne (first : UInt8) (bytes : List UInt8) : Char × List UInt8 :=
  if first.toNat < 0x80 then (Char.ofNat first.toNat, bytes)
  else match lead? first.toNat, bytes with
    | some lead, second :: rest =>
      if lead.low ≤ second.toNat ∧ second.toNat ≤ lead.high then
        match continueWith lead.further (64 * lead.bits + (second.toNat - 0x80)) rest with
        | (some code, rest) => (Char.ofNat code, rest)
        | (none, rest) => (replacement, rest)
      else (replacement, bytes)
    | _, _ => (replacement, bytes)

theorem length_decodeOne_le (first : UInt8) (bytes : List UInt8) :
    (decodeOne first bytes).2.length ≤ bytes.length := by
  unfold decodeOne
  split
  · simp
  · split
    · split
      · rename_i lead second rest _ _
        have shorter := length_continueWith_le lead.further
          (64 * lead.bits + (second.toNat - 0x80)) rest
        split <;> rename_i taken <;> rw [taken] at shorter <;> simp at shorter ⊢ <;> omega
      · simp
    · simp

/-- The text of some bytes. -/
def decodeLossy : List UInt8 → List Char
  | [] => []
  | first :: bytes =>
    (decodeOne first bytes).1 :: decodeLossy (decodeOne first bytes).2
termination_by bytes => bytes.length
decreasing_by
  have := length_decodeOne_le first bytes
  simp; omega

end Telemetry.Text
