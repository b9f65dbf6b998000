import Launchpad.Text.Quoted
import Mathlib.Data.List.Basic

/-!
A reader for text between double quotes, and its law: what was quoted is read back, up to the quote
that ends it and no further. The reader goes through the text once. It is told apart from plain text
only by a backslash, so what it needs to know of a character that was written as itself is that it
is neither a quote nor a backslash.
-/

namespace Launchpad.Text

/-- What a reader of quoted text has seen last. -/
inductive Reading where
  | plain
  | backslash
  /-- The start of a code point; its brace is still to come. -/
  | codePoint
  /-- A brace, and the digits of a number. -/
  | digits (n : Nat)
  deriving DecidableEq

/-- The value of a digit to base sixteen, lower case. -/
def digitValue (c : Char) : Nat :=
  if c.isDigit then c.toNat - '0'.toNat else c.toNat - 'a'.toNat + 10

/-- The character that a letter behind a backslash stands for. -/
def unescaped (c : Char) : Char :=
  if c = 'n' then '\n'
  else if c = 'r' then '\r'
  else if c = 't' then '\t'
  else if c = '0' then '\x00'
  else c

/-- Put a character in front of what was read. -/
def readBefore (c : Char) (read : Option (List Char × List Char)) :
    Option (List Char × List Char) :=
  read.map fun (cs, rest) => (c :: cs, rest)

/-- Read up to the quote that ends a quoted text; what stands behind it is left over. -/
def readQuoted : Reading → List Char → Option (List Char × List Char)
  | _, [] => none
  | .plain, c :: rest =>
    if c = '"' then some ([], rest)
    else if c = '\\' then readQuoted .backslash rest
    else readBefore c (readQuoted .plain rest)
  | .backslash, c :: rest =>
    if c = 'u' then readQuoted .codePoint rest
    else readBefore (unescaped c) (readQuoted .plain rest)
  | .codePoint, c :: rest => if c = '\x7b' then readQuoted (.digits 0) rest else none
  | .digits n, c :: rest =>
    if c = '\x7d' then readBefore (Char.ofNat n) (readQuoted .plain rest)
    else readQuoted (.digits (16 * n + digitValue c)) rest

/-! ### Digits -/

theorem digitValue_digitChar : ∀ n < 16, digitValue n.digitChar = n := by decide

theorem digitChar_ne_brace : ∀ n < 16, n.digitChar ≠ '\x7d' := by decide

/-- The digits of a number are read as that number, behind others that were read before. -/
theorem readQuoted_hexDigits (m : Nat) (rest : List Char) :
    readQuoted (.digits 0) (hexDigits m ++ rest) = readQuoted (.digits m) rest := by
  induction m using Nat.strongRecOn generalizing rest with
  | ind m ih =>
    rw [hexDigits, Nat.toDigits_eq_if (by decide)]
    split
    · rename_i hsmall
      simp only [List.singleton_append, readQuoted]
      rw [if_neg (digitChar_ne_brace m hsmall), digitValue_digitChar m hsmall, Nat.mul_zero,
        Nat.zero_add]
    · rename_i hlarge
      have hlast : m % 16 < 16 := Nat.mod_lt m (by decide)
      have hfront := ih (m / 16) (Nat.div_lt_self (by omega) (by decide))
        ((m % 16).digitChar :: rest)
      rw [hexDigits] at hfront
      rw [List.append_assoc, List.singleton_append, hfront, readQuoted,
        if_neg (digitChar_ne_brace _ hlast), digitValue_digitChar _ hlast, Nat.div_add_mod]

/-! ### Quoted text -/

theorem readQuoted_itself (c : Char) (hquote : c ≠ '"') (hbackslash : c ≠ '\\') (rest : List Char) :
    readQuoted .plain (c :: rest) = readBefore c (readQuoted .plain rest) := by
  rw [readQuoted, if_neg hquote, if_neg hbackslash]

/-- Each character is read back from what is written for it, whatever follows. -/
theorem readQuoted_quoteChar (c : Char) (rest : List Char) :
    readQuoted .plain (quoteChar c ++ rest) = readBefore c (readQuoted .plain rest) := by
  have hescape : ∀ letter, letter ≠ 'u' →
      readQuoted .plain (['\\', letter] ++ rest) =
        readBefore (unescaped letter) (readQuoted .plain rest) := by
    intro letter hletter
    simp [readQuoted, hletter]
  unfold quoteChar
  split_ifs with hquote hbackslash hline hreturn htab hnul hplain
  · rw [hquote, hescape '"' (by decide)]; rfl
  · rw [hbackslash, hescape '\\' (by decide)]; rfl
  · rw [hline, hescape 'n' (by decide)]; rfl
  · rw [hreturn, hescape 'r' (by decide)]; rfl
  · rw [htab, hescape 't' (by decide)]; rfl
  · rw [hnul, hescape '0' (by decide)]; rfl
  · exact readQuoted_itself c hquote hbackslash rest
  · have hnumber := readQuoted_hexDigits c.toNat ('\x7d' :: rest)
    simp only [List.append_assoc, List.cons_append, List.nil_append, readQuoted, Char.reduceEq,
      if_true, if_false]
    rw [hnumber, readQuoted, if_pos rfl, Char.ofNat_toNat]

/-- What stands between quotes is read back, and what stands behind them is left. -/
theorem readQuoted_quoteBody (cs rest : List Char) :
    readQuoted .plain (quoteBody cs ++ '"' :: rest) = some (cs, rest) := by
  induction cs with
  | nil => simp [quoteBody, readQuoted]
  | cons c cs ih =>
    rw [quoteBody, List.flatMap_cons, List.append_assoc, readQuoted_quoteChar, ← quoteBody, ih]
    rfl

theorem readBefore_eq_some {c : Char} {read : Option (List Char × List Char)}
    {cs rest : List Char} (h : readBefore c read = some (cs, rest)) :
    ∃ inner, read = some (inner, rest) := by
  obtain ⟨⟨inner, left⟩, hinner, heq⟩ := Option.map_eq_some_iff.mp h
  cases heq
  exact ⟨inner, hinner⟩

theorem length_of_readQuoted {state : Reading} {text cs rest : List Char}
    (h : readQuoted state text = some (cs, rest)) : rest.length < text.length := by
  have hbehind : ∀ {c : Char} {text : List Char}, rest.length < text.length →
      rest.length < (c :: text).length := fun hlt => Nat.lt_succ_of_lt hlt
  induction text generalizing state cs with
  | nil => cases state <;> cases h
  | cons c text ih =>
    cases state with
    | plain =>
      rw [readQuoted] at h
      split_ifs at h
      · cases h
        exact Nat.lt_succ_self _
      · exact hbehind (ih h)
      · obtain ⟨inner, hinner⟩ := readBefore_eq_some h
        exact hbehind (ih hinner)
    | backslash =>
      rw [readQuoted] at h
      split_ifs at h
      · exact hbehind (ih h)
      · obtain ⟨inner, hinner⟩ := readBefore_eq_some h
        exact hbehind (ih hinner)
    | codePoint =>
      rw [readQuoted] at h
      split_ifs at h
      exact hbehind (ih h)
    | digits n =>
      rw [readQuoted] at h
      split_ifs at h
      · obtain ⟨inner, hinner⟩ := readBefore_eq_some h
        exact hbehind (ih hinner)
      · exact hbehind (ih h)

end Launchpad.Text
