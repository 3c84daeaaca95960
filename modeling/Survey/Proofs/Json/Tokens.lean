import Mathlib
import Survey.Json.Decode
import Survey.Json.Write

/-!
# Reading back the tokens a writer gives

The scanners of the JSON reader, run over the bytes of text the writer produced, stop where
the token ends and give its value back. A text is seen as its UTF-8 bytes (`textBytes`), and
`Placed bytes p l` says that the bytes `l` stand in the text from offset `p` on.

* `utf8At_of_placed` — the reader decodes the UTF-8 bytes of every character back to it.
* `escapeChar_cases` — what the writer gives a character inside a string: a short escape, a
  hexadecimal escape for another control character, or the character's own bytes.
* `stringToken_quote` — a quoted string reads back as itself, its token ending after the
  closing quote.
* `skipNumber_int` — an integer's text passes the number grammar up to the byte after it.
* `literalRest_placed`, `Follows.skipSpace` — literals, and the blanks compact text lacks.
-/

namespace Survey

namespace JsonText

variable {bytes : ByteArray}

/-! ### Bytes in place -/

/-- The bytes of `l` stand in the text from offset `p` on. -/
def Placed (bytes : ByteArray) : Nat → List UInt8 → Prop
  | _, [] => True
  | p, b :: l => byteAt bytes p = some b ∧ Placed bytes (p + 1) l

@[simp] theorem placed_nil {p : Nat} : Placed bytes p [] := trivial

@[simp] theorem placed_cons {p : Nat} {b : UInt8} {l : List UInt8} :
    Placed bytes p (b :: l) ↔ byteAt bytes p = some b ∧ Placed bytes (p + 1) l := Iff.rfl

-- Sealed: unfolding it would make the elaborator compute the bytes of a whole text.
attribute [irreducible] Placed

theorem placed_append {p : Nat} {l₁ l₂ : List UInt8} :
    Placed bytes p (l₁ ++ l₂) ↔ Placed bytes p l₁ ∧ Placed bytes (p + l₁.length) l₂ := by
  induction l₁ generalizing p with
  | nil => simp
  | cons b l ih =>
    simp only [List.cons_append, placed_cons, ih, List.length_cons, and_assoc]
    rw [Nat.add_assoc, Nat.add_comm 1]

theorem placed_append_cons {p : Nat} {l₁ l₂ : List UInt8} {b : UInt8} :
    Placed bytes p (l₁ ++ b :: l₂) ↔
      Placed bytes p l₁ ∧ byteAt bytes (p + l₁.length) = some b ∧
        Placed bytes (p + l₁.length + 1) l₂ := by
  rw [placed_append, placed_cons]

theorem lt_size_of_byteAt {p : Nat} {b : UInt8} (h : byteAt bytes p = some b) : p < bytes.size := by
  unfold byteAt at h
  exact (getElem?_eq_some_iff.mp h).1

theorem getElem_of_byteAt {p : Nat} {b : UInt8} (inside : p < bytes.size)
    (h : byteAt bytes p = some b) : bytes[p] = b := by
  unfold byteAt at h
  exact (getElem?_eq_some_iff.mp h).2

theorem get!_of_byteAt {p : Nat} {b : UInt8} (h : byteAt bytes p = some b) : bytes.get! p = b := by
  have inside := lt_size_of_byteAt h
  unfold byteAt at h
  change bytes.data[p]! = b
  change bytes.data[p]? = some b at h
  simp [getElem!_pos bytes.data p (by simpa using inside), (getElem?_eq_some_iff.mp h).2]

/-- **The reader decodes every character's UTF-8 bytes back to the character**, and says how
many bytes follow the first. -/
theorem utf8At_of_placed {p : Nat} {c : Char} (placed : Placed bytes p (String.utf8EncodeChar c)) :
    utf8At bytes p = (c.toNat, (String.utf8EncodeChar c).length - 1) := by
  have valid : c.toNat < 0x110000 := by
    have := c.valid
    simp [UInt32.isValidChar, Nat.isValidChar] at this
    omega
  unfold String.utf8EncodeChar at placed ⊢
  simp only [show c.val.toNat = c.toNat from rfl] at placed ⊢
  -- One case per length of the encoding; in each, the reader's tests on the lead byte pick
  -- the same length, and the bits it keeps put the code point back together.
  split_ifs at placed ⊢ with one two three <;>
    simp only [placed_cons, placed_nil, and_true, Nat.add_assoc, Nat.reduceAdd] at placed
  · simp only [utf8At, get!_of_byteAt placed, UInt8.toNat_ofNat', Nat.reducePow]
    split_ifs <;> simp only [Prod.mk.injEq, List.length_cons, List.length_nil, and_true] <;> omega
  · simp only [utf8At, get!_of_byteAt placed.1, get!_of_byteAt placed.2, UInt8.toNat_ofNat',
      Nat.reducePow]
    split_ifs <;> simp only [Prod.mk.injEq, List.length_cons, List.length_nil, and_true] <;> omega
  · simp only [utf8At, get!_of_byteAt placed.1, get!_of_byteAt placed.2.1,
      get!_of_byteAt placed.2.2, UInt8.toNat_ofNat', Nat.reducePow]
    split_ifs <;> simp only [Prod.mk.injEq, List.length_cons, List.length_nil, and_true] <;> omega
  · simp only [utf8At, get!_of_byteAt placed.1, get!_of_byteAt placed.2.1,
      get!_of_byteAt placed.2.2.1, get!_of_byteAt placed.2.2.2, UInt8.toNat_ofNat', Nat.reducePow]
    split_ifs <;> simp only [Prod.mk.injEq, List.length_cons, List.length_nil, and_true] <;> omega

/-! ### Strings -/

/-- The UTF-8 bytes of a text. -/
def textBytes (s : String) : List UInt8 := s.toList.flatMap String.utf8EncodeChar

@[simp] theorem textBytes_append (s t : String) : textBytes (s ++ t) = textBytes s ++ textBytes t := by
  simp [textBytes]

theorem textBytes_join (l : List String) : textBytes (String.join l) = l.flatMap textBytes := by
  simp only [textBytes, String.toList_join, List.flatMap_assoc]
  rfl

theorem toUTF8_toList (s : String) : s.toUTF8.data.toList = textBytes s := by
  have encoded := String.toByteArray_ofList (l := s.toList)
  rw [String.ofList_toList] at encoded
  rw [String.toUTF8, encoded, List.utf8Encode, List.toList_data_toByteArray, textBytes]

/-- The characters a string writer escapes by a backslash and one letter, with the letter. -/
def shortEscapes : List (UInt8 × Char) :=
  [(0x22, '"'), (0x5C, '\\'), (0x62, '\x08'), (0x66, '\x0c'), (0x6E, '\n'), (0x72, '\r'), (0x74, '\t')]

theorem decodeString_short {p : Nat} {acc : List Char} {e : UInt8} {ch : Char}
    (table : (e, ch) ∈ shortEscapes) (placed : Placed bytes p [0x5C, e]) :
    decodeString bytes acc p = decodeString bytes (ch :: acc) (p + 2) := by
  simp only [placed_cons, placed_nil, and_true] at placed
  obtain ⟨slash, escape⟩ := placed
  have inside := lt_size_of_byteAt slash
  rw [decodeString, dif_pos inside]
  simp only [getElem_of_byteAt inside slash, escape]
  simp only [shortEscapes, List.mem_cons, Prod.mk.injEq, List.not_mem_nil, or_false] at table
  rcases table with ⟨rfl, rfl⟩ | ⟨rfl, rfl⟩ | ⟨rfl, rfl⟩ | ⟨rfl, rfl⟩ | ⟨rfl, rfl⟩ | ⟨rfl, rfl⟩ |
    ⟨rfl, rfl⟩ <;> rfl

theorem skipString_short {p : Nat} {e : UInt8} {ch : Char} (table : (e, ch) ∈ shortEscapes)
    (placed : Placed bytes p [0x5C, e]) : skipString bytes p = skipString bytes (p + 2) := by
  simp only [placed_cons, placed_nil, and_true] at placed
  obtain ⟨slash, escape⟩ := placed
  have inside := lt_size_of_byteAt slash
  rw [skipString, dif_pos inside]
  simp only [getElem_of_byteAt inside slash, escape]
  simp only [shortEscapes, List.mem_cons, Prod.mk.injEq, List.not_mem_nil, or_false] at table
  rcases table with ⟨rfl, rfl⟩ | ⟨rfl, rfl⟩ | ⟨rfl, rfl⟩ | ⟨rfl, rfl⟩ | ⟨rfl, rfl⟩ | ⟨rfl, rfl⟩ |
    ⟨rfl, rfl⟩ <;> rfl

theorem hexEscape_of_placed {p : Nat} {a b c d : UInt8} {w x y z : Nat}
    (placed : Placed bytes p [a, b, c, d]) (ha : hexValue a = some w) (hb : hexValue b = some x)
    (hc : hexValue c = some y) (hd : hexValue d = some z) :
    hexEscape bytes p = .ok (((w * 16 + x) * 16 + y) * 16 + z) := by
  simp only [placed_cons, placed_nil, and_true, Nat.add_assoc, Nat.reduceAdd] at placed
  obtain ⟨at0, at1, at2, at3⟩ := placed
  have inside := lt_size_of_byteAt at3
  unfold hexEscape
  rw [if_neg (by omega)]
  simp [List.range_succ, at0, at1, at2, at3, ha, hb, hc, hd]

theorem hexByte_digits {n : Nat} (small : n < 32) :
    ∃ h₁ h₂, textBytes (Json.hexByte n) = [h₁, h₂] ∧ hexValue h₁ = some (n / 16) ∧
      hexValue h₂ = some (n % 16) := by
  have table : ∀ m : Fin 32,
      ((List.replicate (2 - (Nat.toDigits 16 m).length) '0' ++ Nat.toDigits 16 m).flatMap
        String.utf8EncodeChar).map hexValue = [some (m.val / 16), some (m.val % 16)] := by
    decide
  have row := table ⟨n, small⟩
  simp only [Json.hexByte, textBytes, String.toList_ofList] at row ⊢
  obtain ⟨h₁, rest, split₁, first, tail⟩ := List.map_eq_cons_iff.mp row
  obtain ⟨h₂, rest', split₂, second, none⟩ := List.map_eq_cons_iff.mp tail
  rw [List.map_eq_nil_iff] at none
  subst none
  exact ⟨h₁, h₂, by rw [split₁, split₂], first, second⟩

/-- Every byte of a character written as itself in a string: no control byte, quote or
backslash. -/
theorem utf8EncodeChar_plain {c : Char} (printable : 0x20 ≤ c.toNat) (notQuote : c ≠ '"')
    (notBackslash : c ≠ '\\') :
    ∀ b ∈ String.utf8EncodeChar c, 0x20 ≤ b.toNat ∧ b.toNat ≠ 0x22 ∧ b.toNat ≠ 0x5C := by
  have quote : c.toNat ≠ 0x22 := fun same => notQuote (Char.toNat_inj.mp same)
  have backslash : c.toNat ≠ 0x5C := fun same => notBackslash (Char.toNat_inj.mp same)
  unfold String.utf8EncodeChar
  simp only [show c.val.toNat = c.toNat from rfl]
  split_ifs <;> simp only [List.mem_cons, List.not_mem_nil, or_false, forall_eq_or_imp, forall_eq,
    UInt8.toNat_ofNat', Nat.reducePow] <;> omega

/-- The three tests a string reader makes on a byte, for a byte that is none of their cases. -/
theorem plain_tests {b : UInt8} (plain : 0x20 ≤ b.toNat ∧ b.toNat ≠ 0x22 ∧ b.toNat ≠ 0x5C) :
    (b == 0x22) = false ∧ (b == 0x5C) = false ∧ ¬ b < 0x20 := by
  obtain ⟨printable, quote, backslash⟩ := plain
  refine ⟨beq_false_of_ne fun same => quote (by rw [same]; rfl),
    beq_false_of_ne fun same => backslash (by rw [same]; rfl), ?_⟩
  rw [UInt8.lt_iff_toNat_lt]
  simp only [UInt8.reduceToNat]
  omega

theorem skipString_plain {p : Nat} {l : List UInt8} (placed : Placed bytes p l)
    (plain : ∀ b ∈ l, 0x20 ≤ b.toNat ∧ b.toNat ≠ 0x22 ∧ b.toNat ≠ 0x5C) :
    skipString bytes p = skipString bytes (p + l.length) := by
  induction l generalizing p with
  | nil => rfl
  | cons b l ih =>
    obtain ⟨here, rest⟩ := placed_cons.mp placed
    have inside := lt_size_of_byteAt here
    obtain ⟨notQuote, notBackslash, printable⟩ := plain_tests (plain b List.mem_cons_self)
    rw [skipString, dif_pos inside]
    simp only [getElem_of_byteAt inside here, notQuote, notBackslash, printable,
      Bool.false_eq_true, ↓reduceIte]
    rw [ih rest fun b' member => plain b' (List.mem_cons_of_mem b member)]
    simp only [List.length_cons, Nat.add_assoc, Nat.add_comm 1]

/-- **What a string writer gives a character**: a backslash and a letter, a six-byte
escape of two hexadecimal digits for another control character, or the character's own bytes. -/
theorem escapeChar_cases (c : Char) :
    (∃ e, (e, c) ∈ shortEscapes ∧ textBytes (Json.escapeChar c) = [0x5C, e]) ∨
    (∃ h₁ h₂, textBytes (Json.escapeChar c) = [0x5C, 0x75, 0x30, 0x30, h₁, h₂] ∧
      hexValue h₁ = some (c.toNat / 16) ∧ hexValue h₂ = some (c.toNat % 16) ∧ c.toNat < 0x20) ∨
    (textBytes (Json.escapeChar c) = String.utf8EncodeChar c ∧ 0x20 ≤ c.toNat ∧ c ≠ '"' ∧
      c ≠ '\\') := by
  -- The seven characters with a short escape are settled by computing their escapes; every
  -- other character falls through the writer's tests to its last two branches.
  by_cases short : c = '"' ∨ c = '\\' ∨ c = '\n' ∨ c = '\r' ∨ c = '\t' ∨ c = '\x08' ∨ c = '\x0c'
  · left
    rcases short with rfl | rfl | rfl | rfl | rfl | rfl | rfl
    · exact ⟨0x22, by decide, by decide⟩
    · exact ⟨0x5C, by decide, by decide⟩
    · exact ⟨0x6E, by decide, by decide⟩
    · exact ⟨0x72, by decide, by decide⟩
    · exact ⟨0x74, by decide, by decide⟩
    · exact ⟨0x62, by decide, by decide⟩
    · exact ⟨0x66, by decide, by decide⟩
  · simp only [not_or] at short
    obtain ⟨quote, backslash, newline, cr, tab, bs, ff⟩ := short
    have plain : Json.escapeChar c =
        if c.toNat < 0x20 then "\\u00" ++ Json.hexByte c.toNat else c.toString := by
      simp [Json.escapeChar, quote, backslash, newline, cr, tab, bs, ff]
    rw [plain]
    split_ifs with control
    · obtain ⟨h₁, h₂, digits, high, low⟩ := hexByte_digits control
      refine .inr (.inl ⟨h₁, h₂, ?_, high, low, control⟩)
      have escape : textBytes "\\u00" = [0x5C, 0x75, 0x30, 0x30] := by decide
      rw [textBytes_append, digits, escape]
      rfl
    · refine .inr (.inr ⟨?_, by omega, quote, backslash⟩)
      simp [textBytes, Char.toString_eq_singleton]

theorem hexEscape_control {p : Nat} {c : Char} {h₁ h₂ : UInt8}
    (placed : Placed bytes p [0x30, 0x30, h₁, h₂]) (high : hexValue h₁ = some (c.toNat / 16))
    (low : hexValue h₂ = some (c.toNat % 16)) : hexEscape bytes p = .ok c.toNat := by
  have zero : hexValue 0x30 = some 0 := rfl
  rw [hexEscape_of_placed placed zero zero high low]
  congr 1
  omega

theorem decodeString_escapeChar {p : Nat} {acc : List Char} {c : Char}
    (placed : Placed bytes p (textBytes (Json.escapeChar c))) :
    decodeString bytes acc p =
      decodeString bytes (c :: acc) (p + (textBytes (Json.escapeChar c)).length) := by
  rcases escapeChar_cases c with ⟨e, table, written⟩ |
    ⟨h₁, h₂, written, high, low, control⟩ | ⟨written, printable, notQuote, notBackslash⟩
  · rw [written] at placed ⊢
    exact decodeString_short table placed
  · rw [written] at placed ⊢
    rw [placed_cons, placed_cons] at placed
    obtain ⟨slash, u, digits⟩ := placed
    have inside := lt_size_of_byteAt slash
    rw [decodeString, dif_pos inside]
    have notTrail : ¬ 0xDC00 ≤ c.toNat := by omega
    have notLead : c.toNat < 0xD800 := by omega
    simp [getElem_of_byteAt inside slash, u, hexEscape_control digits high low, notTrail, notLead]
  · rw [written] at placed ⊢
    obtain ⟨b, rest, encoded⟩ : ∃ b rest, String.utf8EncodeChar c = b :: rest := by
      cases h : String.utf8EncodeChar c with
      | nil =>
        have size := String.length_utf8EncodeChar c
        rw [h, List.length_nil] at size
        exact absurd size.symm (Nat.ne_of_gt (Char.utf8Size_pos c))
      | cons b rest => exact ⟨b, rest, rfl⟩
    have plain := utf8EncodeChar_plain printable notQuote notBackslash b (by simp [encoded])
    obtain ⟨notQ, notB, printable'⟩ := plain_tests plain
    have first : byteAt bytes p = some b := by
      rw [encoded] at placed
      exact (placed_cons.mp placed).1
    have inside := lt_size_of_byteAt first
    rw [decodeString, dif_pos inside]
    simp only [getElem_of_byteAt inside first, notQ, notB, printable', Bool.false_eq_true,
      ↓reduceIte, utf8At_of_placed placed, Char.ofNat_toNat, encoded, List.length_cons]
    congr 1
    omega

theorem skipString_escapeChar {p : Nat} {c : Char}
    (placed : Placed bytes p (textBytes (Json.escapeChar c))) :
    skipString bytes p = skipString bytes (p + (textBytes (Json.escapeChar c)).length) := by
  rcases escapeChar_cases c with ⟨e, table, written⟩ |
    ⟨h₁, h₂, written, high, low, control⟩ | ⟨written, printable, notQuote, notBackslash⟩
  · rw [written] at placed ⊢
    exact skipString_short table placed
  · rw [written] at placed ⊢
    rw [placed_cons, placed_cons] at placed
    obtain ⟨slash, u, digits⟩ := placed
    have inside := lt_size_of_byteAt slash
    rw [skipString, dif_pos inside]
    simp [getElem_of_byteAt inside slash, u, hexEscape_control digits high low]
  · rw [written] at placed ⊢
    exact skipString_plain placed (utf8EncodeChar_plain printable notQuote notBackslash)

/-- The bytes of a string's characters as a writer escapes them. -/
def escapedBytes (cs : List Char) : List UInt8 := cs.flatMap fun c => textBytes (Json.escapeChar c)

theorem decodeString_escaped {p : Nat} {acc : List Char} (cs : List Char)
    (placed : Placed bytes p (escapedBytes cs)) :
    decodeString bytes acc p = decodeString bytes (cs.reverse ++ acc) (p + (escapedBytes cs).length) := by
  induction cs generalizing p acc with
  | nil => rfl
  | cons c cs ih =>
    simp only [escapedBytes, List.flatMap_cons] at placed ⊢
    obtain ⟨first, rest⟩ := placed_append.mp placed
    rw [decodeString_escapeChar first, ih rest]
    simp only [List.reverse_cons, List.append_assoc, List.cons_append, List.nil_append,
      List.length_append, escapedBytes, Nat.add_assoc]

theorem skipString_escaped {p : Nat} (cs : List Char) (placed : Placed bytes p (escapedBytes cs)) :
    skipString bytes p = skipString bytes (p + (escapedBytes cs).length) := by
  induction cs generalizing p with
  | nil => rfl
  | cons c cs ih =>
    simp only [escapedBytes, List.flatMap_cons] at placed ⊢
    obtain ⟨first, rest⟩ := placed_append.mp placed
    rw [skipString_escapeChar first, ih rest]
    simp only [List.length_append, escapedBytes, Nat.add_assoc]

theorem textBytes_quote (s : String) :
    textBytes (Json.quote s) = [0x22] ++ escapedBytes s.toList ++ [0x22] := by
  have mark : textBytes "\"" = [0x22] := by decide
  simp only [Json.quote, textBytes_append, textBytes_join, List.flatMap_map, mark, escapedBytes]

/-- **A quoted string reads back as itself**, and its token ends after the closing quote. -/
theorem stringToken_quote {p : Nat} {s : String} (placed : Placed bytes p (textBytes (Json.quote s))) :
    stringToken bytes p = .ok (.ok s, p + (textBytes (Json.quote s)).length) := by
  rw [textBytes_quote] at placed ⊢
  obtain ⟨opening, body, closing⟩ : byteAt bytes p = some 0x22 ∧
      Placed bytes (p + 1) (escapedBytes s.toList) ∧
      byteAt bytes (p + 1 + (escapedBytes s.toList).length) = some 0x22 := by
    simp only [placed_append, placed_cons, placed_nil, and_true, List.length_append,
      List.length_singleton] at placed
    refine ⟨placed.1.1, placed.1.2, ?_⟩
    rw [Nat.add_assoc]
    exact placed.2
  have inside := lt_size_of_byteAt closing
  have decoded : decodeString bytes [] (p + 1) =
      .ok (s, p + 1 + (escapedBytes s.toList).length + 1) := by
    rw [decodeString_escaped s.toList body, decodeString, dif_pos inside]
    simp [getElem_of_byteAt inside closing]
  have skipped : skipString bytes (p + 1) = .ok (p + 1 + (escapedBytes s.toList).length + 1) := by
    rw [skipString_escaped s.toList body, skipString, dif_pos inside]
    simp [getElem_of_byteAt inside closing]
  simp only [stringToken, decoded, skipped, List.length_append, List.length_singleton]
  congr 2
  omega

/-! ### Numbers -/

/-- Characters below 128 are written as one byte each. -/
theorem flatMap_utf8EncodeChar_ascii {cs : List Char} (ascii : ∀ c ∈ cs, c.toNat ≤ 127) :
    cs.flatMap String.utf8EncodeChar = cs.map fun c => UInt8.ofNat c.toNat := by
  induction cs with
  | nil => rfl
  | cons c cs ih =>
    have one : String.utf8EncodeChar c = [UInt8.ofNat c.toNat] := by
      unfold String.utf8EncodeChar
      simp only [show c.val.toNat = c.toNat from rfl]
      rw [if_pos (ascii c List.mem_cons_self)]
    rw [List.flatMap_cons, one, ih fun c' member => ascii c' (List.mem_cons_of_mem c member)]
    rfl

theorem digit_bounds {c : Char} (digit : c.isDigit = true) : 48 ≤ c.toNat ∧ c.toNat ≤ 57 := by
  simp only [Char.isDigit, Bool.and_eq_true, decide_eq_true_eq, ge_iff_le,
    UInt32.le_iff_toNat_le] at digit
  exact digit

/-- The leading digit of a positive number is not zero. -/
theorem toDigits_head {n : Nat} (pos : 0 < n) : (Nat.toDigits 10 n).head? ≠ some '0' := by
  induction n using Nat.strong_induction_on with
  | _ n ih =>
    by_cases small : n < 10
    · rw [Nat.toDigits_of_lt_base small]
      have table : ∀ d : Fin 10, 0 < d.val → Nat.digitChar d ≠ '0' := by decide
      simpa using table ⟨n, small⟩ pos
    · -- The digits of `n` are those of `n / 10` followed by the last one.
      rw [Nat.toDigits_of_base_le (by omega) (by omega)]
      have front := ih (n / 10) (by omega) (by omega)
      cases h : Nat.toDigits 10 (n / 10) with
      | nil => exact absurd h Nat.toDigits_ne_nil
      | cons d ds => simpa [h] using front

/-- The bytes of a number's decimal digits. -/
theorem textBytes_digits (n : Nat) :
    textBytes (toString n) = (Nat.toDigits 10 n).map fun c => UInt8.ofNat c.toNat := by
  have digits : ∀ c ∈ Nat.toDigits 10 n, 48 ≤ c.toNat ∧ c.toNat ≤ 57 := fun c member =>
    digit_bounds (Nat.isDigit_of_mem_toDigits (by omega) (by omega) member)
  rw [textBytes, show toString n = Nat.repr n from rfl, Nat.toList_repr,
    flatMap_utf8EncodeChar_ascii fun c member => by have := digits c member; omega]

theorem isDigit_ofNat {c : Char} (bounds : 48 ≤ c.toNat ∧ c.toNat ≤ 57) :
    isDigit (UInt8.ofNat c.toNat) = true := by
  simp only [isDigit, Bool.and_eq_true, decide_eq_true_eq, UInt8.le_iff_toNat_le,
    UInt8.toNat_ofNat', Nat.reducePow, UInt8.reduceToNat]
  omega

theorem skipDigits_run {p : Nat} {l : List UInt8} (placed : Placed bytes p l)
    (digits : ∀ b ∈ l, isDigit b = true)
    (ends : ∀ b, byteAt bytes (p + l.length) = some b → isDigit b = false) :
    skipDigits bytes p = p + l.length := by
  induction l generalizing p with
  | nil =>
    rw [skipDigits]
    split
    · next inside =>
      have stop := ends bytes[p] (by simp [byteAt, inside])
      simp [stop]
    · rfl
  | cons b l ih =>
    obtain ⟨here, rest⟩ := placed_cons.mp placed
    have inside := lt_size_of_byteAt here
    rw [skipDigits, dif_pos inside, getElem_of_byteAt inside here,
      if_pos (digits b List.mem_cons_self),
      ih rest (fun b' member => digits b' (List.mem_cons_of_mem b member))
        (by simpa [Nat.add_assoc, Nat.add_comm 1] using ends)]
    simp only [List.length_cons]
    omega

/-- What follows a value in compact JSON text: a comma, a closing bracket, or the end. -/
def Follows (bytes : ByteArray) (q : Nat) : Prop :=
  byteAt bytes q = none ∨ byteAt bytes q = some 0x2C ∨ byteAt bytes q = some 0x5D ∨
    byteAt bytes q = some 0x7D

/-- A number's digits run up to `q` and no fraction or exponent follows. -/
theorem Follows.ends {q : Nat} (follows : Follows bytes q) :
    ∀ b, byteAt bytes q = some b → isDigit b = false ∧ b ≠ 0x2E ∧ b ≠ 0x65 ∧ b ≠ 0x45 := by
  intro b found
  rcases follows with none | comma | square | curly
  · simp [none] at found
  · obtain rfl := Option.some.inj (comma.symm.trans found)
    decide
  · obtain rfl := Option.some.inj (square.symm.trans found)
    decide
  · obtain rfl := Option.some.inj (curly.symm.trans found)
    decide

theorem skipAfterWhole_follows {r : Nat} (follows : Follows bytes r) :
    skipAfterWhole bytes r = .ok r := by
  unfold skipAfterWhole
  rcases follows with found | found | found | found <;> simp [found]

/-- How the digits of `n`, placed at `q` and followed by what ends a number, begin: a zero is the
lone digit of zero, and every other number starts with a digit other than zero. -/
theorem placed_digits_cases {q n : Nat}
    (placed : Placed bytes q ((Nat.toDigits 10 n).map fun c => UInt8.ofNat c.toNat))
    (follows : Follows bytes (q + ((Nat.toDigits 10 n).map fun c => UInt8.ofNat c.toNat).length)) :
    (n = 0 ∧ byteAt bytes q = some 0x30 ∧ Follows bytes (q + 1)) ∨
    ∃ d ds, Nat.toDigits 10 n = d :: ds ∧ (48 ≤ d.toNat ∧ d.toNat ≤ 57) ∧
      (∀ c ∈ ds, 48 ≤ c.toNat ∧ c.toNat ≤ 57) ∧
      byteAt bytes q = some (UInt8.ofNat d.toNat) ∧ UInt8.ofNat d.toNat ≠ 0x30 ∧
      Placed bytes (q + 1) (ds.map fun c => UInt8.ofNat c.toNat) ∧
      Follows bytes (q + 1 + (ds.map fun c => UInt8.ofNat c.toNat).length) := by
  have bounds : ∀ c ∈ Nat.toDigits 10 n, 48 ≤ c.toNat ∧ c.toNat ≤ 57 := fun c member =>
    digit_bounds (Nat.isDigit_of_mem_toDigits (by omega) (by omega) member)
  cases digits : Nat.toDigits 10 n with
  | nil => exact absurd digits Nat.toDigits_ne_nil
  | cons d ds =>
    rw [digits] at placed follows bounds
    obtain ⟨first, rest⟩ := placed_cons.mp placed
    have after : Follows bytes (q + 1 + (ds.map fun c => UInt8.ofNat c.toNat).length) := by
      simpa [Nat.add_assoc, Nat.add_comm 1] using follows
    by_cases zero : d = '0'
    · -- A leading zero is the whole number.
      have none : n = 0 := by
        by_contra pos
        exact toDigits_head (Nat.pos_of_ne_zero pos) (by rw [digits, zero]; rfl)
      subst none zero
      obtain rfl : ds = [] := by simpa using digits.symm
      exact .inl ⟨rfl, first, by simpa using after⟩
    · have notZero : UInt8.ofNat d.toNat ≠ 0x30 := by
        intro same
        apply zero
        have := congrArg UInt8.toNat same
        simp only [UInt8.toNat_ofNat', Nat.reducePow, UInt8.reduceToNat] at this
        exact Char.toNat_inj.mp (by have := bounds d List.mem_cons_self; simp; omega)
      exact .inr ⟨d, ds, rfl, bounds d List.mem_cons_self,
        fun c member => bounds c (List.mem_cons_of_mem d member), first, notZero, rest, after⟩

/-- The digits of a number, as a writer gives them, pass a skipper's whole part. -/
theorem skipWhole_digits {q n : Nat} (placed : Placed bytes q (textBytes (toString n)))
    (follows : Follows bytes (q + (textBytes (toString n)).length)) :
    skipWhole bytes q = .ok (q + (textBytes (toString n)).length) := by
  rw [textBytes_digits] at placed follows ⊢
  rcases placed_digits_cases placed follows with
    ⟨rfl, zeroByte, after⟩ | ⟨d, ds, digits, first, rests, byte, notZero, rest, after⟩
  · unfold skipWhole
    simp only [zeroByte]
    split
    · next b found => simp [(Follows.ends after b found).1]
    · rfl
  · have run := skipDigits_run rest
      (fun b member => by
        obtain ⟨c, mem, rfl⟩ := List.mem_map.mp member
        exact isDigit_ofNat (rests c mem))
      (fun b found => (Follows.ends after b found).1)
    rw [digits]
    unfold skipWhole
    rw [byte]
    split
    · next same => exact absurd (Option.some.inj same) notZero
    · next b other found =>
      obtain rfl := Option.some.inj found
      rw [if_pos (isDigit_ofNat first), run]
      simp only [List.map_cons, List.length_cons, List.length_map]
      congr 1
      omega
    · next found => simp at found

theorem textBytes_digits_cons (n : Nat) :
    ∃ b rest, textBytes (toString n) = b :: rest ∧ isDigit b = true := by
  rw [textBytes_digits]
  cases digits : Nat.toDigits 10 n with
  | nil => exact absurd digits Nat.toDigits_ne_nil
  | cons d ds =>
    have bounds := digit_bounds (Nat.isDigit_of_mem_toDigits (b := 10) (by omega) (by omega)
      (digits ▸ List.mem_cons_self : d ∈ Nat.toDigits 10 n))
    exact ⟨_, _, rfl, isDigit_ofNat bounds⟩

/-- An integer is written as a minus sign when negative, then the digits of its magnitude. -/
theorem textBytes_int (i : Int) :
    textBytes (toString i) = (if i < 0 then [0x2D] else []) ++ textBytes (toString i.natAbs) := by
  cases i with
  | ofNat m => rfl
  | negSucc m =>
    have minus : textBytes "-" = [0x2D] := by decide
    rw [if_pos (Int.negSucc_lt_zero m)]
    exact (textBytes_append "-" _).trans (by rw [minus]; rfl)

/-- **An integer as a writer gives it passes a skipper**, up to the byte after its digits. -/
theorem skipNumber_int {p : Nat} {i : Int} (placed : Placed bytes p (textBytes (toString i)))
    (follows : Follows bytes (p + (textBytes (toString i)).length)) :
    skipNumber bytes p = .ok (p + (textBytes (toString i)).length) := by
  rw [textBytes_int] at placed follows ⊢
  by_cases negative : i < 0
  · simp only [if_pos negative, List.singleton_append, List.length_cons] at placed follows ⊢
    obtain ⟨minus, digits⟩ := placed_cons.mp placed
    have ends : Follows bytes (p + 1 + (textBytes (toString i.natAbs)).length) := by
      simpa [Nat.add_assoc, Nat.add_comm 1] using follows
    unfold skipNumber
    simp only [minus, beq_self_eq_true, ↓reduceIte, skipWhole_digits digits ends,
      skipAfterWhole_follows ends]
    exact congrArg Except.ok (by omega)
  · simp only [if_neg negative, List.nil_append] at placed follows ⊢
    obtain ⟨b, rest, written, digit⟩ := textBytes_digits_cons i.natAbs
    have first : byteAt bytes p = some b := by
      rw [written] at placed
      exact (placed_cons.mp placed).1
    have notMinus : (byteAt bytes p == some 0x2D) = false := by
      rw [first]
      exact beq_false_of_ne fun same => by
        obtain rfl := Option.some.inj same
        exact absurd digit (by decide)
    unfold skipNumber
    simp only [notMinus, Bool.false_eq_true, ↓reduceIte, skipWhole_digits placed follows,
      skipAfterWhole_follows follows]

/-! ### Literals and blanks -/

theorem literalRest_placed {p : Nat} {rest : List UInt8} (placed : Placed bytes p rest) :
    literalRest bytes rest p = .ok (p + rest.length) := by
  induction rest generalizing p with
  | nil => rfl
  | cons c cs ih =>
    obtain ⟨here, more⟩ := placed_cons.mp placed
    rw [literalRest, here]
    simp only [beq_self_eq_true, ↓reduceIte, ih more, List.length_cons]
    congr 1
    omega

theorem skipSpace_of_byteAt {p : Nat} {b : UInt8} (found : byteAt bytes p = some b)
    (notSpace : isSpace b = false) : skipSpace bytes p = p := by
  have inside := lt_size_of_byteAt found
  rw [skipSpace, dif_pos inside, getElem_of_byteAt inside found, notSpace]
  rfl

theorem skipSpace_of_size {p : Nat} (past : bytes.size ≤ p) : skipSpace bytes p = p := by
  rw [skipSpace, dif_neg (by omega)]

theorem Follows.skipSpace {q : Nat} (follows : Follows bytes q) : skipSpace bytes q = q := by
  rcases follows with none | found | found | found
  · exact skipSpace_of_size (by simpa [byteAt] using none)
  all_goals exact skipSpace_of_byteAt found rfl

end JsonText

end Survey
