import Mathlib
import Survey.Proofs.Json.Numbers

/-!
# Reading back the text of a value

The reader's `JsonText.value`, run over the compact text `Json.render` gives a value, reads
that value back: its document has the same tree, with the same strings and keys, every
container closed, every number read as `JsonNumber.ReadAs` says, and stops right after the
value. The values are those whose numbers are all integers and whose containers nest within the
reader's limit (`Json.Readable`), as every snapshot is.

* `JsonText.read_render` — a whole text is read back as its value, with nothing after it.
* `JsonText.value_render`, `JsonText.arrayItems_render`, `JsonText.objectMembers_render` —
  the three mutually recursive scanners, each run from the start of its part of the text.
* `Doc.Reads` — what it is for a document to be read from a value's text.
-/

namespace Survey

namespace Json

mutual

/-- A value whose text the reader reads back in full, inside containers that leave it `room`
more levels of nesting: every number is an integer as the writer gives it
(`JsonNumber.Integer`), and containers nest no deeper than the room. -/
def Readable : Nat → Json → Prop
  | _, .number n => n.Integer
  | room, .array items => 0 < room ∧ ItemsReadable (room - 1) items
  | room, .object members => 0 < room ∧ MembersReadable (room - 1) members
  | _, _ => True

/-- Every item is readable. -/
def ItemsReadable (room : Nat) : List Json → Prop
  | [] => True
  | x :: xs => Readable room x ∧ ItemsReadable room xs

/-- Every member's value is readable. -/
def MembersReadable (room : Nat) : List (String × Json) → Prop
  | [] => True
  | (_, v) :: ms => Readable room v ∧ MembersReadable room ms

end

theorem itemsReadable_iff {room : Nat} {xs : List Json} :
    ItemsReadable room xs ↔ ∀ x ∈ xs, x.Readable room := by
  induction xs with
  | nil => simp [ItemsReadable]
  | cons x xs ih => simp [ItemsReadable, ih]

theorem membersReadable_iff {room : Nat} {ms : List (String × Json)} :
    MembersReadable room ms ↔ ∀ m ∈ ms, m.2.Readable room := by
  induction ms with
  | nil => simp [MembersReadable]
  | cons m ms ih => simp [MembersReadable, ih]

@[simp] theorem readable_null (room : Nat) : Json.null.Readable room := by
  simp [Readable]

@[simp] theorem readable_bool (room : Nat) (v : Bool) : (Json.bool v).Readable room := by
  simp [Readable]

@[simp] theorem readable_string (room : Nat) (s : String) : (Json.string s).Readable room := by
  simp [Readable]

@[simp] theorem readable_ofNat (room n : Nat) : (Json.ofNat n).Readable room := trivial

@[simp] theorem readable_ofInt (room : Nat) (i : Int) : (Json.ofInt i).Readable room := by
  unfold ofInt
  split
  · trivial
  · show i < 0
    omega

@[simp] theorem readable_array (room : Nat) (xs : List Json) :
    (Json.array xs).Readable room ↔ 0 < room ∧ ∀ x ∈ xs, x.Readable (room - 1) := by
  rw [Readable, itemsReadable_iff]

@[simp] theorem readable_object (room : Nat) (ms : List (String × Json)) :
    (Json.object ms).Readable room ↔ 0 < room ∧ ∀ m ∈ ms, m.2.Readable (room - 1) := by
  rw [Readable, membersReadable_iff]

mutual

/-- More room keeps a value readable. -/
theorem Readable.mono {room room' : Nat} (more : room ≤ room') :
    ∀ {j : Json}, j.Readable room → j.Readable room'
  | .null, _ | .bool _, _ | .string _, _ => by simp
  | .number _, readable => readable
  | .array items, readable =>
    ⟨by have := readable.1; omega, ItemsReadable.mono (by omega) readable.2⟩
  | .object members, readable =>
    ⟨by have := readable.1; omega, MembersReadable.mono (by omega) readable.2⟩

theorem ItemsReadable.mono {room room' : Nat} (more : room ≤ room') :
    ∀ {xs : List Json}, ItemsReadable room xs → ItemsReadable room' xs
  | [], _ => trivial
  | _ :: _, readable => ⟨Readable.mono more readable.1, ItemsReadable.mono more readable.2⟩

theorem MembersReadable.mono {room room' : Nat} (more : room ≤ room') :
    ∀ {ms : List (String × Json)}, MembersReadable room ms → MembersReadable room' ms
  | [], _ => trivial
  | (_, _) :: _, readable =>
    ⟨Readable.mono more readable.1, MembersReadable.mono more readable.2⟩

end

end Json

namespace Doc

mutual

/-- A document read from the text of a JSON value: the same tree, with the same strings and
keys, every number read as `JsonNumber.ReadAs` says, and every container closed and within the
nesting limit. Offsets are left free. -/
inductive Reads : Doc → Json → Prop
  | null {start stop : Nat} : Reads (.null start stop) .null
  | bool {v : Bool} {start stop : Nat} : Reads (.bool v start stop) (.bool v)
  | number {r : Except ReadFault JsonNumber} {n : JsonNumber} {start stop : Nat} :
      n.ReadAs r → Reads (.number r start stop) (.number n)
  | string {s : String} {start stop : Nat} : Reads (.string (.ok s) start stop) (.string s)
  | array {start stop : Nat} {items : List Doc} {xs : List Json} :
      ItemsRead items xs → Reads (.array start none items (.closed stop)) (.array xs)
  | object {start stop : Nat} {members : List (Except ReadFault String × Nat × Doc)}
      {ms : List (String × Json)} :
      MembersRead members ms → Reads (.object start none members (.closed stop)) (.object ms)

/-- Array items read one by one. -/
inductive ItemsRead : List Doc → List Json → Prop
  | nil : ItemsRead [] []
  | cons {d : Doc} {x : Json} {ds : List Doc} {xs : List Json} :
      Reads d x → ItemsRead ds xs → ItemsRead (d :: ds) (x :: xs)

/-- Object members read one by one, each key as written. -/
inductive MembersRead : List (Except ReadFault String × Nat × Doc) → List (String × Json) → Prop
  | nil : MembersRead [] []
  | cons {k : String} {keyStop : Nat} {d : Doc} {v : Json}
      {ds : List (Except ReadFault String × Nat × Doc)} {ms : List (String × Json)} :
      Reads d v → MembersRead ds ms → MembersRead ((.ok k, keyStop, d) :: ds) ((k, v) :: ms)

end

/-- A document read from a value's text was read to its end. -/
theorem Reads.stopped?_eq_none {d : Doc} {j : Json} (read : d.Reads j) : d.stopped? = none := by
  cases read <;> rfl

end Doc

namespace JsonText

open Json

variable {bytes : ByteArray}

/-! ### The bytes of a value's text -/

theorem textBytes_render_null : textBytes (render .null) = [0x6E, 0x75, 0x6C, 0x6C] := by
  decide

theorem textBytes_render_true : textBytes (render (.bool true)) = [0x74, 0x72, 0x75, 0x65] := by
  decide

theorem textBytes_render_false :
    textBytes (render (.bool false)) = [0x66, 0x61, 0x6C, 0x73, 0x65] := by
  decide

theorem textBytes_render_array (xs : List Json) :
    textBytes (render (.array xs)) = [0x5B] ++ textBytes (renderItems xs) ++ [0x5D] := by
  have opening : textBytes "[" = [0x5B] := by decide
  have closing : textBytes "]" = [0x5D] := by decide
  rw [render, textBytes_append, textBytes_append, opening, closing]

theorem textBytes_render_object (ms : List (String × Json)) :
    textBytes (render (.object ms)) = [0x7B] ++ textBytes (renderMembers ms) ++ [0x7D] := by
  have opening : textBytes "\x7b" = [0x7B] := by decide
  have closing : textBytes "\x7d" = [0x7D] := by decide
  rw [render, textBytes_append, textBytes_append, opening, closing]

theorem textBytes_renderItems_cons {x : Json} {rest : List Json} (more : rest ≠ []) :
    textBytes (renderItems (x :: rest)) = textBytes (render x) ++ [0x2C] ++ textBytes (renderItems rest) := by
  have comma : textBytes "," = [0x2C] := by decide
  cases rest with
  | nil => exact absurd rfl more
  | cons y ys => simp only [renderItems, textBytes_append, comma]

theorem textBytes_renderMembers_cons {k : String} {v : Json} {rest : List (String × Json)}
    (more : rest ≠ []) :
    textBytes (renderMembers ((k, v) :: rest)) =
      textBytes (quote k) ++ [0x3A] ++ textBytes (render v) ++ [0x2C] ++ textBytes (renderMembers rest) := by
  have colon : textBytes ":" = [0x3A] := by decide
  have comma : textBytes "," = [0x2C] := by decide
  cases rest with
  | nil => exact absurd rfl more
  | cons m ms => simp only [renderMembers, textBytes_append, colon, comma]

theorem textBytes_renderMembers_single (k : String) (v : Json) :
    textBytes (renderMembers [(k, v)]) = textBytes (quote k) ++ [0x3A] ++ textBytes (render v) := by
  have colon : textBytes ":" = [0x3A] := by decide
  simp only [renderMembers, textBytes_append, colon]

/-- An integer is written as its decimal text. -/
theorem render_integer_number {n : JsonNumber} (integer : n.Integer) :
    ∃ i : Int, render (.number n) = toString i := by
  cases n with
  | nat m => exact ⟨m, rfl⟩
  | negative i => exact ⟨i, rfl⟩
  | float f => exact absurd integer id

/-- A digit is none of the bytes the reader tests a value's first byte against before
numbers. -/
theorem isDigit_tests {b : UInt8} (digit : isDigit b = true) :
    isSpace b = false ∧ (b == 0x6E) = false ∧ (b == 0x74) = false ∧ (b == 0x66) = false ∧
      b ≠ 0x5D ∧ b ≠ 0x7D := by
  simp only [isDigit, Bool.and_eq_true, decide_eq_true_eq, UInt8.le_iff_toNat_le,
    UInt8.reduceToNat] at digit
  have ne : ∀ c : UInt8, 0x39 < c.toNat → b ≠ c := fun c above same => by
    rw [same] at digit
    omega
  refine ⟨?_, beq_false_of_ne (ne _ (by decide)), beq_false_of_ne (ne _ (by decide)),
    beq_false_of_ne (ne _ (by decide)), ne _ (by decide), ne _ (by decide)⟩
  simp only [isSpace, Bool.or_eq_false_iff, beq_eq_false_iff_ne]
  refine ⟨⟨⟨?_, ?_⟩, ?_⟩, ?_⟩ <;> intro same <;> rw [same] at digit <;> simp at digit

/-- The first byte of an integer's text: a minus sign or a digit. -/
theorem textBytes_int_cons (i : Int) :
    ∃ b rest, textBytes (toString i) = b :: rest ∧ (b = 0x2D ∨ isDigit b = true) := by
  rw [textBytes_int]
  obtain ⟨b, rest, written, digit⟩ := textBytes_digits_cons i.natAbs
  by_cases negative : i < 0
  · exact ⟨0x2D, _, by rw [if_pos negative]; rfl, .inl rfl⟩
  · exact ⟨b, rest, by rw [if_neg negative, written]; rfl, .inr digit⟩

/-- The first byte of the text of a readable value: never a blank, nor a closing bracket. -/
theorem render_cons {room : Nat} {j : Json} (readable : j.Readable room) :
    ∃ b rest, textBytes (render j) = b :: rest ∧ isSpace b = false ∧ b ≠ 0x5D ∧ b ≠ 0x7D := by
  cases j with
  | null => exact ⟨0x6E, _, textBytes_render_null, rfl, by decide, by decide⟩
  | bool v =>
    cases v with
    | false => exact ⟨0x66, _, textBytes_render_false, rfl, by decide, by decide⟩
    | true => exact ⟨0x74, _, textBytes_render_true, rfl, by decide, by decide⟩
  | number n =>
    obtain ⟨i, written⟩ := render_integer_number readable
    obtain ⟨b, rest, bytes, first⟩ := textBytes_int_cons i
    rw [written, bytes]
    rcases first with rfl | digit
    · exact ⟨0x2D, rest, rfl, rfl, by decide, by decide⟩
    · obtain ⟨blank, -, -, -, square, curly⟩ := isDigit_tests digit
      exact ⟨b, rest, rfl, blank, square, curly⟩
  | string s => exact ⟨0x22, _, by rw [render, textBytes_quote]; rfl, rfl, by decide, by decide⟩
  | array xs => exact ⟨0x5B, _, by rw [textBytes_render_array]; rfl, rfl, by decide, by decide⟩
  | object ms => exact ⟨0x7B, _, by rw [textBytes_render_object]; rfl, rfl, by decide, by decide⟩

/-! ### Scalars -/

theorem value_null {fuel nesting p : Nat} (fueled : 0 < fuel)
    (placed : Placed bytes p (textBytes (render .null))) :
    value bytes fuel nesting p = (.null p (p + 4), p + 4) := by
  rw [textBytes_render_null] at placed
  obtain ⟨first, rest⟩ := placed_cons.mp placed
  obtain ⟨f, rfl⟩ : ∃ f, fuel = f + 1 := ⟨fuel - 1, by omega⟩
  simp [value, skipSpace_of_byteAt first rfl, first, literal, literalRest_placed rest]

theorem value_bool {fuel nesting p : Nat} {v : Bool} (fueled : 0 < fuel)
    (placed : Placed bytes p (textBytes (render (.bool v)))) :
    value bytes fuel nesting p =
      (.bool v p (p + (textBytes (render (.bool v))).length),
        p + (textBytes (render (.bool v))).length) := by
  obtain ⟨f, rfl⟩ : ∃ f, fuel = f + 1 := ⟨fuel - 1, by omega⟩
  cases v with
  | false =>
    rw [textBytes_render_false] at placed ⊢
    obtain ⟨first, rest⟩ := placed_cons.mp placed
    simp [value, skipSpace_of_byteAt first rfl, first, literal, literalRest_placed rest]
  | true =>
    rw [textBytes_render_true] at placed ⊢
    obtain ⟨first, rest⟩ := placed_cons.mp placed
    simp [value, skipSpace_of_byteAt first rfl, first, literal, literalRest_placed rest]

theorem value_number {fuel nesting p : Nat} {n : JsonNumber} (fueled : 0 < fuel)
    (integer : n.Integer) (placed : Placed bytes p (textBytes (render (.number n))))
    (follows : Follows bytes (p + (textBytes (render (.number n))).length)) :
    ∃ r, value bytes fuel nesting p = (.number r p (p + (textBytes (render (.number n))).length),
      p + (textBytes (render (.number n))).length) ∧ n.ReadAs r := by
  obtain ⟨r, token, readAs⟩ := numberToken_integer integer placed follows
  obtain ⟨i, written⟩ := render_integer_number integer
  obtain ⟨b, rest, bytesEq, first⟩ := textBytes_int_cons i
  have firstByte : byteAt bytes p = some b := by
    rw [written, bytesEq] at placed
    exact (placed_cons.mp placed).1
  obtain ⟨f, rfl⟩ : ∃ f, fuel = f + 1 := ⟨fuel - 1, by omega⟩
  refine ⟨r, ?_, readAs⟩
  rcases first with rfl | digit
  · simp [value, skipSpace_of_byteAt firstByte rfl, firstByte, token]
  · obtain ⟨blank, notN, notT, notF, -, -⟩ := isDigit_tests digit
    simp [value, skipSpace_of_byteAt firstByte blank, firstByte, notN, notT, notF, digit, token]

theorem value_string {fuel nesting p : Nat} {s : String} (fueled : 0 < fuel)
    (placed : Placed bytes p (textBytes (quote s))) :
    value bytes fuel nesting p =
      (.string (.ok s) p (p + (textBytes (quote s)).length), p + (textBytes (quote s)).length) := by
  have token := stringToken_quote placed
  have firstByte : byteAt bytes p = some 0x22 := by
    rw [textBytes_quote] at placed
    exact (placed_cons.mp placed).1
  have notDigit : isDigit 0x22 = false := by decide
  obtain ⟨f, rfl⟩ : ∃ f, fuel = f + 1 := ⟨fuel - 1, by omega⟩
  simp [value, skipSpace_of_byteAt firstByte rfl, firstByte, notDigit, token]

/-! ### Containers, one step at a time -/

theorem arrayItems_last {fuel nesting p s : Nat} {acc : List Doc} {d : Doc}
    (item : value bytes fuel nesting p = (d, s)) (whole : d.stopped? = none)
    (closing : byteAt bytes s = some 0x5D) :
    arrayItems bytes (fuel + 1) nesting acc p = ((d :: acc).reverse, .closed (s + 1), s + 1) := by
  simp [arrayItems, item, whole, skipSpace_of_byteAt closing rfl, closing]

theorem arrayItems_next {fuel nesting p s : Nat} {acc : List Doc} {d : Doc} {b : UInt8}
    (item : value bytes fuel nesting p = (d, s)) (whole : d.stopped? = none)
    (comma : byteAt bytes s = some 0x2C) (next : byteAt bytes (s + 1) = some b)
    (blank : isSpace b = false) (notClosing : b ≠ 0x5D) :
    arrayItems bytes (fuel + 1) nesting acc p = arrayItems bytes fuel nesting (d :: acc) (s + 1) := by
  simp [arrayItems, item, whole, skipSpace_of_byteAt comma rfl, comma,
    skipSpace_of_byteAt next blank, next]

theorem objectMembers_last {fuel nesting p keyStop s : Nat}
    {acc : List (Except ReadFault String × Nat × Doc)} {k : String} {d : Doc}
    (key : stringToken bytes p = .ok (.ok k, keyStop)) (colon : byteAt bytes keyStop = some 0x3A)
    (item : value bytes fuel nesting (keyStop + 1) = (d, s)) (whole : d.stopped? = none)
    (closing : byteAt bytes s = some 0x7D) :
    objectMembers bytes (fuel + 1) nesting acc p =
      (((.ok k, keyStop, d) :: acc).reverse, .closed (s + 1), s + 1) := by
  simp [objectMembers, key, skipSpace_of_byteAt colon rfl, colon, item, whole,
    skipSpace_of_byteAt closing rfl, closing]

theorem objectMembers_next {fuel nesting p keyStop s : Nat}
    {acc : List (Except ReadFault String × Nat × Doc)} {k : String} {d : Doc}
    (key : stringToken bytes p = .ok (.ok k, keyStop)) (colon : byteAt bytes keyStop = some 0x3A)
    (item : value bytes fuel nesting (keyStop + 1) = (d, s)) (whole : d.stopped? = none)
    (comma : byteAt bytes s = some 0x2C) (next : byteAt bytes (s + 1) = some 0x22) :
    objectMembers bytes (fuel + 1) nesting acc p =
      objectMembers bytes fuel nesting ((.ok k, keyStop, d) :: acc) (s + 1) := by
  simp [objectMembers, key, skipSpace_of_byteAt colon rfl, colon, item, whole,
    skipSpace_of_byteAt comma rfl, comma, skipSpace_of_byteAt next rfl, next]

theorem value_array_empty {fuel nesting p : Nat} (fueled : 0 < fuel)
    (shallow : nesting < nestingLimit) (placed : Placed bytes p [0x5B, 0x5D]) :
    value bytes fuel nesting p = (.array p none [] (.closed (p + 2)), p + 2) := by
  simp only [placed_cons, placed_nil, and_true] at placed
  obtain ⟨opening, closing⟩ := placed
  obtain ⟨f, rfl⟩ : ∃ f, fuel = f + 1 := ⟨fuel - 1, by omega⟩
  have notDigit : isDigit 0x5B = false := by decide
  simp [value, skipSpace_of_byteAt opening rfl, opening, notDigit,
    skipSpace_of_byteAt closing rfl, closing, Nat.not_le.mpr shallow]

theorem value_array {fuel nesting p stop : Nat} {b : UInt8} {items : List Doc}
    (shallow : nesting < nestingLimit)
    (opening : byteAt bytes p = some 0x5B) (first : byteAt bytes (p + 1) = some b)
    (blank : isSpace b = false) (notClosing : b ≠ 0x5D)
    (read : arrayItems bytes fuel (nesting + 1) [] (p + 1) = (items, .closed stop, stop)) :
    value bytes (fuel + 1) nesting p = (.array p none items (.closed stop), stop) := by
  have notDigit : isDigit 0x5B = false := by decide
  simp [value, skipSpace_of_byteAt opening rfl, opening, notDigit,
    skipSpace_of_byteAt first blank, first, read, Nat.not_le.mpr shallow]

theorem value_object_empty {fuel nesting p : Nat} (fueled : 0 < fuel)
    (shallow : nesting < nestingLimit) (placed : Placed bytes p [0x7B, 0x7D]) :
    value bytes fuel nesting p = (.object p none [] (.closed (p + 2)), p + 2) := by
  simp only [placed_cons, placed_nil, and_true] at placed
  obtain ⟨opening, closing⟩ := placed
  obtain ⟨f, rfl⟩ : ∃ f, fuel = f + 1 := ⟨fuel - 1, by omega⟩
  have notDigit : isDigit 0x7B = false := by decide
  simp [value, skipSpace_of_byteAt opening rfl, opening, notDigit,
    skipSpace_of_byteAt closing rfl, closing, Nat.not_le.mpr shallow]

theorem value_object {fuel nesting p stop : Nat}
    {members : List (Except ReadFault String × Nat × Doc)} (shallow : nesting < nestingLimit)
    (opening : byteAt bytes p = some 0x7B) (first : byteAt bytes (p + 1) = some 0x22)
    (read : objectMembers bytes fuel (nesting + 1) [] (p + 1) = (members, .closed stop, stop)) :
    value bytes (fuel + 1) nesting p = (.object p none members (.closed stop), stop) := by
  have notDigit : isDigit 0x7B = false := by decide
  simp [value, skipSpace_of_byteAt opening rfl, opening, notDigit,
    skipSpace_of_byteAt first rfl, first, read, Nat.not_le.mpr shallow]

/-! ### Whole values -/

/-- The text of a nonempty list of items starts with a byte that is neither a blank nor a
closing bracket. -/
theorem renderItems_first {room : Nat} {xs : List Json} (nonempty : xs ≠ [])
    (readable : ItemsReadable room xs) :
    ∃ b t, textBytes (renderItems xs) = b :: t ∧ isSpace b = false ∧ b ≠ 0x5D := by
  cases xs with
  | nil => exact absurd rfl nonempty
  | cons x rest =>
    obtain ⟨b, t, written, blank, square, -⟩ := render_cons readable.1
    cases rest with
    | nil => exact ⟨b, t, by rw [renderItems, written], blank, square⟩
    | cons y ys =>
      exact ⟨b, _, by rw [textBytes_renderItems_cons (List.cons_ne_nil y ys), written]; rfl,
        blank, square⟩

/-- The text of a nonempty list of members starts with the quote of the first key. -/
theorem renderMembers_first {ms : List (String × Json)} (nonempty : ms ≠ []) :
    ∃ t, textBytes (renderMembers ms) = 0x22 :: t := by
  cases ms with
  | nil => exact absurd rfl nonempty
  | cons m rest =>
    obtain ⟨k, v⟩ := m
    cases rest with
    | nil => exact ⟨_, by rw [textBytes_renderMembers_single, textBytes_quote]; rfl⟩
    | cons m' ms =>
      exact ⟨_, by rw [textBytes_renderMembers_cons (List.cons_ne_nil m' ms), textBytes_quote]; rfl⟩

mutual

/-- **The reader reads the text of a readable value back as that value**, stopping right
after it, given fuel for as many steps as the text has bytes. -/
theorem value_render {fuel nesting room p : Nat} {j : Json} (readable : j.Readable room)
    (roomy : nesting + room ≤ nestingLimit)
    (placed : Placed bytes p (textBytes (render j)))
    (follows : Follows bytes (p + (textBytes (render j)).length))
    (enough : (textBytes (render j)).length ≤ fuel) :
    ∃ d, value bytes fuel nesting p = (d, p + (textBytes (render j)).length) ∧ d.Reads j := by
  have fueled : 0 < fuel := by
    obtain ⟨b, t, written, -⟩ := render_cons readable
    rw [written] at enough
    simp only [List.length_cons] at enough
    omega
  cases j with
  | null => exact ⟨_, value_null fueled placed, .null⟩
  | bool v => exact ⟨_, value_bool fueled placed, .bool⟩
  | number n =>
    obtain ⟨r, ran, readAs⟩ := value_number fueled readable placed follows
    exact ⟨_, ran, .number readAs⟩
  | string s => exact ⟨_, value_string fueled placed, .string⟩
  | array xs =>
    obtain ⟨open_, items⟩ := readable
    have shallow : nesting < nestingLimit := by omega
    obtain ⟨f, rfl⟩ : ∃ f, fuel = f + 1 := ⟨fuel - 1, by omega⟩
    rw [textBytes_render_array] at placed enough ⊢
    rw [List.append_assoc, List.singleton_append] at placed
    obtain ⟨opening, inner⟩ := placed_cons.mp placed
    simp only [List.length_append, List.length_singleton] at enough ⊢
    by_cases empty : xs = []
    · subst empty
      have nothing : textBytes (renderItems []) = [] := rfl
      rw [nothing] at inner ⊢
      exact ⟨_, value_array_empty fueled shallow (placed_cons.mpr ⟨opening, inner⟩), .array .nil⟩
    · obtain ⟨docs, run, read⟩ := @arrayItems_render f (nesting + 1) (room - 1) (p + 1) [] xs
        empty items (by omega) inner (by omega)
      obtain ⟨b, t, written, blank, notClosing⟩ := renderItems_first empty items
      have first : byteAt bytes (p + 1) = some b := by
        rw [written] at inner
        exact (placed_cons.mp inner).1
      rw [List.reverse_nil, List.nil_append] at run
      have ran := value_array shallow opening first blank notClosing run
      rw [show p + 1 + (textBytes (renderItems xs)).length + 1 =
        p + (1 + (textBytes (renderItems xs)).length + 1) by omega] at ran
      exact ⟨_, ran, .array read⟩
  | object ms =>
    obtain ⟨open_, members⟩ := readable
    have shallow : nesting < nestingLimit := by omega
    obtain ⟨f, rfl⟩ : ∃ f, fuel = f + 1 := ⟨fuel - 1, by omega⟩
    rw [textBytes_render_object] at placed enough ⊢
    rw [List.append_assoc, List.singleton_append] at placed
    obtain ⟨opening, inner⟩ := placed_cons.mp placed
    simp only [List.length_append, List.length_singleton] at enough ⊢
    by_cases empty : ms = []
    · subst empty
      have nothing : textBytes (renderMembers []) = [] := rfl
      rw [nothing] at inner ⊢
      exact ⟨_, value_object_empty fueled shallow (placed_cons.mpr ⟨opening, inner⟩),
        .object .nil⟩
    · obtain ⟨docs, run, read⟩ := @objectMembers_render f (nesting + 1) (room - 1) (p + 1) []
        ms empty members (by omega) inner (by omega)
      obtain ⟨t, written⟩ := renderMembers_first empty
      have first : byteAt bytes (p + 1) = some 0x22 := by
        rw [written] at inner
        exact (placed_cons.mp inner).1
      rw [List.reverse_nil, List.nil_append] at run
      have ran := value_object shallow opening first run
      rw [show p + 1 + (textBytes (renderMembers ms)).length + 1 =
        p + (1 + (textBytes (renderMembers ms)).length + 1) by omega] at ran
      exact ⟨_, ran, .object read⟩

theorem arrayItems_render {fuel nesting room p : Nat} {acc : List Doc} {xs : List Json}
    (nonempty : xs ≠ []) (readable : ItemsReadable room xs) (roomy : nesting + room ≤ nestingLimit)
    (placed : Placed bytes p (textBytes (renderItems xs) ++ [0x5D]))
    (enough : (textBytes (renderItems xs)).length < fuel) :
    ∃ items, arrayItems bytes fuel nesting acc p =
      (acc.reverse ++ items, .closed (p + (textBytes (renderItems xs)).length + 1),
        p + (textBytes (renderItems xs)).length + 1) ∧ Doc.ItemsRead items xs := by
  cases xs with
  | nil => exact absurd rfl nonempty
  | cons x rest =>
    obtain ⟨f, rfl⟩ : ∃ f, fuel = f + 1 := ⟨fuel - 1, by omega⟩
    obtain ⟨xReadable, restReadable⟩ := readable
    -- The recursion is on the tail itself, so the last item is told apart without taking the
    -- tail apart.
    by_cases last : rest = []
    · subst last
      have single : textBytes (renderItems [x]) = textBytes (render x) := rfl
      rw [single] at placed enough ⊢
      obtain ⟨body, closing, -⟩ := placed_append_cons.mp placed
      obtain ⟨d, ran, read⟩ := @value_render f nesting room p x xReadable roomy body
        (.inr (.inr (.inl closing))) (by omega)
      rw [arrayItems_last ran read.stopped?_eq_none closing]
      exact ⟨[d], by simp, .cons read .nil⟩
    · rw [textBytes_renderItems_cons last] at placed enough ⊢
      simp only [List.append_assoc, List.singleton_append] at placed
      obtain ⟨body, comma, more⟩ := placed_append_cons.mp placed
      obtain ⟨b, t, written, blank, notClosing⟩ := renderItems_first last restReadable
      have next : byteAt bytes (p + (textBytes (render x)).length + 1) = some b := by
        rw [written] at more
        exact (placed_cons.mp more).1
      simp only [List.length_append, List.length_singleton] at enough ⊢
      obtain ⟨d, ran, read⟩ := @value_render f nesting room p x xReadable roomy body
        (.inr (.inl comma)) (by omega)
      rw [arrayItems_next ran read.stopped?_eq_none comma next blank notClosing]
      obtain ⟨items, run, reads⟩ := @arrayItems_render f nesting room
        (p + (textBytes (render x)).length + 1) (d :: acc) rest last restReadable roomy more
        (by omega)
      refine ⟨d :: items, ?_, .cons read reads⟩
      rw [run]
      simp only [List.reverse_cons, List.append_assoc, List.singleton_append, Prod.mk.injEq,
        DocEnding.closed.injEq, true_and]
      omega

theorem objectMembers_render {fuel nesting room p : Nat}
    {acc : List (Except ReadFault String × Nat × Doc)} {ms : List (String × Json)}
    (nonempty : ms ≠ []) (readable : MembersReadable room ms)
    (roomy : nesting + room ≤ nestingLimit)
    (placed : Placed bytes p (textBytes (renderMembers ms) ++ [0x7D]))
    (enough : (textBytes (renderMembers ms)).length < fuel) :
    ∃ members, objectMembers bytes fuel nesting acc p =
      (acc.reverse ++ members, .closed (p + (textBytes (renderMembers ms)).length + 1),
        p + (textBytes (renderMembers ms)).length + 1) ∧ Doc.MembersRead members ms := by
  cases ms with
  | nil => exact absurd rfl nonempty
  | cons m rest =>
    obtain ⟨k, v⟩ := m
    obtain ⟨f, rfl⟩ : ∃ f, fuel = f + 1 := ⟨fuel - 1, by omega⟩
    obtain ⟨vReadable, restReadable⟩ := readable
    by_cases last : rest = []
    · subst last
      rw [textBytes_renderMembers_single] at placed enough ⊢
      simp only [List.append_assoc, List.singleton_append] at placed
      obtain ⟨keyPlaced, colon, body⟩ := placed_append_cons.mp placed
      obtain ⟨body, closing, -⟩ := placed_append_cons.mp body
      have key := stringToken_quote keyPlaced
      simp only [List.length_append, List.length_singleton] at enough ⊢
      obtain ⟨d, ran, read⟩ := @value_render f nesting room
        (p + (textBytes (quote k)).length + 1) v vReadable roomy body
        (.inr (.inr (.inr closing))) (by omega)
      rw [objectMembers_last key colon ran read.stopped?_eq_none closing]
      refine ⟨[(.ok k, p + (textBytes (quote k)).length, d)], ?_, .cons read .nil⟩
      simp only [List.reverse_cons, Prod.mk.injEq, DocEnding.closed.injEq, true_and]
      omega
    · rw [textBytes_renderMembers_cons last] at placed enough ⊢
      simp only [List.append_assoc, List.singleton_append] at placed
      obtain ⟨keyPlaced, colon, body⟩ := placed_append_cons.mp placed
      obtain ⟨body, comma, more⟩ := placed_append_cons.mp body
      have key := stringToken_quote keyPlaced
      obtain ⟨t, written⟩ := renderMembers_first last
      have next : byteAt bytes (p + (textBytes (quote k)).length + 1 +
          (textBytes (render v)).length + 1) = some 0x22 := by
        rw [written] at more
        exact (placed_cons.mp more).1
      simp only [List.length_append, List.length_singleton] at enough ⊢
      obtain ⟨d, ran, read⟩ := @value_render f nesting room
        (p + (textBytes (quote k)).length + 1) v vReadable roomy body
        (.inr (.inl comma)) (by omega)
      rw [objectMembers_next key colon ran read.stopped?_eq_none comma next]
      obtain ⟨members, run, reads⟩ := @objectMembers_render f nesting room
        (p + (textBytes (quote k)).length + 1 + (textBytes (render v)).length + 1)
        ((.ok k, p + (textBytes (quote k)).length, d) :: acc) rest last restReadable roomy more
        (by omega)
      refine ⟨(.ok k, p + (textBytes (quote k)).length, d) :: members, ?_, .cons read reads⟩
      rw [run]
      simp only [List.reverse_cons, List.append_assoc, List.singleton_append, Prod.mk.injEq,
        DocEnding.closed.injEq, true_and]
      omega

end

theorem placed_drop {p : Nat} {l : List UInt8} (rest : bytes.data.toList.drop p = l) :
    Placed bytes p l := by
  induction l generalizing p with
  | nil => exact placed_nil
  | cons b l ih =>
    refine placed_cons.mpr ⟨?_, ih ?_⟩
    · have got := congrArg List.head? rest
      rw [List.head?_drop] at got
      change bytes.data[p]? = some b
      simpa using got
    · rw [← List.drop_drop, rest]
      rfl

/-- **The text the writer gives a readable value is read back as that value**, with nothing
after it. -/
theorem read_render {j : Json} (readable : j.Readable nestingLimit) :
    (JsonDocument.read (render j)).root.Reads j ∧ (JsonDocument.read (render j)).trailing = none := by
  have bytesEq := toUTF8_toList (render j)
  have placed : Placed (render j).toUTF8 0 (textBytes (render j)) := placed_drop (by rw [List.drop_zero]; exact bytesEq)
  have size : (render j).toUTF8.size = (textBytes (render j)).length := by
    rw [← bytesEq]
    simp
  have atEnd : Follows (render j).toUTF8 (0 + (textBytes (render j)).length) :=
    .inl (by simp [byteAt, ← size])
  obtain ⟨d, ran, read⟩ := @value_render (render j).toUTF8 (2 * (render j).toUTF8.size + 4) 0
    nestingLimit 0 j readable (by omega) placed atEnd (by omega)
  simp only [JsonDocument.read, ran, read.stopped?_eq_none, Follows.skipSpace atEnd]
  exact ⟨read, by simp [← size]⟩

end JsonText

end Survey
