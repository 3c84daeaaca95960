import Mathlib
import Survey.Proofs.Json.Reading
import Survey.Proofs.Schema.FirstPass

/-!
# Decoders read back what the writer wrote

`Decoder.ReadsBack d j good x` says that the decoder `d`, run on any document read from the
text of the value `j` and in any mode, succeeds exactly when `good` holds, and then gives `x`.
Each decoder of the library is shown to read back the value it is meant for, from what reads
back its parts:

* scalars — `string_readsBack`, `bool_readsBack`, and the integers within their bounds
  (`unsigned_readsBack`, `signed_readsBack`), which the reader keeps exactly;
* containers — `list_readsBack`, `pair_readsBack`, `optional` values, and `map_readsBack` and
  `stringSet_readsBack` for entries and keys kept sorted without repeats;
* records — `record_readsBack` and `flatRecord_readsBack`, from one fold invariant
  (`foldEach_eq_ok_iff`);
* enumerations — `external_readsBack` for a variant named by a string, `adjacent_readsBack` for
  one tagged beside its content;
* text — `decodeText_render_iff`: decoding the text the writer gives a value succeeds exactly
  when the decoder reads the value back.

A flattened record buffers the members it does not name, and in text mode buffering checks them
for faults of the reader; a value whose numbers the reader keeps (`Json.Exact`) has none
(`Doc.Reads.readFault?_eq_none`).
-/

namespace Survey

variable {σ α β γ : Type}

@[simp] theorem except_ok_bind {ε : Type} {a : α} {f : α → Except ε β} :
    (Except.ok a >>= f) = f a := rfl

theorem except_map_eq_ok {ε : Type} {x : Except ε α} {f : α → β} {y : β} :
    x.map f = .ok y ↔ ∃ z, x = .ok z ∧ f z = y := by
  cases x <;> simp [Except.map]

/-- Placing the waiting errors of a container leaves a success as it is. -/
theorem Cursor.within_eq_ok {c : Cursor} {array : Bool} {x : Except DecodeError α} {a : α} :
    c.within array x = .ok a ↔ x = .ok a := by
  unfold Cursor.within
  split <;> simp_all

theorem Field.of_read_eq_ok {key : String} {defaulted : Bool} {d : Decoder α}
    {store : σ → α → σ} {s s' : σ} {c : Cursor} :
    (Field.of key defaulted d store).read s c = .ok s' ↔ ∃ x, d c = .ok x ∧ store s x = s' := by
  unfold Field.of
  cases read : d c <;> simp [Except.map, read]

/-- A document read from an object's text is an object, closed and within the nesting limit,
whose members are read from the object's members. -/
theorem Doc.Reads.of_object {d : Doc} {ms : List (String × Json)} (read : d.Reads (.object ms)) :
    ∃ start members stop, d = .object start none members (.closed stop) ∧
      Doc.MembersRead members ms := by
  cases read with
  | object members => exact ⟨_, _, _, rfl, members⟩

namespace Decoder

/-- A decoder reads `x` back from every document read from the text of `j`, in any mode: it
succeeds exactly when `good` holds, and then gives `x`. -/
def ReadsBack (d : Decoder α) (j : Json) (good : Prop) (x : α) : Prop :=
  ∀ c : Cursor, c.doc.Reads j → ∀ y, d c = .ok y ↔ good ∧ y = x

end Decoder

/-- What a decoder needs to read back may be stated in any equivalent form. -/
theorem Decoder.ReadsBack.of_iff {d : Decoder α} {j : Json} {good good' : Prop} {x : α}
    (back : d.ReadsBack j good x) (same : good ↔ good') : d.ReadsBack j good' x := by
  intro c read y
  rw [back c read y, same]

/-- A field read by a decoder that reads its member back stores what it reads back. -/
theorem Field.of_readsBack {key : String} {defaulted : Bool} {d : Decoder β}
    {store : σ → β → σ} {j : Json} {good : Prop} {x : β} (back : d.ReadsBack j good x) :
    ∀ c : Cursor, c.doc.Reads j → ∀ s s',
      (Field.of key defaulted d store).read s c = .ok s' ↔ good ∧ s' = store s x := by
  intro c read s s'
  rw [Field.of_read_eq_ok]
  constructor
  · rintro ⟨y, decoded, rfl⟩
    obtain ⟨holds, rfl⟩ := (back c read y).mp decoded
    exact ⟨holds, rfl⟩
  · rintro ⟨holds, rfl⟩
    exact ⟨x, (back c read x).mpr ⟨holds, rfl⟩, rfl⟩


namespace Cursor

theorem invalidType_ne_ok (c : Cursor) (expected : String) (y : α) :
    c.invalidType expected ≠ .ok y := by
  intro ok
  obtain ⟨u, -, thrown⟩ := except_bind_eq_ok.mp ok
  exact except_throw_ne_ok thrown

theorem invalidValue_ne_ok (c : Cursor) (unexpected expected : String) (y : α) :
    c.invalidValue unexpected expected ≠ .ok y :=
  except_throw_ne_ok

theorem custom_ne_ok (c : Cursor) (message : String) (y : α) : c.custom message ≠ .ok y :=
  except_throw_ne_ok

end Cursor

namespace JsonNumber

/-- A number the reader did not keep was read as no integer. -/
theorem ReadAs.not_nat {n : JsonNumber} {r : Except ReadFault JsonNumber} (readAs : n.ReadAs r)
    (inexact : ¬ n.Exact) (m : Nat) : r ≠ .ok (.nat m) := fun kept => by
  obtain ⟨f, wrong⟩ := readAs.2 inexact _ kept
  cases wrong

theorem ReadAs.not_negative {n : JsonNumber} {r : Except ReadFault JsonNumber}
    (readAs : n.ReadAs r) (inexact : ¬ n.Exact) (i : Int) : r ≠ .ok (.negative i) := fun kept => by
  obtain ⟨f, wrong⟩ := readAs.2 inexact _ kept
  cases wrong

end JsonNumber

namespace Doc

theorem Reads.of_bool {d : Doc} {v : Bool} (read : d.Reads (.bool v)) :
    ∃ start stop, d = .bool v start stop := by
  cases read with
  | bool => exact ⟨_, _, rfl⟩

/-- The members of a document read from an object's text, paired with the object's members. -/
theorem MembersRead.forall₂ {members : List (Except ReadFault String × Nat × Doc)}
    {ms : List (String × Json)} (read : MembersRead members ms) :
    List.Forall₂ (fun m kv => m.1 = .ok kv.1 ∧ m.2.2.Reads kv.2) members ms := by
  induction members generalizing ms with
  | nil =>
    cases read
    exact .nil
  | cons m rest ih =>
    cases read with
    | cons here more => exact .cons ⟨rfl, here⟩ (ih more)

theorem Reads.of_null {d : Doc} (read : d.Reads .null) : ∃ start stop, d = .null start stop := by
  cases read with
  | null => exact ⟨_, _, rfl⟩

theorem Reads.not_null {d : Doc} {j : Json} (read : d.Reads j) (notNull : j ≠ .null)
    (start stop : Nat) : d ≠ .null start stop := by
  rintro rfl
  cases read
  exact notNull rfl

theorem Reads.of_array {d : Doc} {xs : List Json} (read : d.Reads (.array xs)) :
    ∃ start items stop, d = .array start none items (.closed stop) ∧ ItemsRead items xs := by
  cases read with
  | array items => exact ⟨_, _, _, rfl, items⟩

theorem Reads.of_string {d : Doc} {s : String} (read : d.Reads (.string s)) :
    ∃ start stop, d = .string (.ok s) start stop := by
  cases read with
  | string => exact ⟨_, _, rfl⟩

theorem Reads.of_number {d : Doc} {n : JsonNumber} (read : d.Reads (.number n)) :
    ∃ r start stop, d = .number r start stop ∧ n.ReadAs r := by
  cases read with
  | number readAs => exact ⟨_, _, _, rfl, readAs⟩

end Doc

namespace Json

mutual

/-- Every number of a value is one the reader keeps as it is. -/
def Exact : Json → Prop
  | .number n => n.Exact
  | .array items => ItemsExact items
  | .object members => MembersExact members
  | _ => True

/-- Every item's numbers are kept. -/
def ItemsExact : List Json → Prop
  | [] => True
  | x :: xs => Exact x ∧ ItemsExact xs

/-- Every member's numbers are kept. -/
def MembersExact : List (String × Json) → Prop
  | [] => True
  | (_, v) :: ms => Exact v ∧ MembersExact ms

end

theorem itemsExact_iff {xs : List Json} : ItemsExact xs ↔ ∀ x ∈ xs, x.Exact := by
  induction xs with
  | nil => simp [ItemsExact]
  | cons x xs ih => simp [ItemsExact, ih]

theorem membersExact_iff {ms : List (String × Json)} :
    MembersExact ms ↔ ∀ m ∈ ms, m.2.Exact := by
  induction ms with
  | nil => simp [MembersExact]
  | cons m ms ih => simp [MembersExact, ih]

@[simp] theorem exact_null : Json.null.Exact := trivial

@[simp] theorem exact_bool (v : Bool) : (Json.bool v).Exact := trivial

@[simp] theorem exact_string (s : String) : (Json.string s).Exact := trivial

@[simp] theorem exact_array (xs : List Json) : (Json.array xs).Exact ↔ ∀ x ∈ xs, x.Exact :=
  itemsExact_iff

@[simp] theorem exact_object (ms : List (String × Json)) :
    (Json.object ms).Exact ↔ ∀ m ∈ ms, m.2.Exact :=
  membersExact_iff

end Json

namespace Doc

mutual

/-- A document read from a value whose numbers are all kept holds no fault. -/
theorem Reads.readFault?_eq_none : ∀ {d : Doc} {j : Json}, d.Reads j → j.Exact →
    d.readFault? = none
  | _, _, .null, _ => rfl
  | _, _, .bool, _ => rfl
  | _, _, .number readAs, exact => by rw [readAs.1 exact]; rfl
  | _, _, .string, _ => rfl
  | _, _, .array items, exact => by
    simp only [readFault?, items.itemsReadFault?_eq_none exact]
  | _, _, .object members, exact => by
    simp only [readFault?, members.membersReadFault?_eq_none exact]

theorem ItemsRead.itemsReadFault?_eq_none : ∀ {ds : List Doc} {xs : List Json}, ItemsRead ds xs →
    Json.ItemsExact xs → itemsReadFault? ds = none
  | _, _, .nil, _ => rfl
  | _, _, .cons here rest, exact => by
    simp only [itemsReadFault?, here.readFault?_eq_none exact.1,
      rest.itemsReadFault?_eq_none exact.2]

theorem MembersRead.membersReadFault?_eq_none :
    ∀ {members : List (Except ReadFault String × Nat × Doc)} {ms : List (String × Json)},
      MembersRead members ms → Json.MembersExact ms → membersReadFault? members = none
  | _, _, .nil, _ => rfl
  | _, _, .cons here rest, exact => by
    simp only [membersReadFault?, here.readFault?_eq_none exact.1,
      rest.membersReadFault?_eq_none exact.2]

end

/-- Members paired with an object's members, read back as the object's. -/
theorem MembersRead.of_forall₂ {members : List (Except ReadFault String × Nat × Doc)}
    {ms : List (String × Json)}
    (pairs : List.Forall₂ (fun m kv => m.1 = .ok kv.1 ∧ m.2.2.Reads kv.2) members ms) :
    MembersRead members ms := by
  induction pairs with
  | nil => exact .nil
  | @cons m kv _ _ related _ ih =>
    obtain ⟨k, keyStop, v⟩ := m
    obtain ⟨key, j⟩ := kv
    obtain ⟨keyed, read⟩ := related
    dsimp only at keyed read
    subst keyed
    exact .cons read ih

end Doc

namespace Decoder

theorem ReadsBack.map {d : Decoder α} {j : Json} {good : Prop} {x : α} {f : α → β}
    (back : d.ReadsBack j good x) : ReadsBack (fun c => (d c).map f) j good (f x) := by
  intro c read y
  rw [except_map_eq_ok]
  constructor
  · rintro ⟨z, decoded, rfl⟩
    obtain ⟨holds, rfl⟩ := (back c read z).mp decoded
    exact ⟨holds, rfl⟩
  · rintro ⟨holds, rfl⟩
    exact ⟨x, (back c read x).mpr ⟨holds, rfl⟩, rfl⟩

theorem string_readsBack (s : String) : string.ReadsBack (.string s) True s := by
  intro c read y
  obtain ⟨start, stop, doc⟩ := read.of_string
  simp [string, doc, eq_comm]

/-- Decoding items one by one reads back every value whose item is good. -/
theorem mapM_readsBack {c : Cursor} {d : Decoder α} {f : α → Json} {good : α → Prop}
    {xs : List α} {items : List Doc} (read : Doc.ItemsRead items (xs.map f))
    (each : ∀ x ∈ xs, d.ReadsBack (f x) (good x) x) (y : List α) :
    items.mapM (fun item => d (c.child item)) = .ok y ↔ (∀ x ∈ xs, good x) ∧ y = xs := by
  induction xs generalizing items y with
  | nil =>
    cases read
    rw [List.mapM_nil, except_pure_eq_ok]
    simp [eq_comm]
  | cons x xs ih =>
    cases read with
    | cons here rest =>
      have head := each x List.mem_cons_self (c.child _) here
      have tail := ih rest fun x' member => each x' (List.mem_cons_of_mem x member)
      simp only [List.mapM_cons, bind, except_bind_eq_ok, head, tail, except_pure_eq_ok,
        List.forall_mem_cons]
      constructor
      · rintro ⟨a, ⟨holds, rfl⟩, as, ⟨rest, rfl⟩, rfl⟩
        exact ⟨⟨holds, rest⟩, rfl⟩
      · rintro ⟨⟨holds, rest⟩, rfl⟩
        exact ⟨x, ⟨holds, rfl⟩, xs, ⟨rest, rfl⟩, rfl⟩

theorem bool_readsBack (v : Bool) : bool.ReadsBack (.bool v) True v := by
  intro c read y
  obtain ⟨start, stop, doc⟩ := read.of_bool
  simp [bool, doc, eq_comm]

/-- An unsigned integer reads back when it is within the limit, which a word holds. -/
theorem unsigned_readsBack {name : String} {limit : Nat} (n : Nat) (word : limit ≤ JsonText.wordMax) :
    (unsigned name limit).ReadsBack (.number (.nat n)) (n ≤ limit) n := by
  intro c read y
  obtain ⟨r, start, stop, doc, readAs⟩ := read.of_number
  unfold unsigned
  by_cases exact : n ≤ JsonText.wordMax
  · rw [doc, readAs.1 exact]
    dsimp only
    split_ifs with small
    · simp [small, eq_comm]
    · simp only [small, false_and, iff_false]
      exact Cursor.invalidValue_ne_ok _ _ _ _
  · have big : ¬ n ≤ limit := by omega
    simp only [big, false_and, iff_false]
    rw [doc]
    split
    · next same => exact absurd (Doc.number.inj same).1 (readAs.not_nat exact _)
    · next same => exact absurd (Doc.number.inj same).1 (readAs.not_negative exact _)
    · exact Cursor.invalidType_ne_ok _ _ _

/-- A signed integer reads back when it is within its bounds, which the reader keeps. -/
theorem signed_readsBack {name : String} {low high : Int} (i : Int)
    (lowest : -Int.pow 2 63 ≤ low) (lowNeg : low ≤ 0) (highNonneg : 0 ≤ high)
    (word : high ≤ JsonText.wordMax) :
    (signed name low high).ReadsBack (Json.ofInt i) (low ≤ i ∧ i ≤ high) i := by
  intro c read y
  unfold Json.ofInt at read
  split at read
  · next nonneg =>
    obtain ⟨r, start, stop, doc, readAs⟩ := read.of_number
    have back : ((i.toNat : Nat) : Int) = i := Int.toNat_of_nonneg nonneg
    unfold signed
    by_cases exact : i.toNat ≤ JsonText.wordMax
    · rw [doc, readAs.1 exact]
      dsimp only
      rw [back]
      split_ifs with small
      · simp [small, eq_comm, show low ≤ i by omega]
      · simp only [small, and_false, false_and, iff_false]
        exact Cursor.invalidValue_ne_ok _ _ _ _
    · have big : ¬ (low ≤ i ∧ i ≤ high) := by omega
      simp only [big, false_and, iff_false]
      rw [doc]
      split
      · next same => exact absurd (Doc.number.inj same).1 (readAs.not_nat exact _)
      · next same => exact absurd (Doc.number.inj same).1 (readAs.not_negative exact _)
      · exact Cursor.invalidType_ne_ok _ _ _
  · next negative =>
    obtain ⟨r, start, stop, doc, readAs⟩ := read.of_number
    unfold signed
    by_cases exact : -Int.pow 2 63 ≤ i
    · rw [doc, readAs.1 ⟨exact, by omega⟩]
      dsimp only
      split_ifs with small
      · simp [small, eq_comm, show i ≤ high by omega]
      · simp only [small, false_and, iff_false]
        exact Cursor.invalidValue_ne_ok _ _ _ _
    · have inexact : ¬ (JsonNumber.negative i).Exact := fun kept => exact kept.1
      have big : ¬ (low ≤ i ∧ i ≤ high) := by omega
      simp only [big, false_and, iff_false]
      rw [doc]
      split
      · next same => exact absurd (Doc.number.inj same).1 (readAs.not_nat inexact _)
      · next same => exact absurd (Doc.number.inj same).1 (readAs.not_negative inexact _)
      · exact Cursor.invalidType_ne_ok _ _ _

/-! ### Folds over members -/

/-- What a decoder that reads back `x` under `good` gives, carried on by `h`. -/
theorem exists_readBack_iff {P : Prop} {x : α} {h : α → β} {r : β} :
    (∃ a, (P ∧ a = x) ∧ h a = r) ↔ P ∧ r = h x := by
  constructor
  · rintro ⟨a, ⟨holds, rfl⟩, rfl⟩
    exact ⟨holds, rfl⟩
  · rintro ⟨holds, rfl⟩
    exact ⟨x, ⟨holds, rfl⟩, rfl⟩

/-- **A fold whose every step succeeds exactly when its item is good** succeeds exactly when
every item is, and then ends where the steps lead. The items are paired with what they were
read from, and an invariant on the state before each remaining list lets a step depend on what
came before. -/
theorem foldEach_eq_ok_iff {xs : List β} {ys : List γ} {R : β → γ → Prop}
    (pairs : List.Forall₂ R xs ys) {f : σ → β → Except DecodeError σ} (g : σ → γ → σ)
    (good : γ → Prop) (Inv : List γ → σ → Prop)
    (step : ∀ x y, R x y → y ∈ ys → ∀ rest s, Inv (y :: rest) s →
      (∀ s', f s x = .ok s' ↔ good y ∧ s' = g s y) ∧ Inv rest (g s y))
    (init : σ) (start : Inv ys init) (r : σ) :
    foldEach xs init f = .ok r ↔ (∀ y ∈ ys, good y) ∧ r = ys.foldl g init := by
  induction pairs generalizing init with
  | nil =>
    rw [foldEach, List.foldlM_nil, except_pure_eq_ok]
    simp [eq_comm]
  | cons related rest ih =>
    rename_i x y xs ys
    obtain ⟨moves, kept⟩ := step x y related List.mem_cons_self ys init start
    specialize ih (fun x' y' related' member => step x' y' related' (List.mem_cons_of_mem y member))
      _ kept
    rw [foldEach, List.foldlM_cons]
    change Except.bind _ _ = _ ↔ _
    rw [except_bind_eq_ok]
    simp only [moves, List.forall_mem_cons, List.foldl_cons]
    constructor
    · rintro ⟨s, ⟨holds, rfl⟩, folded⟩
      obtain ⟨all, rfl⟩ := ih.mp folded
      exact ⟨⟨holds, all⟩, rfl⟩
    · rintro ⟨⟨holds, all⟩, rfl⟩
      exact ⟨_, ⟨holds, rfl⟩, ih.mpr ⟨all, rfl⟩⟩

/-- The same fold, followed by what is done with its result. -/
theorem foldEach_bind_eq_ok_iff {xs : List β} {ys : List γ} {R : β → γ → Prop}
    (pairs : List.Forall₂ R xs ys) {f : σ → β → Except DecodeError σ} (g : σ → γ → σ)
    (good : γ → Prop) (Inv : List γ → σ → Prop)
    (step : ∀ x y, R x y → y ∈ ys → ∀ rest s, Inv (y :: rest) s →
      (∀ s', f s x = .ok s' ↔ good y ∧ s' = g s y) ∧ Inv rest (g s y))
    (init : σ) (start : Inv ys init) {then_ : σ → Except DecodeError α} {r : α} :
    (foldEach xs init f >>= then_) = .ok r ↔ (∀ y ∈ ys, good y) ∧ then_ (ys.foldl g init) = .ok r := by
  change Except.bind _ _ = _ ↔ _
  rw [except_bind_eq_ok]
  constructor
  · rintro ⟨s, folded, done⟩
    obtain ⟨all, rfl⟩ := (foldEach_eq_ok_iff pairs g good Inv step init start s).mp folded
    exact ⟨all, done⟩
  · rintro ⟨all, done⟩
    exact ⟨_, (foldEach_eq_ok_iff pairs g good Inv step init start _).mpr ⟨all, rfl⟩, done⟩

/-- Inserting a key above every key in place appends its pair. -/
theorem insertSorted_of_lt {k : String} {v : α} {acc : List (String × α)}
    (above : ∀ e ∈ acc, e.1 < k) : insertSorted k v acc = acc ++ [(k, v)] := by
  induction acc with
  | nil => rfl
  | cons e rest ih =>
    obtain ⟨k', v'⟩ := e
    have below : k' < k := above _ List.mem_cons_self
    unfold insertSorted
    rw [if_neg (not_lt_of_gt below), if_neg (ne_of_gt below),
      ih fun e member => above e (List.mem_cons_of_mem _ member)]
    rfl

/-- Inserting pairs sorted by key, one by one, gives them back in order. -/
theorem foldl_insertSorted {es : List (String × α)} (sorted : es.Pairwise (fun a b => a.1 < b.1))
    (acc : List (String × α)) (below : ∀ a ∈ acc, ∀ e ∈ es, a.1 < e.1) :
    es.foldl (fun acc e => insertSorted e.1 e.2 acc) acc = acc ++ es := by
  induction es generalizing acc with
  | nil => simp
  | cons e rest ih =>
    obtain ⟨first, sortedRest⟩ := List.pairwise_cons.mp sorted
    rw [List.foldl_cons, insertSorted_of_lt fun a member => below a member e List.mem_cons_self,
      ih sortedRest]
    · simp
    · intro a member e' later
      rcases List.mem_append.mp member with old | new
      · exact below a old e' (List.mem_cons_of_mem _ later)
      · obtain rfl := List.mem_singleton.mp new
        exact first e' later

theorem list_readsBack {d : Decoder α} {f : α → Json} {good : α → Prop} {xs : List α}
    (each : ∀ x ∈ xs, d.ReadsBack (f x) (good x) x) :
    (list d).ReadsBack (.array (xs.map f)) (∀ x ∈ xs, good x) xs := by
  intro c read y
  obtain ⟨start, items, stop, doc, itemsRead⟩ := read.of_array
  unfold list
  simp only [doc, Cursor.within_eq_ok, Cursor.checkDeep, Cursor.closing, except_ok_bind,
    bind_pure]
  exact mapM_readsBack itemsRead each y

/-! ### Maps, sets and optional values -/

/-- **A map reads back entries sorted by key**, from an object of their values. -/
theorem map_readsBack {d : Decoder α} {f : α → Json} {good : α → Prop} {es : List (String × α)}
    (sorted : es.Pairwise (fun a b => a.1 < b.1))
    (each : ∀ e ∈ es, d.ReadsBack (f e.2) (good e.2) e.2) :
    (map d).ReadsBack (.object (es.map fun e => (e.1, f e.2))) (∀ e ∈ es, good e.2) es := by
  intro c read y
  obtain ⟨start, members, stop, doc, membersRead⟩ := read.of_object
  have pairs := List.forall₂_map_right_iff.mp membersRead.forall₂
  unfold map
  simp only [doc, Cursor.within_eq_ok, Cursor.checkDeep, Cursor.closing, except_ok_bind, bind_pure]
  rw [foldEach_eq_ok_iff pairs (fun acc e => insertSorted e.1 e.2 acc) (fun e => good e.2)
    (fun _ _ => True) ?step [] trivial y, foldl_insertSorted sorted [] (by simp), List.nil_append]
  case step =>
    rintro ⟨k, keyStop, v⟩ ⟨key, value⟩ ⟨keyed, valueRead⟩ member rest acc -
    refine ⟨fun acc' => ?_, trivial⟩
    dsimp only at keyed valueRead ⊢
    subst keyed
    simp only [Cursor.key, bind, except_bind_eq_ok, each (key, value) member (c.child v) valueRead,
      except_pure_eq_ok, Except.ok.injEq, exists_eq_left']
    exact exists_readBack_iff

/-- **A set of strings reads back its keys**, sorted without repeats, from an array of them. -/
theorem stringSet_readsBack {ks : List String} (sorted : ks.Pairwise (· < ·)) :
    stringSet.ReadsBack (.array (ks.map .string)) True ks := by
  intro c read y
  have strings := list_readsBack (d := string) (fun k _ => string_readsBack k) c read
  have inserted : ks.foldl (fun acc x => insertSorted x () acc) [] = ks.map fun k => (k, ()) := by
    have pairsSorted : (ks.map fun k => (k, ())).Pairwise (fun a b => a.1 < b.1) :=
      List.pairwise_map.mpr sorted
    have sortedPairs := foldl_insertSorted pairsSorted [] (by simp)
    simpa only [List.foldl_map, List.nil_append] using sortedPairs
  unfold stringSet
  simp only [bind, except_bind_eq_ok, strings, except_pure_eq_ok]
  constructor
  · rintro ⟨xs, ⟨-, rfl⟩, rfl⟩
    simp [inserted, Function.comp_def]
  · rintro ⟨-, rfl⟩
    exact ⟨_, ⟨fun _ _ => trivial, rfl⟩, by simp [inserted, Function.comp_def]⟩

theorem optional_readsBack_null (d : Decoder α) : (optional d).ReadsBack .null True none := by
  intro c read y
  obtain ⟨start, stop, doc⟩ := read.of_null
  simp [optional, doc, eq_comm]

/-- A value that is not `null` reads back as present. -/
theorem ReadsBack.optional {d : Decoder α} {j : Json} {good : Prop} {x : α}
    (back : d.ReadsBack j good x) (notNull : j ≠ .null) :
    (Decoder.optional d).ReadsBack j good (some x) := by
  intro c read y
  have present : Decoder.optional d c = (d c).map some := by
    unfold Decoder.optional
    split
    · next start stop null => exact absurd null (read.not_null notNull start stop)
    · rfl
  rw [present]
  exact back.map c read y

/-- A pair reads back from an array of its two values. -/
theorem pair_readsBack {da : Decoder α} {db : Decoder β} {ja jb : Json} {ga gb : Prop} {a : α}
    {b : β} (first : da.ReadsBack ja ga a) (second : db.ReadsBack jb gb b) :
    (pair da db).ReadsBack (.array [ja, jb]) (ga ∧ gb) (a, b) := by
  intro c read y
  obtain ⟨start, items, stop, doc, itemsRead⟩ := read.of_array
  cases itemsRead with
  | cons readA rest =>
    cases rest with
    | cons readB none =>
      cases none
      unfold pair
      simp only [doc, Cursor.within_eq_ok, Cursor.checkDeep, Cursor.closing, except_ok_bind,
        List.isEmpty_nil, ↓reduceIte]
      simp only [bind, except_bind_eq_ok, first (c.child _) readA, second (c.child _) readB,
        except_pure_eq_ok]
      constructor
      · rintro ⟨a', ⟨holdsA, rfl⟩, b', ⟨holdsB, rfl⟩, rfl⟩
        exact ⟨⟨holdsA, holdsB⟩, rfl⟩
      · rintro ⟨⟨holdsA, holdsB⟩, rfl⟩
        exact ⟨a, ⟨holdsA, rfl⟩, b, ⟨holdsB, rfl⟩, rfl⟩

/-! ### Enumerations and records -/

/-- A variant without data reads back from its name. -/
theorem external_readsBack {variants : List (String × VariantReader α)} {name : String} {i : Nat}
    {a : α} (indexed : (variants.map (·.1)).idxOf? name = some i)
    (unit : ∃ n, variants[i]? = some (n, .unit a)) :
    (external variants).ReadsBack (.string name) True a := by
  intro c read y
  obtain ⟨start, stop, doc⟩ := read.of_string
  obtain ⟨n, picked⟩ := unit
  unfold external
  simp only [doc, variantIndex, indexed, except_ok_bind, picked]
  rw [except_pure_eq_ok]
  simp [eq_comm]

/-- A tag reads back as the place of its first occurrence among the names. -/
theorem tagIndex_readsBack {names : List String} {name : String} {i : Nat}
    (indexed : names.idxOf? name = some i) : (tagIndex names).ReadsBack (.string name) True i := by
  obtain ⟨inRange, named, -⟩ := List.idxOf?_eq_some_iff.mp indexed
  unfold tagIndex
  apply external_readsBack
  · simpa [Function.comp_def] using indexed
  · refine ⟨name, ?_⟩
    simp [List.getElem?_zipIdx, List.getElem?_eq_getElem inRange, named]

/-- **A record reads back from an object of its fields**: each key names a field whose reader
reads the member back, and no key comes twice; `finish` makes the record from the draft that
the reads made. -/
theorem record_readsBack {name : String} {fields : List (Field σ)} {init : σ}
    {finish : σ → Except String α} {closed : Bool} {ms : List (String × Json)}
    (step : σ → String × Json → σ) (good : String × Json → Prop) {a : α}
    (distinct : (ms.map (·.1)).Nodup)
    (named : ∀ m ∈ ms, ∃ f, fields.find? (·.key == m.1) = some f ∧
      ∀ c : Cursor, c.doc.Reads m.2 → ∀ s s', f.read s c = .ok s' ↔ good m ∧ s' = step s m)
    (finished : finish (ms.foldl step init) = .ok a) :
    (record name fields init finish closed).ReadsBack (.object ms) (∀ m ∈ ms, good m) a := by
  intro c read y
  obtain ⟨start, members, stop, doc, membersRead⟩ := read.of_object
  unfold record
  simp only [doc, Cursor.within_eq_ok, Cursor.checkDeep, Cursor.closing, except_ok_bind]
  -- The draft and the keys seen so far: no key of the members still to come was seen.
  rw [foldEach_bind_eq_ok_iff membersRead.forall₂
    (fun (p : σ × List String) m => (step p.1 m, m.1 :: p.2)) good
    (fun rest p => (rest.map (·.1)).Nodup ∧ ∀ m ∈ rest, m.1 ∉ p.2) ?step (init, [])
    ⟨distinct, by simp⟩]
  case step =>
    rintro ⟨k, keyStop, v⟩ m ⟨keyed, valueRead⟩ member rest ⟨s, seen⟩ ⟨nodup, fresh⟩
    obtain ⟨f, found, reads⟩ := named m member
    have notSeen : m.1 ∉ seen := fresh m List.mem_cons_self
    dsimp only at keyed valueRead nodup fresh ⊢
    subst keyed
    refine ⟨fun p' => ?_, ?_, ?_⟩
    · have unseen : ¬ (seen.contains m.1 = true) := fun seen' =>
        notSeen (List.contains_iff_mem.mp seen')
      simp only [Cursor.key, except_ok_bind, found, unseen, Bool.false_eq_true, ↓reduceIte]
      simp only [bind, except_bind_eq_ok, reads (c.child v) valueRead, except_pure_eq_ok]
      exact exists_readBack_iff
    · exact (List.nodup_cons.mp nodup).2
    · intro m' later
      simp only [List.mem_cons, not_or]
      exact ⟨fun same => (List.nodup_cons.mp nodup).1 (List.mem_map.mpr ⟨m', later, same⟩),
        fresh m' (List.mem_cons_of_mem m later)⟩
  have drafted : (ms.foldl (fun (p : σ × List String) m => (step p.1 m, m.1 :: p.2))
      (init, [])).1 = ms.foldl step init :=
    (List.foldl_hom Prod.fst fun _ _ => rfl).symm
  rw [drafted, finished]
  simp only [except_pure_eq_ok]
  exact and_congr_right fun _ => eq_comm

theorem foldEach_append {xs ys : List β} {init : σ} {f : σ → β → Except DecodeError σ} :
    foldEach (xs ++ ys) init f = foldEach xs init f >>= fun s => foldEach ys s f := by
  simp only [foldEach, List.foldlM_append]

/-- Every item of a paired list has its partner. -/
theorem forall₂_exists_of_mem {R : β → γ → Prop} {xs : List β} {ys : List γ}
    (pairs : List.Forall₂ R xs ys) : ∀ x ∈ xs, ∃ y ∈ ys, R x y := by
  induction pairs with
  | nil => simp
  | @cons x y _ _ related _ ih =>
    intro x' member
    rcases List.mem_cons.mp member with rfl | later
    · exact ⟨y, List.mem_cons_self, related⟩
    · obtain ⟨y', listed, related'⟩ := ih x' later
      exact ⟨y', List.mem_cons_of_mem y listed, related'⟩

/-- **A flattened record reads back from its own fields followed by the members of the rest**,
which it buffers and reads, once its own fields are finished, as one object. -/
theorem flatRecord_readsBack {name : String} {fields : List (Field σ)} {init : σ}
    {finish : σ → Except String β} {flat : β → Decoder α} {own rest : List (String × Json)}
    (step : σ → String × Json → σ) (good : String × Json → Prop) {b : β} {restGood : Prop}
    {a : α} (distinct : (own.map (·.1)).Nodup)
    (named : ∀ m ∈ own, ∃ f, fields.find? (·.key == m.1) = some f ∧
      ∀ c : Cursor, c.doc.Reads m.2 → ∀ s s', f.read s c = .ok s' ↔ good m ∧ s' = step s m)
    (unnamed : ∀ m ∈ rest, fields.find? (·.key == m.1) = none)
    (finished : finish (own.foldl step init) = .ok b)
    (flatBack : (flat b).ReadsBack (.object rest) restGood a)
    (exact : restGood → ∀ m ∈ rest, m.2.Exact) :
    (flatRecord name fields init finish flat).ReadsBack (.object (own ++ rest))
      ((∀ m ∈ own, good m) ∧ restGood) a := by
  intro c read y
  obtain ⟨start, members, stop, doc, membersRead⟩ := read.of_object
  have pairs := membersRead.forall₂
  have ownPairs := List.forall₂_take own.length pairs
  have restPairs := List.forall₂_drop own.length pairs
  simp only [List.take_left', List.drop_left'] at ownPairs restPairs
  unfold flatRecord
  simp only [doc, Cursor.within_eq_ok, Cursor.checkDeep, Cursor.closing, except_ok_bind]
  rw [← List.take_append_drop own.length members, foldEach_append, bind_assoc]
  -- The own fields are read as a record reads them; the buffer is left empty.
  rw [foldEach_bind_eq_ok_iff ownPairs
    (fun (p : σ × List String × List (Except ReadFault String × Nat × Doc)) m =>
      (step p.1 m, m.1 :: p.2.1, p.2.2)) good
    (fun rest p => (rest.map (·.1)).Nodup ∧ ∀ m ∈ rest, m.1 ∉ p.2.1) ?own (init, [], [])
    ⟨distinct, by simp⟩]
  case own =>
    rintro ⟨k, keyStop, v⟩ m ⟨keyed, valueRead⟩ member rest' ⟨s, seen, buffered⟩ ⟨nodup, fresh⟩
    obtain ⟨f, found, reads⟩ := named m member
    have unseen : ¬ (seen.contains m.1 = true) := fun seen' =>
      fresh m List.mem_cons_self (List.contains_iff_mem.mp seen')
    dsimp only at keyed valueRead nodup fresh ⊢
    subst keyed
    refine ⟨fun p' => ?_, (List.nodup_cons.mp nodup).2, fun m' later => ?_⟩
    · simp only [Cursor.key, except_ok_bind, found, unseen, Bool.false_eq_true, ↓reduceIte]
      simp only [bind, except_bind_eq_ok, reads (c.child v) valueRead, except_pure_eq_ok]
      exact exists_readBack_iff
    · simp only [List.mem_cons, not_or]
      exact ⟨fun same => (List.nodup_cons.mp nodup).1 (List.mem_map.mpr ⟨m', later, same⟩),
        fresh m' (List.mem_cons_of_mem m later)⟩
  -- Every other member is checked and buffered.
  rw [foldEach_bind_eq_ok_iff (List.forall₂_same.mpr fun _ _ => rfl)
    (fun (p : σ × List String × List (Except ReadFault String × Nat × Doc)) x =>
      (p.1, p.2.1, x :: p.2.2)) (fun x => c.buffer x.2.2 = .ok ())
    (fun _ _ => True) ?rest _ trivial]
  case rest =>
    rintro ⟨k, keyStop, v⟩ x' rfl member rest' p -
    obtain ⟨m, listed, keyed, valueRead⟩ := forall₂_exists_of_mem restPairs _ member
    dsimp only at keyed valueRead ⊢
    subst keyed
    refine ⟨fun p' => ?_, trivial⟩
    simp only [Cursor.key, except_ok_bind, unnamed m listed]
    simp only [bind, except_bind_eq_ok, except_pure_eq_ok]
    constructor
    · rintro ⟨⟨⟩, buffered, rfl⟩
      exact ⟨buffered, rfl⟩
    · rintro ⟨buffered, rfl⟩
      exact ⟨(), buffered, rfl⟩
  have appended : ∀ (l : List (Except ReadFault String × Nat × Doc))
      (p : σ × List String × List (Except ReadFault String × Nat × Doc)),
      l.foldl (fun p x => (p.1, p.2.1, x :: p.2.2)) p = (p.1, p.2.1, l.reverse ++ p.2.2) := by
    intro l
    induction l with
    | nil => simp
    | cons x l ih => intro p; simp [ih]
  have drafted : ∀ (l : List (String × Json))
      (p : σ × List String × List (Except ReadFault String × Nat × Doc)),
      (l.foldl (fun p m => (step p.1 m, m.1 :: p.2.1, p.2.2)) p).1 = l.foldl step p.1 ∧
        (l.foldl (fun p m => (step p.1 m, m.1 :: p.2.1, p.2.2)) p).2.2 = p.2.2 := by
    intro l
    induction l with
    | nil => simp
    | cons m l ih => intro p; exact ih _
  rw [appended, (drafted own _).1, (drafted own _).2]
  simp only [finished, List.append_nil, List.reverse_reverse]
  rw [flatBack _ (Doc.Reads.object (Doc.MembersRead.of_forall₂ restPairs)) y]
  -- A good rest holds no fault, so buffering it passes.
  have checked : restGood → ∀ x ∈ members.drop own.length, c.buffer x.2.2 = .ok () := by
    intro holds x member
    obtain ⟨m, listed, -, valueRead⟩ := forall₂_exists_of_mem restPairs x member
    unfold Cursor.buffer
    split
    · rw [valueRead.readFault?_eq_none (exact holds m listed)]
    · rfl
  constructor
  · rintro ⟨ownGood, -, restOk, rfl⟩
    exact ⟨⟨ownGood, restOk⟩, rfl⟩
  · rintro ⟨⟨ownGood, restOk⟩, rfl⟩
    exact ⟨ownGood, checked restOk, restOk, rfl⟩

/-- **An enumeration tagged beside its content reads back** from an object of its tag, naming a
variant with data, followed by the content. -/
theorem adjacent_readsBack {enumName tag contentKey : String}
    {variants : List (String × VariantReader α)} {names : List String} {variant : String} {i : Nat}
    {read : Decoder α} {content : Json} {good : Prop} {x : α} (apart : tag ≠ contentKey)
    (tagged : (tagIndex names).ReadsBack (.string variant) True i)
    (picked : ∃ n, variants[i]? = some (n, .newtype read))
    (back : read.ReadsBack content good x) :
    (adjacent enumName tag contentKey variants names).ReadsBack
      (.object [(tag, .string variant), (contentKey, content)]) good x := by
  intro c docRead y
  obtain ⟨start, members, stop, doc, membersRead⟩ := docRead.of_object
  obtain ⟨n, chosen⟩ := picked
  cases membersRead with
  | @cons _ tagStop tagDoc _ _ _ tagRead rest =>
    cases rest with
    | @cons _ contentStop contentDoc _ _ _ contentRead none =>
      cases none
      unfold adjacent
      have tagFirst : nextRelevant c tag contentKey
          [(.ok tag, tagStop, tagDoc), (.ok contentKey, contentStop, contentDoc)] =
          .ok (some (true, tagStop, tagDoc, [(.ok contentKey, contentStop, contentDoc)])) := by
        simp [nextRelevant, Cursor.key]
      have contentNext : nextRelevant c tag contentKey [(.ok contentKey, contentStop, contentDoc)] =
          .ok (some (false, contentStop, contentDoc, [])) := by
        simp [nextRelevant, Cursor.key, Ne.symm apart]
      have nothingMore : nextRelevant c tag contentKey [] = .ok none := rfl
      have indexed := (tagged (c.child _) tagRead i).mpr ⟨trivial, rfl⟩
      simp only [doc, Cursor.within_eq_ok, Cursor.checkDeep, except_ok_bind, tagFirst, indexed,
        chosen, contentNext, adjacentContent, adjacentRest, nothingMore, Cursor.closing, pure_bind,
        bind_pure]
      exact back _ contentRead y

end Decoder

/-- **Decoding the text the writer gives a value succeeds exactly when the decoder reads the
value back**, and then gives what it reads back. -/
theorem decodeText_render_iff {d : Decoder α} {j : Json} {good : Prop} {x : α}
    (back : d.ReadsBack j good x) (readable : j.Readable JsonText.nestingLimit) (y : α) :
    decodeText d (Json.render j) = .ok y ↔ good ∧ y = x := by
  obtain ⟨read, clean⟩ := JsonText.read_render readable
  have decoded := back ⟨_, .text (JsonDocument.read (Json.render j)).bytes⟩ read
  unfold decodeText
  dsimp only
  cases result : d ⟨(JsonDocument.read (Json.render j)).root,
    .text (JsonDocument.read (Json.render j)).bytes⟩ with
  | error e =>
    simp only [reduceCtorEq, false_iff]
    rintro ⟨holds, rfl⟩
    have ok := (decoded y).mpr ⟨holds, rfl⟩
    rw [result] at ok
    cases ok
  | ok a =>
    obtain ⟨holds, rfl⟩ := (decoded a).mp result
    simp only [clean, Except.ok.injEq]
    exact ⟨fun same => ⟨holds, same.symm⟩, fun ⟨_, same⟩ => same.symm⟩

end Survey
