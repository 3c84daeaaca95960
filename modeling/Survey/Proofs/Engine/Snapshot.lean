import Mathlib
import Survey.Proofs.Json.ReadBack
import Survey.Proofs.Decimal.Text
import Survey.Engine.Store

/-!
# Snapshots read back

A session's snapshot is written as JSON text, and the store reads it back with the snapshot
decoder. The text gives back the session it was written from, drafts left out, exactly when
every number in it fits what the decoder accepts (`Session.Fits`): each decimal at most 18
places and 20 digits (`Decimal.Fits`), each date component within its integer width. This
holds of every session whose maps and sets are sorted by key without repeats (`Session.Sorted`),
as the engine keeps them: the decoder inserts what it reads in key order, so it gives back the
same lists only for lists already in that order.

* Each part of a session reads back from its JSON (`decoder_readsBack` in the namespace of the
  part), has numbers the reader keeps exactly (`toJson_exact`), and nests shallowly enough to
  be read (`toJson_readable`).
* `SessionSnapshot.decodeText_toText` puts them together for a snapshot's text.
* `SnapshotStore.load_commit` reads the committed text back from the store, and
  `SnapshotStore.load_ofSession_commit` says when that gives back the committed session.
-/

namespace Survey

open Decoder

variable {α : Type}

/-! ### What the decoder keeps -/

/-- Entries whose keys strictly increase, as `Entries.insert` keeps them. -/
def Entries.Sorted (es : Entries α) : Prop := es.Pairwise fun a b => a.1 < b.1

/-- Keys that strictly increase, as `KeySet.insert` keeps them. -/
def KeySet.Sorted (ks : KeySet) : Prop := ks.Pairwise (· < ·)

/-- An answer store whose values and touched slots are in slot order. -/
structure AnswerStore.Sorted (s : AnswerStore) : Prop where
  values : s.values.Sorted
  touched : s.touched.Sorted

/-- A session whose answers, totals and submitted blocks are in key order. -/
structure Session.Sorted (s : Session) : Prop where
  answers : s.answers.Sorted
  totals : s.totals.totals.Sorted
  progress : s.progress.submitted.Sorted

namespace DateValue

/-- A date whose components fit their widths: day and month in a byte, the year in 32 bits. -/
def Fits (d : DateValue) : Prop :=
  (∀ n, d.day = some n → n ≤ 255) ∧ (∀ n, d.month = some n → n ≤ 255) ∧
    ∀ y, d.year = some y → -Int.pow 2 31 ≤ y ∧ y ≤ Int.pow 2 31 - 1

end DateValue

/-- A value whose numbers fit: a decimal within the parser's bounds, a date within its widths. -/
def AnswerValue.Fits : AnswerValue → Prop
  | .number n => n.Fits
  | .date d => d.Fits
  | _ => True

/-- A store whose every value fits. -/
def AnswerStore.Fits (s : AnswerStore) : Prop := ∀ e ∈ s.values, e.2.Fits

/-- A recorded total whose sum and source values fit. -/
def CalculatedTotal.Fits (t : CalculatedTotal) : Prop :=
  t.total.Fits ∧ ∀ source ∈ t.sources, ∀ v, source.2 = some v → v.Fits

/-- Recorded totals that all fit. -/
def CalculatedTotals.Fits (t : CalculatedTotals) : Prop := ∀ e ∈ t.totals, e.2.Fits

/-- A session whose answers and recorded totals fit. -/
def Session.Fits (s : Session) : Prop := s.answers.Fits ∧ s.totals.Fits

/-! ### Members written when present -/

theorem mem_optionalMember {key : String} {f : α → Json} {o : Option α} {m : String × Json} :
    m ∈ optionalMember key f o ↔ ∃ a, o = some a ∧ m = (key, f a) := by
  cases o <;> simp [optionalMember]

theorem ofNat_ne_null (n : Nat) : Json.ofNat n ≠ .null := by
  simp [Json.ofNat]

theorem ofInt_ne_null (i : Int) : Json.ofInt i ≠ .null := by
  unfold Json.ofInt
  split <;> simp

theorem exact_ofNat {n : Nat} (word : n ≤ JsonText.wordMax) : (Json.ofNat n).Exact := word

theorem exact_ofInt {i : Int} (lowest : -Int.pow 2 63 ≤ i) (word : i ≤ JsonText.wordMax) :
    (Json.ofInt i).Exact := by
  unfold Json.ofInt
  split
  · next nonneg => exact (show i.toNat ≤ JsonText.wordMax by omega)
  · next neg => exact ⟨lowest, by omega⟩

/-- An optional value reads back from `null` when absent, and as the value when present. -/
theorem optionalJson_readsBack {d : Decoder α} {f : α → Json} {good : α → Prop}
    (notNull : ∀ a, f a ≠ .null) :
    ∀ o : Option α, (∀ a, o = some a → d.ReadsBack (f a) (good a) a) →
      (optional d).ReadsBack (optionalJson f o) (∀ a, o = some a → good a) o
  | none, _ => (optional_readsBack_null d).of_iff (by simp)
  | some a, back => ((back a rfl).optional (notNull a)).of_iff (by simp)

/-! ### Scalars -/

namespace Decimal

/-- **A decimal reads back from its text** exactly when it fits the parser's bounds. -/
theorem decoder_readsBack (d : Decimal) : decoder.ReadsBack d.toJson d.Fits d := by
  intro c read y
  obtain ⟨start, stop, doc⟩ := read.of_string
  unfold decoder
  simp only [doc]
  unfold parseMessage
  cases parsed : parse d.render with
  | ok d' =>
    obtain ⟨fits, rfl⟩ := parse_render_eq_ok_iff.mp parsed
    simp [fits, eq_comm]
  | error e =>
    have unfit : ¬ d.Fits := fun fits => by
      rw [parse_render_eq_ok_iff.mpr ⟨fits, rfl⟩] at parsed
      cases parsed
    simp only [unfit, false_and, iff_false]
    exact Cursor.custom_ne_ok _ _ _

end Decimal

namespace DateValue

/-- What reading a date's member does to the draft: set the component the key names. -/
def stepMember (d : DateValue) (s : DateValue) (m : String × Json) : DateValue :=
  if m.1 = "day" then { s with day := d.day }
  else if m.1 = "month" then { s with month := d.month }
  else { s with year := d.year }

/-- Whether the component a date's member names fits its width. -/
def memberFits (d : DateValue) (m : String × Json) : Prop :=
  if m.1 = "day" then ∀ n, d.day = some n → n ≤ 255
  else if m.1 = "month" then ∀ n, d.month = some n → n ≤ 255
  else ∀ y, d.year = some y → -Int.pow 2 31 ≤ y ∧ y ≤ Int.pow 2 31 - 1

theorem members_keys_nodup (d : DateValue) :
    ((optionalMember "day" Json.ofNat d.day ++ optionalMember "month" Json.ofNat d.month ++
      optionalMember "year" Json.ofInt d.year).map (·.1)).Nodup := by
  obtain ⟨day, month, year⟩ := d
  cases day <;> cases month <;> cases year <;> simp [optionalMember]

theorem foldl_stepMember (d : DateValue) :
    (optionalMember "day" Json.ofNat d.day ++ optionalMember "month" Json.ofNat d.month ++
      optionalMember "year" Json.ofInt d.year).foldl d.stepMember ⟨none, none, none⟩ = d := by
  obtain ⟨day, month, year⟩ := d
  cases day <;> cases month <;> cases year <;> rfl

theorem forall_memberFits_iff (d : DateValue) :
    (∀ m ∈ optionalMember "day" Json.ofNat d.day ++ optionalMember "month" Json.ofNat d.month ++
      optionalMember "year" Json.ofInt d.year, d.memberFits m) ↔ d.Fits := by
  obtain ⟨day, month, year⟩ := d
  cases day <;> cases month <;> cases year <;> simp [optionalMember, memberFits, Fits]

/-- **A date reads back from the object of its present components** exactly when they fit. -/
theorem decoder_readsBack (d : DateValue) : decoder.ReadsBack d.toJson d.Fits d := by
  have named : ∀ m ∈ optionalMember "day" Json.ofNat d.day ++
      optionalMember "month" Json.ofNat d.month ++ optionalMember "year" Json.ofInt d.year,
      ∃ f, [Field.of "day" true (optional u8) fun d v => { d with day := v },
        Field.of "month" true (optional u8) fun d v => { d with month := v },
        Field.of "year" true (optional i32) fun d v => { d with year := v }].find?
          (·.key == m.1) = some f ∧
        ∀ c : Cursor, c.doc.Reads m.2 → ∀ s s',
          f.read s c = .ok s' ↔ d.memberFits m ∧ s' = d.stepMember s m := by
    intro m mem
    simp only [List.mem_append, mem_optionalMember] at mem
    -- Each component is read by its own field, an optional integer of its width.
    rcases mem with (⟨n, day, rfl⟩ | ⟨n, month, rfl⟩) | ⟨y, year, rfl⟩
    · refine ⟨_, rfl, fun c read s s' => ?_⟩
      refine (Field.of_readsBack
        ((unsigned_readsBack n ?_).optional (ofNat_ne_null n)) c read s s').trans ?_
      · decide
      · simp [memberFits, stepMember, day]
    · refine ⟨_, rfl, fun c read s s' => ?_⟩
      refine (Field.of_readsBack
        ((unsigned_readsBack n ?_).optional (ofNat_ne_null n)) c read s s').trans ?_
      · decide
      · simp [memberFits, stepMember, month]
    · refine ⟨_, rfl, fun c read s s' => ?_⟩
      refine (Field.of_readsBack
        ((signed_readsBack y ?_ ?_ ?_ ?_).optional (ofInt_ne_null y)) c read s s').trans ?_
      · decide
      · decide
      · decide
      · decide
      · simp [memberFits, stepMember, year]
  have back : decoder.ReadsBack d.toJson (∀ m ∈ optionalMember "day" Json.ofNat d.day ++
      optionalMember "month" Json.ofNat d.month ++ optionalMember "year" Json.ofInt d.year,
      d.memberFits m) d :=
    record_readsBack d.stepMember d.memberFits d.members_keys_nodup named
      (congrArg Except.ok d.foldl_stepMember)
  exact back.of_iff d.forall_memberFits_iff

theorem toJson_exact {d : DateValue} (fits : d.Fits) : d.toJson.Exact := by
  obtain ⟨day, month, year⟩ := fits
  simp only [toJson, Json.exact_object, List.mem_append, mem_optionalMember]
  rintro m ((⟨n, found, rfl⟩ | ⟨n, found, rfl⟩) | ⟨y, found, rfl⟩)
  · exact exact_ofNat (le_trans (day n found) (by decide))
  · exact exact_ofNat (le_trans (month n found) (by decide))
  · obtain ⟨low, high⟩ := year y found
    exact exact_ofInt (le_trans (by decide) low) (le_trans high (by decide))

theorem toJson_readable (d : DateValue) {room : Nat} (roomy : 1 ≤ room) :
    d.toJson.Readable room := by
  simp only [toJson, Json.readable_object, List.mem_append, mem_optionalMember]
  refine ⟨by omega, ?_⟩
  rintro m ((⟨n, -, rfl⟩ | ⟨n, -, rfl⟩) | ⟨y, -, rfl⟩) <;> simp

end DateValue

/-! ### Answers -/

namespace AnswerValue

theorem toJson_ne_null (v : AnswerValue) : v.toJson ≠ .null := by
  simp [toJson]

/-- **A value reads back from its tag and content** exactly when its numbers fit. -/
theorem decoder_readsBack (v : AnswerValue) : decoder.ReadsBack v.toJson v.Fits v := by
  -- Each kind is tagged by its place among the tags and read by its own content decoder.
  cases v with
  | text s =>
    exact adjacent_readsBack (by decide) (tagIndex_readsBack rfl) ⟨_, rfl⟩
      (string_readsBack s).map
  | number n =>
    exact adjacent_readsBack (by decide) (tagIndex_readsBack rfl) ⟨_, rfl⟩
      (Decimal.decoder_readsBack n).map
  | date d =>
    exact adjacent_readsBack (by decide) (tagIndex_readsBack rfl) ⟨_, rfl⟩
      (DateValue.decoder_readsBack d).map
  | choice s =>
    exact adjacent_readsBack (by decide) (tagIndex_readsBack rfl) ⟨_, rfl⟩
      (string_readsBack s).map
  | choices cs =>
    exact adjacent_readsBack (by decide) (tagIndex_readsBack rfl) ⟨_, rfl⟩
      ((list_readsBack fun k _ => string_readsBack k).map.of_iff (by simp [Fits]))

theorem toJson_exact {v : AnswerValue} (fits : v.Fits) : v.toJson.Exact := by
  cases v with
  | date d => simpa [toJson] using DateValue.toJson_exact fits
  | number n => simp [toJson, Decimal.toJson]
  | _ => simp [toJson]

theorem toJson_readable (v : AnswerValue) {room : Nat} (roomy : 2 ≤ room) :
    v.toJson.Readable room := by
  cases v with
  | date d =>
    simpa [toJson, show 0 < room by omega] using DateValue.toJson_readable d (by omega)
  | number n => simp [toJson, Decimal.toJson]; omega
  | _ => simp [toJson]; omega

end AnswerValue

namespace AnswerStore

/-- **A store reads back from its values and touched slots** when both are in slot order,
exactly when its values fit. -/
theorem decoder_readsBack (s : AnswerStore) (sorted : s.Sorted) :
    decoder.ReadsBack s.toJson s.Fits s := by
  refine ReadsBack.of_iff (record_readsBack
    (fun (p : Option (Entries AnswerValue) × KeySet) (m : String × Json) =>
      if m.1 = "values" then (some s.values, p.2) else (p.1, s.touched))
    (fun m => if m.1 = "values" then s.Fits else True) (by simp) ?named rfl) (by simp [Fits])
  case named =>
    intro m mem
    simp only [List.mem_cons, List.not_mem_nil, or_false] at mem
    rcases mem with rfl | rfl
    · refine ⟨_, rfl, fun c read p p' => ?_⟩
      refine (Field.of_readsBack (map_readsBack sorted.values
        fun e _ => AnswerValue.decoder_readsBack e.2) c read p p').trans ?_
      simp [Fits]
    · refine ⟨_, rfl, fun c read p p' => ?_⟩
      refine (Field.of_readsBack (stringSet_readsBack sorted.touched) c read p p').trans ?_
      simp

theorem toJson_exact {s : AnswerStore} (fits : s.Fits) : s.toJson.Exact := by
  simp only [toJson, Json.exact_object, List.mem_cons, List.not_mem_nil, or_false]
  rintro m (rfl | rfl)
  · simp only [Json.exact_object, List.mem_map]
    rintro _ ⟨e, member, rfl⟩
    exact AnswerValue.toJson_exact (fits e member)
  · simp

theorem toJson_readable (s : AnswerStore) {room : Nat} (roomy : 4 ≤ room) :
    s.toJson.Readable room := by
  simp only [toJson, Json.readable_object, List.mem_cons, List.not_mem_nil, or_false]
  refine ⟨by omega, ?_⟩
  rintro m (rfl | rfl)
  · simp only [Json.readable_object, List.mem_map]
    refine ⟨by omega, ?_⟩
    rintro _ ⟨e, -, rfl⟩
    exact AnswerValue.toJson_readable e.2 (by omega)
  · simp only [Json.readable_array, List.mem_map]
    refine ⟨by omega, ?_⟩
    rintro _ ⟨k, -, rfl⟩
    simp

end AnswerStore

/-! ### Recorded totals -/

/-- An outcome reads back from its name. -/
theorem CalculationOutcome.decoder_readsBack (o : CalculationOutcome) :
    decoder.ReadsBack (.string o.name) True o := by
  cases o <;> exact external_readsBack rfl ⟨_, rfl⟩

/-- A source reads back from the pair of its slot and its value or `null`. -/
theorem sourceJson_readsBack (source : SlotId × Option AnswerValue) :
    (pair string (optional AnswerValue.decoder)).ReadsBack (sourceJson source)
      (∀ v, source.2 = some v → v.Fits) source :=
  (pair_readsBack (string_readsBack source.1) (optionalJson_readsBack
    AnswerValue.toJson_ne_null source.2 fun v _ => AnswerValue.decoder_readsBack v)).of_iff
      (by simp)

namespace CalculatedTotal

/-- **A recorded total reads back from its sum, outcome and sources** exactly when its numbers
fit. -/
theorem decoder_readsBack (t : CalculatedTotal) : decoder.ReadsBack t.toJson t.Fits t := by
  refine ReadsBack.of_iff (record_readsBack
    (fun (p : Option Decimal × Option CalculationOutcome ×
        Option (List (SlotId × Option AnswerValue))) (m : String × Json) =>
      if m.1 = "total" then (some t.total, p.2.1, p.2.2)
      else if m.1 = "outcome" then (p.1, some t.outcome, p.2.2)
      else (p.1, p.2.1, some t.sources))
    (fun m => if m.1 = "total" then t.total.Fits
      else if m.1 = "outcome" then True
      else ∀ source ∈ t.sources, ∀ v, source.2 = some v → v.Fits)
    (by simp) ?named rfl) (by simp [Fits])
  case named =>
    intro m mem
    simp only [List.mem_cons, List.not_mem_nil, or_false] at mem
    rcases mem with rfl | rfl | rfl
    · refine ⟨_, rfl, fun c read p p' => ?_⟩
      refine (Field.of_readsBack (Decimal.decoder_readsBack t.total) c read p p').trans ?_
      simp
    · refine ⟨_, rfl, fun c read p p' => ?_⟩
      refine (Field.of_readsBack (CalculationOutcome.decoder_readsBack t.outcome) c read p
        p').trans ?_
      simp
    · refine ⟨_, rfl, fun c read p p' => ?_⟩
      refine (Field.of_readsBack (list_readsBack fun source _ => sourceJson_readsBack source) c
        read p p').trans ?_
      simp

theorem toJson_exact {t : CalculatedTotal} (fits : t.Fits) : t.toJson.Exact := by
  simp only [toJson, Json.exact_object, List.mem_cons, List.not_mem_nil, or_false]
  rintro m (rfl | rfl | rfl)
  · simp [Decimal.toJson]
  · simp
  · simp only [Json.exact_array, List.mem_map]
    rintro _ ⟨⟨slot, value⟩, member, rfl⟩
    cases value with
    | none => simp [sourceJson, optionalJson]
    | some v => simpa [sourceJson, optionalJson] using
        AnswerValue.toJson_exact (fits.2 _ member v rfl)

theorem toJson_readable (t : CalculatedTotal) {room : Nat} (roomy : 5 ≤ room) :
    t.toJson.Readable room := by
  simp only [toJson, Json.readable_object, List.mem_cons, List.not_mem_nil, or_false]
  refine ⟨by omega, ?_⟩
  rintro m (rfl | rfl | rfl)
  · simp [Decimal.toJson]
  · simp
  · simp only [Json.readable_array, List.mem_map]
    refine ⟨by omega, ?_⟩
    rintro _ ⟨⟨slot, value⟩, -, rfl⟩
    cases value with
    | none => simp [sourceJson, optionalJson]; omega
    | some v =>
      simpa [sourceJson, optionalJson, show 0 < room - 1 - 1 by omega] using
        @AnswerValue.toJson_readable v (room - 1 - 1 - 1) (by omega)

end CalculatedTotal

namespace CalculatedTotals

/-- **Recorded totals read back** when they are in rule order, exactly when they all fit. -/
theorem decoder_readsBack (t : CalculatedTotals) (sorted : t.totals.Sorted) :
    decoder.ReadsBack t.toJson t.Fits t := by
  refine ReadsBack.of_iff (record_readsBack
    (fun (_ : Option (Entries CalculatedTotal)) (_ : String × Json) => some t.totals)
    (fun _ => t.Fits) (by simp) ?named rfl) (by simp)
  case named =>
    intro m mem
    simp only [List.mem_cons, List.not_mem_nil, or_false] at mem
    subst mem
    exact ⟨_, rfl, Field.of_readsBack
      (map_readsBack sorted fun e _ => CalculatedTotal.decoder_readsBack e.2)⟩

theorem toJson_exact {t : CalculatedTotals} (fits : t.Fits) : t.toJson.Exact := by
  simp only [toJson, Json.exact_object, List.mem_cons, List.not_mem_nil, or_false, forall_eq,
    List.mem_map]
  rintro _ ⟨e, member, rfl⟩
  exact CalculatedTotal.toJson_exact (fits e member)

theorem toJson_readable (t : CalculatedTotals) {room : Nat} (roomy : 7 ≤ room) :
    t.toJson.Readable room := by
  simp only [toJson, Json.readable_object, List.mem_cons, List.not_mem_nil, or_false, forall_eq,
    List.mem_map]
  refine ⟨by omega, by omega, ?_⟩
  rintro _ ⟨e, -, rfl⟩
  exact CalculatedTotal.toJson_readable e.2 (by omega)

end CalculatedTotals

/-! ### Progress, sessions and snapshots -/

namespace ProgressStore

/-- Progress reads back when its submitted blocks are in order. -/
theorem decoder_readsBack (p : ProgressStore) (sorted : p.submitted.Sorted) :
    decoder.ReadsBack p.toJson True p := by
  refine ReadsBack.of_iff (record_readsBack
    (fun (_ : Option KeySet) (_ : String × Json) => some p.submitted)
    (fun _ => True) (by simp) ?named rfl) (by simp)
  case named =>
    intro m mem
    simp only [List.mem_cons, List.not_mem_nil, or_false] at mem
    subst mem
    exact ⟨_, rfl, Field.of_readsBack (stringSet_readsBack sorted)⟩

theorem toJson_exact (p : ProgressStore) : p.toJson.Exact := by
  simp [toJson]

theorem toJson_readable (p : ProgressStore) {room : Nat} (roomy : 2 ≤ room) :
    p.toJson.Readable room := by
  simp [toJson]
  omega

end ProgressStore

namespace Session

/-- **A session reads back from its members** when it is sorted, exactly when its numbers fit;
what it reads back has no drafts. -/
theorem decoder_readsBack (s : Session) (sorted : s.Sorted) :
    decoder.ReadsBack (.object s.members) s.Fits { s with drafts := [] } := by
  refine ReadsBack.of_iff (record_readsBack
    (fun (p : Option AnswerStore × CalculatedTotals × ProgressStore) (m : String × Json) =>
      if m.1 = "answers" then (some s.answers, p.2.1, p.2.2)
      else if m.1 = "totals" then (p.1, s.totals, p.2.2)
      else (p.1, p.2.1, s.progress))
    (fun m => if m.1 = "answers" then s.answers.Fits
      else if m.1 = "totals" then s.totals.Fits
      else True)
    (by simp [members]) ?named rfl) (by simp [members, Fits])
  case named =>
    intro m mem
    simp only [members, List.mem_cons, List.not_mem_nil, or_false] at mem
    rcases mem with rfl | rfl | rfl
    · refine ⟨_, rfl, fun c read p p' => ?_⟩
      refine (Field.of_readsBack (AnswerStore.decoder_readsBack s.answers sorted.answers) c read
        p p').trans ?_
      simp
    · refine ⟨_, rfl, fun c read p p' => ?_⟩
      refine (Field.of_readsBack (CalculatedTotals.decoder_readsBack s.totals sorted.totals) c
        read p p').trans ?_
      simp
    · refine ⟨_, rfl, fun c read p p' => ?_⟩
      refine (Field.of_readsBack (ProgressStore.decoder_readsBack s.progress sorted.progress) c
        read p p').trans ?_
      simp

theorem members_exact {s : Session} (fits : s.Fits) : ∀ m ∈ s.members, m.2.Exact := by
  simp only [members, List.mem_cons, List.not_mem_nil, or_false]
  rintro m (rfl | rfl | rfl)
  · exact AnswerStore.toJson_exact fits.1
  · exact CalculatedTotals.toJson_exact fits.2
  · exact ProgressStore.toJson_exact s.progress

theorem members_readable (s : Session) {room : Nat} (roomy : 7 ≤ room) :
    ∀ m ∈ s.members, m.2.Readable room := by
  simp only [members, List.mem_cons, List.not_mem_nil, or_false]
  rintro m (rfl | rfl | rfl)
  · exact AnswerStore.toJson_readable s.answers (by omega)
  · exact CalculatedTotals.toJson_readable s.totals roomy
  · exact ProgressStore.toJson_readable s.progress (by omega)

end Session

namespace SessionSnapshot

/-- **A snapshot reads back** from its version, questionnaire and session members when its
session is sorted, exactly when its version fits 32 bits and its session's numbers fit. -/
theorem decoder_readsBack (s : SessionSnapshot) (sorted : s.session.Sorted) :
    decoder.ReadsBack s.toJson (s.version ≤ Nat.pow 2 32 - 1 ∧ s.session.Fits)
      { s with session := { s.session with drafts := [] } } := by
  refine ReadsBack.of_iff (flatRecord_readsBack
    (fun (p : Option Nat × Option String) (m : String × Json) =>
      if m.1 = "version" then (some s.version, p.2) else (p.1, some s.questionnaire))
    (fun m => if m.1 = "version" then s.version ≤ Nat.pow 2 32 - 1 else True)
    (by simp) ?named ?unnamed rfl (Session.decoder_readsBack s.session sorted).map
    fun fits => Session.members_exact fits) (by simp)
  case named =>
    intro m mem
    simp only [List.mem_cons, List.not_mem_nil, or_false] at mem
    rcases mem with rfl | rfl
    · refine ⟨_, rfl, fun c read p p' => ?_⟩
      refine (Field.of_readsBack (unsigned_readsBack s.version (by decide)) c read p p').trans ?_
      simp
    · refine ⟨_, rfl, fun c read p p' => ?_⟩
      refine (Field.of_readsBack (string_readsBack s.questionnaire) c read p p').trans ?_
      simp
  case unnamed =>
    simp only [Session.members, List.mem_cons, List.not_mem_nil, or_false]
    rintro m (rfl | rfl | rfl) <;> rfl

theorem toJson_readable (s : SessionSnapshot) : s.toJson.Readable JsonText.nestingLimit := by
  simp only [toJson, Json.readable_object, List.mem_append, List.mem_cons, List.not_mem_nil,
    or_false]
  refine ⟨by decide, ?_⟩
  rintro m ((rfl | rfl) | member)
  · simp
  · simp
  · exact s.session.members_readable (by decide) m member

/-- **A snapshot's text decodes** exactly when its version fits 32 bits and its session's
numbers fit, and then gives back the snapshot with the session's drafts left out. -/
theorem decodeText_toText (s : SessionSnapshot) (sorted : s.session.Sorted)
    (word : s.version ≤ Nat.pow 2 32 - 1) (y : SessionSnapshot) :
    decodeText decoder s.toText = .ok y ↔
      s.session.Fits ∧ y = { s with session := { s.session with drafts := [] } } := by
  rw [toText, decodeText_render_iff (s.decoder_readsBack sorted) s.toJson_readable]
  simp [word]

end SessionSnapshot

namespace SnapshotStore

/-- The snapshots after a commit of a text under an id: the id's text replaced, or appended. -/
def committed (snapshots : List (SessionId × String)) (id : SessionId) (text : String) :
    List (SessionId × String) :=
  if snapshots.any (·.1 == id) then
    snapshots.map fun (k, v) => if k == id then (k, text) else (k, v)
  else snapshots ++ [(id, text)]

theorem commit_eq_ok {store store' : SnapshotStore} {id : SessionId}
    {snapshot : SessionSnapshot} :
    store.commit id snapshot = .ok store' ↔ store.failCommit = false ∧
      store' = { store with snapshots := committed store.snapshots id snapshot.toText } := by
  unfold commit committed
  by_cases refused : store.failCommit
  · simp [refused]
  · by_cases present : store.snapshots.any (·.1 == id)
    · simp only [refused, present, Bool.false_eq_true, if_false, if_true, Except.ok.injEq,
        true_and]
      exact eq_comm
    · simp only [refused, present, Bool.false_eq_true, if_false, Except.ok.injEq, true_and]
      exact eq_comm

theorem find?_map_replace (snapshots : List (SessionId × String)) (id : SessionId)
    (text : String) :
    (snapshots.map fun (k, v) => if k == id then (k, text) else (k, v)).find? (·.1 == id) =
      if snapshots.any (·.1 == id) then some (id, text) else none := by
  induction snapshots with
  | nil => rfl
  | cons p rest ih =>
    obtain ⟨k, v⟩ := p
    by_cases same : k = id
    · subst same
      simp
    · have other : (k == id) = false := by simpa using same
      simp only [List.map_cons, other, Bool.false_eq_true, if_false, List.find?_cons,
        List.any_cons, Bool.false_or]
      exact ih

theorem find?_committed (snapshots : List (SessionId × String)) (id : SessionId) (text : String) :
    (committed snapshots id text).find? (·.1 == id) = some (id, text) := by
  unfold committed
  split
  · next present => rw [find?_map_replace, if_pos present]
  · next absent =>
    rw [List.find?_append, List.find?_eq_none.mpr fun p member same => absent
      (List.any_eq_true.mpr ⟨p, member, same⟩)]
    simp

/-- **The store reads a committed snapshot back from its text**, unless it refuses loads. -/
theorem load_commit {store store' : SnapshotStore} {id : SessionId} {snapshot : SessionSnapshot}
    (stored : store.commit id snapshot = .ok store') :
    store'.load id = if store.failLoad then .error "load refused"
      else (decodeText SessionSnapshot.decoder snapshot.toText).map some := by
  obtain ⟨-, rfl⟩ := commit_eq_ok.mp stored
  unfold load
  simp only [find?_committed]

/-- **A session committed to a store that does not refuse loads is loaded back as itself**,
drafts left out, exactly when its numbers fit; when one does not fit, the commit succeeds but
loading fails. -/
theorem load_ofSession_commit {store store' : SnapshotStore} {id : SessionId} {q : String}
    {s : Session} (sorted : s.Sorted) (reliable : store.failLoad = false)
    (stored : store.commit id (.ofSession q s) = .ok store') :
    (store'.load id = .ok (some (.ofSession q { s with drafts := [] })) ↔ s.Fits) ∧
      (¬ s.Fits → ∃ reason, store'.load id = .error reason) := by
  have decoded := SessionSnapshot.decodeText_toText (.ofSession q s) sorted
    (show snapshotVersion ≤ Nat.pow 2 32 - 1 by decide)
  rw [load_commit stored, reliable, if_neg Bool.false_ne_true]
  constructor
  · rw [except_map_eq_ok]
    constructor
    · rintro ⟨y, ok, same⟩
      exact ((decoded y).mp ok).1
    · intro fits
      exact ⟨_, (decoded _).mpr ⟨fits, rfl⟩, rfl⟩
  · intro unfit
    cases result : decodeText SessionSnapshot.decoder (SessionSnapshot.ofSession q s).toText with
    | ok y => exact absurd ((decoded y).mp result).1 unfit
    | error reason => exact ⟨reason, rfl⟩

end SnapshotStore

end Survey
