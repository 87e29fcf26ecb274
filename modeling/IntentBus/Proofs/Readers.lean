import IntentBus.Json.Decoder
import IntentBus.Proofs.Documents
import IntentBus.Proofs.Readings
import IntentBus.Table
import Mathlib.Data.List.Nodup

/-! Readers on the trees of values: each kind of plain value, of container and of record is read as it was written, as long as
there are containers left for those that the value opens. -/

namespace IntentBus

private theorem mapM_eq_some {α β γ : Type*} {f : α → β} {read : β → Option γ} {g : α → γ} {items : List α}
    (reads : ∀ item ∈ items, read (f item) = some (g item)) : (items.map f).mapM read = some (items.map g) := by
  induction items with
  | nil => rfl
  | cons item items ih =>
    rw [List.map_cons, List.mapM_cons, reads item (.head _), ih fun other mem => reads other (.tail _ mem)]
    rfl

namespace Uuid

private theorem ungroup?_groups {sizes : List Nat} {row : List Char} (full : row.length = sizes.foldr (· + ·) 0) :
    (chars.groups sizes row).length = sizes.length + row.length ∧ ungroup? sizes (chars.groups sizes row) = some row := by
  induction sizes generalizing row with
  | nil =>
    rw [List.eq_nil_of_length_eq_zero full]
    exact ⟨rfl, rfl⟩
  | cons size sizes ih =>
    rw [List.foldr_cons] at full
    have taken : (row.take size).length = size := by
      rw [List.length_take]
      omega
    have left : (row.drop size).length = sizes.foldr (· + ·) 0 := by
      rw [List.length_drop]
      omega
    obtain ⟨length, rest⟩ := ih left
    constructor
    · rw [chars.groups, List.cons_append, List.length_cons, List.length_append, length, taken, left, full, List.length_cons]
      omega
    · rw [chars.groups, List.cons_append, ungroup?, List.drop_left' taken, List.take_left' taken, rest, Option.map_some,
        List.take_append_drop]

variable (id : Uuid)

private theorem ofDigits?_hexDigits : ofDigits? (id.digits.map hexDigit) = some id := by
  have digits : (id.digits.map hexDigit).mapM hexValue? = some id.digits :=
    (mapM_eq_some fun digit _ => Json.hexValue?_hexDigit digit).trans (congrArg some (List.map_id _))
  rw [ofDigits?, digits]
  exact dif_pos id.count

private theorem toLower_hexDigit : ∀ digit, (hexDigit digit).toLower ≠ 'u' := by decide

private theorem noScheme : "urn:uuid:".toList.isPrefixOf (id.chars.map Char.toLower) = false := by
  obtain ⟨first, rest, same⟩ : ∃ first rest, id.digits = first :: rest := List.exists_cons_of_length_eq_add_one id.count
  have scheme : "urn:uuid:".toList = 'u' :: "rn:uuid:".toList := by decide
  rw [scheme, chars, same, List.map_cons, List.take_succ_cons, List.cons_append, List.map_cons, List.isPrefixOf_cons_cons,
    beq_eq_false_iff_ne.2 (toLower_hexDigit first).symm, Bool.false_and]

/-- An identifier is read from its text. -/
theorem ofText?_text : ofText? id.text = some id := by
  have count : (id.digits.map hexDigit).length = 32 := (List.length_map _).trans id.count
  obtain ⟨length, groups⟩ := @ungroup?_groups laterGroups ((id.digits.map hexDigit).drop 8) (by simp [count, laterGroups])
  have first : ((id.digits.map hexDigit).take 8).length = 8 := by simp [count]
  have size : id.chars.length = 36 := by
    rw [chars, List.length_append, first, length]
    simp [count, laterGroups]
  have read : ofGroups? id.chars = some id := by
    rw [ofGroups?, chars, List.drop_left' first, List.take_left' first, groups, Option.map_some, List.take_append_drop,
      Option.bind_some, ofDigits?_hexDigits]
  rw [ofText?, text, String.toList_ofList, size, noScheme]
  exact read

end Uuid

namespace Json

/-- A value without fractions that opens at most so many containers one in the other, each object with its keys in order and
none twice. -/
inductive Plain : Nat → Json → Prop
  | null {depth : Nat} : Plain depth .null
  | bool {depth : Nat} (value : Bool) : Plain depth (.bool value)
  | integer {depth : Nat} (n : Int) (fits : FitsWord n) : Plain depth (.integer n fits)
  | string {depth : Nat} (text : String) : Plain depth (.string text)
  | array {depth : Nat} {items : List Json} (plain : ∀ item ∈ items, Plain depth item) : Plain (depth + 1) (.array items)
  | object {depth : Nat} {members : List (String × Json)} (sorted : (members.map Prod.fst).Pairwise (· < ·))
      (plain : ∀ member ∈ members, Plain depth member.2) : Plain (depth + 1) (.object members)

/-- More containers than a value opens may be left. -/
theorem Plain.mono {depth more : Nat} {json : Json} (plain : json.Plain depth) (le : depth ≤ more) : json.Plain more := by
  induction plain generalizing more with
  | null => exact .null
  | bool value => exact .bool value
  | integer n fits => exact .integer n fits
  | string text => exact .string text
  | array _ ih =>
    obtain ⟨more, rfl⟩ := Nat.exists_eq_add_of_le' (Nat.le_trans (Nat.le_add_left 1 _) le)
    exact .array fun item mem => ih item mem (Nat.le_of_succ_le_succ le)
  | object sorted _ ih =>
    obtain ⟨more, rfl⟩ := Nat.exists_eq_add_of_le' (Nat.le_trans (Nat.le_add_left 1 _) le)
    exact .object sorted fun member mem => ih member mem (Nat.le_of_succ_le_succ le)

namespace Decoder

universe u

variable {α β : Type u} {depth : Nat}

private theorem int_document {n : Int} (fits : FitsWord n) : int depth (integer n fits).document = some n := by
  rw [document, integerDocument, int, ofNumeral?_toDigits fits]

private theorem natBelow_document {bound n : Nat} (less : n < bound) (fits : FitsWord n) :
    natBelow bound depth (integer n fits).document = some n := by
  rw [natBelow, int_document, Option.bind_some, if_pos ⟨Int.natCast_nonneg n, Int.ofNat_lt.2 less⟩, Int.toNat_natCast]

/-- A number of 64 bits is read as it was written. -/
theorem uint64_document (n : UInt64) : uint64 depth (ofUInt64 n).document = some n := by
  have read : natBelow UInt64.size depth (ofUInt64 n).document = some n.toNat := natBelow_document n.toNat_lt _
  rw [uint64, read, Option.map_some, UInt64.ofNat_toNat]

/-- A number of 32 bits is read as it was written. -/
theorem uint32_document (n : UInt32) : uint32 depth (ofUInt32 n).document = some n := by
  have read : natBelow UInt32.size depth (ofUInt32 n).document = some n.toNat := natBelow_document n.toNat_lt _
  rw [uint32, read, Option.map_some, UInt32.ofNat_toNat]

/-- An id is read as it was written. -/
theorem uuid_document (id : Uuid) : uuid depth (ofUuid id).document = some id := id.ofText?_text

/-- A finite number is read as a finite number of the same sign. -/
theorem binary64_document (negative : Bool) {units : Nat} (exact : Rounding.Exact units) : ∃ near held,
    binary64 depth (ofBinary64 (.finite negative units exact)).document = some (.finite negative near held) := by
  obtain ⟨near, held, read⟩ := ofNumeral?_numeral negative exact
  refine ⟨near, held, ?_⟩
  have kept : ofBinary64 (.finite negative units exact) = float (.finite negative units exact) := rfl
  rw [kept, document, numberDocument, binary64, read]

/-- What is not finite has left no number. -/
theorem binary64_document_of_not_finite {x : Binary64} (endless : x.isFinite = false) :
    binary64 depth (ofBinary64 x).document = none := by
  rw [ofBinary64, endless]
  rfl

/-- A list is read as it was written if its items are. -/
theorem list_document {item : Decoder α} {f : α → Json} {items : List α}
    (reads : ∀ value ∈ items, item depth (f value).document = some value) :
    list item (depth + 1) (ofList f items).document = some items := by
  rw [ofList, document, itemDocuments_eq, List.map_map]
  exact (mapM_eq_some reads).trans (congrArg some (List.map_id items))

-- Records are read by rewriting with the next two equations: to check an unfolded reader, its bounds would be computed with.

/-- What is built from a field is built from what is read of it. -/
theorem required_some_bind (decoder : Decoder α) (document : Document) (build : α → Option β) :
    (required decoder depth (some document) >>= build) = (decoder depth document).bind build := by
  rw [required, Option.bind_some]
  rfl

/-- A field that is read goes into what is built from the fields. -/
theorem required_bind {decoder : Decoder α} {document : Document} {value : α} (reads : decoder depth document = some value)
    (build : α → Option β) : (required decoder depth (some document) >>= build) = build value := by
  rw [required_some_bind, reads, Option.bind_some]

/-- A field that is null when there is nothing to read, where null itself is nothing to read. -/
theorem optional_document {decoder : Decoder α} {f : α → Json} (solid : decoder depth .null = none) {value : Option α}
    (reads : ∀ held, decoder depth (f held).document = some held) :
    optional decoder depth (some (ofOption f value).document) = some value := by
  cases value with
  | none => rfl
  | some held =>
    have read := reads held
    rw [ofOption]
    cases same : (f held).document with
    | null => exact absurd (solid.symm.trans (same ▸ read)) (Option.some_ne_none held).symm
    | _ =>
      rw [same] at read
      exact congrArg (Option.map some) read

/-- What may be absent is read as it was written, if nothing that is there is written as a null. -/
theorem optional_bind {decoder : Decoder α} {f : α → Json} (solid : decoder depth .null = none) {value : Option α}
    (reads : ∀ held, decoder depth (f held).document = some held) (build : Option α → Option β) :
    (optional decoder depth (some (ofOption f value).document) >>= build) = build value := by
  rw [optional_document solid reads]
  rfl

private theorem members?_memberDocuments (members : List (String × Json)) :
    members? (memberDocuments members) = some (members.map fun member => (member.1, member.2.document)) := by
  rw [memberDocuments_eq]
  exact mapM_eq_some fun _ _ => rfl

/-- A dictionary is read as it was written if its values are. -/
theorem dictionary_document {item : Decoder α} {f : α → Json} {dictionary : Dictionary α}
    (reads : ∀ value ∈ dictionary.values, item depth (f value).document = some value) :
    Decoder.dictionary item (depth + 1) (ofDictionary f dictionary).document = some dictionary := by
  have entry : ∀ entry ∈ dictionary.entries,
      (item depth (f entry.2).document).map (entry.1, ·) = some (entry.1, entry.2) := fun entry mem => by
    rw [reads entry.2 (List.mem_map_of_mem mem), Option.map_some]
  rw [ofDictionary, document, Decoder.dictionary, members?_memberDocuments, Option.bind_some, List.map_map]
  refine (congrArg (Option.map Dictionary.ofList) (mapM_eq_some entry)).trans ?_
  rw [List.map_id', Option.map_some, Dictionary.ofList_entries]

section

variable {names : List String} {members : List (String × Document)} (distinct : names.Nodup)
  (keys : members.map Prod.fst = names)

include keys

private theorem no_other_member : (members.any fun (key, _) => !names.contains key) = false := by
  refine List.any_eq_false.2 fun member mem => ?_
  have named : member.1 ∈ names := keys ▸ List.mem_map_of_mem mem
  simp [named]

include distinct

private theorem no_member_twice : (names.any fun name => 1 < members.countP (·.1 = name)) = false := by
  refine List.any_eq_false.2 fun name _ => ?_
  have once : (members.map Prod.fst).count name ≤ 1 := List.nodup_iff_count_le_one.1 (keys ▸ distinct) name
  have counted : members.countP (·.1 = name) = (members.map Prod.fst).count name := by
    rw [List.count, List.countP_map]
    rfl
  rw [counted, decide_eq_true_eq]
  exact Nat.not_lt.2 once

private theorem map_lookup : names.map (List.lookup · members) = members.map fun member => some member.2 := by
  subst keys
  rw [List.map_map]
  refine List.map_congr_left fun member mem => ?_
  let table : Table String Document := ⟨members, distinct⟩
  exact (@Table.find?_eq_some_iff _ _ _ table _ _).2 mem

end

/-- A record of named fields is built from the fields in order. -/
theorem record_document {closed : Bool} {names : List String} {build : Nat → List (Option Document) → Option α}
    {members : List (String × Json)} (distinct : names.Nodup) (same : members.map Prod.fst = names) :
    record closed names build (depth + 1) (object members).document =
      build depth (members.map fun member => some member.2.document) := by
  have keys : (members.map fun member => (member.1, member.2.document)).map Prod.fst = names := by
    rw [List.map_map]
    exact same
  rw [document, record, members?_memberDocuments, Option.bind_some, no_other_member keys, no_member_twice distinct keys,
    map_lookup distinct keys, Bool.and_false, List.map_map]
  rfl

private theorem natBelow_ofInt {bound n : Nat} (less : n < bound) (word : bound ≤ UInt64.size) :
    natBelow bound depth (ofInt n).document = some n := by
  have size : UInt64.size = 18446744073709551616 := rfl
  have fits : FitsWord n := by
    rw [FitsWord]
    omega
  rw [ofInt, dif_pos fits]
  exact natBelow_document less fits

/-- The seconds and nanoseconds of a span are read together. -/
theorem duration_document (span : Duration) : duration (depth + 1) (ofDuration span).document = some span := by
  have secs : span.secs < UInt64.size := by
    rw [Duration.secs, Nat.div_lt_iff_lt_mul (by decide)]
    exact span.bounded
  have nanos : span.subsecNanos < UInt32.size := Nat.lt_trans (Nat.mod_lt span.nanos (by decide)) (by decide)
  have whole := @natBelow_ofInt depth _ _ secs (Nat.le_refl _)
  have rest := @natBelow_ofInt depth _ _ nanos (by decide)
  rw [duration, ofDuration, record_document (by decide) (by rfl)]
  simp only [List.map_cons, List.map_nil]
  exact (required_bind whole _).trans ((required_bind rest _).trans (Duration.ofParts?_parts span))

private theorem values_itemDocuments {items : List Json} (reads : ∀ item ∈ items, value depth item.document = some item) :
    values depth (itemDocuments items) = some items := by
  induction items with
  | nil => rfl
  | cons item items ih =>
    rw [itemDocuments, values, reads item (.head _), ih fun other mem => reads other (.tail _ mem)]
    rfl

private theorem entries_memberDocuments {members : List (String × Json)}
    (reads : ∀ member ∈ members, value depth member.2.document = some member.2) :
    entries depth (memberDocuments members) = some members := by
  induction members with
  | nil => rfl
  | cons member members ih =>
    rw [memberDocuments, entries, reads member (.head _), ih fun other mem => reads other (.tail _ mem)]
    rfl

/-- A value without fractions is read as it was, by induction on the value. -/
theorem value_document {json : Json} (plain : json.Plain depth) : value depth json.document = some json := by
  induction plain with
  | null | bool => rw [document, value]
  | string text => rw [document, value, Option.map_some]
  | integer n fits => rw [document, integerDocument, value, ofNumeral?_toDigits]
  | array _ ih => rw [document, value, values_itemDocuments ih, Option.map_some]
  | object sorted _ ih =>
    rw [document, value, entries_memberDocuments ih, Option.map_some, Dictionary.entries_ofList sorted]

end Decoder

end Json

end IntentBus
