import IntentBus.Context
import IntentBus.Intent
import IntentBus.Outcome
import IntentBus.Proofs.Readers

/-! Records that go through text. Provenances, descriptors, outcomes and contexts are read from their texts as they were
written, so that different records have different texts. -/

namespace IntentBus

open Json.Decoder

variable {depth : Nat}

namespace Json

/-- Records that are read back: each from its own text, so that no two of them share a text. -/
structure ReadsBack {α : Type} (toJson : α → Json) (decoder : Decoder α) (records : Set α) : Prop where
  reads : ∀ record ∈ records, decoder.ofText? (toJson record).render = some record
  apart : ∀ first ∈ records, ∀ second ∈ records, first ≠ second → (toJson first).render ≠ (toJson second).render

private theorem ReadsBack.of_document {α : Type} {toJson : α → Json} {decoder : Decoder α} {records : Set α}
    (reads : ∀ record ∈ records, decoder depthLimit (toJson record).document = some record) :
    ReadsBack toJson decoder records := by
  have back : ∀ record ∈ records, decoder.ofText? (toJson record).render = some record := fun record mem =>
    (congrArg (Option.bind · _) (ofText?_render _)).trans (reads record mem)
  refine ⟨back, fun first mine second other differ same => differ (Option.some.inj ?_)⟩
  rw [← back first mine, same, back second other]

end Json

namespace Violation

/-- A violation is read under the name of its subject, unless that is the name of another field. -/
theorem decoder_document {subjectName : String} (apart : [subjectName, "message", "code"].Nodup) (violation : Violation) :
    decoder subjectName (depth + 1) (toJson subjectName violation).document = some violation := by
  rw [decoder, toJson, record_document apart (by rfl)]
  simp only [List.map_cons, List.map_nil]
  exact (required_bind rfl _).trans ((required_bind rfl _).trans (required_bind rfl _))

/-- Violations are read back whatever the text of their subject. -/
theorem list_document {subjectName : String} (apart : [subjectName, "message", "code"].Nodup) (violations : List Violation) :
    list (decoder subjectName) (depth + 2) (Json.ofList (toJson subjectName) violations).document = some violations :=
  Json.Decoder.list_document fun violation _ => violation.decoder_document apart

end Violation

namespace ValidationOutcome

/-- The outcome of a validation is read back from its tree. -/
theorem decoder_document (outcome : ValidationOutcome) : decoder (depth + 3) outcome.toJson.document = some outcome := by
  have violations := @Violation.list_document depth "field" (by decide) outcome.violations
  rw [decoder, toJson, record_document (by decide) (by rfl)]
  simp only [List.map_cons, List.map_nil]
  exact required_bind violations _

end ValidationOutcome

namespace AuthorizationOutcome

/-- The outcome of an authorization is read back from its tree. -/
theorem decoder_document (outcome : AuthorizationOutcome) : decoder (depth + 3) outcome.toJson.document = some outcome := by
  have violations := @Violation.list_document depth "resource" (by decide) outcome.violations
  rw [decoder, toJson, record_document (by decide) (by rfl)]
  simp only [List.map_cons, List.map_nil]
  exact (required_bind rfl _).trans (required_bind violations _)

end AuthorizationOutcome

namespace IntentDescriptor

/-- A descriptor is read back from its tree. -/
theorem decoder_document (descriptor : IntentDescriptor) :
    decoder (depth + 1) descriptor.toJson.document = some descriptor := by
  rw [decoder, toJson, record_document (by decide) (by rfl)]
  simp only [List.map_cons, List.map_nil]
  exact (required_bind rfl _).trans ((required_bind (uuid_document _) _).trans ((required_bind rfl _).trans
    (optional_bind rfl (fun _ => rfl) _)))

end IntentDescriptor

namespace Provenance

/-- A provenance is read back from its tree. -/
theorem decoder_document (provenance : Provenance) : decoder (depth + 2) provenance.toJson.document = some provenance := by
  have metadata : Json.Decoder.dictionary string (depth + 1) (Json.ofDictionary .string provenance.metadata).document =
      some provenance.metadata := dictionary_document fun _ _ => rfl
  rw [decoder, toJson, record_document (by decide) (by rfl)]
  simp only [List.map_cons, List.map_nil]
  exact (required_bind (uuid_document _) _).trans ((required_bind (uint64_document _) _).trans
    ((optional_bind rfl (fun _ => rfl) _).trans ((optional_bind rfl (fun _ => rfl) _).trans (required_bind metadata _))))

end Provenance

namespace ExecutionContext

/-- A context is read if its properties are without fractions and no deeper than the containers left for them. -/
theorem decoder_document {context : ExecutionContext} (plain : ∀ property ∈ context.properties.values, property.Plain depth) :
    decoder (depth + 2) context.toJson.document = some context := by
  have flags : Json.Decoder.dictionary bool (depth + 1) (Json.ofDictionary .bool context.featureFlags).document =
      some context.featureFlags := dictionary_document fun _ _ => rfl
  have properties : Json.Decoder.dictionary value (depth + 1) (Json.ofDictionary id context.properties).document =
      some context.properties := dictionary_document fun property mem => value_document (plain property mem)
  have text (field : IdentityField) {α : Type} (build : Option String → Option α) :
      (optional string (depth + 1) (some (Json.ofOption .string (context.identity field)).document) >>= build) =
        build (context.identity field) := optional_bind rfl (fun _ => rfl) build
  rw [decoder, toJson, record_document (by decide) (by rfl)]
  simp only [IdentityField.all, List.map_cons, List.map_nil, List.cons_append, List.nil_append]
  -- The fields at the end have to be there and are read first.
  refine (required_bind (uint64_document _) _).trans ((required_bind flags _).trans ((required_bind properties _).trans ?_))
  refine (text .userId _).trans ((text .tenantId _).trans ((text .organizationId _).trans ((text .sessionId _).trans ?_)))
  exact (text .requestId _).trans ((text .source _).trans ((text .clientIp _).trans (text .userAgent _)))

end ExecutionContext

/-- Provenances, descriptors and outcomes are read back, and so are contexts whose properties have no fractions and leave two
of the containers that a text may open to the context itself. -/
theorem records_read_back : Json.ReadsBack Provenance.toJson Provenance.decoder .univ ∧
    Json.ReadsBack IntentDescriptor.toJson IntentDescriptor.decoder .univ ∧
    Json.ReadsBack ValidationOutcome.toJson ValidationOutcome.decoder .univ ∧
    Json.ReadsBack AuthorizationOutcome.toJson AuthorizationOutcome.decoder .univ ∧
    Json.ReadsBack ExecutionContext.toJson ExecutionContext.decoder
      {context | ∀ property ∈ context.properties.values, property.Plain (depthLimit - 2)} :=
  ⟨.of_document fun provenance _ => provenance.decoder_document,
    .of_document fun descriptor _ => descriptor.decoder_document,
    .of_document fun outcome _ => outcome.decoder_document,
    .of_document fun outcome _ => outcome.decoder_document,
    .of_document fun _ plain => ExecutionContext.decoder_document plain⟩

def ExecutionContext.varied : ExecutionContext :=
  { empty with
    userId := some "Ann \"B\" \\ \x01 é€"
    createdAtMillis := 18446744073709551615
    featureFlags := ⟨[("", true), ("new look", false)], by decide⟩
    properties := ⟨[("greatest", .integer 18446744073709551615 (by decide)),
      ("least", .integer (-9223372036854775808) (by decide)),
      ("nested \"", .array [.object [("", .null), ("a", .array [])], .bool true])], by decide⟩ }

/-- The varied context is read back from its text. -/
theorem records_read_back_of_varied :
    (∀ property ∈ ExecutionContext.varied.properties.values, property.Plain (depthLimit - 2)) ∧
    ExecutionContext.decoder.ofText? ExecutionContext.varied.toJson.render = some ExecutionContext.varied := by
  have nested : (Json.array [.object [("", .null), ("a", .array [])], .bool true]).Plain 3 :=
    .array (List.forall_mem_cons.2 ⟨.object (by decide) (List.forall_mem_cons.2 ⟨.null, List.forall_mem_cons.2
      ⟨.array (List.forall_mem_nil _), List.forall_mem_nil _⟩⟩), List.forall_mem_cons.2 ⟨.bool true, List.forall_mem_nil _⟩⟩)
  have plain : ∀ property ∈ ExecutionContext.varied.properties.values, property.Plain (depthLimit - 2) :=
    List.forall_mem_cons.2 ⟨.integer _ _, List.forall_mem_cons.2 ⟨.integer _ _, List.forall_mem_cons.2
      ⟨nested.mono (by decide), List.forall_mem_nil _⟩⟩⟩
  exact ⟨plain, records_read_back.2.2.2.2.reads ExecutionContext.varied plain⟩

end IntentBus
