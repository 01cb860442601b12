import Bahia.Foundation.Digits
import Bahia.Saga.Checkpoint

/-! What the engine derives for a resource, its keys and its public reference, is never what a
validation objects to; only what the drivers name is. -/

namespace Bahia.Saga
open Foundation List

/-- Every secret marker has one of these. -/
def markerRunes : List Char := ['n', '=', '/']

/-- Texts in whose lower case no secret marker can occur. -/
def Plain (text : String) : Prop := ∀ rune ∈ text.toList, lowerRune rune ∉ markerRunes

variable {text start : String} {resource : Resource}

theorem containsSecretMarker_plain (plain : Plain text) :
    containsSecretMarker text = false := by
  by_contra found
  simp only [containsSecretMarker, Bool.not_eq_false, any_eq_true] at found
  obtain ⟨marker, listed, contained⟩ := found
  have special : (secretMarkers.all fun marker => marker.toList.any (· ∈ markerRunes)) = true := by
    decide +kernel
  obtain ⟨rune, inMarker, inRunes⟩ := any_eq_true.mp (all_eq_true.mp special marker listed)
  have inText := containsRunes_subset contained rune inMarker
  rw [toLower, String.toList_ofList] at inText
  obtain ⟨original, member, same⟩ := mem_map.mp inText
  exact plain original member (by rw [same]; exact of_decide_eq_true inRunes)

theorem plain_of_all
    (all : (text.toList.all fun rune => lowerRune rune ∉ markerRunes) = true) : Plain text := by
  intro rune member
  exact of_decide_eq_true (all_eq_true.mp all rune member)

theorem plain_append (before : Plain first) (after : Plain second) : Plain (first ++ second) := by
  intro rune member
  rw [String.toList_append] at member
  exact (mem_append.mp member).elim (before rune) (after rune)

theorem plain_hex (bytes : Bytes) : Plain (hex bytes) := by
  have digits : ∀ value : Fin 16, lowerRune (hexDigit value) ∉ markerRunes := by decide +kernel
  intro rune member
  rw [hex, String.toList_ofList] at member
  obtain ⟨byte, _, digit⟩ := mem_flatMap.mp member
  rcases mem_pair.mp digit with rfl | rfl <;> exact digits _

theorem hexValue_plain (decoded : hexValue digit = some value) : lowerRune digit ∉ markerRunes := by
  have digits : ∀ value : Fin 16, lowerRune (hexDigit value) ∉ markerRunes ∧
      lowerRune (hexDigit value).toUpper ∉ markerRunes := by decide +kernel
  have matched := List.find?_some decoded
  rw [Bool.or_eq_true, beq_iff_eq, beq_iff_eq] at matched
  rcases matched with rfl | rfl
  · exact (digits value).1
  · exact (digits value).2

theorem decodeHexDigits_plain (runes : List Char) (decoded : decodeHexDigits runes = some bytes) :
    ∀ rune ∈ runes, lowerRune rune ∉ markerRunes := by
  induction runes using decodeHexDigits.induct generalizing bytes with
  | case1 => exact fun _ member => nomatch member
  | case2 => cases decoded
  | case3 high low rest ih =>
    simp only [decodeHexDigits, Option.bind_eq_bind, Option.bind_eq_some_iff] at decoded
    obtain ⟨upper, first, lower, second, others, decoded, _⟩ := decoded
    exact forall_mem_cons.mpr ⟨hexValue_plain first,
      forall_mem_cons.mpr ⟨hexValue_plain second, ih decoded⟩⟩

theorem blank_append (rest : String)
    (solid : (start.toList.any fun rune => !isSpace rune) = true) : blank (start ++ rest) = false := by
  obtain ⟨rune, member, visible⟩ := any_eq_true.mp solid
  have seen : isSpace rune = false := by simpa using visible
  have inside : rune ∈ (start ++ rest).toList := by
    rw [String.toList_append]
    exact mem_append_left rest.toList member
  have kept := trimRunes_ne_nil inside seen
  simp only [blank, trimSpace, beq_eq_false_iff_ne, ne_eq]
  intro empty
  apply kept
  have runes := congrArg String.toList empty
  rwa [String.toList_ofList] at runes

variable (env : Environment)

theorem deriveKey_plain (root purpose : String) : Plain (deriveKey env root purpose) :=
  plain_append (plain_of_all (by decide +kernel)) (plain_hex _)

theorem deriveKey_solid (root purpose : String) : blank (deriveKey env root purpose) = false :=
  blank_append _ (by decide +kernel)

/-- What a public reference is. -/
structure Reference (text : String) : Prop where
  plain : Plain text
  solid : blank text = false
  start : hasPrefix text referenceStart = true
  size : text.utf8ByteSize = referenceStart.utf8ByteSize + 64

theorem reference_digest (bytes : FixedBytes 32) : Reference ("ref:sha256:" ++ hex bytes.val) where
  plain := plain_append (plain_of_all (by decide +kernel)) (plain_hex _)
  solid := blank_append _ (by decide +kernel)
  start := hasPrefix_append _ _
  size := by
    rw [String.utf8ByteSize_append, hex_utf8ByteSize, bytes.property]
    rfl

theorem append_trimPrefix (starts : hasPrefix text start = true) :
    start ++ trimPrefix text start = text := by
  rw [trimPrefix, cutPrefix, if_pos starts, Option.getD_some]
  obtain ⟨rest, same⟩ := List.isPrefixOf_iff_prefix.mp starts
  apply String.toList_inj.mp
  rw [String.toList_append, String.toList_ofList, ← same, drop_left]

theorem reference_publicResourceRef (system kind externalID : String) :
    Reference (publicResourceRef env system kind externalID) := by
  unfold publicResourceRef
  split
  · rename_i shaped
    rw [Bool.and_eq_true, beq_iff_eq] at shaped
    split
    · rename_i decoded
      have whole := append_trimPrefix shaped.1
      refine ⟨?_, ?_, shaped.1, shaped.2⟩
      · rw [← whole]
        exact plain_append (plain_of_all (by decide +kernel)) (decodeHexDigits_plain _ decoded)
      · rw [← whole]
        exact blank_append _ (by decide +kernel)
    · exact reference_digest _
  · exact reference_digest _

/-- What the drivers name is neither blank nor secret, and a projection says which end it projects. -/
structure Resource.WellFormed (resource : Resource) : Prop where
  system : blank resource.system = false ∧ containsSecretMarker resource.system = false
  kind : blank resource.kind = false ∧ containsSecretMarker resource.kind = false
  projection : resource.system = systemBahiaProjection →
    resource.kind = resourceProvisioningResult ∨ resource.kind = resourceAgentSoul →
      resource.projectsTerminal = true

theorem validate_owned (named : resource.WellFormed) (reference : Reference resource.externalID)
    (spec : blank resource.specHash = false ∧ containsSecretMarker resource.specHash = false)
    (key : blank resource.idempotencyKey = false ∧
      containsSecretMarker resource.idempotencyKey = false)
    (correlation : blank resource.correlationID = false ∧
      containsSecretMarker resource.correlationID = false) (owned : resource.OwnedBy runID) :
    resource.validate runID = none := by
  have projection : ¬ (resource.system = systemBahiaProjection ∧
      (resource.kind = resourceProvisioningResult ∨ resource.kind = resourceAgentSoul) ∧
        resource.projectsTerminal = false) := by
    rintro ⟨system, kind, missing⟩
    rw [named.projection system kind] at missing
    cases missing
  unfold Resource.validate
  simp only [any_cons, any_nil, named.system, named.kind, reference.solid, spec, key,
    correlation, containsSecretMarker_plain reference.plain, reference.start, reference.size,
    Bool.or_false, Bool.not_true, bne_self_eq_false, Bool.false_eq_true, if_false, if_neg projection,
    owned.1, owned.2, ne_eq, not_true_eq_false]

theorem conflictResource_validate (run : Run) (stage : Stage)
    (named : resource.WellFormed) (owned : resource.OwnedBy run.runID) (time : Time) :
    { conflictResource env run stage resource with recordedAt := time }.validate run.runID = none :=
  validate_owned ⟨named.system, named.kind, named.projection⟩ (reference_publicResourceRef env _ _ _)
    ⟨deriveKey_solid _ _ _, containsSecretMarker_plain (deriveKey_plain _ _ _)⟩
    ⟨deriveKey_solid _ _ _, containsSecretMarker_plain (deriveKey_plain _ _ _)⟩
    ⟨deriveKey_solid _ _ _, containsSecretMarker_plain (deriveKey_plain _ _ _)⟩ owned

end Bahia.Saga
