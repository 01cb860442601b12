import Bahia.Projector.Retry

/-! What the fingerprint of a projection tells apart. It flattens the tags with three separators and
decodes the content through float64, so it is exact on records that have no such separator in a tag,
no blank tag and no two values that are decoded alike. -/

namespace Bahia.Projection
open Foundation Nostr

/-! ### Contents -/

/-- The JSON object that a content is. -/
def objectOf {Object : Type} (read : String → Option Object) (content : String) : Option Object :=
  if hasPrefix (trimSpace content) "\x7b" then read (trimSpace content) else none

def volatileKeys (keepRevision : Bool) : List String :=
  volatileContentKeys.filter fun key => !(keepRevision && key == "updated_at")

/-- The same content, or two objects that differ at most in volatile keys. -/
def SameContent {Value : Type} (read : String → Option (Bucket String Value)) (keepRevision : Bool)
    (first second : String) : Prop :=
  first = second ∨ ∃ object other, objectOf read first = some object ∧
    objectOf read second = some other ∧
      ∀ key, key ∉ volatileKeys keepRevision → object.get key = other.get key

/-- The lasting values of a content. -/
def Valued {Value : Type} (read : String → Option (Bucket String Value)) (values : Set Value)
    (keepRevision : Bool) (content : String) : Prop :=
  ∀ object, objectOf read content = some object → ∀ key, key ∉ volatileKeys keepRevision →
    ∀ value, object.get key = some value → value ∈ values

variable {Json Value : Type} {codec : Codec Value} {read : String → Option (Bucket String Json)}
variable {decode : Json → Value} {content : String} {keepRevision : Bool}

/-- What the hash and the JSON library do: decoding turns the values of an object into what the
library makes of them, an encoded object is decoded into itself, and every value can be written. -/
structure Codec.Lawful (codec : Codec Value) (read : String → Option (Bucket String Json))
    (decode : Json → Value) : Prop where
  sha256 : Function.Injective codec.sha256
  unmarshal : ∀ text, codec.unmarshalObject text = (read text).map (·.map decode)
  marshal : ∀ object, ∃ text, codec.marshalObject object = some text ∧
    objectOf codec.unmarshalObject text = some object
  written : ∀ key value, ∃ text, objectOf read text = some ((∅ : Bucket String Json).put key value)

theorem lasting_left (lasting : key ∉ volatileKeys (kept && keeps)) : key ∉ volatileKeys kept := by
  intro member
  apply lasting
  simp only [volatileKeys, List.mem_filter] at member ⊢
  refine ⟨member.1, ?_⟩
  cases kept with
  | false => rfl
  | true => cases keeps <;> simp_all

theorem lasting_right (lasting : key ∉ volatileKeys (kept && keeps)) :
    key ∉ volatileKeys keeps := by
  rw [Bool.and_comm] at lasting
  exact lasting_left lasting

def strip (keepRevision : Bool) (object : Bucket String Value) : Bucket String Value :=
  (volatileKeys keepRevision).foldl Bucket.delete object

theorem strip_get (lasting : key ∉ volatileKeys keepRevision) (object : Bucket String Value) :
    (strip keepRevision object).get key = object.get key := by
  rw [strip, Bucket.get_foldl_delete, if_neg lasting]

theorem stableContent_eq (content : String) :
    codec.stableContent content keepRevision =
      match objectOf codec.unmarshalObject content with
      | none => content
      | some object => (codec.marshalObject (strip keepRevision object)).getD content := by
  unfold Codec.stableContent objectOf
  cases starts : hasPrefix (trimSpace content) "\x7b" with
  | false => simp [starts]
  | true =>
    simp only [starts, if_true]
    rfl

theorem objectOf_map (content : String) :
    objectOf (fun text => (read text).map (·.map decode)) content =
      (objectOf read content).map (·.map decode) := by
  unfold objectOf
  split <;> rfl

section Laws
variable (laws : codec.Lawful read decode)
include laws

theorem objectOf_decoded (content : String) :
    objectOf codec.unmarshalObject content = (objectOf read content).map (·.map decode) := by
  rw [funext laws.unmarshal, objectOf_map]

theorem stableContent_reads (content : String) (keepRevision : Bool) :
    objectOf codec.unmarshalObject (codec.stableContent content keepRevision) =
      (objectOf codec.unmarshalObject content).map (strip keepRevision) := by
  rw [stableContent_eq]
  cases found : objectOf codec.unmarshalObject content with
  | none => exact found
  | some object =>
    obtain ⟨text, encoded, decoded⟩ := laws.marshal (strip keepRevision object)
    simp only [encoded]
    exact decoded

theorem sameContent_of_stable
    (same : codec.stableContent first kept = codec.stableContent second keeps) :
    SameContent codec.unmarshalObject (kept && keeps) first second := by
  have reads := congrArg (objectOf codec.unmarshalObject) same
  rw [stableContent_reads laws, stableContent_reads laws] at reads
  rw [stableContent_eq, stableContent_eq] at same
  cases found : objectOf codec.unmarshalObject first with
  | none =>
    rw [found] at reads same
    have other := Option.map_eq_none_iff.mp reads.symm
    rw [other] at same
    exact .inl same
  | some object =>
    rw [found] at reads
    obtain ⟨stored, other, stripped⟩ := Option.map_eq_some_iff.mp reads.symm
    refine .inr ⟨object, stored, found, other, fun key lasting => ?_⟩
    have agree := congrArg (Bucket.get · key) stripped
    rw [strip_get (lasting_right lasting), strip_get (lasting_left lasting)] at agree
    exact agree.symm

theorem sameContent_of_decoded (distinct : Set.InjOn decode values)
    (firstly : Valued read values keepRevision first)
    (secondly : Valued read values keepRevision second)
    (same : SameContent codec.unmarshalObject keepRevision first second) :
    SameContent read keepRevision first second := by
  rcases same with equal | ⟨object, other, found, stored, agree⟩
  · exact .inl equal
  rw [objectOf_decoded laws] at found stored
  obtain ⟨written, reads, rfl⟩ := Option.map_eq_some_iff.mp found
  obtain ⟨kept, readsKept, rfl⟩ := Option.map_eq_some_iff.mp stored
  refine .inr ⟨written, kept, reads, readsKept, fun key lasting => ?_⟩
  have agree := agree key lasting
  rw [Bucket.get_map, Bucket.get_map] at agree
  cases here : written.get key with
  | none =>
    rw [here] at agree
    exact (Option.map_eq_none_iff.mp agree.symm).symm
  | some value =>
    rw [here] at agree
    obtain ⟨next, there, alike⟩ := Option.map_eq_some_iff.mp agree.symm
    have member := firstly written reads key lasting value here
    have joins := secondly kept readsKept key lasting next there
    rw [there, distinct joins member alike]

theorem stableContent_alike (alike : decode value = decode next)
    (reads : objectOf read first = some ((∅ : Bucket String Json).put key value))
    (readsKept : objectOf read second = some ((∅ : Bucket String Json).put key next)) :
    codec.stableContent first keepRevision = codec.stableContent second keepRevision := by
  have same : ((∅ : Bucket String Json).put key value).map decode =
      ((∅ : Bucket String Json).put key next).map decode := by
    ext1 name
    rw [Bucket.get_map, Bucket.get_map, Bucket.get_put, Bucket.get_put]
    split
    · exact congrArg some alike
    · rfl
  rw [stableContent_eq, stableContent_eq, objectOf_decoded laws, objectOf_decoded laws, reads, readsKept]
  simp only [Option.map_some, same]
  obtain ⟨text, encoded, -⟩ := laws.marshal (strip keepRevision
    (((∅ : Bucket String Json).put key next).map decode))
  rw [encoded]
  rfl

end Laws

/-! ### Tags -/

def revised (tags : Tags) : Bool :=
  revisionTokenFamilies.contains (Tags.value tags "legacy_kind")

/-- What is hashed of a record in front of its content. -/
def Tags.text (tags : Tags) : String :=
  join "\x1e" ((tags.map (join "\x1f")).insertionSort (· ≤ ·))

theorem fingerprint_unhashed (unhashed : Tags.value tags "state_hash" = "") (kind : Kind) :
    codec.projectionFingerprint kind tags content =
      codec.sha256 (toString kind.val ++ "\x00" ++ Tags.text tags ++ "\x00" ++
        codec.stableContent content (revised tags)) := by
  simp [Codec.projectionFingerprint, unhashed, Tags.text, revised]

/-- A record without a state hash whose tags are written in `alphabet`; `blank` says whether a tag may
have no text at all. -/
structure Plain (read : String → Option (Bucket String Json)) (alphabet : Set Char) (blank : Prop)
    (values : Set Json) (tags : Tags) (content : String) : Prop where
  unhashed : Tags.value tags "state_hash" = ""
  lettered : ∀ tag ∈ tags, tag = [] ∨ tag = [""] → blank
  within : ∀ tag ∈ tags, ∀ element ∈ tag, ∀ rune ∈ element.toList, rune ∈ alphabet
  valued : Valued read values (revised tags) content

section Plain
variable {alphabet : Set Char} {blank : Prop} {values : Set Json} {tags : Tags}
variable (plain : Plain read alphabet blank values tags content)
include plain

theorem Plain.line_free (outside : rune ∉ alphabet) (other : rune ≠ '\x1f') :
    ∀ line ∈ tags.map (join "\x1f"), rune ∉ line.toList := by
  intro line member inside
  obtain ⟨tag, listed, rfl⟩ := List.mem_map.mp member
  rcases @mem_join '\x1f' tag rune inside with same | ⟨element, part, found⟩
  · exact other same
  · exact outside (plain.within tag listed element part rune found)

theorem Plain.text_free (outside : rune ∉ alphabet) (other : rune ≠ '\x1f')
    (another : rune ≠ '\x1e') : rune ∉ (Tags.text tags).toList := by
  intro inside
  rcases @mem_join '\x1e' _ rune inside with same | ⟨line, part, found⟩
  · exact another same
  · have member := (List.perm_insertionSort _ _).mem_iff.mp part
    exact plain.line_free outside other line member found

theorem Plain.line_ne_empty (solid : ¬ blank) : ∀ line ∈ tags.map (join "\x1f"), line ≠ "" := by
  intro line member empty
  obtain ⟨tag, listed, rfl⟩ := List.mem_map.mp member
  exact solid (plain.lettered tag listed ((@join_eq_empty '\x1f' tag).mp empty))

theorem Plain.separate_text (solid : ¬ blank) (outside : '\x1e' ∉ alphabet) :
    separate '\x1e' (Tags.text tags) = (tags.map (join "\x1f")).insertionSort (· ≤ ·) := by
  have sorted := List.perm_insertionSort (· ≤ ·) (tags.map (join "\x1f"))
  refine separate_join (fun line member => ?_) fun single => ?_
  · exact plain.line_free outside (by decide) line (sorted.mem_iff.mp member)
  · have member : "" ∈ (tags.map (join "\x1f")).insertionSort (· ≤ ·) := by simp [single]
    exact plain.line_ne_empty solid "" (sorted.mem_iff.mp member) rfl

theorem Plain.separate_lines (solid : ¬ blank) (outside : '\x1f' ∉ alphabet) :
    (tags.map (join "\x1f")).map (separate '\x1f') = tags := by
  rw [List.map_map]
  conv_rhs => rw [← List.map_id tags]
  refine List.map_congr_left fun tag listed => ?_
  refine separate_join (fun element part found => ?_) fun single => ?_
  · exact outside (plain.within _ listed element part _ found)
  · exact solid (plain.lettered tag listed (.inr single))

end Plain

section Separators
variable {alphabet : Set Char} {blank : Prop} {values : Set Json} {tags others : Tags} {other : String}

theorem perm_of_text (plain : Plain read alphabet blank values tags content)
    (plainly : Plain read alphabet blank values others other) (solid : ¬ blank)
    (unit : '\x1f' ∉ alphabet) (record : '\x1e' ∉ alphabet)
    (same : Tags.text tags = Tags.text others) :
    tags.Perm others := by
  have lines := congrArg (separate '\x1e') same
  rw [plain.separate_text solid record, plainly.separate_text solid record] at lines
  have perm : (tags.map (join "\x1f")).Perm (others.map (join "\x1f")) :=
    (List.perm_insertionSort _ _).symm.trans (lines.symm ▸ List.perm_insertionSort _ _)
  have parts := perm.map (separate '\x1f')
  rwa [plain.separate_lines solid unit, plainly.separate_lines solid unit] at parts

theorem text_of_hashed {kind : Kind} {first second : String}
    (plain : Plain read alphabet blank values tags content)
    (plainly : Plain read alphabet blank values others other) (null : '\x00' ∉ alphabet)
    (same : toString kind.val ++ "\x00" ++ Tags.text tags ++ "\x00" ++ first =
      toString kind.val ++ "\x00" ++ Tags.text others ++ "\x00" ++ second) :
    Tags.text tags = Tags.text others ∧ first = second := by
  have runes := congrArg String.toList same
  simp only [String.toList_append, List.append_assoc, List.append_cancel_left_eq] at runes
  have cuts := congrArg (cutRunes '\x00') runes
  change cutRunes '\x00' (_ ++ '\x00' :: _) = cutRunes '\x00' (_ ++ '\x00' :: _) at cuts
  rw [cutRunes_append (plain.text_free null (by decide) (by decide)),
    cutRunes_append (plainly.text_free null (by decide) (by decide))] at cuts
  obtain ⟨front, back⟩ := Prod.mk.inj (Option.some.inj cuts)
  exact ⟨String.toList_inj.mp front, String.toList_inj.mp back⟩

end Separators

/-! ### Exactness -/

/-- Records of one fingerprint are the same change: the same tags and the same lasting content. -/
def Separates (codec : Codec Value) (read : String → Option (Bucket String Json))
    (alphabet : Set Char) (blank : Prop) (values : Set Json) : Prop :=
  ∀ kind tags content others other, Plain read alphabet blank values tags content →
    Plain read alphabet blank values others other →
      codec.projectionFingerprint kind tags content =
          codec.projectionFingerprint kind others other →
        tags.Perm others ∧ SameContent read (revised tags && revised others) content other

theorem separates_of_free (laws : codec.Lawful read decode) (solid : ¬ blank) (unit : '\x1f' ∉ alphabet)
    (record : '\x1e' ∉ alphabet) (null : '\x00' ∉ alphabet) (distinct : Set.InjOn decode values) :
    Separates codec read alphabet blank values := by
  intro kind tags content others other plain plainly same
  rw [fingerprint_unhashed plain.unhashed, fingerprint_unhashed plainly.unhashed] at same
  obtain ⟨text, stable⟩ := text_of_hashed plain plainly null (laws.sha256 same)
  refine ⟨perm_of_text plain plainly solid unit record text, ?_⟩
  refine sameContent_of_decoded laws distinct ?_ ?_ (sameContent_of_stable laws stable)
  · exact fun object found key lasting => plain.valued object found key (lasting_left lasting)
  · exact fun object found key lasting => plainly.valued object found key (lasting_right lasting)

section Aliases
variable {alphabet : Set Char} {blank : Prop} {values : Set Json}

theorem plain_of_text (unhashed : Tags.value tags "state_hash" = "")
    (lettered : ∀ tag ∈ tags, tag = [] ∨ tag = [""] → blank)
    (within : ∀ tag ∈ tags, ∀ element ∈ tag, ∀ rune ∈ element.toList, rune ∈ alphabet)
    (text : hasPrefix (trimSpace content) "\x7b" = false) :
    Plain read alphabet blank values tags content := by
  refine ⟨unhashed, lettered, within, fun object found => ?_⟩
  rw [objectOf, text] at found
  cases found

variable (separates : Separates codec read alphabet blank values)
include separates

theorem perm_of_hashed (tags others : Tags) (content other : String)
    (plain : Plain read alphabet blank values tags content)
    (plainly : Plain read alphabet blank values others other)
    (same : Tags.text tags ++ "\x00" ++ codec.stableContent content (revised tags) =
      Tags.text others ++ "\x00" ++ codec.stableContent other (revised others)) :
    tags.Perm others := by
  refine (separates 0 tags content others other plain plainly ?_).1
  rw [fingerprint_unhashed plain.unhashed, fingerprint_unhashed plainly.unhashed]
  simp only [String.append_assoc] at same ⊢
  rw [same]

theorem unit_free : '\x1f' ∉ alphabet := by
  intro member
  have perm := perm_of_hashed separates [["\x1f\x1f"]] [["\x1f", ""]] "" ""
    (plain_of_text rfl (by simp) (by simp [member]) rfl)
    (plain_of_text rfl (by simp) (by simp [member]) rfl) rfl
  simp at perm

theorem record_free : '\x1e' ∉ alphabet := by
  intro member
  have perm := perm_of_hashed separates [["\x1e\x1e\x1e"]] [["\x1e"], ["\x1e"]] "" ""
    (plain_of_text rfl (by simp) (by simp [member]) rfl)
    (plain_of_text rfl (by simp) (by simp [member]) rfl) rfl
  simpa using perm.length_eq

theorem null_free : '\x00' ∉ alphabet := by
  intro member
  have perm := perm_of_hashed separates [["\x00"]] [] "" "\x00"
    (plain_of_text rfl (by simp) (by simp [member]) rfl)
    (plain_of_text rfl (by simp) (by simp) rfl) rfl
  simpa using perm.length_eq

theorem blank_free : ¬ blank := by
  intro allowed
  have perm := perm_of_hashed separates [[""]] [] "" ""
    (plain_of_text rfl (by simp [allowed]) (by simp) rfl) (plain_of_text rfl (by simp) (by simp) rfl) rfl
  simpa using perm.length_eq

theorem values_distinct (laws : codec.Lawful read decode) : Set.InjOn decode values := by
  intro value member next joins alike
  obtain ⟨first, reads⟩ := laws.written "x" value
  obtain ⟨second, readsKept⟩ := laws.written "x" next
  have plain {content : String} {sole : Json}
      (found : objectOf read content = some ((∅ : Bucket String Json).put "x" sole))
      (inside : sole ∈ values) : Plain read alphabet blank values [] content := by
    refine ⟨rfl, by simp, by simp, fun other stored key _ value here => ?_⟩
    cases found.symm.trans stored
    rcases Bucket.get_put_cases here with ⟨_, same⟩ | ⟨_, absent⟩
    · exact same ▸ inside
    · cases absent
  have same := (separates 0 [] first [] second (plain reads member) (plain readsKept joins) ?_).2
  · have agree : ((∅ : Bucket String Json).put "x" value).get "x" =
        ((∅ : Bucket String Json).put "x" next).get "x" := by
      rcases same with equal | ⟨object, other, found, stored, agree⟩
      · rw [equal, readsKept] at reads
        rw [Option.some.inj reads]
      · cases reads.symm.trans found
        cases readsKept.symm.trans stored
        exact agree "x" (by decide)
    rw [Bucket.get_put_self, Bucket.get_put_self] at agree
    exact Option.some.inj agree
  · rw [fingerprint_unhashed rfl, fingerprint_unhashed rfl, stableContent_alike laws alike reads readsKept]

end Aliases

/-- The fingerprint hides no change exactly where the tags are free of its three separators, none of
them is blank, and the JSON library decodes no two values alike. -/
theorem fingerprint_separates_iff (laws : codec.Lawful read decode) (alphabet : Set Char) (blank : Prop)
    (values : Set Json) :
    Separates codec read alphabet blank values ↔
      ('\x1f' ∉ alphabet ∧ '\x1e' ∉ alphabet ∧ '\x00' ∉ alphabet) ∧ ¬ blank ∧
        Set.InjOn decode values := by
  constructor
  · intro separates
    exact ⟨⟨unit_free separates, record_free separates, null_free separates⟩, blank_free separates,
      values_distinct separates laws⟩
  · rintro ⟨⟨unit, record, null⟩, solid, distinct⟩
    exact separates_of_free laws solid unit record null distinct

instance countableString : Countable String :=
  Function.Injective.countable (f := fun text => text.toList.map Char.toNat) fun _ _ same =>
    String.toList_inj.mp (List.map_injective_iff.mpr (fun _ _ => Char.toNat_inj.mp) same)

instance : Countable (Bucket String Nat) := by
  refine Function.Injective.countable (f := fun bucket : Bucket String Nat =>
    bucket.keys.map fun key => (key, bucket.get key)) fun first second same => ?_
  have keys : first.keys = second.keys := by
    simpa [Function.comp_def] using congrArg (List.map Prod.fst) same
  dsimp only at same
  rw [keys, List.map_inj_left] at same
  ext1 key
  by_cases listed : key ∈ second.keys
  · exact congrArg Prod.snd (same key listed)
  · have unlisted := keys ▸ listed
    rw [Bucket.mem_keys, Bucket.mem_def, Option.not_isSome_iff_eq_none] at listed unlisted
    rw [listed, unlisted]

noncomputable def braces (object : Bucket String Nat) : String :=
  String.ofList (List.replicate ((exists_injective_nat _).choose object + 1) '\x7b')

theorem braces_injective : Function.Injective braces := fun first second same => by
  have sizes := congrArg (·.toList.length) same
  simpa [braces] using (exists_injective_nat _).choose_spec (by simpa [braces] using sizes)

noncomputable def Codec.halving : Codec Nat where
  sha256 := id
  unmarshalObject text := (Function.partialInv braces text).map (·.map (· / 2))
  marshalObject object := some (braces (object.map (2 * ·)))
  keyVersion _ := ""

theorem objectOf_braces (object : Bucket String Nat) :
    objectOf (Function.partialInv braces) (braces object) = some object := by
  have trimmed : trimSpace (braces object) = braces object := by
    simp [trimSpace, trimRunes, braces, show isSpace '\x7b' = false from rfl]
  have opens : hasPrefix (braces object) "\x7b" = true := by
    simp [hasPrefix, braces, List.replicate_succ]
  rw [objectOf, trimmed, if_pos opens, Function.partialInv_left braces_injective]

theorem halving_lawful : Codec.halving.Lawful (Function.partialInv braces) (· / 2) where
  sha256 := Function.injective_id
  unmarshal _ := rfl
  marshal object := by
    refine ⟨_, rfl, ?_⟩
    rw [Codec.halving, objectOf_map, objectOf_braces]
    refine congrArg some (Bucket.ext fun key => ?_)
    simp [Bucket.get_map, Function.comp_def]
  written key value := ⟨_, objectOf_braces _⟩

theorem fingerprint_separates_words :
    Codec.halving.Lawful (Function.partialInv braces) (· / 2) ∧
      Separates Codec.halving (Function.partialInv braces) {rune | rune.isAlpha} False {n | Even n} := by
  refine ⟨halving_lawful, (fingerprint_separates_iff halving_lawful _ _ _).mpr
    ⟨⟨by decide, by decide, by decide⟩, id, ?_⟩⟩
  rintro _ ⟨first, rfl⟩ _ ⟨second, rfl⟩ same
  dsimp only at same
  omega

/-- The elements `b` and `c` of one tag and an element with the separator between them. -/
theorem fingerprint_hides_element : Function.Injective Codec.halving.sha256 ∧
    Codec.halving.projectionFingerprint 30078 [["a", "b\x1fc"]] "" =
      Codec.halving.projectionFingerprint 30078 [["a", "b", "c"]] "" ∧
        ¬ [["a", "b\x1fc"]].Perm [["a", "b", "c"]] := by
  refine ⟨Function.injective_id, rfl, ?_⟩
  simp

end Bahia.Projection
