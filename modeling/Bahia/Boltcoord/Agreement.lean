import Bahia.Boltcoord.AddressText
import Bahia.Boltcoord.Writes
import Bahia.Lifecycle.Model

/-! Two readers of one deletion request: the store, which takes its tags as they are
written, and the lifecycle, which trims them first. They agree on plainly written tags. -/

namespace Bahia.Boltcoord
open Foundation Nostr Boltdb List

def Coordinate.toAddress (c : Coordinate) : Nostrutil.Address := ⟨c.kind, c.author, c.d⟩

/-- The key of an address has no space around it, and a `d` stands only where the kind uses one. -/
def plainAddress (value : String) : Bool :=
  match splitN value ':' 3 with
  | [kindText, keyText, d] => trimSpace keyText == keyText &&
      (d == "" || (parseUint kindText 65536).all fun kind => !Kind.isReplaceable (Fin.ofNat 65536 kind))
  | _ => true

/-- An `e` or `a` tag whose value is written without space around it, and an address plainly. -/
def plainReference (tag : Tag) : Bool :=
  match tag with
  | name :: value :: _ =>
    if name = "e" then trimSpace value == value
    else if name = "a" then trimSpace value == value && plainAddress value
    else true
  | _ => true

section Plain
variable {validKey : PubKey → Bool}

theorem parseAddress_trimmed (trimmed : trimSpace value = value)
    (key : ∀ kindText keyText d, splitN value ':' 3 = [kindText, keyText, d] →
      trimSpace keyText = keyText) :
    Nostrutil.parseAddress validKey value =
      (parseAddress validKey value).bind fun (kind, author, d) =>
        if !Kind.isState kind || (Kind.isReplaceable kind && d != "") then none
        else some ⟨kind, author, d⟩ := by
  unfold Nostrutil.parseAddress parseAddress
  rw [trimmed]
  match parts : splitN value ':' 3 with
  | [kindText, keyText, d] =>
    have sameKey : Nostrutil.pubKeyFromHex validKey keyText =
        Nostr.pubKeyFromHex validKey keyText := by
      unfold Nostrutil.pubKeyFromHex Nostr.pubKeyFromHex
      rw [key kindText keyText d parts, decodeHex_toLower]
    simp only [sameKey]
    cases parseUint kindText 65536 with
    | none => rfl
    | some kind =>
      cases Nostr.pubKeyFromHex validKey keyText with
      | none => rfl
      | some =>
        by_cases fits : kind < 65536
        · simp [fits]
        · simp [fits]
  | [] | [_] | [_, _] | _ :: _ :: _ :: _ :: _ => rfl

theorem plainAddress_key (plain : plainAddress value = true) :
    ∀ kindText keyText d, splitN value ':' 3 = [kindText, keyText, d] →
      trimSpace keyText = keyText := by
  intro kindText keyText d parts
  rw [plainAddress, parts] at plain
  exact beq_iff_eq.mp (Bool.and_eq_true_iff.mp plain).1

theorem plainAddress_used (plain : plainAddress value = true)
    (read : parseAddress validKey value = some (kind, author, d)) :
    Kind.isReplaceable kind = false ∨ d = "" := by
  unfold parseAddress at read
  unfold plainAddress at plain
  split at read
  next kindText keyText text parts =>
    simp only [Option.bind_eq_bind, Option.bind_eq_some_iff, Option.dite_none_right_eq_some] at read
    obtain ⟨number, parsed, _, _, fits, ⟨⟩⟩ := read
    rw [parts, Bool.and_eq_true] at plain
    simpa [parsed, or_comm, Fin.ofNat, Nat.mod_eq_of_lt fits] using plain.2
  next => cases read

theorem newCoordinate_of_used (state : Kind.isState kind = true)
    (used : Kind.isReplaceable kind = false ∨ d = "") :
    newCoordinate kind author d = ⟨kind, author, d⟩ := by
  unfold newCoordinate
  rcases used with other | empty
  · rw [if_pos (Kind.isAddressable_of_not_replaceable state other)]
  · rw [empty, ite_self]

theorem deletedAddress_plain (plain : plainReference tag = true) :
    Nostrutil.deletedAddress validKey author tag =
      (deletedCoordinate validKey author tag).map Coordinate.toAddress := by
  unfold Nostrutil.deletedAddress deletedCoordinate
  match tag with
  | [] | [_] => rfl
  | name :: value :: rest =>
    dsimp only
    by_cases named : name = "a"
    · subst named
      simp only [plainReference, String.reduceEq, if_false, if_true, Bool.and_eq_true,
        beq_iff_eq] at plain
      rw [if_pos rfl, if_pos rfl, parseAddress_trimmed plain.1 (plainAddress_key plain.2)]
      cases read : parseAddress validKey value with
      | none => rfl
      | some parts =>
        obtain ⟨kind, requester, d⟩ := parts
        have used := plainAddress_used plain.2 read
        have ignored : (Kind.isReplaceable kind && d != "") = false := by
          rcases used with other | empty
          · rw [other]
            rfl
          · simp [empty]
        have state : (!Kind.isReplaceable kind && !Kind.isAddressable kind) =
            !Kind.isState kind := (Bool.not_or ..).symm
        simp only [Option.bind_some, Option.bind_eq_bind, ignored, state, Bool.or_false]
        cases kept : Kind.isState kind with
        | false => simp
        | true =>
          by_cases own : requester = author
          · simp [own, newCoordinate_of_used kept used, Coordinate.toAddress]
          · have apart : requester.val ≠ author.val := fun same => own (Subtype.ext same)
            simp [own, apart]
    · rw [if_neg named, if_neg named]
      rfl

theorem deletedID_plain (plain : plainReference tag = true) :
    Nostrutil.deletedID tag = namedID tag := by
  unfold Nostrutil.deletedID namedID
  match tag with
  | [] | [_] => rfl
  | name :: value :: rest =>
    dsimp only
    by_cases named : name = "e"
    · subst named
      simp only [plainReference, if_true, beq_iff_eq] at plain
      rw [if_pos rfl, if_pos rfl, idFromHex_lower_trim plain]
    · rw [if_neg named, if_neg named]

end Plain

/-- The store and the lifecycle take the same deletions out of a request: the same
coordinates, and of the requester's stored events exactly those listed by id (or read as
versions of those coordinates). -/
structure SameDeletions (validKey : PubKey → Bool) (sha256 : Bytes → FixedBytes 32)
    (request : Event) (deletion : Nostrutil.Deletion) : Prop where
  coordinates : ∀ address,
    address ∈ (deletedCoordinates validKey request).map Coordinate.toAddress ↔
      address ∈ deletion.addresses
  ids : ∀ (scan : Scan) (st : Store) (target : Event), st.backend.Holds target →
    target.pubKey = request.pubKey → target.kind ≠ kindDeletion →
      (¬ (Store.applyDeletion sha256 validKey scan st request).1.backend.Holds target ↔
        target.id ∈ deletion.ids ∨ ∃ c ∈ deletedCoordinates validKey request,
          ∃ version ∈ versions scan c request.createdAt none, version.id = target.id)

section Agree
variable {validKey : PubKey → Bool} {sha256 : Bytes → FixedBytes 32} {request : Event}

variable {deletion : Nostrutil.Deletion}

theorem parsed_ids (parsed : Nostrutil.parseDeletion validKey request = some deletion) :
    deletion.ids = request.tags.filterMap Nostrutil.deletedID := by
  unfold Nostrutil.parseDeletion at parsed
  split at parsed
  · cases parsed
    rfl
  · cases parsed

theorem parsed_addresses (parsed : Nostrutil.parseDeletion validKey request = some deletion) :
    deletion.addresses =
      request.tags.filterMap (Nostrutil.deletedAddress validKey request.pubKey) := by
  unfold Nostrutil.parseDeletion at parsed
  split at parsed
  · cases parsed
    rfl
  · cases parsed

theorem mem_addresses {address : Nostrutil.Address} :
    address ∈ (deletedCoordinates validKey request).map Coordinate.toAddress ↔
      ∃ tag ∈ request.tags, ∃ c,
        deletedCoordinate validKey request.pubKey tag = some c ∧ c.toAddress = address := by
  rw [mem_map]
  constructor
  · intro ⟨c, member, same⟩
    obtain ⟨tag, inside, read⟩ := (mem_deletedCoordinates validKey).mp member
    exact ⟨tag, inside, c, read, same⟩
  · intro ⟨tag, inside, c, read, same⟩
    exact ⟨c, (mem_deletedCoordinates validKey).mpr ⟨tag, inside, read⟩, same⟩

theorem removed_iff (held : st.backend.Holds target) (own : target.pubKey = request.pubKey)
    (other : target.kind ≠ kindDeletion) :
    ¬ (Store.applyDeletion sha256 validKey scan st request).1.backend.Holds target ↔
      (∃ tag ∈ request.tags, namedID tag = some target.id) ∨
        ∃ c ∈ deletedCoordinates validKey request,
          ∃ version ∈ versions scan c request.createdAt none, version.id = target.id := by
  rw [Store.applyDeletion_holds]
  constructor
  · intro removed
    by_contra neither
    rw [not_or] at neither
    apply removed
    refine ⟨held, fun names => neither.1 names.1, ?_⟩
    intro c member version found same
    exact neither.2 ⟨c, member, version, found, same⟩
  · intro either ⟨_, unnamed, uncovered⟩
    rcases either with named | ⟨c, member, version, found, same⟩
    · exact unnamed ⟨named, own, other⟩
    · exact uncovered c member version found same

end Agree

def requestWith (tags : Tags) : Event := sampleEvent (FixedBytes.ofByte 31 9) 30 kindDeletion tags

def plainRequest : Event :=
  requestWith [["e", ID.hex (FixedBytes.ofByte 31 1)],
    ["a", address 30900 (FixedBytes.ofByte 31 2) "api"]]

def ignoredDRequest : Event := requestWith [["a", address 10002 (FixedBytes.ofByte 31 2) "x"]]

end Bahia.Boltcoord
