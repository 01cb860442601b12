import Bahia.Foundation.Bytes

/-! The event type of the vendored protocol library: identifiers, kinds and their
NIP-01 classes, tags, and the replacement order of competing versions. -/

namespace Bahia.Nostr
open Foundation

abbrev ID := FixedBytes 32

abbrev PubKey := FixedBytes 32

abbrev Signature := FixedBytes 64

abbrev Timestamp := SInt64

abbrev Kind := Fin 65536

instance kindNeZero : NeZero 65536 := ⟨by decide⟩

abbrev Tag := List String

abbrev Tags := List Tag

def zeroID : ID := FixedBytes.zero 32

def ID.hex (id : ID) : String := Foundation.hex id.val

def PubKey.hex (key : PubKey) : String := Foundation.hex key.val

theorem ID.hex_injective (same : ID.hex first = ID.hex second) : first = second :=
  Subtype.ext (Foundation.hex_injective (first.property.trans second.property.symm) same)

theorem ID.hex_ne_empty (id : ID) : ID.hex id ≠ "" := by
  intro empty
  have none : (id.val.flatMap hexByte) = [] := by
    have read := congrArg String.toList empty
    simpa [ID.hex, Foundation.hex] using read
  have length := id.property
  cases bytes : id.val with
  | nil => simp [bytes] at length
  | cons => simp [bytes, hexByte] at none

structure Event where
  id : ID
  pubKey : PubKey
  createdAt : Timestamp
  kind : Kind
  tags : Tags
  content : String
  sig : Signature
  deriving DecidableEq

/-- An event for samples; all of them have one author. -/
@[simps]
def sampleEvent (id : ID) (createdAt : Timestamp) (kind : Kind) (tags : Tags) : Event where
  id
  pubKey := FixedBytes.ofByte 31 2
  createdAt
  kind
  tags
  content := ""
  sig := FixedBytes.zero 64

def kindDeletion : Kind := 5

def Kind.isRegular (kind : Kind) : Bool := kind.val < 10000 && kind.val != 0 && kind.val != 3

def Kind.isReplaceable (kind : Kind) : Bool :=
  kind.val == 0 || kind.val == 3 || (10000 ≤ kind.val && kind.val < 20000)

def Kind.isEphemeral (kind : Kind) : Bool := 20000 ≤ kind.val && kind.val < 30000

def Kind.isAddressable (kind : Kind) : Bool := 30000 ≤ kind.val && kind.val < 40000

/-- `IsStateKind`: kinds whose current version is the latest of a coordinate. -/
def Kind.isState (kind : Kind) : Bool := Kind.isReplaceable kind || Kind.isAddressable kind

/-- The first tag named `key` that carries a value. -/
def Tags.find (tags : Tags) (key : String) : Option String :=
  tags.findSome? fun tag =>
    match tag with
    | name :: value :: _ => if name = key then some value else none
    | _ => none

def Tags.value (tags : Tags) (key : String) : String := (Tags.find tags key).getD ""

def Tags.getD (tags : Tags) : String := Tags.value tags "d"

/-- `Tags.ContainsAny`: some tag named `key` carries one of the values. -/
def Tags.containsAny (tags : Tags) (key : String) (values : List String) : Bool :=
  tags.any fun tag =>
    match tag with
    | name :: value :: _ => name == key && values.contains value
    | _ => false

/-- `nostr.IsOlder`: `next` replaces `previous` under NIP-01. -/
def isOlder (previous next : Event) : Bool :=
  previous.createdAt < next.createdAt ||
    (previous.createdAt == next.createdAt && next.id < previous.id)

theorem Kind.isAddressable_of_not_replaceable (state : Kind.isState kind = true)
    (other : Kind.isReplaceable kind = false) : Kind.isAddressable kind = true := by
  simpa [Kind.isState, other] using state

theorem Kind.replaceable_not_addressable (replaceable : Kind.isReplaceable kind = true) :
    Kind.isAddressable kind = false := by
  simp only [Kind.isReplaceable, Bool.or_eq_true, Bool.and_eq_true, beq_iff_eq,
    decide_eq_true_eq] at replaceable
  simp only [Kind.isAddressable, Bool.and_eq_false_iff, decide_eq_false_iff_not]
  omega

theorem Kind.addressable_not_replaceable (addressable : Kind.isAddressable kind = true) :
    Kind.isReplaceable kind = false := by
  cases replaceable : Kind.isReplaceable kind with
  | false => rfl
  | true =>
    rw [Kind.replaceable_not_addressable replaceable] at addressable
    cases addressable

theorem Kind.deletion_not_state : Kind.isState kindDeletion = false := by decide

theorem isOlder_iff :
    isOlder previous next = true ↔ previous.createdAt < next.createdAt ∨
      (previous.createdAt = next.createdAt ∧ next.id < previous.id) := by
  simp [isOlder]

end Bahia.Nostr
