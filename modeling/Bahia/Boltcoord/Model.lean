import Bahia.Boltcoord.Backend
import Bahia.Nostr.Address

/-! Coordinates, the versions stored under them, the index of the coordinates deletion
requests name, and the write path that keeps the eventstore and the index of the tag
values it leaves out in step. -/

namespace Bahia.Boltcoord
open Foundation Nostr Boltdb

def tagIndexMaxValue : Nat := 100

def tagIndexable (value : String) : Bool := value != "" && value.utf8ByteSize ≤ tagIndexMaxValue

/-- A replaceable or addressable event's address; `d` is empty for the former. -/
structure Coordinate where
  kind : Kind
  author : PubKey
  d : String
  deriving DecidableEq

def newCoordinate (kind : Kind) (author : PubKey) (d : String) : Coordinate :=
  ⟨kind, author, if Kind.isAddressable kind then d else ""⟩

def coordinateOf (event : Event) : Coordinate :=
  newCoordinate event.kind event.pubKey (Tags.getD event.tags)

def address (kind : Kind) (author : PubKey) (d : String) : String :=
  kind.val.repr ++ ":" ++ PubKey.hex author ++ ":" ++ d

namespace Coordinate

def string (c : Coordinate) : String := address c.kind c.author c.d

/-- The eventstore's `#d` index can find the coordinate's versions. -/
def dIndexed (c : Coordinate) : Bool := !Kind.isAddressable c.kind || tagIndexable c.d

end Coordinate

section Requests
variable (validKey : PubKey → Bool)

/-- An address as `address` writes it; any kind passes. -/
def parseAddress (text : String) : Option (Kind × PubKey × String) :=
  match splitN text ':' 3 with
  | [kindText, keyText, d] => do
    let kind ← parseUint kindText 65536
    let author ← Nostr.pubKeyFromHex validKey keyText
    if fits : kind < 65536 then some (⟨kind, fits⟩, author, d) else none
  | _ => none

/-- The requester's own coordinate an `a` tag names. -/
def deletedCoordinate (requester : PubKey) (tag : Tag) : Option Coordinate :=
  match tag with
  | name :: value :: _ =>
    if name = "a" then do
      let (kind, author, d) ← parseAddress validKey value
      if author != requester || (!Kind.isReplaceable kind && !Kind.isAddressable kind) then none
      else some (newCoordinate kind author d)
    else none
  | _ => none

/-- The id an `e` tag names. -/
def namedID (tag : Tag) : Option ID :=
  match tag with
  | name :: value :: _ => if name = "e" then idFromHex value else none
  | _ => none

def deletedCoordinates (request : Event) : List Coordinate :=
  (request.tags.filterMap (deletedCoordinate validKey request.pubKey)).eraseDups

end Requests

/-- A read of the stored events that match a filter, newest first; without a limit, of
all of them. -/
abbrev Scan := Filter → Option Nat → List Event

def capped (limit : Option Nat) (events : List Event) : List Event :=
  match limit with
  | some most => events.take most
  | none => events

/-- The stored versions of a coordinate up to a time (0: any), newest first. A `d` the
eventstore does not index is compared here. -/
def versions (scan : Scan) (c : Coordinate) (upTo : Timestamp) (limit : Option Nat) :
    List Event :=
  let filter : Filter := { kinds := some [c.kind], authors := some [c.author], upTo := upTo }
  if c.dIndexed then
    if Kind.isAddressable c.kind then scan { filter with tags := [("d", [c.d])] } limit
    else scan filter limit
  else
    capped limit ((scan filter none).filter fun event => Tags.getD event.tags == c.d)

def latestVersion (scan : Scan) (c : Coordinate) : Option Event :=
  (versions scan c 0 (some 1)).head?

section Indexes
variable (sha256 : Bytes → FixedBytes 32)

abbrev Rows := Bucket Bytes Unit

def deletionKeyPrefix (c : Coordinate) : Bytes := (sha256 (utf8 c.string)).val

/-- The hashed coordinate, the request's `created_at` and its id. -/
def deletionKey (c : Coordinate) (request : Event) : Bytes :=
  deletionKeyPrefix sha256 c ++ request.createdAt.bigEndian ++ request.id.val

variable (validKey : PubKey → Bool)

namespace DeletionIndex

def index (rows : Rows) (request : Event) : Rows :=
  (deletedCoordinates validKey request).foldl
    (fun rows c => rows.put (deletionKey sha256 c request) ()) rows

def unindex (rows : Rows) (request : Event) : Rows :=
  (deletedCoordinates validKey request).foldl
    (fun rows c => rows.delete (deletionKey sha256 c request)) rows

/-- A stored request deletes the coordinate at or after `since`: one seek. -/
def deleted (rows : Rows) (c : Coordinate) (since : Timestamp) : Bool :=
  match rows.seek (deletionKeyPrefix sha256 c ++ since.bigEndian) with
  | some key => (deletionKeyPrefix sha256 c).isPrefixOf key
  | none => false

end DeletionIndex

/-- A tag the eventstore does not index and the tag index does. -/
def unindexedTag (tag : Tag) : Bool :=
  match tag with
  | name :: value :: _ => name.utf8ByteSize == 1 && !tagIndexable value
  | _ => false

def tagKeyPrefix (name value : String) : Bytes := utf8 name ++ (sha256 (utf8 value)).val

/-- The tag index rows of an event, one for each name and value. -/
def tagKeys (event : Event) : List Bytes :=
  let pairs := (event.tags.filter unindexedTag).map fun tag => (tag.getD 0 "", tag.getD 1 "")
  pairs.eraseDups.map fun (name, value) =>
    tagKeyPrefix sha256 name value ++ event.createdAt.bigEndian ++ event.id.val

/-- The eventstore and the tag index next to it. -/
structure Store where
  backend : BoltBackend
  tags : Rows

namespace Store

def indexTags (st : Store) (event : Event) : Store :=
  { st with tags := (tagKeys sha256 event).foldl (fun rows key => rows.put key ()) st.tags }

def unindexTags (st : Store) (event : Event) : Store :=
  { st with tags := (tagKeys sha256 event).foldl (fun rows key => rows.delete key) st.tags }

def save (st : Store) (event : Event) : Store × Bool :=
  let indexed := st.indexTags sha256 event
  match st.backend.saveEvent event with
  | some backend => ({ indexed with backend := backend }, true)
  | none => (indexed, false)

def delete (st : Store) (event : Event) : Store :=
  { st with backend := st.backend.deleteEvent event.id }.unindexTags sha256 event

/-- `Replace`: store a version newer than every held one of its coordinate, and remove
those. -/
def replace (index : Index) (scan : Scan) (st : Store) (event : Event) : Store × Bool :=
  let c := coordinateOf event
  let current := versions scan c 0 (if c.dIndexed then some 1 else none)
  if current.head?.any fun newest => !isOlder newest event then (st, false)
  else
    let (backend, replaced) := st.backend.replaceEvent index event
    let written := replaced.foldl (fun st older => st.unindexTags sha256 older)
      { st.indexTags sha256 event with backend := backend }
    (if c.dIndexed then written else current.foldl (fun st older => st.delete sha256 older) written,
      true)

/-- The stored event an `e` tag of the request names, if the requester may delete it. -/
def namedTargets (st : Store) (request : Event) (tag : Tag) : List Event :=
  match namedID tag with
  | some id =>
    (st.backend.queryByIds [id]).filter fun target =>
      target.id == id && target.pubKey == request.pubKey && target.kind != kindDeletion
  | none => []

def addTarget (targets : List Event) (target : Event) : List Event :=
  if targets.any (·.id == target.id) then targets else targets ++ [target]

/-- What a request deletes: the events it names, then the versions of its coordinates up
to its `created_at`. -/
def deletionTargets (scan : Scan) (st : Store) (request : Event) : List Event :=
  let named := request.tags.flatMap (st.namedTargets request)
  let covered := (deletedCoordinates validKey request).flatMap fun c =>
    versions scan c request.createdAt none
  (named ++ covered).foldl addTarget []

/-- `ApplyDeletion`: the store without the targets, and how many they are. -/
def applyDeletion (scan : Scan) (st : Store) (request : Event) : Store × Nat :=
  let targets := deletionTargets validKey scan st request
  (targets.foldl (fun st target => st.delete sha256 target) st, targets.length)

end Store

end Indexes

end Bahia.Boltcoord
