import Bahia.Foundation.Digits
import Bahia.Nostr.Event

/-! Reading identifiers and expirations out of tags, and the rank that turns the
replacement order of versions into a linear one. -/

namespace Bahia.Nostr
open Foundation

def idFromHex (text : String) : Option ID := decodeHex 32 text

/-- `nostr.PubKeyFromHex`; `valid` is the curve's check of the point. -/
def pubKeyFromHex (valid : PubKey → Bool) (text : String) : Option PubKey :=
  (decodeHex 32 text).filter valid

theorem idFromHex_hex (id : ID) : idFromHex (ID.hex id) = some id := decodeHex_hex id

theorem idFromHex_lower_trim (trimmed : trimSpace text = text) :
    idFromHex (toLower (trimSpace text)) = idFromHex text := by
  rw [trimmed]
  exact decodeHex_toLower 32 text

/-- `nip40.GetExpiration`: the first `expiration` tag, or -1. -/
def getExpiration (tags : Tags) : Timestamp :=
  match Tags.find tags "expiration" with
  | some text => (parseInt text).getD (SInt64.wrap (-1))
  | none => SInt64.wrap (-1)

/-- Later `created_at` first, then the lower id. -/
def Event.rank (event : Event) : Timestamp ×ₗ IDᵒᵈ :=
  toLex (event.createdAt, OrderDual.toDual event.id)

theorem isOlder_iff_rank : isOlder previous next = true ↔ previous.rank < next.rank := by
  rw [isOlder_iff, Event.rank, Event.rank, Prod.Lex.toLex_lt_toLex]
  rfl

theorem rank_eq_iff {first second : Event} :
    first.rank = second.rank ↔ first.createdAt = second.createdAt ∧ first.id = second.id := by
  simp only [Event.rank, EmbeddingLike.apply_eq_iff_eq, Prod.mk.injEq]

theorem createdAt_le_of_rank_le {first second : Event} (before : first.rank ≤ second.rank) :
    first.createdAt ≤ second.createdAt := by
  rcases Prod.Lex.le_iff.mp before with earlier | same
  · exact earlier.le
  · exact same.1.le

end Bahia.Nostr
