import Bahia.Boltcoord.TagIndex
import Bahia.LocalStore.Reads

/-! When the keys of the vendored index tell the given events apart. -/

namespace Bahia.Localstore
open Foundation Nostr Boltdb Boltcoord

/-- No given event of the kind has the key of another author or of another `d` than the coordinate's. -/
structure KeysApart (md5 : Bytes → FixedBytes 16) (given : Set Event) (c : Coordinate) : Prop where
  author : ∀ event ∈ given, event.kind = c.kind →
    event.pubKey.val.take 8 = c.author.val.take 8 → event.pubKey = c.author
  d : ∀ event ∈ given, event.kind = c.kind → event.pubKey = c.author → ∀ value,
    tagIndexed value = true → Tags.containsAny event.tags "d" [value] = true →
      tagIndexPrefix md5 "d" value = tagIndexPrefix md5 "d" c.d → value = c.d

/-- The vendored eventstore keeps the events, and its keys tell apart what the store looks up. -/
structure Apart (md5 : Bytes → FixedBytes 16) (validKey : PubKey → Bool) (given : Set Event) : Prop where
  encoded : ∀ event ∈ given, encodes event = true
  dated : ∀ event ∈ given, 0 < event.createdAt.val ∧ event.createdAt.val < 4294967295
  ids : ∀ first ∈ given, ∀ second ∈ given,
    (first.id.val.drop 16).take 8 = (second.id.val.drop 16).take 8 → first = second
  single : ∀ event ∈ given, Kind.isAddressable event.kind = true → SingleD event.tags
  keys : ∀ c, Asks validKey given c → KeysApart md5 given c

/-- A hash for samples that keeps short texts apart. -/
def startHash (bytes : Bytes) : FixedBytes 16 := ⟨(bytes.take 16).rightpad 16 0, by simp⟩

variable {md5 : Bytes → FixedBytes 16} {event : Event} {kind : Kind} {author : PubKey} {upTo : Timestamp}

theorem vendored_author : vendored md5 (authorFilter kind author [] upTo) event = true ↔
    event.kind = kind ∧ event.pubKey.val.take 8 = author.val.take 8 ∧
      inRange (authorFilter kind author [] upTo) event = true := by
  simp only [vendored, chooseNarrowestTag, pubkeyMatching, extraTag, authorFilter, List.foldl_nil,
    Option.getD_some, List.isEmpty_cons, Bool.false_or, List.any_cons, List.any_nil, Bool.or_false,
    List.contains_cons, List.contains_nil, Option.all_none, Bool.and_true, Bool.and_eq_true, beq_iff_eq]
  constructor
  · rintro ⟨dated, own, same⟩
    exact ⟨same, own.symm, dated⟩
  · rintro ⟨same, own, dated⟩
    exact ⟨dated, own.symm, same⟩

theorem vendored_tagged : vendored md5 (authorFilter kind author [("d", [value])] upTo) event = true ↔
    event.kind = kind ∧ event.pubKey = author ∧
      (∃ other, tagIndexed other = true ∧ Tags.containsAny event.tags "d" [other] = true ∧
        tagIndexPrefix md5 "d" other = tagIndexPrefix md5 "d" value) ∧
      inRange (authorFilter kind author [("d", [value])] upTo) event = true := by
  have chosen : chooseNarrowestTag (authorFilter kind author [("d", [value])] upTo) =
      (some ("d", [value]), 7) := by
    simp [chooseNarrowestTag, authorFilter]
  rw [← mem_tagKeysOf rfl, vendored, chosen]
  dsimp only
  rw [if_neg fun both => absurd both.1 (by decide)]
  have alone : extraTag { authorFilter kind author [("d", [value])] upTo with
      tags := [("d", [value])].filter (·.1 ≠ "d") } event = true := rfl
  simp only [authorFilter] at alone ⊢
  simp only [alone, List.any_cons, List.any_nil, Bool.or_false, Option.all_some, List.contains_eq_mem,
    List.mem_singleton, Bool.and_true, Bool.and_eq_true, decide_eq_true_eq]
  tauto

section Dates

theorem uint32_val (early : 0 ≤ date.val) (late : date.val < 2 ^ 32) : (uint32 date : Int) = date.val := by
  rw [uint32, Int.emod_eq_of_lt early late, Int.toNat_of_nonneg early]

theorem uint32_le (early : 0 ≤ date.val) : (uint32 date : Int) ≤ date.val := by
  have positive : 0 ≤ date.val % 2 ^ 32 := Int.emod_nonneg _ (by norm_num)
  rw [uint32, Int.toNat_of_nonneg positive]
  omega

variable (filter : Filter) (dated : 0 < event.createdAt.val ∧ event.createdAt.val < 4294967295)
include dated

theorem within_of_inRange (late : 0 ≤ filter.upTo) (within : inRange filter event = true) :
    Within filter.upTo event := by
  by_cases unbounded : filter.upTo = 0
  · exact .inl unbounded
  simp only [inRange, Bool.and_eq_true, decide_eq_true_eq, unbounded, ne_eq, not_false_eq_true,
    true_and] at within
  rw [SInt64.le_iff, SInt64.zero_val] at late
  have own := @uint32_val event.createdAt dated.1.le (by omega)
  have below := uint32_le late
  refine .inr (SInt64.le_iff.mpr ?_)
  have before := within.1
  split at before <;> omega

theorem inRange_of_within (unlimited : filter.since = 0)
    (bound : filter.upTo = 0 ∨ 0 < filter.upTo.val ∧ filter.upTo.val < 4294967295)
    (within : Within filter.upTo event) : inRange filter event = true := by
  have own := @uint32_val event.createdAt dated.1.le (by omega)
  have earliest : uint32 0 = 0 := by simp [uint32]
  simp only [inRange, Bool.and_eq_true, decide_eq_true_eq, unlimited, earliest, zero_le, and_true]
  by_cases unbounded : filter.upTo = 0
  · simp only [unbounded, ne_eq, not_true_eq_false, false_and, if_false]
    omega
  · have limits := bound.resolve_left unbounded
    have last := @uint32_val filter.upTo limits.1.le (by omega)
    have before := SInt64.le_iff.mp (within.resolve_left unbounded)
    split <;> omega

end Dates

section Legible
variable {env : Environment} {given : Set Event} (apart : Apart md5 env.validKey given)
include apart

theorem Apart.limits (bound : Bound given upTo) :
    upTo = 0 ∨ 0 < upTo.val ∧ upTo.val < 4294967295 := by
  rcases bound with none | ⟨other, inside, rfl⟩
  · exact .inl none
  · exact .inr (apart.dated other inside)

theorem Apart.not_early (bound : Bound given upTo) : 0 ≤ upTo := by
  rcases apart.limits bound with rfl | ⟨positive, _⟩
  · exact le_rfl
  · exact SInt64.le_iff.mpr (by rw [SInt64.zero_val]; omega)

/-- Events that the vendored index tells apart are found as NIP-01 says. -/
theorem Apart.legible (index : env.index = vendored md5) : Legible env given := by
  refine ⟨apart.single, ?_, ?_, ?_⟩
  · intro c asks tags named upTo bound event member
    obtain ⟨author, d⟩ := apart.keys c asks
    have range (tags : List (String × List String)) :
        inRange (authorFilter c.kind c.author tags upTo) event = true ↔ Within upTo event :=
      ⟨within_of_inRange (authorFilter c.kind c.author tags upTo) (apart.dated event member)
          (apart.not_early bound),
        inRange_of_within (authorFilter c.kind c.author tags upTo) (apart.dated event member) rfl
          (apart.limits bound)⟩
    rw [index, Bool.eq_iff_iff]
    rcases named with rfl | rfl
    · rw [vendored_author, finds_author, range]
      refine and_congr_right fun same => and_congr_left fun _ => ⟨author event member same, ?_⟩
      intro own
      rw [own]
    · rw [vendored_tagged, range]
      have own (same : event.kind = c.kind) (mine : event.pubKey = c.author) :
          (∃ other, tagIndexed other = true ∧ Tags.containsAny event.tags "d" [other] = true ∧
            tagIndexPrefix md5 "d" other = tagIndexPrefix md5 "d" c.d) ↔
          tagIndexed c.d = true ∧ Tags.containsAny event.tags "d" [c.d] = true := by
        constructor
        · rintro ⟨other, indexed, carries, keys⟩
          rw [← d event member same mine other indexed carries keys]
          exact ⟨indexed, carries⟩
        · rintro ⟨indexed, carries⟩
          exact ⟨c.d, indexed, carries, rfl⟩
      by_cases indexed : tagIndexed c.d = true
      · rw [finds_tagged indexed]
        refine and_congr_right fun same => and_congr_right fun mine => and_congr_left fun _ => ?_
        rw [own same mine, and_iff_right indexed]
      · rw [finds_unindexed (Bool.not_eq_true _ ▸ indexed)]
        refine iff_of_false ?_ Bool.false_ne_true
        rintro ⟨same, mine, found, _⟩
        exact indexed ((own same mine).mp found).1
  · intro upTo late event member found
    rw [index, vendored, Bool.and_eq_true] at found
    exact within_of_inRange { upTo := upTo } (apart.dated event member) (late.elim id apart.not_early) found.1
  · intro event member epoch
    have dated := (apart.dated event member).1
    rw [epoch, SInt64.zero_val] at dated
    exact absurd dated (lt_irrefl 0)

end Legible

end Bahia.Localstore
