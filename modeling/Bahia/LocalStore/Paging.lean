import Bahia.Boltcoord.QueryOrder
import Bahia.LocalStore.Model

/-! What `pagedQuery` yields: the next page resumes at the oldest time of the last one, and a page with
nothing new is retried twice as large. -/

namespace Bahia.Localstore
open Foundation Nostr Boltdb Boltcoord

/-- The backend answers with the newest events that match, as many as it is asked for. -/
def ReadsNewest (backend : Filter → Nat → List Event) (st : Boltcoord.Store) : Prop :=
  ∀ filter count, ∃ events, NewestFirst st filter events ∧ backend filter count = events.take count

/-- The pages that a read can come to are answered so. -/
structure ReadsPages (backend : Filter → Nat → List Event) (st : Boltcoord.Store) (Page : Filter → Prop) :
    Prop where
  newest : ∀ page, Page page → ∀ count, ∃ events,
    NewestFirst st page events ∧ backend page count = events.take count
  next : ∀ page, Page page → ∀ event, st.backend.Holds event → Page { page with upTo := event.createdAt }

/-- A matching event is dated at the epoch, where the bound of the next page is taken for none, and an
event that only the filter's own bound keeps out is held. -/
def Overruns (st : Boltcoord.Store) (filter : Filter) : Prop :=
  filter.upTo ≠ 0 ∧
    (∃ event, st.backend.Holds event ∧ filter.accepts event = true ∧ event.createdAt = 0) ∧
    ∃ event, st.backend.Holds event ∧ { filter with upTo := 0 }.accepts event = true ∧
      filter.upTo < event.createdAt

theorem nextPage_asked {Page : Filter → Prop} {events : List Event} (asked : Page page)
    (dates : ∀ event ∈ events, Page { page with upTo := event.createdAt }) (yielded : List Event) :
    Page (nextPage page pageSize events yielded).1 := by
  unfold nextPage
  split
  · exact asked
  cases last : events.getLast? with
  | none => exact asked
  | some oldest => exact dates oldest (List.mem_of_getLast? last)

theorem yieldPage_subset (seen : List ID) (remaining : Option Nat) (events : List Event) :
    (yieldPage seen remaining events).1 ⊆ events := by
  induction events generalizing seen remaining with
  | nil => exact List.Subset.refl _
  | cons event rest ih =>
    rw [yieldPage]
    split
    · exact List.subset_cons_of_subset _ (ih seen remaining)
    split
    · simp
    · exact List.cons_subset_cons _ (ih _ _)

theorem readPages_forall {backend : Filter → Nat → List Event} {Page : Filter → Prop} {P : Event → Prop}
    (pages : ∀ page, Page page → ∀ count, ∀ event ∈ backend page count,
      P event ∧ Page { page with upTo := event.createdAt }) (asked : Page next.1)
    (read : readPages backend fuel next seen remaining = some all) : ∀ event ∈ all, P event := by
  induction fuel generalizing next seen remaining all with
  | zero => cases read
  | succ fuel ih =>
    obtain ⟨page, pageSize⟩ := next
    have inside := yieldPage_subset seen remaining (backend page pageSize)
    rw [readPages] at read
    generalize yieldPage seen remaining (backend page pageSize) = result at inside read
    have first : ∀ event ∈ result.1, P event := fun event member =>
      (pages page asked pageSize event (inside member)).1
    obtain ⟨yielded, none | ⟨seen, remaining⟩⟩ := result
    · cases read
      exact first
    dsimp only at read
    split at read
    · cases read
      exact first
    · obtain ⟨later, further, rfl⟩ := Option.map_eq_some_iff.mp read
      have dates := fun event member => (pages page asked pageSize event member).2
      exact List.forall_mem_append.mpr ⟨first, ih (nextPage_asked asked dates _) further⟩

theorem yieldPage_seen {events : List Event} (once : seen.Nodup)
    (further : yieldPage seen remaining events = (yielded, some (later, left))) :
    later.Nodup ∧ later.length = seen.length + yielded.length ∧ later ⊆ seen ++ events.map Event.id := by
  induction events generalizing seen remaining yielded with
  | nil =>
    cases further
    exact ⟨once, rfl, List.subset_append_left _ _⟩
  | cons event rest ih =>
    rw [yieldPage] at further
    split at further
    · obtain ⟨distinct, length, inside⟩ := ih once further
      exact ⟨distinct, length, List.Subset.trans inside (by simp)⟩
    split at further
    · cases further
    rename_i new _
    have apart : (seen ++ [event.id]).Nodup := once.append (List.nodup_singleton _) (by simpa using new)
    cases result : yieldPage (seen ++ [event.id]) (remaining.map (· - 1)) rest with
    | mk out state =>
      rw [result] at further
      cases further
      obtain ⟨distinct, length, inside⟩ := ih apart result
      rw [List.append_assoc] at inside
      simp only [List.length_append, List.length_singleton] at length
      exact ⟨distinct, length.trans (Nat.add_right_comm _ _ _), inside⟩

/-- Each page yields something new or is twice as large, until it is not full. -/
theorem nextPage_closer {events yielded : List Event} (page : Filter) (positive : 0 < pageSize)
    (full : pageSize ≤ events.length) (bounded : events.length ≤ total)
    (room : before + yielded.length ≤ total)
    (enough : (total - before) + (total + 1 - pageSize) < fuel + 1) :
    0 < (nextPage page pageSize events yielded).2 ∧ (total - (before + yielded.length)) +
      (total + 1 - (nextPage page pageSize events yielded).2) < fuel := by
  unfold nextPage
  split
  · omega
  rename_i further
  have some := List.length_pos_of_ne_nil further
  omega

theorem readPages_returns {backend : Filter → Nat → List Event} {Page : Filter → Prop} {held : List Event}
    (pages : ∀ page, Page page → ∀ count, (backend page count).Subperm held ∧
      ∀ event ∈ backend page count, Page { page with upTo := event.createdAt })
    (asked : Page page) (once : seen.Nodup) (known : seen ⊆ held.map Event.id) (positive : 0 < pageSize)
    (enough : (held.length - seen.length) + (held.length + 1 - pageSize) < fuel) :
    (readPages backend fuel (page, pageSize) seen remaining).isSome = true := by
  induction fuel generalizing page pageSize seen remaining with
  | zero => omega
  | succ fuel ih =>
    obtain ⟨inside, dates⟩ := pages page asked pageSize
    rw [readPages]
    cases result : yieldPage seen remaining (backend page pageSize) with
    | mk yielded state =>
    cases state with
    | none => rfl
    | some state =>
      obtain ⟨distinct, length, among⟩ := yieldPage_seen once result
      have stored := List.Subset.trans among (List.append_subset.mpr ⟨known, List.map_subset _ inside.subset⟩)
      have room := (List.subperm_of_subset distinct stored).length_le
      dsimp only
      split
      · rfl
      rw [Option.isSome_map]
      rename_i full
      rw [length, List.length_map] at room
      obtain ⟨grown, less⟩ := nextPage_closer page positive (not_lt.mp full) inside.length_le room
        enough
      rw [← length] at less
      exact ih (nextPage_asked asked dates yielded) distinct stored grown less

def fresh (seen : List ID) (events : List Event) : List Event :=
  events.filter fun ev => !seen.contains ev.id

theorem yieldPage_eq {seen : List ID} {remaining : Option Nat} {events : List Event}
    (distinct : (events.map Event.id).Nodup) (positive : remaining ≠ some 0) :
    yieldPage seen remaining events =
      (capped remaining (fresh seen events),
        if remaining.all fun most => decide ((fresh seen events).length < most) then
          some (seen ++ (fresh seen events).map Event.id,
            remaining.map (· - (fresh seen events).length))
        else none) := by
  induction events generalizing seen remaining with
  | nil => cases remaining <;> simp_all [yieldPage, fresh, capped, Nat.pos_iff_ne_zero]
  | cons ev rest ih =>
    obtain ⟨apart, distinct⟩ := List.nodup_cons.mp distinct
    rw [yieldPage]
    by_cases known : ev.id ∈ seen
    · have skipped : fresh seen (ev :: rest) = fresh seen rest := by simp [fresh, known]
      rw [if_pos known, skipped, ih distinct positive]
    have others : fresh (seen ++ [ev.id]) rest = fresh seen rest := by
      apply List.filter_congr
      intro other member
      have different : other.id ≠ ev.id := fun same =>
        apart (same ▸ List.mem_map_of_mem member)
      simp [different]
    have taken : fresh seen (ev :: rest) = ev :: fresh seen rest := by simp [fresh, known]
    rw [if_neg known, taken]
    match remaining with
    | none => simp [@ih (seen ++ [ev.id]) none distinct nofun, others, capped]
    | some 0 => exact absurd rfl positive
    | some 1 => simp [capped]
    | some (most + 2) =>
      simp [@ih (seen ++ [ev.id]) (some (most + 1)) distinct (by simp), others, capped]

section Reads
variable {backend : Filter → Nat → List Event} {st : Boltcoord.Store} {filter page : Filter}
  {events out : List Event} {event : Event}

theorem accepts_iff : filter.accepts event = true ↔
    { filter with upTo := 0 }.accepts event = true ∧
      (filter.upTo = 0 ∨ event.createdAt ≤ filter.upTo) := by
  simp [Filter.accepts, Filter.matchesIgnoringTimestampConstraints, or_iff_not_imp_left]

/-- What has been yielded is matched, in order, and nothing that is still to come is newer. -/
structure Yielded (st : Boltcoord.Store) (filter : Filter) (out : List Event) : Prop where
  once : out.Nodup
  matched : ∀ event ∈ out, st.backend.Holds event ∧ filter.accepts event = true
  ordered : out.Pairwise fun first second => second.createdAt ≤ first.createdAt
  older : ∀ event ∈ out, ∀ later, st.backend.Holds later → filter.accepts later = true →
    later ∉ out → later.createdAt ≤ event.createdAt

/-- The page matches what the filter does, of the events that are still to come. -/
structure Resumes (st : Boltcoord.Store) (filter page : Filter) (out : List Event) : Prop
    extends Yielded st filter out where
  unbounded : { page with upTo := 0 } = { filter with limit := 0, upTo := 0 }
  ahead : ∀ event, st.backend.Holds event → event ∉ out →
    (page.accepts event = true ↔ filter.accepts event = true)

theorem Yielded.length_le (yielded : Yielded st filter out) :
    out.length ≤ st.backend.events.values.length :=
  (List.subperm_of_subset yielded.once fun event member =>
    BoltBackend.mem_values.mpr (yielded.matched event member).1).length_le

theorem mem_fresh (known : ∀ event ∈ out, st.backend.Holds event)
    (held : event ∈ events → st.backend.Holds event) :
    event ∈ fresh (out.map Event.id) events ↔ event ∈ events ∧ event ∉ out := by
  rw [fresh, List.mem_filter, Bool.not_eq_true', List.contains_eq_mem, decide_eq_false_iff_not]
  refine and_congr_right fun inside => not_congr ⟨fun listed => ?_, List.mem_map_of_mem⟩
  obtain ⟨other, member, same⟩ := List.mem_map.mp listed
  rwa [← (known other member).eq (held inside) same]

section Page
variable (newest : NewestFirst st page (events ++ rest))
include newest

theorem page_yielded : Yielded st page events := by
  refine ⟨(List.nodup_append.mp newest.once).1, fun event member =>
    (newest.members event).mp (List.mem_append_left _ member), (List.pairwise_append.mp newest.ordered).1, ?_⟩
  intro event member later held accepted ahead
  have behind := (List.mem_append.mp ((newest.members later).mpr ⟨held, accepted⟩)).resolve_left ahead
  exact (List.pairwise_append.mp newest.ordered).2.2 event member later behind

variable (resumes : Resumes st filter page out)
include resumes

theorem fresh_iff : event ∈ fresh (out.map Event.id) events ↔ event ∈ events ∧ event ∉ out :=
  mem_fresh (fun event member => (resumes.matched event member).1)
    fun inside => ((page_yielded newest).matched event inside).1

theorem still_ahead (held : st.backend.Holds event) (accepted : filter.accepts event = true)
    (ahead : event ∉ out ++ fresh (out.map Event.id) events) :
    page.accepts event = true ∧ event ∉ events := by
  rw [List.mem_append, not_or, fresh_iff newest resumes] at ahead
  exact ⟨(resumes.ahead event held ahead.1).mpr accepted, fun inside => ahead.2 ⟨inside, ahead.1⟩⟩

theorem Resumes.yielded : Yielded st filter (out ++ fresh (out.map Event.id) events) := by
  have known := page_yielded newest
  have matched : ∀ event ∈ fresh (out.map Event.id) events,
      st.backend.Holds event ∧ filter.accepts event = true := by
    intro event member
    obtain ⟨inside, new⟩ := (fresh_iff newest resumes).mp member
    obtain ⟨held, accepted⟩ := known.matched event inside
    exact ⟨held, (resumes.ahead event held new).mp accepted⟩
  refine ⟨?_, ?_, ?_, ?_⟩
  · refine resumes.once.append (known.once.filter _) fun event old new => ?_
    exact ((fresh_iff newest resumes).mp new).2 old
  · exact List.forall_mem_append.mpr ⟨resumes.matched, matched⟩
  · refine List.pairwise_append.mpr ⟨resumes.ordered, known.ordered.filter _, ?_⟩
    intro first old second new
    obtain ⟨held, accepted⟩ := matched second new
    exact resumes.older first old second held accepted ((fresh_iff newest resumes).mp new).2
  · intro event member later held accepted ahead
    rcases List.mem_append.mp member with old | new
    · exact resumes.older event old later held accepted fun inside => ahead (List.mem_append_left _ inside)
    · obtain ⟨shown, outside⟩ := still_ahead newest resumes held accepted ahead
      exact known.older event ((fresh_iff newest resumes).mp new).1 later held shown outside

theorem Resumes.next (bounded : ¬ Overruns st filter) :
    Resumes st filter (nextPage page pageSize events (fresh (out.map Event.id) events)).1
      (out ++ fresh (out.map Event.id) events) := by
  unfold nextPage
  split
  · rename_i nothing
    rwa [nothing, List.append_nil]
  rename_i further
  have yielded := resumes.yielded newest
  have nonempty : events ≠ [] := fun empty => further (by rw [empty]; rfl)
  have last := List.getLast_mem nonempty
  rw [List.getLast?_eq_some_getLast nonempty]
  generalize events.getLast nonempty = oldest at last
  refine ⟨yielded, resumes.unbounded, ?_⟩
  intro event held ahead
  have known : st.backend.Holds oldest ∧ filter.accepts oldest = true := by
    apply yielded.matched
    rw [List.mem_append, fresh_iff newest resumes]
    by_cases old : oldest ∈ out
    · exact .inl old
    · exact .inr ⟨last, old⟩
  have same : { page with upTo := 0 }.accepts event = { filter with upTo := 0 }.accepts event := by
    rw [resumes.unbounded]
    rfl
  rw [accepts_iff, @accepts_iff filter, same]
  constructor
  · rintro ⟨free, within⟩
    refine ⟨free, ?_⟩
    by_contra outside
    obtain ⟨bound, beyond⟩ := not_or.mp outside
    rcases within with epoch | within
    · exact bounded ⟨bound, ⟨oldest, known.1, known.2, epoch⟩, event, held, free, not_le.mp beyond⟩
    · exact beyond (within.trans ((accepts_iff.mp known.2).2.resolve_left bound))
  · intro accepted
    obtain ⟨shown, outside⟩ := still_ahead newest resumes held (accepts_iff.mpr accepted) ahead
    exact ⟨accepted.1, .inr ((page_yielded newest).older oldest last event held shown outside)⟩

end Page

section Run
variable {Page : Filter → Prop} (reads : ReadsPages backend st Page)
include reads

section First
variable (asked : Page page)
include asked

theorem reads_page (count : Nat) :
    ∃ rest, NewestFirst st page (backend page count ++ rest) ∧
      ((backend page count).length < count → rest = []) := by
  obtain ⟨events, newest, same⟩ := reads.newest page asked count
  refine ⟨events.drop count, by rwa [same, List.take_append_drop], ?_⟩
  intro short
  rw [same, List.length_take] at short
  exact List.drop_eq_nil_of_le (by omega)

theorem distinct_ids (count : Nat) : ((backend page count).map Event.id).Nodup := by
  obtain ⟨_, newest, _⟩ := reads_page reads asked count
  have known := page_yielded newest
  exact known.once.map_on fun first one second other same =>
    (known.matched first one).1.eq (known.matched second other).1 same

theorem next_asked (count : Nat) (yielded : List Event) :
    Page (nextPage page count (backend page count) yielded).1 := by
  obtain ⟨_, newest, _⟩ := reads_page reads asked count
  exact nextPage_asked asked (fun event member =>
    reads.next page asked event ((page_yielded newest).matched event member).1) yielded

theorem readPages_succ (fuel pageSize : Nat) (seen : List ID) :
    readPages backend (fuel + 1) (page, pageSize) seen none =
      if (backend page pageSize).length < pageSize then some (fresh seen (backend page pageSize))
      else (readPages backend fuel
        (nextPage page pageSize (backend page pageSize) (fresh seen (backend page pageSize)))
        (seen ++ (fresh seen (backend page pageSize)).map Event.id) none).map
          (fresh seen (backend page pageSize) ++ ·) := by
  rw [readPages, @yieldPage_eq seen none _ (distinct_ids reads asked pageSize) nofun]
  rfl

theorem fresh_first (read : readPages backend (fuel + 1) (page, pageSize) seen none = some all) :
    fresh seen (backend page pageSize) <+: all := by
  rw [readPages_succ reads asked] at read
  split at read
  · cases read
    exact List.prefix_rfl
  · obtain ⟨later, _, rfl⟩ := Option.map_eq_some_iff.mp read
    exact List.prefix_append _ _

end First

theorem readPages_complete (bounded : ¬ Overruns st filter) (positive : 0 < pageSize) (asked : Page page)
    (resumes : Resumes st filter page out)
    (enough : (st.backend.events.values.length - out.length) +
      (st.backend.events.values.length + 1 - pageSize) < fuel) :
    ∃ rest, readPages backend fuel (page, pageSize) (out.map Event.id) none = some rest ∧
      NewestFirst st filter (out ++ rest) := by
  induction fuel generalizing page pageSize out with
  | zero => omega
  | succ fuel ih =>
    obtain ⟨rest, newest, short⟩ := reads_page reads asked pageSize
    have yielded := resumes.yielded newest
    have held := (page_yielded newest).length_le
    have room := yielded.length_le
    rw [List.length_append] at room
    rw [readPages_succ reads asked]
    by_cases partly : (backend page pageSize).length < pageSize
    · rw [if_pos partly]
      refine ⟨_, rfl, yielded.once, fun event => ⟨yielded.matched event, fun both => ?_⟩, yielded.ordered⟩
      by_contra ahead
      obtain ⟨shown, outside⟩ := still_ahead newest resumes both.1 both.2 ahead
      rw [short partly, List.append_nil] at newest
      exact outside ((newest.members event).mpr ⟨both.1, shown⟩)
    · obtain ⟨grown, less⟩ := nextPage_closer page positive (not_lt.mp partly) held room enough
      rw [← List.length_append] at less
      obtain ⟨later, read, whole⟩ := ih grown (next_asked reads asked pageSize _)
        (resumes.next newest bounded) less
      rw [List.map_append] at read
      rw [List.append_assoc] at whole
      exact ⟨_, by rw [if_neg partly]; exact congrArg (Option.map _) read, whole⟩

theorem readPages_limited (asked : Page next.1)
    (read : readPages backend fuel next seen none = some all) (positive : 0 < most) :
    readPages backend fuel next seen (some most) = some (all.take most) := by
  induction fuel generalizing next seen all most with
  | zero => cases read
  | succ fuel ih =>
    obtain ⟨page, pageSize⟩ := next
    have first := fresh_first reads asked read
    rw [readPages_succ reads asked] at read
    rw [readPages, @yieldPage_eq seen (some most) _ (distinct_ids reads asked pageSize) (by simp; omega)]
    by_cases more : (fresh seen (backend page pageSize)).length < most
    · simp only [Option.all_some, more, decide_true, if_true, capped, List.take_of_length_le more.le,
        Option.map_some]
      by_cases partly : (backend page pageSize).length < pageSize
      · rw [if_pos partly] at read ⊢
        cases read
        rw [List.take_of_length_le more.le]
      · rw [if_neg partly] at read ⊢
        obtain ⟨later, further, rfl⟩ := Option.map_eq_some_iff.mp read
        rw [ih (next_asked reads asked pageSize _) further (Nat.sub_pos_of_lt more), Option.map_some,
          List.take_append, List.take_of_length_le more.le]
    · simp only [Option.all_some, more, decide_false, Bool.false_eq_true, if_false, capped]
      obtain ⟨later, rfl⟩ := first
      rw [List.take_append_of_le_length (not_lt.mp more)]

/-- All pages together: the matching events, newest first, up to the limit. -/
theorem pagedQuery_complete (bounded : ¬ Overruns st filter) (positive : 0 < pageSize)
    (asked : Page { filter with limit := 0 }) (enough : st.backend.events.values.length +
      (st.backend.events.values.length + 1 - pageSize) < fuel) : ∃ events, NewestFirst st filter events ∧
        pagedQuery backend fuel pageSize filter limit = some (capped (remainingOf limit) events) := by
  have start : Resumes st filter { filter with limit := 0 } [] :=
    ⟨⟨.nil, by simp, .nil, by simp⟩, rfl, fun _ _ _ => Iff.rfl⟩
  obtain ⟨events, read, newest⟩ := readPages_complete reads bounded positive asked start enough
  refine ⟨events, newest, ?_⟩
  unfold pagedQuery remainingOf
  split
  · exact readPages_limited reads asked read (by omega)
  · exact read

theorem page_to_epoch (asked : Page page) (held : st.backend.Holds event)
    (accepted : page.accepts event = true) (epoch : event.createdAt = 0) :
    ∃ count, 1 ≤ count ∧ (backend page count).length = count ∧
      (backend page count).getLast?.map Event.createdAt = some 0 := by
  obtain ⟨index, bound, found⟩ := List.getElem_of_mem (mem_matching.mpr ⟨held, accepted⟩)
  obtain ⟨events, newest, same⟩ := reads.newest page asked (index + 1)
  have dates : events.map Event.createdAt = (st.matching page).map Event.createdAt := by
    have matching := newestFirst_matching st page
    have perm : events.Perm (st.matching page) :=
      (List.perm_ext_iff_of_nodup newest.once matching.once).mpr fun event => by
        rw [newest.members, matching.members]
    exact (perm.map _).eq_of_pairwise (fun _ _ _ _ one other => le_antisymm other one)
      (List.pairwise_map.mpr newest.ordered) (List.pairwise_map.mpr matching.ordered)
  have length := congrArg List.length dates
  rw [List.length_map, List.length_map] at length
  refine ⟨index + 1, Nat.le_add_left _ _, ?_, ?_⟩
  · rw [same, List.length_take]
    omega
  · rw [same, ← List.getLast?_map, List.map_take, dates, List.getLast?_take]
    simp [bound, found, epoch]

theorem overrun (asked : Page { filter with limit := 0 }) (overruns : Overruns st filter) :
    ∃ pageSize, 1 ≤ pageSize ∧
    ∀ fuel all, pagedQuery backend fuel pageSize filter 0 = some all →
      ∃ event ∈ all, filter.accepts event = false := by
  obtain ⟨bound, ⟨dated, held, accepted, epoch⟩, newer, present, free, beyond⟩ := overruns
  let page : Filter := { filter with limit := 0 }
  change Page page at asked
  obtain ⟨pageSize, positive, full, oldest⟩ := page_to_epoch reads asked held accepted epoch
  obtain ⟨rest, matched, _⟩ := reads_page reads asked pageSize
  have unbounded : Page { page with upTo := 0 } := epoch ▸ reads.next page asked dated held
  obtain ⟨events, newest, same⟩ := reads.newest _ unbounded pageSize
  have listed : newer ∈ events := (newest.members newer).mpr ⟨present, free⟩
  obtain ⟨first, others, rfl⟩ := List.exists_cons_of_ne_nil (List.ne_nil_of_mem listed)
  have late : filter.upTo < first.createdAt := by
    rcases List.mem_cons.mp listed with rfl | later
    · exact beyond
    · exact beyond.trans_le ((List.pairwise_cons.mp newest.ordered).1 newer later)
  have refused : filter.accepts first = false :=
    Bool.eq_false_iff.mpr fun accepts => (accepts_iff.mp accepts).2.elim bound (not_le.mpr late)
  have everything : fresh [] (backend page pageSize) = backend page pageSize := by simp [fresh]
  have next : nextPage page pageSize (backend page pageSize) (backend page pageSize) =
      ({ page with upTo := 0 }, pageSize) := by
    have nonempty : backend page pageSize ≠ [] := List.length_pos_iff.mp (by omega)
    rw [nextPage, if_neg nonempty, oldest]
    rfl
  refine ⟨pageSize, positive, ?_⟩
  intro fuel all read
  cases fuel with
  | zero => cases read
  | succ fuel =>
    have going := (readPages_succ reads asked fuel pageSize []).symm.trans read
    rw [everything, if_neg (by omega), next] at going
    obtain ⟨later, further, rfl⟩ := Option.map_eq_some_iff.mp going
    cases fuel with
    | zero => cases further
    | succ =>
      refine ⟨first, List.mem_append_right _ ((fresh_first reads unbounded further).subset ?_), refused⟩
      have known := (page_yielded matched).matched
      refine (mem_fresh (fun event member => (known event member).1) fun _ =>
        ((newest.members first).mp List.mem_cons_self).1).mpr ⟨?_, ?_⟩
      · obtain ⟨fewer, rfl⟩ := Nat.exists_eq_add_of_le' positive
        rw [same, List.take_succ_cons]
        exact List.mem_cons_self
      · exact fun member => nomatch refused.symm.trans (known first member).2

end Run

end Reads

/-- A paged read ends with each matching event once, newest first, up to the limit, exactly when it
cannot run over the filter's bound. -/
theorem paged_reads_complete_iff (backend : Filter → Nat → List Event) (st : Boltcoord.Store)
    (reads : ReadsNewest backend st) (filter : Filter) :
    (∀ (pageSize : Nat) (limit : Int), 1 ≤ pageSize → ∃ enough, ∀ fuel, enough < fuel →
      ∃ events, NewestFirst st filter events ∧
        pagedQuery backend fuel pageSize filter limit = some (capped (remainingOf limit) events)) ↔
      ¬ Overruns st filter := by
  have pages : ReadsPages backend st fun _ => True := ⟨fun page _ => reads page, fun _ _ _ _ => trivial⟩
  constructor
  · intro complete overruns
    obtain ⟨pageSize, positive, wrong⟩ := overrun pages trivial overruns
    obtain ⟨enough, read⟩ := complete pageSize 0 positive
    obtain ⟨events, newest, same⟩ := read (enough + 1) (Nat.lt_succ_self _)
    obtain ⟨event, member, refused⟩ := wrong _ _ same
    exact nomatch refused.symm.trans ((newest.members event).mp member).2
  · intro bounded pageSize limit positive
    exact ⟨st.backend.events.values.length + (st.backend.events.values.length + 1 - pageSize),
      fun fuel enough => pagedQuery_complete pages bounded positive trivial enough⟩

def datedNote (id : Byte) (createdAt : Timestamp) : Event := sampleEvent (sampleID id) createdAt 1 []

def datedNotes : Boltcoord.Store :=
  ⟨(BoltBackend.empty.put (datedNote 1 0)).put (datedNote 3 200), ∅⟩

def newestNotes (filter : Filter) (count : Nat) : List Event := (datedNotes.matching filter).take count

theorem paged_reads_complete_unbounded : ∃ enough, ∀ fuel, enough < fuel →
    ∃ events, NewestFirst datedNotes {} events ∧
      pagedQuery newestNotes fuel 1 {} 0 = some (capped (remainingOf 0) events) :=
  (paged_reads_complete_iff newestNotes datedNotes
    (fun filter _ => ⟨_, newestFirst_matching datedNotes filter, rfl⟩) {}).mpr
      (fun overruns => overruns.1 rfl) 1 0 le_rfl

/-- The page that ends at the epoch is followed by the note after the bound. -/
theorem page_at_epoch_loses_bound :
    pagedQuery newestNotes 5 1 { upTo := 100 } 0 = some [datedNote 1 0, datedNote 3 200] ∧
      { upTo := 100 : Filter }.accepts (datedNote 3 200) = false := by
  decide +kernel

end Bahia.Localstore
