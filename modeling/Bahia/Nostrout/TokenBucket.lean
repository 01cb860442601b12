import Bahia.Nostrout.Limits

/-! Token buckets, with their tokens read as exact rationals. The level of a bucket is what
it would hold once refilled. -/

namespace Bahia.Nostrout

/-- `Time.Sub`, which saturates. -/
def Instant.sub (later earlier : Instant) : Duration :=
  max (-2 ^ 63) (min (2 ^ 63 - 1) (later - earlier))

structure TokenBucket where
  ratePerSecond : ℚ
  burst : ℚ
  tokens : ℚ
  lastRefill : Instant
  deriving DecidableEq

def newBucket (budget : Budget) (now : Instant) : TokenBucket where
  ratePerSecond := budget.ratePerMinute / 60
  burst := budget.burst
  tokens := budget.burst
  lastRefill := now

namespace TokenBucket

def refill (bucket : TokenBucket) (now : Instant) : TokenBucket :=
  let elapsed : ℚ := Instant.sub now bucket.lastRefill / 10 ^ 9
  if elapsed ≤ 0 then bucket
  else
    { bucket with
      tokens := min bucket.burst (bucket.tokens + elapsed * bucket.ratePerSecond)
      lastRefill := now }

/-- The time until a token is available; zero when one is. -/
def waitTime (bucket : TokenBucket) : Duration :=
  if 1 ≤ bucket.tokens then 0 else ⌈(1 - bucket.tokens) / bucket.ratePerSecond * 10 ^ 9⌉

/-- Waiting refills the bucket first. -/
def wait (bucket : TokenBucket) (now : Instant) : TokenBucket × Duration :=
  (bucket.refill now, (bucket.refill now).waitTime)

def full (bucket : TokenBucket) (now : Instant) : TokenBucket × Bool :=
  (bucket.refill now, (bucket.refill now).burst ≤ (bucket.refill now).tokens)

def spend (bucket : TokenBucket) : TokenBucket := { bucket with tokens := bucket.tokens - 1 }

/-- The tokens a refill at `now` would leave, without the saturation of long waits. -/
def level (bucket : TokenBucket) (now : Instant) : ℚ :=
  min bucket.burst
    (bucket.tokens + (now - bucket.lastRefill) / 10 ^ 9 * bucket.ratePerSecond)

/-- A bucket made for a budget and used up to `now`. -/
structure Sound (budget : Budget) (now : Instant) (bucket : TokenBucket) : Prop where
  rate : bucket.ratePerSecond = budget.ratePerMinute / 60
  burst : bucket.burst = budget.burst
  nonneg : 0 ≤ bucket.tokens
  capped : bucket.tokens ≤ bucket.burst
  past : bucket.lastRefill ≤ now

variable {budget : Budget} {now : Instant} {bucket : TokenBucket}

theorem rate_pos (sound : bucket.Sound budget now) : 0 < bucket.ratePerSecond := by
  have positive : (0 : ℚ) < budget.ratePerMinute := by exact_mod_cast budget.rate_pos
  rw [sound.rate]
  positivity

theorem sound_new (budget : Budget) (now : Instant) : (newBucket budget now).Sound budget now where
  rate := rfl
  burst := rfl
  nonneg := by
    have positive : (0 : ℚ) < budget.burst := by exact_mod_cast budget.burst_pos
    exact positive.le
  capped := le_refl _
  past := le_refl _

theorem level_new (budget : Budget) (now : Instant) : (newBucket budget now).level now = budget.burst := by
  simp [level, newBucket]

theorem Sound.later (sound : bucket.Sound budget now) {later : Instant} (after : now ≤ later) :
    bucket.Sound budget later :=
  { sound with past := sound.past.trans after }

theorem level_le_burst (bucket : TokenBucket) (now : Instant) : bucket.level now ≤ bucket.burst :=
  min_le_left _ _

section
variable (sound : bucket.Sound budget now)
include sound

theorem Sound.gain_nonneg :
    0 ≤ ((now : ℚ) - bucket.lastRefill) / 10 ^ 9 * bucket.ratePerSecond := by
  have past : (bucket.lastRefill : ℚ) ≤ now := by exact_mod_cast sound.past
  have elapsed : (0 : ℚ) ≤ now - bucket.lastRefill := sub_nonneg.mpr past
  have rate := (rate_pos sound).le
  positivity

theorem Sound.level_nonneg : 0 ≤ bucket.level now := by
  have gain := sound.gain_nonneg
  have tokens := sound.nonneg
  exact le_min (tokens.trans sound.capped) (by linarith)

theorem Sound.tokens_le_level : bucket.tokens ≤ bucket.level now := by
  have gain := sound.gain_nonneg
  exact le_min sound.capped (by linarith)

theorem Sound.level_of_fresh (fresh : bucket.lastRefill = now) :
    bucket.level now = bucket.tokens := by
  simp [level, fresh, sound.capped]

theorem Sound.level_later {later : Instant} (after : now ≤ later) : bucket.level later ≤
      bucket.level now + ((later : ℚ) - now) / 10 ^ 9 * bucket.ratePerSecond := by
  have forward : (now : ℚ) ≤ later := by exact_mod_cast after
  have rate := (rate_pos sound).le
  have added : 0 ≤ ((later : ℚ) - now) / 10 ^ 9 * bucket.ratePerSecond := by
    have elapsed : (0 : ℚ) ≤ later - now := sub_nonneg.mpr forward
    positivity
  rcases min_choice bucket.burst
    (bucket.tokens + (now - bucket.lastRefill) / 10 ^ 9 * bucket.ratePerSecond) with top | part
  · have bound := bucket.level_le_burst later
    rw [show bucket.level now = bucket.burst from top]
    linarith
  · rw [show bucket.level now = _ from part]
    refine (min_le_right _ _).trans (le_of_eq ?_)
    ring

end

theorem sub_le (later earlier : Instant) (after : earlier ≤ later) :
    Instant.sub later earlier ≤ later - earlier :=
  max_le (le_trans (by norm_num) (sub_nonneg.mpr after)) (min_le_right _ _)

theorem le_of_sub_nonpos (none : Instant.sub later earlier ≤ 0) : later ≤ earlier := by
  rcases min_le_iff.mp ((le_max_right _ _).trans none) with huge | small
  · exact absurd huge (by norm_num)
  · exact sub_nonpos.mp small

variable (sound : bucket.Sound budget now)
include sound

theorem Sound.refill_fresh : (bucket.refill now).lastRefill = now := by
  unfold refill
  dsimp only
  split
  · rename_i elapsed
    have scale : (0 : ℚ) < 10 ^ 9 := by norm_num
    rw [div_le_iff₀ scale, zero_mul] at elapsed
    have none : Instant.sub now bucket.lastRefill ≤ 0 := by exact_mod_cast elapsed
    exact le_antisymm sound.past (le_of_sub_nonpos none)
  · rfl

theorem Sound.refill : (bucket.refill now).Sound budget now := by
  have rate := (rate_pos sound).le
  have tokens := sound.nonneg
  unfold TokenBucket.refill
  dsimp only
  split
  · exact sound
  rename_i elapsed
  have positive := (not_le.mp elapsed).le
  refine ⟨sound.rate, sound.burst, le_min (tokens.trans sound.capped) ?_, min_le_left _ _, le_refl _⟩
  exact add_nonneg tokens (mul_nonneg positive rate)

theorem Sound.level_refill : (bucket.refill now).level now ≤ bucket.level now := by
  rw [sound.refill.level_of_fresh sound.refill_fresh]
  have rate := (rate_pos sound).le
  unfold TokenBucket.refill
  dsimp only
  split
  · exact sound.tokens_le_level
  refine min_le_min (le_refl _) (add_le_add (le_refl _) (mul_le_mul_of_nonneg_right ?_ rate))
  have bound : (Instant.sub now bucket.lastRefill : ℚ) ≤ now - bucket.lastRefill := by
    exact_mod_cast sub_le now bucket.lastRefill sound.past
  exact div_le_div_of_nonneg_right bound (by norm_num)

theorem Sound.token_of_wait (ready : bucket.waitTime ≤ 0) : 1 ≤ bucket.tokens := by
  by_contra short
  rw [waitTime, if_neg short, Int.ceil_le, Int.cast_zero] at ready
  have rate := rate_pos sound
  have missing : 0 < 1 - bucket.tokens := sub_pos.mpr (not_le.mp short)
  have positive : 0 < (1 - bucket.tokens) / bucket.ratePerSecond * 10 ^ 9 := by positivity
  exact absurd ready (not_le.mpr positive)

theorem Sound.spend (token : 1 ≤ bucket.tokens) : bucket.spend.Sound budget now where
  rate := sound.rate
  burst := sound.burst
  nonneg := sub_nonneg.mpr token
  capped := by
    have capped := sound.capped
    show bucket.tokens - 1 ≤ bucket.burst
    linarith
  past := sound.past

theorem Sound.level_spend (fresh : bucket.lastRefill = now)
    (token : 1 ≤ bucket.tokens) : bucket.spend.level now + 1 = bucket.level now := by
  rw [(sound.spend token).level_of_fresh fresh, sound.level_of_fresh fresh]
  show bucket.tokens - 1 + 1 = bucket.tokens
  ring

theorem Sound.level_full (ready : (bucket.full now).2 = true) :
    bucket.level now = budget.burst := by
  have enough : (bucket.refill now).burst ≤ (bucket.refill now).tokens := of_decide_eq_true ready
  have above := sound.level_refill
  rw [sound.refill.level_of_fresh sound.refill_fresh] at above
  have below := bucket.level_le_burst now
  rw [sound.burst] at below
  rw [sound.refill.burst] at enough
  linarith

end TokenBucket

end Bahia.Nostrout
