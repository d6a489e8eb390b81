import Mathlib.Data.List.SplitBy
import Mathlib.Order.Basic
import Mathlib.Tactic.Common

/-!
# `Persistence.Throttle` — the two counters of authentication attempts

Attempts under one key are counted twice over: in a document of the database, which starts a new window when the
old one is over, and in a counter of the cache, which is forgotten when no attempt renews it. An attempt that
brings the count to the threshold is blocked, and reports until when.

The document forgets a block with the window that it was set in, and the counter goes on while attempts keep
coming. So the two agree, and a block lasts as long as it says, on the attempts of which every burst is too short
to be blocked or falls into one window (`throttling_holds_iff`).

The configuration has a day at most for the window and for a block, so no sum of times is near the largest one.
-/

namespace ManchesterArcana.Persistence

open List (cons_ne_nil forall_mem_cons getElem_map length_cons length_map map_map mem_cons_self pairwise_cons)

/-! ## The two counters -/

def u32Max : Nat := 4294967295

structure ThrottleConfig where
  windowSeconds : Nat
  blockAfterAttempts : Nat
  blockSeconds : Nat
  isU32 : blockAfterAttempts ≤ u32Max

namespace ThrottleConfig

def windowMillis (c : ThrottleConfig) : Int := 1000 * c.windowSeconds

def blockMillis (c : ThrottleConfig) : Int := 1000 * c.blockSeconds

/-- How long a counter of the cache lives, and at least a document of the database. -/
def ttlMillis (c : ThrottleConfig) : Int := 1000 * max (max c.windowSeconds c.blockSeconds) 1

end ThrottleConfig

structure AuthenticationThrottleBucket where
  attemptCount : Nat
  blockedUntil : Option Int
  deriving DecidableEq, Repr

structure ThrottleDocument where
  count : Nat
  windowStartedAt : Int
  blockedUntil : Option Int
  purgeAt : Int
  deriving DecidableEq, Repr

/-- `MongoAccountRepository::record_authentication_attempt`. -/
def recordAuthenticationAttempt (c : ThrottleConfig) (existing : Option ThrottleDocument) (now : Int) :
    ThrottleDocument × AuthenticationThrottleBucket :=
  let windowCutoff := now - c.windowMillis
  let (windowStartedAt, count, oldBlockedUntil) :=
    match existing with
    | some existing =>
      if windowCutoff < existing.windowStartedAt then
        (existing.windowStartedAt, min (existing.count + 1) u32Max, existing.blockedUntil)
      else (now, 1, none)
    | none => (now, 1, none)
  let blockedUntil :=
    if c.blockAfterAttempts ≤ count then some (now + c.blockMillis)
    else oldBlockedUntil.filter fun blocked => now < blocked
  ({ count, windowStartedAt, blockedUntil, purgeAt := now + c.ttlMillis }, { attemptCount := count, blockedUntil })

structure ThrottleCounter where
  count : Nat
  expiresAt : Int
  deriving DecidableEq, Repr

/-- `INCR` and `EXPIRE`, of a counter that is gone when it expires. -/
def incrementThrottle (ttlMillis : Int) (existing : Option ThrottleCounter) (now : Int) : ThrottleCounter :=
  match existing with
  | some existing =>
    if now < existing.expiresAt then ⟨existing.count + 1, now + ttlMillis⟩ else ⟨1, now + ttlMillis⟩
  | none => ⟨1, now + ttlMillis⟩

/-- `AuthService::record_authentication_attempt`, where the cache answers. -/
def recordCachedAttempt (c : ThrottleConfig) (existing : Option ThrottleCounter) (now : Int) :
    ThrottleCounter × AuthenticationThrottleBucket :=
  let counter := incrementThrottle c.ttlMillis existing now
  let count := min counter.count u32Max
  let blockedUntil := if c.blockAfterAttempts ≤ count then some (now + c.blockMillis) else none
  (counter, { attemptCount := count, blockedUntil })

/-! ## Attempts -/

/-- An attempt, and until when it was reported blocked. An attempt that was is turned away (`is_throttled`). -/
structure Attempt where
  time : Int
  blockedUntil : Option Int
  deriving DecidableEq, Repr

/-- **The attempts at some times**, recorded by one of the two. -/
def attempts {σ : Type} (record : Option σ → Int → σ × AuthenticationThrottleBucket) :
    Option σ → List Int → List Attempt
  | _, [] => []
  | existing, t :: ts =>
    ⟨t, (record existing t).2.blockedUntil⟩ :: attempts record (some (record existing t).1) ts

/-- Until an attempt's block is over, attempts are blocked. -/
def BlocksLast (as : List Attempt) : Prop :=
  as.Pairwise fun a a' => ∀ b, a.blockedUntil = some b → a'.time < b → a'.blockedUntil.isSome = true

/-- An attempt that is not the threshold's one in the window before it, or a later one, is not blocked while no
    block is in force. -/
def BelowThresholdPasses (c : ThrottleConfig) (as : List Attempt) : Prop :=
  ∀ earlier a later, as = earlier ++ a :: later →
    (earlier.filter fun x => a.time - c.windowMillis < x.time).length + 1 < c.blockAfterAttempts →
    (∀ x ∈ earlier, ∀ b, x.blockedUntil = some b → b ≤ a.time) → a.blockedUntil = none

/-- **Throttling holds**, in the database and in the cache, and the two agree. -/
structure ThrottlingHolds (c : ThrottleConfig) (ts : List Int) : Prop where
  authoritative_lasts : BlocksLast (attempts (recordAuthenticationAttempt c) none ts)
  cached_lasts : BlocksLast (attempts (recordCachedAttempt c) none ts)
  authoritative_passes : BelowThresholdPasses c (attempts (recordAuthenticationAttempt c) none ts)
  cached_passes : BelowThresholdPasses c (attempts (recordCachedAttempt c) none ts)
  agree : (attempts (recordAuthenticationAttempt c) none ts).map (·.blockedUntil.isSome) =
    (attempts (recordCachedAttempt c) none ts).map (·.blockedUntil.isSome)

/-- **Every burst of attempts is too short to be blocked, or falls into one window.** The attempts of a burst
    follow one another within the life of a counter. -/
def BurstsFit (c : ThrottleConfig) (ts : List Int) : Prop :=
  c.blockAfterAttempts ≤ 1 ∨
  ∀ burst ∈ ts.splitBy (fun t t' => t' < t + c.ttlMillis), burst.length < c.blockAfterAttempts ∨
    ∀ first ∈ burst.head?, ∀ t ∈ burst, t < first + c.windowMillis

/-! ## One attempt -/

namespace ThrottleConfig

variable (c : ThrottleConfig)

theorem windowMillis_le_ttlMillis : c.windowMillis ≤ c.ttlMillis := by
  unfold windowMillis ttlMillis
  omega

theorem blockMillis_le_ttlMillis : c.blockMillis ≤ c.ttlMillis := by
  unfold blockMillis ttlMillis
  omega

/-- The attempt that brings a count to `n`, where nothing else is known. -/
def numberedAttempt (n : Nat) (t : Int) : Attempt :=
  ⟨t, if c.blockAfterAttempts ≤ n then some (t + c.blockMillis) else none⟩

/-- Attempts that are counted on from `n`. -/
def numbered : Nat → List Int → List Attempt
  | _, [] => []
  | n, t :: ts => c.numberedAttempt n t :: numbered (n + 1) ts

end ThrottleConfig

variable {c : ThrottleConfig}

variable {ts : List Int} {d : ThrottleDocument} {now t : Int} {n : Nat} {counter : ThrottleCounter}
  {existing : Option ThrottleDocument}

theorem threshold_le_saturated : c.blockAfterAttempts ≤ min n u32Max ↔ c.blockAfterAttempts ≤ n := by
  have := c.isU32
  omega

/-- **A document's block is one of its own window.** -/
def ThrottleDocument.Sound (c : ThrottleConfig) (d : ThrottleDocument) : Prop :=
  d.count < c.blockAfterAttempts → d.blockedUntil = none

/-- The document that an attempt starts a window with. -/
def freshDocument (c : ThrottleConfig) (now : Int) : ThrottleDocument where
  count := 1
  windowStartedAt := now
  blockedUntil := (c.numberedAttempt 1 now).blockedUntil
  purgeAt := now + c.ttlMillis

theorem record_none (now : Int) : recordAuthenticationAttempt c none now =
    (freshDocument c now, ⟨1, (c.numberedAttempt 1 now).blockedUntil⟩) := by
  unfold recordAuthenticationAttempt freshDocument ThrottleConfig.numberedAttempt
  simp

/-- **A window that is over is forgotten**, with its block. -/
theorem record_over (h : d.windowStartedAt + c.windowMillis ≤ now) :
    recordAuthenticationAttempt c (some d) now = recordAuthenticationAttempt c none now := by
  have hover : ¬ now - c.windowMillis < d.windowStartedAt := by omega
  unfold recordAuthenticationAttempt
  simp only [if_neg hover]

/-- **A window that goes on** counts on. -/
theorem record_within (hsound : d.Sound c)
    (h : now < d.windowStartedAt + c.windowMillis) :
    recordAuthenticationAttempt c (some d) now =
      ({ count := min (d.count + 1) u32Max, windowStartedAt := d.windowStartedAt,
         blockedUntil := (c.numberedAttempt (d.count + 1) now).blockedUntil, purgeAt := now + c.ttlMillis },
        ⟨min (d.count + 1) u32Max, (c.numberedAttempt (d.count + 1) now).blockedUntil⟩) := by
  have hwithin : now - c.windowMillis < d.windowStartedAt := by omega
  have hblocked : (if c.blockAfterAttempts ≤ min (d.count + 1) u32Max then some (now + c.blockMillis)
      else d.blockedUntil.filter fun blocked => now < blocked) =
        (c.numberedAttempt (d.count + 1) now).blockedUntil := by
    unfold ThrottleConfig.numberedAttempt
    by_cases hthreshold : c.blockAfterAttempts ≤ d.count + 1
    · rw [if_pos (threshold_le_saturated.mpr hthreshold), if_pos hthreshold]
    · rw [if_neg (mt threshold_le_saturated.mp hthreshold), if_neg hthreshold, hsound (by omega)]
      rfl
  unfold recordAuthenticationAttempt
  simp only [if_pos hwithin]
  rw [hblocked]

theorem sound_fresh (now : Int) : (freshDocument c now).Sound c := by
  intro h
  exact if_neg (Nat.not_le_of_lt h)

theorem sound_record (hsound : d.Sound c) :
    (recordAuthenticationAttempt c (some d) now).1.Sound c := by
  by_cases h : now < d.windowStartedAt + c.windowMillis
  · rw [record_within hsound h]
    intro hcount
    refine if_neg fun hle => ?_
    have := threshold_le_saturated.mpr hle
    exact absurd this (Nat.not_le_of_lt hcount)
  · rw [record_over (Int.not_lt.mp h), record_none]
    exact sound_fresh now

theorem cached_none (now : Int) : recordCachedAttempt c none now =
    (⟨1, now + c.ttlMillis⟩, ⟨1, (c.numberedAttempt 1 now).blockedUntil⟩) := rfl

/-- A counter that has expired is gone. -/
theorem cached_expired (h : counter.expiresAt ≤ now) :
    recordCachedAttempt c (some counter) now = recordCachedAttempt c none now := by
  unfold recordCachedAttempt incrementThrottle
  simp only [if_neg (Int.not_lt.mpr h)]

theorem cached_live (h : now < counter.expiresAt) :
    recordCachedAttempt c (some counter) now = (⟨counter.count + 1, now + c.ttlMillis⟩,
      ⟨min (counter.count + 1) u32Max, (c.numberedAttempt (counter.count + 1) now).blockedUntil⟩) := by
  unfold recordCachedAttempt incrementThrottle ThrottleConfig.numberedAttempt
  simp only [if_pos h, threshold_le_saturated]

/-! ## Bursts -/

section Attempts

variable {σ : Type} {record : Option σ → Int → σ × AuthenticationThrottleBucket}

/-- What is stored after some attempts. -/
def afterAttempts (record : Option σ → Int → σ × AuthenticationThrottleBucket) (existing : Option σ) (ts : List Int) :
    Option σ := ts.foldl (fun existing t => some (record existing t).1) existing

theorem map_time_attempts (record : Option σ → Int → σ × AuthenticationThrottleBucket) (existing : Option σ)
    (ts : List Int) : (attempts record existing ts).map (·.time) = ts := by
  induction ts generalizing existing with
  | nil => rfl
  | cons t ts ih => exact congrArg (t :: ·) (ih _)

theorem length_attempts (existing : Option σ) (ts : List Int) : (attempts record existing ts).length = ts.length := by
  rw [← length_map (f := (·.time)), map_time_attempts]

theorem attempts_append (existing : Option σ) (ts ts' : List Int) : attempts record existing (ts ++ ts') =
    attempts record existing ts ++ attempts record (afterAttempts record existing ts) ts' := by
  induction ts generalizing existing with
  | nil => rfl
  | cons t ts ih => exact congrArg (_ :: ·) (ih _)

/-- Attempts that find nothing of the earlier ones are as the first. -/
theorem attempts_eq_fresh {existing : Option σ} {ts : List Int}
    (h : ∀ t ∈ ts.head?, record existing t = record none t) :
    attempts record existing ts = attempts record none ts := by
  cases ts with
  | nil => rfl
  | cons t ts =>
    unfold attempts
    rw [h t rfl]

/-- **Bursts are recorded one by one.** -/
theorem attempts_flatten {ttl : Int}
    (hforgets : ∀ ts t, ts.Pairwise (· ≤ ·) → (∀ last ∈ ts.getLast?, last + ttl ≤ t) →
      record (afterAttempts record none ts) t = record none t)
    {bursts : List (List Int)} (hsorted : bursts.flatten.Pairwise (· ≤ ·))
    (hapart : bursts.IsChain fun b b' => ∃ ha hb, decide (b'.head hb < b.getLast ha + ttl) = false) :
    attempts record none bursts.flatten = (bursts.map (attempts record none)).flatten := by
  induction bursts with
  | nil => rfl
  | cons burst bursts ih =>
    rw [List.flatten_cons] at hsorted ⊢
    rw [attempts_append, List.map_cons, List.flatten_cons]
    have hrest : attempts record (afterAttempts record none burst) bursts.flatten =
        attempts record none bursts.flatten := by
      refine attempts_eq_fresh fun t ht => hforgets burst t (List.pairwise_append.mp hsorted).1 fun last hlast => ?_
      cases bursts with
      | nil => cases ht
      | cons next bursts =>
        obtain ⟨hne, hne', hgap⟩ := (List.isChain_cons_cons.mp hapart).1
        obtain rfl : burst.getLast hne = last := by
          rw [List.getLast?_eq_some_getLast hne] at hlast
          exact Option.some.inj hlast
        obtain rfl : next.head hne' = t := by
          rw [List.flatten_cons, List.head?_append_of_ne_nil _ hne', List.head?_eq_some_head hne'] at ht
          exact Option.some.inj ht
        exact Int.not_lt.mp (of_decide_eq_false hgap)
    rw [hrest, ih (List.pairwise_append.mp hsorted).2.1 hapart.tail]

end Attempts

/-- The document that is stored has a window of the past. -/
theorem afterAttempts_document {last : Int} (hd : d.windowStartedAt ≤ last)
    (hsorted : (last :: ts).Pairwise (· ≤ ·)) :
    ∃ d', afterAttempts (recordAuthenticationAttempt c) (some d) ts = some d' ∧
      d'.windowStartedAt ≤ (last :: ts).getLast (cons_ne_nil last ts) := by
  induction ts generalizing d last with
  | nil => exact ⟨d, rfl, hd⟩
  | cons t ts ih =>
    have hle : last ≤ t := (pairwise_cons.mp hsorted).1 t mem_cons_self
    have hstarted : (recordAuthenticationAttempt c (some d) t).1.windowStartedAt ≤ t := by
      unfold recordAuthenticationAttempt
      simp only
      split
      · exact Int.le_trans hd hle
      · exact Int.le_refl t
    rw [List.getLast_cons (cons_ne_nil t ts)]
    exact ih hstarted (pairwise_cons.mp hsorted).2

theorem afterAttempts_counter {counter : ThrottleCounter} {ts : List Int} {last : Int}
    (hcounter : counter.expiresAt = last + c.ttlMillis) :
    ∃ counter', afterAttempts (recordCachedAttempt c) (some counter) ts = some counter' ∧
      counter'.expiresAt = (last :: ts).getLast (cons_ne_nil last ts) + c.ttlMillis := by
  induction ts generalizing counter last with
  | nil => exact ⟨counter, rfl, hcounter⟩
  | cons t ts ih =>
    have hexpires : (recordCachedAttempt c (some counter) t).1.expiresAt = t + c.ttlMillis := by
      unfold recordCachedAttempt incrementThrottle
      simp only
      split <;> rfl
    rw [List.getLast_cons (cons_ne_nil t ts)]
    exact ih hexpires

/-- The database forgets a burst after the life of a counter, -/
theorem record_forgets (hsorted : ts.Pairwise (· ≤ ·))
    (hgap : ∀ last ∈ ts.getLast?, last + c.ttlMillis ≤ t) :
    recordAuthenticationAttempt c (afterAttempts (recordAuthenticationAttempt c) none ts) t =
      recordAuthenticationAttempt c none t := by
  cases ts with
  | nil => rfl
  | cons first ts =>
    obtain ⟨d, hafter, hstarted⟩ :=
      afterAttempts_document (c := c) (d := freshDocument c first) (Int.le_refl first) hsorted
    have hlast := hgap _ (List.getLast?_eq_some_getLast (cons_ne_nil first ts))
    have hle := c.windowMillis_le_ttlMillis
    show recordAuthenticationAttempt c (afterAttempts _ (some (recordAuthenticationAttempt c none first).1) ts) t = _
    rw [record_none, hafter]
    exact record_over (by omega)

/-- and so does the cache. -/
theorem cached_forgets (hgap : ∀ last ∈ ts.getLast?, last + c.ttlMillis ≤ t) :
    recordCachedAttempt c (afterAttempts (recordCachedAttempt c) none ts) t = recordCachedAttempt c none t := by
  cases ts with
  | nil => rfl
  | cons first ts =>
    obtain ⟨counter, hafter, hexpires⟩ :=
      @afterAttempts_counter c ⟨1, first + c.ttlMillis⟩ ts first rfl
    have hlast := hgap _ (List.getLast?_eq_some_getLast (cons_ne_nil first ts))
    show recordCachedAttempt c (afterAttempts _ (some (recordCachedAttempt c none first).1) ts) t = _
    rw [cached_none, hafter]
    exact cached_expired (by omega)

/-! ## One burst -/

/-- **The cache counts through a burst.** -/
theorem cached_burst (hfirst : ∀ t ∈ ts.head?, t < counter.expiresAt)
    (hburst : ts.IsChain fun t t' => t' < t + c.ttlMillis) :
    attempts (recordCachedAttempt c) (some counter) ts = c.numbered (counter.count + 1) ts := by
  induction ts generalizing counter with
  | nil => rfl
  | cons t ts ih =>
    unfold attempts
    rw [cached_live (hfirst t rfl), ih (fun t' ht' => ?_) hburst.tail]
    · rfl
    · cases ts with
      | nil => cases ht'
      | cons next ts =>
        obtain rfl := Option.some.inj ht'
        exact (List.isChain_cons_cons.mp hburst).1

/-- The database counts through a window. -/
theorem record_window (hsound : d.Sound c)
    (hcount : d.count = min n u32Max) (hwindow : ∀ t ∈ ts, t < d.windowStartedAt + c.windowMillis) :
    attempts (recordAuthenticationAttempt c) (some d) ts = c.numbered (n + 1) ts := by
  induction ts generalizing d n with
  | nil => rfl
  | cons t ts ih =>
    rw [forall_mem_cons] at hwindow
    have hnext : (recordAuthenticationAttempt c (some d) t).1.Sound c := sound_record hsound
    unfold attempts
    rw [record_within hsound hwindow.1] at hnext ⊢
    rw [ih hnext (n := n + 1) (by simp only [hcount]; omega) hwindow.2]
    have hsame : c.numberedAttempt (d.count + 1) t = c.numberedAttempt (n + 1) t := by
      have hiff : c.blockAfterAttempts ≤ d.count + 1 ↔ c.blockAfterAttempts ≤ n + 1 := by
        have := c.isU32
        omega
      unfold ThrottleConfig.numberedAttempt
      simp only [hiff]
    exact congrArg (· :: _) hsame

/-- **The database counts no more than all attempts.** -/
theorem record_le_numbered (hsound : d.Sound c)
    (hcount : d.count ≤ n) :
    List.Forall₂ (fun a a' => a.blockedUntil.isSome = true → a'.blockedUntil.isSome = true)
      (attempts (recordAuthenticationAttempt c) (some d) ts) (c.numbered (n + 1) ts) := by
  have hmono : ∀ {m m' : Nat} {t : Int}, m ≤ m' → (c.numberedAttempt m t).blockedUntil.isSome = true →
      (c.numberedAttempt m' t).blockedUntil.isSome = true := by
    intro m m' t hle h
    unfold ThrottleConfig.numberedAttempt at h ⊢
    by_cases hm : c.blockAfterAttempts ≤ m
    · rw [if_pos (Nat.le_trans hm hle)]
      rfl
    · rw [if_neg hm] at h
      cases h
  induction ts generalizing d n with
  | nil => exact .nil
  | cons t ts ih =>
    have hnext : (recordAuthenticationAttempt c (some d) t).1.Sound c := sound_record hsound
    unfold attempts ThrottleConfig.numbered
    by_cases hwithin : t < d.windowStartedAt + c.windowMillis
    · rw [record_within hsound hwithin] at hnext ⊢
      exact .cons (hmono (by omega)) (ih hnext (by simp only; omega))
    · rw [record_over (Int.not_lt.mp hwithin), record_none] at hnext ⊢
      exact .cons (hmono (by omega)) (ih hnext (show 1 ≤ n + 1 by omega))

theorem numbered_append (n : Nat) (ts ts' : List Int) :
    c.numbered n (ts ++ ts') = c.numbered n ts ++ c.numbered (n + ts.length) ts' := by
  induction ts generalizing n with
  | nil => rfl
  | cons t ts ih =>
    refine congrArg (_ :: ·) ((ih (n + 1)).trans ?_)
    rw [length_cons, Nat.add_right_comm, Nat.add_assoc]
    rfl

theorem length_numbered (n : Nat) (ts : List Int) : (c.numbered n ts).length = ts.length := by
  induction ts generalizing n with
  | nil => rfl
  | cons t ts ih => exact congrArg (· + 1) (ih (n + 1))

theorem getElem_numbered {j : Nat} (h : j < (c.numbered n ts).length) :
    ((c.numbered n ts)[j]).blockedUntil.isSome = decide (c.blockAfterAttempts ≤ n + j) := by
  induction ts generalizing n j with
  | nil => cases h
  | cons t ts ih =>
    cases j with
    | zero =>
      show (c.numberedAttempt n t).blockedUntil.isSome = _
      unfold ThrottleConfig.numberedAttempt
      by_cases hn : c.blockAfterAttempts ≤ n <;> simp [hn]
    | succ j =>
      refine (ih (n := n + 1) (j := j) (Nat.lt_of_succ_lt_succ h)).trans ?_
      rw [Nat.add_right_comm, Nat.add_assoc]

/-- The window of a document stays as long as the attempts are within it. -/
theorem afterAttempts_within (hsound : d.Sound c)
    (hwindow : ∀ t ∈ ts, t < d.windowStartedAt + c.windowMillis) :
    ∃ d', afterAttempts (recordAuthenticationAttempt c) (some d) ts = some d' ∧
      d'.windowStartedAt = d.windowStartedAt := by
  induction ts generalizing d with
  | nil => exact ⟨d, rfl, rfl⟩
  | cons t ts ih =>
    rw [forall_mem_cons] at hwindow
    have hnext : (recordAuthenticationAttempt c (some d) t).1.Sound c := sound_record hsound
    have hstarted : (recordAuthenticationAttempt c (some d) t).1.windowStartedAt = d.windowStartedAt := by
      rw [record_within hsound hwindow.1]
    obtain ⟨d', hafter, hsame⟩ := ih hnext (by rw [hstarted]; exact hwindow.2)
    exact ⟨d', hafter, hsame.trans hstarted⟩

/-- Where both counts start anew, the database counts no more than all attempts. -/
theorem record_fresh_le_numbered (ts : List Int) :
    List.Forall₂ (fun a a' => a.blockedUntil.isSome = true → a'.blockedUntil.isSome = true)
      (attempts (recordAuthenticationAttempt c) none ts) (c.numbered 1 ts) := by
  cases ts with
  | nil => exact .nil
  | cons t ts =>
    unfold attempts ThrottleConfig.numbered
    rw [record_none]
    exact .cons id (record_le_numbered (sound_fresh t) (Nat.le_refl 1))

/-- Where the first attempt is blocked, every attempt is. -/
theorem record_blocks_all (h : c.blockAfterAttempts ≤ 1) (ts : List Int) :
    ∀ a ∈ attempts (recordAuthenticationAttempt c) none ts, a.blockedUntil.isSome = true := by
  have hblocked : ∀ {n : Nat} (t : Int), (c.numberedAttempt (n + 1) t).blockedUntil.isSome = true := by
    intro n t
    unfold ThrottleConfig.numberedAttempt
    rw [if_pos (show c.blockAfterAttempts ≤ n + 1 by omega)]
    rfl
  have hrest : ∀ (d : ThrottleDocument), d.Sound c →
      ∀ a ∈ attempts (recordAuthenticationAttempt c) (some d) ts, a.blockedUntil.isSome = true := by
    induction ts with
    | nil => exact nofun
    | cons t ts ih =>
      intro d hsound
      have hnext : (recordAuthenticationAttempt c (some d) t).1.Sound c := sound_record hsound
      refine forall_mem_cons.mpr ⟨?_, ih _ hnext⟩
      by_cases hwithin : t < d.windowStartedAt + c.windowMillis
      · rw [record_within hsound hwithin]
        exact hblocked t
      · rw [record_over (Int.not_lt.mp hwithin), record_none]
        exact hblocked t
  cases ts with
  | nil => exact nofun
  | cons t ts =>
    intro a ha
    have hover : recordAuthenticationAttempt c (some (freshDocument c (t - c.windowMillis))) t =
        recordAuthenticationAttempt c none t := record_over (by show t - c.windowMillis + c.windowMillis ≤ t; omega)
    refine hrest (freshDocument c (t - c.windowMillis)) (sound_fresh _) a ?_
    unfold attempts at ha ⊢
    rwa [hover]

/-- On a burst that is long enough and has an attempt outside the first one's window, the counts come apart. -/
theorem disagree_on_burst {first : Int} {within rest : List Int}
    (hthreshold : 1 < c.blockAfterAttempts) (hlong : c.blockAfterAttempts ≤ (first :: (within ++ t :: rest)).length)
    (hwithin : ∀ t ∈ within, t < first + c.windowMillis) (hover : first + c.windowMillis ≤ t) :
    (attempts (recordAuthenticationAttempt c) none (first :: (within ++ t :: rest))).map (·.blockedUntil.isSome) ≠
      (c.numbered 1 (first :: (within ++ t :: rest))).map (·.blockedUntil.isSome) := by
  obtain ⟨d, hafter, hstarted⟩ := afterAttempts_within (c := c) (sound_fresh first) hwithin
  have hforgotten : recordAuthenticationAttempt c (some d) t = recordAuthenticationAttempt c none t := by
    refine record_over ?_
    rw [hstarted]
    exact hover
  have hrecorded : attempts (recordAuthenticationAttempt c) none (first :: (within ++ t :: rest)) =
      attempts (recordAuthenticationAttempt c) none (first :: within) ++
        attempts (recordAuthenticationAttempt c) none (t :: rest) := by
    rw [← List.cons_append, attempts_append, List.append_cancel_left_eq]
    show attempts _ (afterAttempts _ (some (recordAuthenticationAttempt c none first).1) within) _ = _
    rw [record_none, hafter]
    exact attempts_eq_fresh fun t' ht' => Option.some.inj ht' ▸ hforgotten
  intro hagree
  rw [hrecorded, ← List.cons_append, numbered_append, List.map_append, List.map_append] at hagree
  have hrest := (List.append_inj hagree (by simp [length_attempts, length_numbered])).2
  have hlength : (first :: (within ++ t :: rest)).length = within.length + 2 + rest.length := by
    simp only [length_cons, List.length_append]
    omega
  -- The attempt of this number is the threshold's for the cache, and not for the database.
  obtain ⟨j, hj, hcount, hfew⟩ : ∃ j < (t :: rest).length, c.blockAfterAttempts ≤ within.length + 2 + j ∧
      1 + j < c.blockAfterAttempts :=
    ⟨c.blockAfterAttempts - (within.length + 2), by rw [length_cons]; omega, by omega, by omega⟩
  have hj₁ : j < (attempts (recordAuthenticationAttempt c) none (t :: rest)).length := by rwa [length_attempts]
  have hj₂ : j < (c.numbered (1 + (first :: within).length) (t :: rest)).length := by rwa [length_numbered]
  have hj₃ : j < (c.numbered 1 (t :: rest)).length := by rwa [length_numbered]
  have hsame := List.getElem_of_eq hrest (i := j) (by rwa [length_map])
  rw [getElem_map, getElem_map, getElem_numbered, decide_eq_true (by rw [length_cons]; omega)] at hsame
  obtain ⟨-, hall⟩ := List.forall₂_iff_get.mp (record_fresh_le_numbered (c := c) (t :: rest))
  have hblocked : c.blockAfterAttempts ≤ 1 + j := by
    have h := hall j hj₁ hj₃ hsame
    rwa [List.get_eq_getElem, getElem_numbered, decide_eq_true_eq] at h
  omega

/-- **The two agree on a burst** exactly if it is too short to be blocked, or falls into one window. -/
theorem agree_on_burst_iff {burst : List Int} (hsorted : burst.Pairwise (· ≤ ·))
    (hburst : burst.IsChain fun t t' => t' < t + c.ttlMillis) :
    (attempts (recordAuthenticationAttempt c) none burst).map (·.blockedUntil.isSome) =
        (attempts (recordCachedAttempt c) none burst).map (·.blockedUntil.isSome) ↔
      c.blockAfterAttempts ≤ 1 ∨ burst.length < c.blockAfterAttempts ∨
        ∀ first ∈ burst.head?, ∀ t ∈ burst, t < first + c.windowMillis := by
  cases burst with
  | nil => simp [attempts]
  | cons first ts =>
    have hcached : attempts (recordCachedAttempt c) none (first :: ts) = c.numbered 1 (first :: ts) := by
      unfold attempts ThrottleConfig.numbered
      have hrest : ∀ t ∈ ts.head?, t < first + c.ttlMillis := by
        intro t ht
        cases ts with
        | nil => cases ht
        | cons next ts =>
          obtain rfl := Option.some.inj ht
          exact (List.isChain_cons_cons.mp hburst).1
      have hcounted : attempts (recordCachedAttempt c) (some ⟨1, first + c.ttlMillis⟩) ts = c.numbered 2 ts :=
        cached_burst hrest hburst.tail
      rw [cached_none]
      exact congrArg (_ :: ·) hcounted
    rw [hcached]
    constructor
    · intro hagree
      by_contra hnot
      simp only [not_or, Nat.not_le, Nat.not_lt] at hnot
      obtain ⟨hthreshold, hlong, hwindow⟩ := hnot
      -- Some attempt after the first is outside its window.
      have hover : ∃ t ∈ ts, first + c.windowMillis ≤ t := by
        by_contra hall
        have hrest : ∀ t ∈ ts, t < first + c.windowMillis :=
          fun t ht => Int.not_le.mp fun hle => hall ⟨t, ht, hle⟩
        refine hwindow fun first' hfirst' => ?_
        obtain rfl := Option.some.inj hfirst'
        refine forall_mem_cons.mpr ⟨?_, hrest⟩
        cases ts with
        | nil =>
          rw [List.length_singleton] at hlong
          omega
        | cons next ts =>
          have hnext := hrest next mem_cons_self
          have hle := (pairwise_cons.mp hsorted).1 next mem_cons_self
          omega
      obtain ⟨t₀, ht₀, hover₀⟩ := hover
      obtain ⟨t, hfound⟩ := Option.isSome_iff_exists.mp (List.find?_isSome
        (p := fun t => first + c.windowMillis ≤ t) |>.mpr ⟨t₀, ht₀, decide_eq_true hover₀⟩)
      obtain ⟨hover, within, rest, rfl, hwithin⟩ := List.find?_eq_some_iff_append.mp hfound
      refine disagree_on_burst hthreshold hlong (fun t ht => ?_) (of_decide_eq_true hover) hagree
      have hin := hwithin t ht
      rw [Bool.not_eq_true', decide_eq_false_iff_not] at hin
      exact Int.not_le.mp hin
    · rintro (hone | hshort | hwindow)
      · refine List.ext_getElem (by simp [length_attempts, length_numbered]) fun j h _ => ?_
        rw [length_map] at h
        rw [getElem_map, getElem_map, getElem_numbered,
          record_blocks_all hone _ _ (List.getElem_mem h)]
        exact (decide_eq_true (by omega)).symm
      · obtain ⟨hlength, hall⟩ := List.forall₂_iff_get.mp (record_fresh_le_numbered (c := c) (first :: ts))
        refine List.ext_getElem (by simp [length_attempts, length_numbered]) fun j h h' => ?_
        rw [length_map] at h h'
        have hle : (attempts (recordAuthenticationAttempt c) none (first :: ts))[j].blockedUntil.isSome = true →
            c.blockAfterAttempts ≤ 1 + j := by
          intro hblocked
          have hnumbered := hall j h h' hblocked
          rwa [List.get_eq_getElem, getElem_numbered, decide_eq_true_eq] at hnumbered
        rw [length_numbered] at h'
        rw [getElem_map, getElem_map, getElem_numbered, decide_eq_false (by omega)]
        refine Bool.eq_false_iff.mpr fun hblocked => ?_
        have := hle hblocked
        omega
      · have hfirst := hwindow first rfl
        rw [forall_mem_cons] at hfirst
        have hrecord := record_window (sound_fresh (c := c) first) (n := 1) (by simp [freshDocument, u32Max]) hfirst.2
        unfold attempts ThrottleConfig.numbered
        rw [record_none, hrecord]
        rfl

/-! ## All attempts -/

/-- A block that the cache is in lasts. -/
theorem cached_blocked {last b : Int}
    (hcounter : counter.expiresAt = last + c.ttlMillis) (hcount : c.blockAfterAttempts ≤ counter.count)
    (hb : b ≤ counter.expiresAt) (hsorted : (last :: ts).Pairwise (· ≤ ·)) :
    ∀ a ∈ attempts (recordCachedAttempt c) (some counter) ts, a.time < b → a.blockedUntil.isSome = true := by
  induction ts generalizing counter last with
  | nil => exact nofun
  | cons t ts ih =>
    obtain ⟨hle, hrest⟩ := pairwise_cons.mp hsorted
    have hlast := hle t mem_cons_self
    by_cases ht : t < b
    · have hlive : t < counter.expiresAt := by omega
      unfold attempts
      rw [cached_live hlive]
      have hnext : (⟨counter.count + 1, t + c.ttlMillis⟩ : ThrottleCounter).expiresAt = t + c.ttlMillis := rfl
      refine forall_mem_cons.mpr ⟨fun _ => ?_, ih hnext ?_ ?_ hrest⟩
      · unfold ThrottleConfig.numberedAttempt
        rw [if_pos (Nat.le_succ_of_le hcount)]
        rfl
      · exact Nat.le_succ_of_le hcount
      · show b ≤ t + c.ttlMillis
        omega
    · -- The attempts that come now are too late for the block.
      intro a ha hearly
      have htime : a.time ∈ t :: ts := by
        rw [← map_time_attempts (recordCachedAttempt c) (some counter) (t :: ts)]
        exact List.mem_map_of_mem ha
      rcases List.mem_cons.mp htime with htime | htime
      · omega
      · have := (pairwise_cons.mp hrest).1 a.time htime
        omega

/-- **In the cache a block lasts as long as it says.** -/
theorem cached_blocksLast {existing : Option ThrottleCounter} (hsorted : ts.Pairwise (· ≤ ·)) :
    BlocksLast (attempts (recordCachedAttempt c) existing ts) := by
  induction ts generalizing existing with
  | nil => exact .nil
  | cons t ts ih =>
    unfold attempts
    refine pairwise_cons.mpr ⟨fun a ha b hb hearly => ?_, ih (pairwise_cons.mp hsorted).2⟩
    have hcount : c.blockAfterAttempts ≤ (recordCachedAttempt c existing t).1.count ∧ b = t + c.blockMillis := by
      unfold recordCachedAttempt at hb ⊢
      simp only at hb ⊢
      split at hb
      · next hle => exact ⟨threshold_le_saturated.mp hle, (Option.some.inj hb).symm⟩
      · cases hb
    have hexpires : (recordCachedAttempt c existing t).1.expiresAt = t + c.ttlMillis := by
      unfold recordCachedAttempt incrementThrottle
      cases existing with
      | none => rfl
      | some counter =>
        simp only
        split <;> rfl
    have hle := c.blockMillis_le_ttlMillis
    exact cached_blocked hexpires hcount.1 (by omega) hsorted a ha hearly

theorem length_filter_snoc {α : Type} {p : α → Bool} {xs : List α} {x : α} (h : p x = true) :
    ((xs ++ [x]).filter p).length = (xs.filter p).length + 1 := by
  rw [List.filter_append, List.length_append, List.filter_cons_of_pos h]
  rfl

/-- **What the database knows of the past**: a window of attempts, none of which is left out of it. -/
def Counted (c : ThrottleConfig) (past : List Attempt) (now : Int) (existing : Option ThrottleDocument) : Prop :=
  ∀ d ∈ existing, d.Sound c ∧ d.windowStartedAt ≤ now ∧
    d.count ≤ (past.filter fun x => d.windowStartedAt ≤ x.time).length

/-- One more attempt is counted, and passes when it is below the threshold. -/
theorem Counted.record {past : List Attempt}
    (h : Counted c past t existing) :
    ((past.filter fun x => t - c.windowMillis < x.time).length + 1 < c.blockAfterAttempts →
      (recordAuthenticationAttempt c existing t).2.blockedUntil = none) ∧
    Counted c (past ++ [⟨t, (recordAuthenticationAttempt c existing t).2.blockedUntil⟩]) t
      (some (recordAuthenticationAttempt c existing t).1) := by
  have hfresh : ((past.filter fun x => t - c.windowMillis < x.time).length + 1 < c.blockAfterAttempts →
        (recordAuthenticationAttempt c none t).2.blockedUntil = none) ∧
      Counted c (past ++ [⟨t, (recordAuthenticationAttempt c none t).2.blockedUntil⟩]) t
        (some (recordAuthenticationAttempt c none t).1) := by
    rw [record_none]
    refine ⟨fun hbelow => if_neg (by omega), fun d hd => ?_⟩
    obtain rfl := Option.some.inj hd
    refine ⟨sound_fresh t, Int.le_refl t, ?_⟩
    rw [length_filter_snoc]
    · exact Nat.le_add_left 1 _
    · exact decide_eq_true (Int.le_refl t)
  cases existing with
  | none => exact hfresh
  | some d =>
    obtain ⟨hsound, hstarted, hcount⟩ := h d rfl
    by_cases hwithin : t < d.windowStartedAt + c.windowMillis
    · have hnext : (recordAuthenticationAttempt c (some d) t).1.Sound c := sound_record hsound
      rw [record_within hsound hwithin] at hnext ⊢
      constructor
      · intro hbelow
        have hmono : (past.filter fun x => d.windowStartedAt ≤ x.time).length ≤
            (past.filter fun x => t - c.windowMillis < x.time).length := by
          refine List.Sublist.length_le (List.monotone_filter_right _ fun x hx => ?_)
          rw [decide_eq_true_eq] at hx ⊢
          omega
        exact if_neg (by omega)
      · intro d' hd'
        obtain rfl := Option.some.inj hd'
        refine ⟨hnext, hstarted, ?_⟩
        rw [length_filter_snoc]
        · simp only
          omega
        · exact decide_eq_true hstarted
    · rw [record_over (Int.not_lt.mp hwithin)]
      exact hfresh

/-- **In the database an attempt passes below the threshold.** -/
theorem authoritative_passes {past : List Attempt}
    (hsorted : ts.Pairwise (· ≤ ·)) (hcounted : ∀ t ∈ ts, Counted c past t existing) :
    ∀ earlier a later, attempts (recordAuthenticationAttempt c) existing ts = earlier ++ a :: later →
      ((past ++ earlier).filter fun x => a.time - c.windowMillis < x.time).length + 1 < c.blockAfterAttempts →
      a.blockedUntil = none := by
  induction ts generalizing past existing with
  | nil => exact fun earlier a later h => absurd h.symm (by simp [attempts])
  | cons t ts ih =>
    obtain ⟨hle, hrest⟩ := pairwise_cons.mp hsorted
    obtain ⟨hpasses, hnext⟩ := (hcounted t mem_cons_self).record
    intro earlier a later hattempts hbelow
    unfold attempts at hattempts
    cases earlier with
    | nil =>
      obtain ⟨rfl, -⟩ := List.cons.inj hattempts
      rw [List.append_nil] at hbelow
      exact hpasses hbelow
    | cons x earlier =>
      rw [List.cons_append, List.cons.injEq] at hattempts
      obtain ⟨rfl, hlater⟩ := hattempts
      have hkept : ∀ t' ∈ ts, Counted c
          (past ++ [⟨t, (recordAuthenticationAttempt c existing t).2.blockedUntil⟩]) t'
          (some (recordAuthenticationAttempt c existing t).1) := by
        intro t' ht' d hd
        obtain ⟨hsound, hstarted, hcount⟩ := hnext d hd
        exact ⟨hsound, Int.le_trans hstarted (hle t' ht'), hcount⟩
      refine ih hrest hkept earlier a later hlater ?_
      rwa [List.append_assoc, List.singleton_append]

/-- Every block is reported from the attempt on. -/
def Regular (c : ThrottleConfig) (a : Attempt) : Prop :=
  a.blockedUntil = none ∨ a.blockedUntil = some (a.time + c.blockMillis)

theorem regular_numbered (n : Nat) (t : Int) : Regular c (c.numberedAttempt n t) := by
  unfold Regular ThrottleConfig.numberedAttempt
  split
  · exact .inr rfl
  · exact .inl rfl

theorem record_regular (hsound : ∀ d ∈ existing, d.Sound c) (ts : List Int) :
    ∀ a ∈ attempts (recordAuthenticationAttempt c) existing ts, Regular c a := by
  induction ts generalizing existing with
  | nil => exact nofun
  | cons t ts ih =>
    have hfresh : Regular c ⟨t, (recordAuthenticationAttempt c none t).2.blockedUntil⟩ := by
      rw [record_none]
      exact regular_numbered 1 t
    refine forall_mem_cons.mpr ⟨?_, ih fun d hd => ?_⟩
    · cases existing with
      | none => exact hfresh
      | some d =>
        by_cases hwithin : t < d.windowStartedAt + c.windowMillis
        · rw [record_within (hsound d rfl) hwithin]
          exact regular_numbered _ t
        · rw [record_over (Int.not_lt.mp hwithin)]
          exact hfresh
    · obtain rfl := Option.some.inj hd
      cases existing with
      | none =>
        rw [record_none]
        exact sound_fresh t
      | some d => exact sound_record (hsound d rfl)

theorem cached_regular (existing : Option ThrottleCounter) (ts : List Int) :
    ∀ a ∈ attempts (recordCachedAttempt c) existing ts, Regular c a := by
  induction ts generalizing existing with
  | nil => exact nofun
  | cons t ts ih =>
    refine forall_mem_cons.mpr ⟨?_, ih _⟩
    show Regular c ⟨t, if c.blockAfterAttempts ≤ _ then some (t + c.blockMillis) else none⟩
    split
    · exact .inr rfl
    · exact .inl rfl

/-- Attempts that agree on who is blocked agree on until when. -/
theorem attempts_eq_of_agree {as as' : List Attempt} (htimes : as.map (·.time) = as'.map (·.time))
    (hagree : as.map (·.blockedUntil.isSome) = as'.map (·.blockedUntil.isSome)) (has : ∀ a ∈ as, Regular c a)
    (has' : ∀ a ∈ as', Regular c a) : as = as' := by
  induction as generalizing as' with
  | nil => exact (List.map_eq_nil_iff.mp htimes.symm).symm
  | cons a as ih =>
    cases as' with
    | nil => cases htimes
    | cons a' as' =>
      rw [forall_mem_cons] at has has'
      obtain ⟨htime, htimes⟩ := List.cons.inj htimes
      obtain ⟨hsome, hagree⟩ := List.cons.inj hagree
      have hsame : a = a' := by
        obtain ⟨t, b⟩ := a
        obtain ⟨t', b'⟩ := a'
        obtain rfl : t = t' := htime
        have hb : b = none ∨ b = some (t + c.blockMillis) := has.1
        have hb' : b' = none ∨ b' = some (t + c.blockMillis) := has'.1
        rcases hb with rfl | rfl <;> rcases hb' with rfl | rfl <;> first | rfl | cases hsome
      rw [hsame, ih htimes hagree has.2 has'.2]

/-- **The two agree** exactly if every burst fits. -/
theorem agree_iff (hsorted : ts.Pairwise (· ≤ ·)) :
    (attempts (recordAuthenticationAttempt c) none ts).map (·.blockedUntil.isSome) =
      (attempts (recordCachedAttempt c) none ts).map (·.blockedUntil.isSome) ↔ BurstsFit c ts := by
  have hflat : (ts.splitBy fun t t' => t' < t + c.ttlMillis).flatten = ts := List.flatten_splitBy _ _
  have hapart := List.isChain_getLast_head_splitBy (fun t t' : Int => decide (t' < t + c.ttlMillis)) ts
  have hbursts : ∀ burst ∈ ts.splitBy fun t t' => t' < t + c.ttlMillis, burst.Pairwise (· ≤ ·) ∧
      burst.IsChain fun t t' => t' < t + c.ttlMillis := by
    intro burst hburst
    constructor
    · refine hsorted.sublist ?_
      rw [← hflat]
      exact List.sublist_flatten_of_mem hburst
    · exact (List.isChain_of_mem_splitBy hburst).imp fun _ _ h => of_decide_eq_true h
  have hsplit : ∀ {σ : Type} (record : Option σ → Int → σ × AuthenticationThrottleBucket),
      (∀ ts t, ts.Pairwise (· ≤ ·) → (∀ last ∈ ts.getLast?, last + c.ttlMillis ≤ t) →
        record (afterAttempts record none ts) t = record none t) →
      (attempts record none ts).map (·.blockedUntil.isSome) =
        ((ts.splitBy fun t t' => t' < t + c.ttlMillis).map fun burst =>
          (attempts record none burst).map (·.blockedUntil.isSome)).flatten := by
    intro σ record hforgets
    have hrecorded := attempts_flatten hforgets (by rw [hflat]; exact hsorted) hapart
    rw [hflat] at hrecorded
    rw [hrecorded, List.map_flatten, map_map]
    rfl
  rw [hsplit (recordAuthenticationAttempt c) fun ts t hsorted hgap => record_forgets hsorted hgap,
    hsplit (recordCachedAttempt c) fun ts t _ hgap => cached_forgets hgap]
  have hlengths : ((ts.splitBy fun t t' => t' < t + c.ttlMillis).map fun burst =>
        (attempts (recordAuthenticationAttempt c) none burst).map (·.blockedUntil.isSome)).map List.length =
      ((ts.splitBy fun t t' => t' < t + c.ttlMillis).map fun burst =>
        (attempts (recordCachedAttempt c) none burst).map (·.blockedUntil.isSome)).map List.length := by
    rw [map_map, map_map]
    refine List.map_congr_left fun burst _ => ?_
    simp only [Function.comp_apply, length_map, length_attempts]
  rw [← (List.eq_iff_flatten_eq.trans (and_iff_left hlengths)), List.map_inj_left]
  unfold BurstsFit
  constructor
  · intro hagree
    refine or_iff_not_imp_left.mpr fun hone burst hburst => ?_
    obtain ⟨hsorted, hchain⟩ := hbursts burst hburst
    exact ((agree_on_burst_iff hsorted hchain).mp (hagree burst hburst)).resolve_left hone
  · intro hfits burst hburst
    obtain ⟨hsorted, hchain⟩ := hbursts burst hburst
    refine (agree_on_burst_iff hsorted hchain).mpr (hfits.imp_right fun hall => ?_)
    exact hall burst hburst

/-- **Throttling holds and its two implementations agree exactly if every burst of attempts is too short to be
    blocked, or falls into one window.** -/
theorem throttling_holds_iff {ts : List Int} (hsorted : ts.Pairwise (· ≤ ·)) :
    ThrottlingHolds c ts ↔ BurstsFit c ts := by
  constructor
  · exact fun h => (agree_iff hsorted).mp h.agree
  · intro hfits
    have hagree := (agree_iff hsorted).mpr hfits
    have hsame : attempts (recordAuthenticationAttempt c) none ts = attempts (recordCachedAttempt c) none ts :=
      attempts_eq_of_agree (by rw [map_time_attempts, map_time_attempts]) hagree
        (record_regular (fun _ hd => by cases hd) ts) (cached_regular none ts)
    have hlasts : BlocksLast (attempts (recordCachedAttempt c) none ts) := cached_blocksLast hsorted
    have hpasses : BelowThresholdPasses c (attempts (recordAuthenticationAttempt c) none ts) := by
      intro earlier a later hattempts hbelow _
      rw [← List.nil_append earlier] at hbelow
      exact authoritative_passes hsorted (fun _ _ _ hd => by cases hd) earlier a later hattempts hbelow
    exact ⟨by rwa [hsame], hlasts, hpasses, by rwa [← hsame], hagree⟩

/-! ## A block that is forgotten -/

/-- The throttling of the default configuration. -/
def defaultThrottle : ThrottleConfig := ⟨300, 5, 60, by decide⟩

/-- Five attempts, the last within a second of the window's end, and one two seconds after it. -/
def lateAttempts : List Int := [0, 280000, 290000, 295000, 299000, 301000]

/-- **The block that the fifth attempt sets is forgotten two seconds later**, with a minute to go. -/
theorem block_forgotten : ¬ ∀ (c : ThrottleConfig) (ts : List Int), ts.Pairwise (· ≤ ·) → ThrottlingHolds c ts := by
  intro hclaim
  have hlasts := (hclaim defaultThrottle lateAttempts (by decide)).authoritative_lasts
  have hrecorded : [⟨299000, some 359000⟩, ⟨301000, none⟩].Sublist
      (attempts (recordAuthenticationAttempt defaultThrottle) none lateAttempts) := by decide
  have hlast := List.pairwise_pair.mp (hlasts.sublist hrecorded) 359000 rfl (by decide)
  cases hlast

theorem throttling_holds_iff_twice : ThrottlingHolds defaultThrottle [0, 280000] :=
  (throttling_holds_iff (by decide)).mpr (.inr (by decide))

end ManchesterArcana.Persistence
