import ManchesterArcana.Hero.Progression

/-!
# `Hero.Synchronization` — what an encounter leaves of a hero when it is refused

The counters of an encounter are written into the hero's pools one by one, and each is checked just before. A counter
that is refused comes too late for those in front of it, and so does the revision that cannot be increased: the hero
keeps what was written (`duplicatePool_written`). `synchronize_allOrNothing_iff` says for which updates this shows.
-/

namespace ManchesterArcana.Hero

open Effect HeroCharacter
open Attempt (ends_lift_bind ends_ok_bind ends_reading_bind ends_writing_bind)

/-! ## The law -/

/-- The pools differ in their counters only. -/
def SameButCurrent (pools pools' : List ResourcePool) : Prop :=
  List.Forall₂ (fun pool pool' : ResourcePool => pool' = { pool with current := pool'.current }) pools pools'

/-- The heroes differ in hit points, counters and revision only. -/
structure HeroCharacter.SameButRuntime (h h' : HeroCharacter) : Prop where
  hero : h' = { h with
    revision := h'.revision
    sheet := { h.sheet with currentHitPoints := h'.sheet.currentHitPoints, resources := h'.sheet.resources } }
  pools : SameButCurrent h.sheet.resources h'.sheet.resources

/-- **All or nothing**: the update is taken over, with a valid hero, or the hero is left as it was. -/
def HeroCharacter.TakesAllOrNothing (h : HeroCharacter) (currentHitPoints : Nat)
    (resourceCurrents : List (ResourceKind × Nat)) : Prop :=
  Attempt.Ends (synchronizeEncounterRuntime currentHitPoints resourceCurrents) h
    (fun _ h' => h'.validate = .ok () ∧ h.SameButRuntime h') fun h' => h' = h

/-! ## Updates that are refused -/

/-- The counter is of a pool that has not come yet, and the pool can hold it. -/
def accepts (pools : List ResourcePool) (seen : List ResourceKind) (entry : ResourceKind × Nat) : Bool :=
  entry.1 ∉ seen && (pools.find? (·.resource = entry.1)).any fun pool => entry.2 ≤ pool.maximum

def acceptsAll (pools : List ResourcePool) : List ResourceKind → List (ResourceKind × Nat) → Bool
  | _, [] => true
  | seen, entry :: rest => accepts pools seen entry && acceptsAll pools (entry.1 :: seen) rest

/-- The counters in front of the first that is refused are those that the pools hold already. -/
def repeatsAccepted (pools : List ResourcePool) : List ResourceKind → List (ResourceKind × Nat) → Bool
  | _, [] => true
  | seen, entry :: rest =>
    !accepts pools seen entry || ((pools.find? (·.resource = entry.1)).any (·.current = entry.2) &&
      repeatsAccepted pools (entry.1 :: seen) rest)

/-- **A refusal shows nothing.** The update is refused before anything is written, or taken over, or what is written
    when it is refused was there before. -/
def HeroCharacter.ShowsNothing (h : HeroCharacter) (currentHitPoints : Nat)
    (resourceCurrents : List (ResourceKind × Nat)) : Prop :=
  h.sheet.maximumHitPoints < currentHitPoints ∨ resourceCurrents.length ≠ h.sheet.resources.length ∨
    (acceptsAll h.sheet.resources [] resourceCurrents = true ∧ h.revision < maxRevision) ∨
    (repeatsAccepted h.sheet.resources [] resourceCurrents = true ∧
      (acceptsAll h.sheet.resources [] resourceCurrents = true → currentHitPoints = h.sheet.currentHitPoints))

/-! ## The loop -/

/-- The pools, with the counters in front of the first that is refused. -/
def written (pools : List ResourcePool) : List ResourceKind → List (ResourceKind × Nat) → List ResourcePool
  | _, [] => pools
  | seen, entry :: rest =>
    if accepts pools seen entry then written (setCurrent entry.1 entry.2 pools) (entry.1 :: seen) rest else pools

section Pools

variable {pools : List ResourcePool} {kind kind' : ResourceKind} {current : Nat} {seen : List ResourceKind}
  {entries : List (ResourceKind × Nat)}

/-- Setting a counter changes the pool of its kind. -/
theorem find?_setCurrent : (setCurrent kind current pools).find? (·.resource = kind') =
    (pools.find? (·.resource = kind')).map fun pool => if kind' = kind then { pool with current } else pool := by
  induction pools with
  | nil => rfl
  | cons pool pools ih =>
    unfold setCurrent
    by_cases hkind : pool.resource = kind
    · rw [if_pos hkind]
      by_cases hkind' : pool.resource = kind'
      · rw [List.find?_cons_of_pos (by simpa using hkind'), List.find?_cons_of_pos (by simpa using hkind'),
          Option.map_some, if_pos (hkind'.symm.trans hkind)]
      · rw [List.find?_cons_of_neg (by simpa using hkind'), List.find?_cons_of_neg (by simpa using hkind')]
        have hne : kind' ≠ kind := fun heq => hkind' (hkind.trans heq.symm)
        simp only [if_neg hne, Option.map_id']
    · rw [if_neg hkind]
      by_cases hkind' : pool.resource = kind'
      · have hne : kind' ≠ kind := fun heq => hkind (hkind'.trans heq)
        rw [List.find?_cons_of_pos (by simpa using hkind'), List.find?_cons_of_pos (by simpa using hkind'),
          Option.map_some, if_neg hne]
      · rw [List.find?_cons_of_neg (by simpa using hkind'), List.find?_cons_of_neg (by simpa using hkind')]
        exact ih

/-- A counter that the pool holds already changes nothing. -/
theorem setCurrent_self {pool : ResourcePool} (hfind : pools.find? (·.resource = kind) = some pool)
    (hcurrent : pool.current = current) : setCurrent kind current pools = pools := by
  induction pools with
  | nil => rfl
  | cons p pools ih =>
    unfold setCurrent
    by_cases hkind : p.resource = kind
    · rw [List.find?_cons_of_pos (by simpa using hkind)] at hfind
      obtain rfl := Option.some.inj hfind
      rw [if_pos hkind, ← hcurrent]
    · rw [List.find?_cons_of_neg (by simpa using hkind)] at hfind
      rw [if_neg hkind, ih hfind]

theorem accepts_setCurrent (entry : ResourceKind × Nat) :
    accepts (setCurrent kind current pools) seen entry = accepts pools seen entry := by
  unfold accepts
  rw [find?_setCurrent, Option.any_map]
  congr 2
  funext pool
  show decide (entry.2 ≤ ResourcePool.maximum (if entry.1 = kind then _ else pool)) = _
  split <;> rfl

theorem acceptsAll_setCurrent :
    acceptsAll (setCurrent kind current pools) seen entries = acceptsAll pools seen entries := by
  induction entries generalizing seen with
  | nil => rfl
  | cons entry rest ih =>
    unfold acceptsAll
    rw [accepts_setCurrent, ih]

theorem accepts_eq_true {entry : ResourceKind × Nat} : accepts pools seen entry = true ↔
    entry.1 ∉ seen ∧ ∃ pool, pools.find? (·.resource = entry.1) = some pool ∧ entry.2 ≤ pool.maximum := by
  unfold accepts
  rw [Bool.and_eq_true, decide_eq_true_eq, Option.any_eq_true]
  simp only [decide_eq_true_eq]

/-- A pool whose kind has come is written no more. -/
theorem find?_written (hseen : kind ∈ seen) :
    (written pools seen entries).find? (·.resource = kind) = pools.find? (·.resource = kind) := by
  induction entries generalizing pools seen with
  | nil => rfl
  | cons entry rest ih =>
    unfold written
    split
    · next haccepts =>
      have hne : kind ≠ entry.1 := fun heq => (accepts_eq_true.mp haccepts).1 (heq ▸ hseen)
      rw [ih (List.mem_cons_of_mem _ hseen), find?_setCurrent]
      simp only [if_neg hne, Option.map_id']
    · rfl

/-- **Nothing has changed where the counters repeat what was there**, and only there: a counter that was written stays. -/
theorem written_eq_self_iff : written pools seen entries = pools ↔ repeatsAccepted pools seen entries = true := by
  induction entries generalizing pools seen with
  | nil => exact iff_of_true rfl rfl
  | cons entry rest ih =>
    unfold written repeatsAccepted
    by_cases haccepts : accepts pools seen entry = true
    · obtain ⟨-, pool, hfind, -⟩ := accepts_eq_true.mp haccepts
      rw [if_pos haccepts, haccepts, hfind, Bool.not_true, Bool.false_or, Option.any_some, Bool.and_eq_true,
        decide_eq_true_eq]
      constructor
      · intro heq
        have hstays : (written (setCurrent entry.1 entry.2 pools) (entry.1 :: seen) rest).find?
            (·.resource = entry.1) = some { pool with current := entry.2 } := by
          rw [find?_written List.mem_cons_self, find?_setCurrent, hfind, Option.map_some, if_pos rfl]
        rw [heq, hfind] at hstays
        have hcurrent : pool.current = entry.2 := congrArg ResourcePool.current (Option.some.inj hstays)
        rw [setCurrent_self hfind hcurrent] at heq
        exact ⟨hcurrent, ih.mp heq⟩
      · rintro ⟨hcurrent, hrest⟩
        rw [setCurrent_self hfind hcurrent]
        exact ih.mpr hrest
    · rw [if_neg haccepts]
      rw [Bool.not_eq_true] at haccepts
      rw [haccepts]
      exact iff_of_true rfl rfl

theorem SameButCurrent.refl (pools : List ResourcePool) : SameButCurrent pools pools :=
  List.forall₂_same.mpr fun _ _ => rfl

theorem SameButCurrent.trans {pools pools' pools'' : List ResourcePool} (h : SameButCurrent pools pools')
    (h' : SameButCurrent pools' pools'') : SameButCurrent pools pools'' := by
  induction h generalizing pools'' with
  | nil =>
    cases h'
    exact .nil
  | @cons pool pool' pools pools' hpool hpools ih =>
    obtain ⟨pool'', rest, hpool', hrest, rfl⟩ := List.forall₂_cons_left_iff.mp h'
    refine .cons ?_ (ih hrest)
    rw [hpool', hpool]

theorem sameButCurrent_setCurrent (kind : ResourceKind) (current : Nat) (pools : List ResourcePool) :
    SameButCurrent pools (setCurrent kind current pools) := by
  induction pools with
  | nil => exact .nil
  | cons pool pools ih =>
    unfold setCurrent
    split
    · exact .cons rfl (SameButCurrent.refl pools)
    · exact .cons rfl ih

/-- Only counters are written. -/
theorem sameButCurrent_written : SameButCurrent pools (written pools seen entries) := by
  induction entries generalizing pools seen with
  | nil => exact SameButCurrent.refl pools
  | cons entry rest ih =>
    unfold written
    split
    · exact (sameButCurrent_setCurrent entry.1 entry.2 pools).trans ih
    · exact SameButCurrent.refl pools

end Pools

section Calls

variable {h : HeroCharacter} {expected : DerivedHeroSheet}

/-- A counter that is refused leaves the hero alone. -/
theorem writeCurrents_refused {seen : List ResourceKind} {entry : ResourceKind × Nat}
    (hrefused : ¬ accepts h.sheet.resources seen entry = true) (rest : List (ResourceKind × Nat)) :
    Attempt.Ends (writeCurrents seen (entry :: rest)) h (fun _ _ => False) fun h' => h' = h := by
  unfold writeCurrents
  refine ends_lift_bind rfl fun _ hseen => ?_
  rw [ends_reading_bind]
  refine ends_lift_bind rfl fun pool hfind => ?_
  refine ends_lift_bind rfl fun _ hle => ?_
  rw [rejectIf_eq_ok] at hseen hle
  exact absurd (accepts_eq_true.mpr ⟨hseen, pool, okOr_eq_ok.mp hfind, Nat.not_lt.mp hle⟩) hrefused

/-- **Loop.** However far it comes, what it has written stays. -/
theorem writeCurrents_written (h : HeroCharacter) (seen : List ResourceKind) (entries : List (ResourceKind × Nat)) :
    Attempt.Ends (writeCurrents seen entries) h
      (fun _ h' => acceptsAll h.sheet.resources seen entries = true ∧
        h' = h.setResources (written h.sheet.resources seen entries))
      (fun h' => acceptsAll h.sheet.resources seen entries = false ∧
        h' = h.setResources (written h.sheet.resources seen entries)) := by
  induction entries generalizing h seen with
  | nil => exact ⟨rfl, rfl⟩
  | cons entry rest ih =>
    unfold acceptsAll written
    by_cases haccepts : accepts h.sheet.resources seen entry = true
    · obtain ⟨hseen, pool, hfind, hle⟩ := accepts_eq_true.mp haccepts
      rw [haccepts, if_pos rfl]
      unfold writeCurrents
      rw [ends_ok_bind (rejectIf_of_not hseen), ends_reading_bind, id,
        ends_ok_bind (okOr_eq_ok.mpr hfind), ends_ok_bind (rejectIf_of_not (Nat.not_lt.mpr hle)),
        ends_writing_bind]
      have hrest := ih (h.setResources (setCurrent entry.1 entry.2 h.sheet.resources)) (entry.1 :: seen)
      simp only [HeroCharacter.setResources, acceptsAll_setCurrent] at hrest
      exact hrest
    · rw [if_neg haccepts]
      refine (writeCurrents_refused haccepts rest).mono (fun _ _ hfalse => hfalse.elim) fun h' heq => ⟨?_, heq⟩
      rw [Bool.not_eq_true] at haccepts
      rw [haccepts]
      rfl

/-- Accepted counters keep the pools within what is derived. -/
theorem within_written {pools es : List ResourcePool} (hwithin : List.Forall₂ ResourcePool.Within pools es)
    (seen : List ResourceKind) (entries : List (ResourceKind × Nat)) :
    List.Forall₂ ResourcePool.Within (written pools seen entries) es := by
  induction entries generalizing pools seen with
  | nil => exact hwithin
  | cons entry rest ih =>
    unfold written
    split
    · next haccepts =>
      obtain ⟨-, pool, hfind, hle⟩ := accepts_eq_true.mp haccepts
      exact ih (within_setCurrent hwithin hfind hle) _
    · exact hwithin

variable {currentHitPoints : Nat} {resourceCurrents : List (ResourceKind × Nat)}

/-- An update for other pools, or with too many hit points, leaves the hero alone. -/
theorem synchronizeEncounterRuntime_refused
    (hrefused : h.sheet.maximumHitPoints < currentHitPoints ∨ resourceCurrents.length ≠ h.sheet.resources.length) :
    Attempt.Ends (synchronizeEncounterRuntime currentHitPoints resourceCurrents) h (fun _ _ => False) (· = h) := by
  unfold synchronizeEncounterRuntime
  rw [ends_reading_bind]
  refine ends_lift_bind rfl fun _ _ => ?_
  refine ends_lift_bind rfl fun _ hhp => ?_
  refine ends_lift_bind rfl fun _ hlength => ?_
  rw [rejectIf_eq_ok] at hhp hlength
  exact (hrefused.elim hhp hlength).elim

/-- The hero, with what has been written by the time the update fails. -/
def HeroCharacter.partWritten (h : HeroCharacter) (currentHitPoints : Nat)
    (resourceCurrents : List (ResourceKind × Nat)) : HeroCharacter :=
  { h with sheet := { h.sheet with
    resources := written h.sheet.resources [] resourceCurrents
    currentHitPoints := if acceptsAll h.sheet.resources [] resourceCurrents = true then currentHitPoints
      else h.sheet.currentHitPoints } }

/-- **The update, from end to end.** -/
theorem synchronizeEncounterRuntime_written (hv : h.Valid expected) (hhp : currentHitPoints ≤ h.sheet.maximumHitPoints)
    (hlength : resourceCurrents.length = h.sheet.resources.length) :
    Attempt.Ends (synchronizeEncounterRuntime currentHitPoints resourceCurrents) h
      (fun _ h' => (acceptsAll h.sheet.resources [] resourceCurrents = true ∧ h.revision < maxRevision) ∧
        h'.validate = .ok () ∧ h.SameButRuntime h')
      (fun h' => ¬ (acceptsAll h.sheet.resources [] resourceCurrents = true ∧ h.revision < maxRevision) ∧
        h' = h.partWritten currentHitPoints resourceCurrents) := by
  unfold synchronizeEncounterRuntime HeroCharacter.partWritten
  rw [ends_reading_bind]
  dsimp only [id]
  rw [ends_ok_bind (validate_eq_ok.mpr ⟨expected, hv⟩),
    ends_ok_bind (rejectIf_of_not (Nat.not_lt.mpr hhp)),
    ends_ok_bind (rejectIf_of_not (not_not.mpr hlength))]
  refine Attempt.ends_bind ((writeCurrents_written h [] resourceCurrents).mono (fun _ _ h => h) ?_) ?_
  · rintro h' ⟨hrefused, rfl⟩
    rw [hrefused]
    exact ⟨fun hall => Bool.noConfusion hall.1, rfl⟩
  rintro ⟨⟩ h' ⟨haccepted, rfl⟩
  rw [haccepted, if_pos rfl, ends_writing_bind, ends_reading_bind]
  dsimp only [id]
  by_cases hrevision : h.revision < maxRevision
  · have hset := (hv.setResources (within_written hv.resources [] resourceCurrents)).setHitPoints hhp
    have hdone := hset.setExperience (Nat.le_refl _) hset.experience (h.revision + 1)
    have hvalid := validate_eq_ok.mpr ⟨expected, hdone⟩
    refine (ends_ok_bind (nextRevision_eq_ok.mpr ⟨hrevision, rfl⟩)).mpr ?_
    rw [ends_writing_bind, ends_reading_bind]
    exact (Attempt.ends_lift_of_ok hvalid).mpr ⟨⟨rfl, hrevision⟩, hvalid, rfl, sameButCurrent_written⟩
  · refine ends_lift_bind ⟨fun hall => hrevision hall.2, rfl⟩ fun _ hnext => ?_
    exact absurd (nextRevision_eq_ok.mp hnext).1 hrevision

/-- Nothing shows of what is written in part where it was there before. -/
theorem partWritten_eq_self_iff :
    h.partWritten currentHitPoints resourceCurrents = h ↔
      repeatsAccepted h.sheet.resources [] resourceCurrents = true ∧
        (acceptsAll h.sheet.resources [] resourceCurrents = true → currentHitPoints = h.sheet.currentHitPoints) := by
  rw [← written_eq_self_iff]
  unfold HeroCharacter.partWritten
  constructor
  · intro heq
    have hsheet := congrArg HeroCharacter.sheet heq
    refine ⟨congrArg DerivedHeroSheet.resources hsheet, fun haccepted => ?_⟩
    have hhp := congrArg DerivedHeroSheet.currentHitPoints hsheet
    dsimp only at hhp
    rwa [if_pos haccepted] at hhp
  · rintro ⟨hwritten, hhp⟩
    rw [hwritten]
    split
    · next haccepted => rw [hhp haccepted]
    · rfl

/-- **An update is taken over or leaves the hero alone exactly where a refusal shows nothing.** -/
theorem synchronize_allOrNothing_iff {h : HeroCharacter} (hvalid : h.validate = .ok ()) (currentHitPoints : Nat)
    (resourceCurrents : List (ResourceKind × Nat)) :
    h.TakesAllOrNothing currentHitPoints resourceCurrents ↔ h.ShowsNothing currentHitPoints resourceCurrents := by
  obtain ⟨expected, hv⟩ := validate_eq_ok.mp hvalid
  unfold HeroCharacter.TakesAllOrNothing HeroCharacter.ShowsNothing
  by_cases hrefused : h.sheet.maximumHitPoints < currentHitPoints ∨ resourceCurrents.length ≠ h.sheet.resources.length
  · rw [(synchronizeEncounterRuntime_refused hrefused).iff_of_fails]
    exact iff_of_true rfl (hrefused.imp_right .inl)
  · rw [not_or, Nat.not_lt, not_not] at hrefused
    obtain ⟨hhp, hlength⟩ := hrefused
    rw [or_iff_right (Nat.not_lt.mpr hhp), or_iff_right (not_not.mpr hlength)]
    have hends := synchronizeEncounterRuntime_written hv hhp hlength
    by_cases htaken : acceptsAll h.sheet.resources [] resourceCurrents = true ∧ h.revision < maxRevision
    · exact iff_of_true (hends.mono (fun _ _ hdone => hdone.2) fun _ hfailed => absurd htaken hfailed.1) (.inl htaken)
    · rw [or_iff_right htaken]
      have hfails := hends.mono (fun _ _ hdone => htaken hdone.1) fun _ hfailed => hfailed.2
      exact hfails.iff_of_fails.trans partWritten_eq_self_iff

end Calls

/-- What the guardian of the canal starts with. -/
theorem canalGuardian_pools :
    ∃ hero, HeroCharacter.create "hero:mara" "campaign:rain" "owner:one" canalGuardian = .ok hero ∧
      hero.validate = .ok () ∧ hero.revision < maxRevision ∧ 3 ≤ hero.sheet.maximumHitPoints ∧
      hero.sheet.resources = [⟨.hitDiceD10, 1, 1, .long⟩, ⟨.secondWind, 1, 1, .short⟩] := by
  obtain ⟨hero, hcreate, hvalid, -, hrevision, -⟩ := canalGuardian_created
  have hpools : (match HeroCharacter.create "hero:mara" "campaign:rain" "owner:one" canalGuardian with
    | .ok hero => decide (3 ≤ hero.sheet.maximumHitPoints ∧
        hero.sheet.resources = [⟨.hitDiceD10, 1, 1, .long⟩, ⟨.secondWind, 1, 1, .short⟩])
    | .error _ => false) = true := by
    decide +kernel
  rw [hcreate] at hpools
  exact ⟨hero, hcreate, hvalid, by rw [hrevision]; decide, of_decide_eq_true hpools⟩

/-- An update that names each pool once is taken over. -/
theorem synchronize_allOrNothing_guardian :
    ∃ hero, HeroCharacter.create "hero:mara" "campaign:rain" "owner:one" canalGuardian = .ok hero ∧
      hero.TakesAllOrNothing 3 [(.hitDiceD10, 0), (.secondWind, 1)] := by
  obtain ⟨hero, hcreate, hvalid, hrevision, -, hpools⟩ := canalGuardian_pools
  refine ⟨hero, hcreate, (synchronize_allOrNothing_iff hvalid 3 _).mpr (.inr (.inr (.inl ⟨?_, hrevision⟩)))⟩
  rw [hpools]
  decide

/-- **The second counter for a pool is refused, and the first is left in it.** -/
theorem duplicatePool_written :
    ∃ hero, HeroCharacter.create "hero:mara" "campaign:rain" "owner:one" canalGuardian = .ok hero ∧
      hero.validate = .ok () ∧ ¬ hero.TakesAllOrNothing 3 [(.hitDiceD10, 0), (.hitDiceD10, 0)] := by
  obtain ⟨hero, hcreate, hvalid, -, hhp, hpools⟩ := canalGuardian_pools
  obtain ⟨expected, hv⟩ := validate_eq_ok.mp hvalid
  refine ⟨hero, hcreate, hvalid, fun hlaw => ?_⟩
  have hrefused : ¬ acceptsAll hero.sheet.resources [] [(.hitDiceD10, 0), (.hitDiceD10, 0)] = true := by
    rw [hpools]
    decide
  have hfails := (synchronizeEncounterRuntime_written hv hhp (by rw [hpools]; rfl)).mono
    (fun _ _ hdone => hrefused hdone.1.1) fun _ hfailed => hfailed.2
  have hsame : hero.partWritten 3 _ = hero := hfails.iff_of_fails.mp hlaw
  have hshows := (partWritten_eq_self_iff.mp hsame).1
  rw [hpools] at hshows
  exact absurd hshows (by decide)

end ManchesterArcana.Hero
