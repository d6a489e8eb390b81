import ManchesterArcana.Effect.Run
import ManchesterArcana.Hero.Character
import ManchesterArcana.Rules.Currency

/-!
# `Rules.Inventory` — what is carried and worn, and the armor class of it

An inventory starts as the loadout of a sheet, and armor is put on and taken off between scenes. The armor class of
what is worn is computed a second time, from the inventory; for the loadout of a valid hero it is the one on the
sheet (`runtimeArmorClass_starting`). Putting on one suit of armor takes off the other, so an inventory in which at
most one is worn stays that way (`Operates.bodyArmor_le`). `InventoryState.validate` does not ask for it, and
`armorClass_law` says that this is all there is to ask.
-/

namespace ManchesterArcana.Rules

open Effect Hero
open List (countP_cons mem_map)

def authoredCapacityPolicyId : String := "manchester-arcana:capacity:authored-starting-loadout-v1"

/-- What can be put on: body armor and a shield. -/
def IsEquippable (item : EquipmentId) : Prop := IsBodyArmor item ∨ item = .shield

instance (item : EquipmentId) : Decidable (IsEquippable item) := inferInstanceAs (Decidable (_ ∨ _))

structure InventoryEntry where
  item : EquipmentId
  quantity : Nat
  equipped : Bool
  deriving DecidableEq

structure InventoryState where
  schemaVersion : Nat
  capacityPolicyId : String
  entries : List InventoryEntry
  simpleWeapon : Option SimpleWeaponId
  heldWeapon : WeaponChoice
  currency : Currency
  deriving DecidableEq

namespace InventoryState

def carries (inventory : InventoryState) (item : EquipmentId) : Bool :=
  inventory.entries.any (·.item = item)

def weaponIsCarried (inventory : InventoryState) : WeaponChoice → Bool
  | .simple kind => decide (inventory.simpleWeapon = some kind) && inventory.carries .simpleWeapons
  | .longsword => inventory.carries .longsword
  | .lightCrossbow => inventory.carries .lightCrossbow

/-- Entries are sorted, unique, of quantity one, and equipped only where that can be. -/
def validateEntries : Option EquipmentId → List InventoryEntry → RulesMatrixResult Unit
  | _, [] => .ok ()
  | previous, entry :: entries => do
    rejectIf (entry.quantity ≠ 1 ∨ previous.any (fun item => decide (entry.item.ctorIdx ≤ item.ctorIdx)) = true)
      (.invalidState "authored inventory must be sorted, unique, and quantity one")
    rejectIf (entry.equipped = true ∧ ¬ IsEquippable entry.item)
      (.invalidState "only supported armor and shield use inventory equip state")
    validateEntries (some entry.item) entries

def validate (inventory : InventoryState) : RulesMatrixResult Unit := do
  rejectIf (inventory.schemaVersion ≠ rulesMatrixSchemaVersion ∨
      inventory.capacityPolicyId ≠ authoredCapacityPolicyId ∨ inventory.entries = [] ∨
      allEquipment.length < inventory.entries.length)
    (.invalidState "inventory schema, capacity policy, or size is invalid")
  inventory.currency.validate
  validateEntries none inventory.entries
  rejectIf (inventory.carries .simpleWeapons ≠ inventory.simpleWeapon.isSome)
    (.invalidState "simple weapon category and concrete weapon must agree")
  rejectIf (inventory.weaponIsCarried inventory.heldWeapon = false)
    (.invalidState "held weapon is not present in carried equipment")

/-- The weapon in hand at the start. -/
def startingWeapon (equipment : EquipmentState) : RulesMatrixResult WeaponChoice :=
  if .longsword ∈ equipment.carried then .ok .longsword
  else match equipment.simpleWeapon with
    | some kind => .ok (.simple kind)
    | none =>
      if .lightCrossbow ∈ equipment.carried then .ok .lightCrossbow
      else .error (.invalidState "authored inventory has no supported weapon")

/-- The starting loadout. -/
def fromEquipment (equipment : EquipmentState) : RulesMatrixResult InventoryState := do
  rejectIf (equipment.capacityPolicyId ≠ authoredCapacityPolicyId) (unsupportedMechanic "capacity.policy")
  let heldWeapon ← startingWeapon equipment
  let result : InventoryState :=
    { schemaVersion := rulesMatrixSchemaVersion
      capacityPolicyId := equipment.capacityPolicyId
      entries := equipment.carried.map fun item =>
        { item
          quantity := 1
          equipped := decide (equipment.equippedArmor = some item) ||
            (decide (item = .shield) && equipment.shieldEquipped) }
      simpleWeapon := equipment.simpleWeapon
      heldWeapon
      currency := ⟨0, 0, 0⟩ }
  result.validate
  return result

/-! ## Operations -/

def useObjectInteractionToReadyWeapon (inventory : InventoryState) (weapon : WeaponChoice) (economy : ActionEconomy) :
    Mutating (InventoryState × ActionEconomy) (Unit × InventoryState × ActionEconomy) := do
  let before := (inventory, economy)
  leaving before inventory.validate
  leaving before (rejectIf (inventory.weaponIsCarried weapon = false)
    (.invalidIntent "weapon must be carried before it can be readied"))
  let nextEconomy ← leaving before ((economy.spend .objectInteraction).mapError .core)
  let next := { inventory with heldWeapon := weapon }
  leaving (next, nextEconomy) next.validate
  return ((), next, nextEconomy)

/-- Take off all body armor. -/
def takeOffArmor (entries : List InventoryEntry) : List InventoryEntry :=
  entries.map fun entry => if IsBodyArmor entry.item then { entry with equipped := false } else entry

/-- Change what is worn between scenes; a suit of armor takes the place of the one before. -/
def setEquippedBetweenScenes (inventory : InventoryState) (item : EquipmentId) (equipped : Bool) :
    Mutating InventoryState (Unit × InventoryState) := do
  leaving inventory inventory.validate
  leaving inventory (rejectIf (¬ IsEquippable item) (unsupportedMechanic "inventory.equip-item"))
  let index ← leaving inventory (okOr (inventory.entries.findIdx? (·.item = item))
    (.invalidIntent "item must be carried before it can be equipped"))
  let entries := if equipped = true ∧ IsBodyArmor item then takeOffArmor inventory.entries else inventory.entries
  let next := { inventory with entries := entries.modify index fun entry => { entry with equipped } }
  leaving next next.validate
  return ((), next)

def useActionToChangeShield (inventory : InventoryState) (equipped : Bool) (economy : ActionEconomy) :
    Mutating (InventoryState × ActionEconomy) (Unit × InventoryState × ActionEconomy) := do
  let before := (inventory, economy)
  leaving before inventory.validate
  leaving before (rejectIf (inventory.carries .shield = false)
    (.invalidIntent "shield must be carried before changing its equip state"))
  let nextEconomy ← leaving before ((economy.spend .action).mapError .core)
  let (_, nextInventory) ← (inventory.setEquippedBetweenScenes .shield equipped).mapError fun e => (e.1, before)
  return ((), nextInventory, nextEconomy)

/-- Nothing that is carried can be used up. -/
def useConsumable (inventory : InventoryState) (requestedId : String) :
    Mutating InventoryState (Unit × InventoryState) :=
  .error (unsupportedMechanic requestedId, inventory)

/-- An entry of body armor that is worn. -/
def wornArmor (entry : InventoryEntry) : Bool := entry.equipped && decide (IsBodyArmor entry.item)

/-- The body armor that is worn. -/
def bodyArmor (inventory : InventoryState) : List EquipmentId :=
  (inventory.entries.filter wornArmor).map (·.item)

/-- A shield is worn. -/
def wearsShield (inventory : InventoryState) : Bool :=
  inventory.entries.any fun entry => decide (entry.item = .shield) && entry.equipped

/-- The shields that are worn. -/
def shields (inventory : InventoryState) : List EquipmentId :=
  (inventory.entries.filter fun entry => decide (entry.item = .shield) && entry.equipped).map (·.item)

end InventoryState

/-- The sheet lists the defensive style as active. -/
def defends (sheet : DerivedHeroSheet) : Bool :=
  sheet.features.any fun feature =>
    decide (feature.feature = .fightingStyleDefense) && decide (feature.availability = .active)

def runtimeArmorClass (sheet : DerivedHeroSheet) (inventory : InventoryState) : RulesMatrixResult Nat := do
  inventory.validate
  let equippedArmor := inventory.bodyArmor
  rejectIf (1 < equippedArmor.length) (.invalidState "only one supported armor can be equipped")
  let dexterity := (sheet.abilityScores.get .dexterity).modifier.toInt
  let worn : Int := match equippedArmor.head? with
    | some .chainMail => 16
    | some .leatherArmor => 11 + dexterity
    -- only body armor is listed, so this is the case of none
    | _ => 10 + dexterity
  let shielded := if inventory.wearsShield = true then worn + 2 else worn
  let armorClass := if equippedArmor ≠ [] ∧ defends sheet = true then shielded + 1 else shielded
  rejectIf (armorClass < 0 ∨ 255 < armorClass) .arithmeticOverflow
  return armorClass.toNat

/-! ## Valid inventories -/

/-- Entries with the item of the one before them, if any. -/
theorem validateEntries_eq_ok {previous : Option EquipmentId} {entries : List InventoryEntry} :
    InventoryState.validateEntries previous entries = .ok () ↔
      (∀ entry ∈ entries, entry.quantity = 1 ∧
        (entry.equipped = true → IsEquippable entry.item)) ∧
      StrictlySorted EquipmentId.ctorIdx (previous.toList ++ entries.map (·.item)) := by
  induction entries generalizing previous with
  | nil =>
    refine iff_of_true rfl ⟨fun _ h => (by cases h), ?_⟩
    cases previous with
    | none => exact .nil
    | some item => exact .singleton item
  | cons entry entries ih =>
    simp only [InventoryState.validateEntries, seq_eq_ok, rejectIf_eq_ok, ih, List.forall_mem_cons, List.map_cons,
      not_or, not_not, not_and]
    cases previous with
    | none =>
      constructor
      · rintro ⟨⟨hq, -⟩, hslot, hrest, hsorted⟩
        exact ⟨⟨⟨hq, hslot⟩, hrest⟩, hsorted⟩
      · rintro ⟨⟨⟨hq, hslot⟩, hrest⟩, hsorted⟩
        exact ⟨⟨hq, fun h => (by cases h)⟩, hslot, hrest, hsorted⟩
    | some item =>
      have hchain : StrictlySorted EquipmentId.ctorIdx (item :: entry.item :: entries.map (·.item)) ↔
          item.ctorIdx < entry.item.ctorIdx ∧
            StrictlySorted EquipmentId.ctorIdx (entry.item :: entries.map (·.item)) := List.isChain_cons_cons
      show _ ↔ _ ∧ StrictlySorted EquipmentId.ctorIdx (item :: entry.item :: entries.map (·.item))
      rw [hchain, Option.any_some, decide_eq_true_eq, Nat.not_le]
      constructor
      · rintro ⟨⟨hq, hlt⟩, hslot, hrest, hsorted⟩
        exact ⟨⟨⟨hq, hslot⟩, hrest⟩, hlt, hsorted⟩
      · rintro ⟨⟨⟨hq, hslot⟩, hrest⟩, hlt, hsorted⟩
        exact ⟨⟨hq, hlt⟩, hslot, hrest, hsorted⟩

/-- Nothing strictly sorted occurs twice. -/
theorem nodup_of_strictlySorted {items : List EquipmentId} (h : StrictlySorted EquipmentId.ctorIdx items) :
    items.Nodup := by
  have htrans : Trans (fun a b : EquipmentId => a.ctorIdx < b.ctorIdx)
      (fun a b : EquipmentId => a.ctorIdx < b.ctorIdx) (fun a b : EquipmentId => a.ctorIdx < b.ctorIdx) :=
    ⟨Nat.lt_trans⟩
  refine (List.isChain_iff_pairwise.mp h).imp ?_
  rintro a _ hlt rfl
  exact Nat.lt_irrefl _ hlt

/-- A list without repetitions of one thing has it at most once. -/
theorem length_le_one_of_nodup {α : Type} {as : List α} {a : α} (hnodup : as.Nodup) (hall : ∀ b ∈ as, b = a) :
    as.length ≤ 1 := by
  match as with
  | [] => exact Nat.zero_le 1
  | [_] => exact Nat.le_refl 1
  | b :: c :: rest =>
    obtain ⟨hnotin, -⟩ := List.nodup_cons.mp hnodup
    refine absurd (List.mem_cons.mpr (.inl ?_)) hnotin
    rw [hall b (by simp), hall c (by simp)]

namespace InventoryState

variable {inventory inventory' : InventoryState} {sheet : DerivedHeroSheet}

theorem nodup_of_validate (hvalid : inventory.validate = .ok ()) : (inventory.entries.map (·.item)).Nodup := by
  obtain ⟨-, hvalid⟩ := seq_eq_ok.mp hvalid
  obtain ⟨-, hvalid⟩ := seq_eq_ok.mp hvalid
  obtain ⟨hentries, -⟩ := seq_eq_ok.mp hvalid
  exact nodup_of_strictlySorted (validateEntries_eq_ok.mp hentries).2

/-- **No second shield is worn.** -/
theorem shields_length (hvalid : inventory.validate = .ok ()) : inventory.shields.length ≤ 1 := by
  have hnodup : inventory.shields.Nodup :=
    (nodup_of_validate hvalid).sublist (List.filter_sublist.map _)
  refine length_le_one_of_nodup (a := .shield) hnodup ?_
  intro item hitem
  obtain ⟨entry, hentry, rfl⟩ := mem_map.mp hitem
  have hboth := (List.mem_filter.mp hentry).2
  rw [Bool.and_eq_true, decide_eq_true_eq] at hboth
  exact hboth.1

/-! ## The armor class of an inventory -/

/-- **An armor class is computed as long as at most one suit of armor is worn.** -/
theorem runtimeArmorClass_ok (hvalid : inventory.validate = .ok ()) (hone : inventory.bodyArmor.length ≤ 1) :
    runtimeArmorClass sheet inventory =
      .ok (armorClassOf inventory.bodyArmor.head? inventory.wearsShield
        (inventory.bodyArmor ≠ [] ∧ defends sheet = true)
        (sheet.abilityScores.get .dexterity).modifier.toInt).toNat := by
  have hbounds := armorClassOf_bounds inventory.bodyArmor.head? inventory.wearsShield
    (inventory.bodyArmor ≠ [] ∧ defends sheet = true) (sheet.abilityScores.get .dexterity).modifier_bounds
  unfold runtimeArmorClass
  rw [hvalid, ok_bind]
  dsimp only
  rw [rejectIf_of_not (Nat.not_lt.mpr hone), ok_bind, bonuses_eq, Bool.decide_eq_true]
  exact congrArg (· >>= fun _ => _) (rejectIf_of_not hbounds)

/-- Two suits of armor have no armor class. -/
theorem runtimeArmorClass_error (hvalid : inventory.validate = .ok ()) (htwo : 1 < inventory.bodyArmor.length) :
    runtimeArmorClass sheet inventory = .error (.invalidState "only one supported armor can be equipped") := by
  unfold runtimeArmorClass
  rw [hvalid, ok_bind]
  dsimp only
  rw [rejectIf, if_pos htwo]
  rfl

end InventoryState

/-! ## The loadout of a hero -/

/-- The weapon in hand at the start is carried. -/
theorem startingWeapon_ok (equipment : EquipmentState)
    (hsimple : EquipmentId.simpleWeapons ∈ equipment.carried ↔ equipment.simpleWeapon.isSome = true)
    (harmed : equipment.simpleWeapon.isSome = true ∨ EquipmentId.lightCrossbow ∈ equipment.carried) :
    ∃ weapon, InventoryState.startingWeapon equipment = .ok weapon ∧
      ∀ inventory : InventoryState, inventory.simpleWeapon = equipment.simpleWeapon →
        (∀ item, inventory.carries item = true ↔ item ∈ equipment.carried) →
        inventory.weaponIsCarried weapon = true := by
  unfold InventoryState.startingWeapon
  by_cases hlongsword : EquipmentId.longsword ∈ equipment.carried
  · rw [if_pos hlongsword]
    exact ⟨_, rfl, fun inventory _ hcarries => (hcarries _).mpr hlongsword⟩
  · rw [if_neg hlongsword]
    cases hweapon : equipment.simpleWeapon with
    | some kind =>
      refine ⟨_, rfl, fun inventory hsame hcarries => ?_⟩
      have hmem := hsimple.mpr (by rw [hweapon]; rfl)
      show (decide _ && _) = true
      rw [Bool.and_eq_true, decide_eq_true_eq]
      exact ⟨hsame, (hcarries _).mpr hmem⟩
    | none =>
      rw [hweapon] at harmed
      have hcrossbow := harmed.resolve_left (fun h => nomatch h)
      dsimp only
      rw [if_pos hcrossbow]
      exact ⟨_, rfl, fun inventory _ hcarries => (hcarries _).mpr hcrossbow⟩

/-- An item of the loadout, worn if the loadout wears it. -/
def startingEntry (selection : EquipmentSelection) (item : EquipmentId) : InventoryEntry where
  item := item
  quantity := 1
  equipped := decide (selection.equippedArmor = some item) || (decide (item = .shield) && selection.shieldEquipped)

variable {selection : EquipmentSelection} {heroClass : ClassSelection}

/-- A loadout wears nothing but armor and its shield. -/
theorem startingEntry_equippable
    (hfits : selection.Fits heroClass) {item : EquipmentId} (hworn : (startingEntry selection item).equipped = true) :
    IsEquippable item := by
  unfold startingEntry at hworn
  rw [Bool.or_eq_true, Bool.and_eq_true, decide_eq_true_eq, decide_eq_true_eq] at hworn
  rcases hworn with harmor | ⟨hshield, -⟩
  · exact .inl (hfits.worn item harmor).1
  · exact .inr hshield

/-- The body armor of a loadout is what it wears. -/
theorem startingEntry_bodyArmor
    (hfits : selection.Fits heroClass) :
    ((selection.carried.map (startingEntry selection)).filter InventoryState.wornArmor).map (·.item) =
      selection.equippedArmor.toList := by
  rw [List.filter_map, List.map_map]
  show List.map id _ = _
  rw [List.map_id]
  -- a shield is no body armor, so only the equipped armor is left
  have hworn : ∀ item ∈ selection.carried,
      (InventoryState.wornArmor ∘ startingEntry selection) item = decide (selection.equippedArmor = some item) := by
    intro item _
    rw [Bool.eq_iff_iff]
    show ((decide _ || (decide (item = .shield) && _)) && decide (IsBodyArmor item)) = true ↔ _
    rw [Bool.and_eq_true, Bool.or_eq_true, Bool.and_eq_true, decide_eq_true_eq, decide_eq_true_eq, decide_eq_true_eq]
    constructor
    · rintro ⟨hworn | ⟨rfl, -⟩, hbody⟩
      · exact hworn
      · exact absurd hbody (by decide)
    · intro hworn
      exact ⟨.inl hworn, (hfits.worn item hworn).1⟩
  rw [List.filter_congr hworn]
  cases harmor : selection.equippedArmor with
  | none => simp
  | some armor =>
    have hmem := (hfits.worn armor harmor).2
    have hnodup := nodup_of_strictlySorted hfits.sorted
    have hflip : (fun item => decide (some armor = some item)) = fun item => decide (item = armor) := by
      funext item
      rw [Bool.eq_iff_iff, decide_eq_true_eq, decide_eq_true_eq, Option.some.injEq, eq_comm]
    rw [hflip, List.filter_eq, List.count_eq_one_of_mem hnodup hmem]
    rfl

/-- A loadout's shield is worn when it is carried. -/
theorem startingEntry_wearsShield
    (hfits : selection.Fits heroClass) :
    (selection.carried.map (startingEntry selection)).any
      (fun entry => decide (entry.item = .shield) && entry.equipped) = selection.shieldEquipped := by
  rw [Bool.eq_iff_iff, List.any_map, List.any_eq_true]
  constructor
  · rintro ⟨item, hmem, hworn⟩
    rw [Function.comp_apply, Bool.and_eq_true, decide_eq_true_eq] at hworn
    have hshield : item = .shield := hworn.1
    exact hfits.shield.mpr (hshield ▸ hmem)
  · intro hworn
    refine ⟨.shield, hfits.shield.mp hworn, ?_⟩
    simp [startingEntry, hworn]

/-- What is listed as an entry is what is carried. -/
theorem startingEntry_carries (item : EquipmentId) :
    (selection.carried.map (startingEntry selection)).any (fun entry => decide (entry.item = item)) = true ↔
      item ∈ selection.carried := by
  rw [List.any_map, List.any_eq_true]
  constructor
  · rintro ⟨other, hmem, heq⟩
    have hsame : other = item := of_decide_eq_true heq
    exact hsame ▸ hmem
  · intro hmem
    exact ⟨item, hmem, decide_eq_true rfl⟩

/-- **The loadout that a hero starts with is a valid inventory**, wearing what the loadout wears. -/
theorem fromEquipment_ok
    (hfits : selection.Fits heroClass) :
    ∃ inventory,
      InventoryState.fromEquipment
        { carried := selection.carried
          simpleWeapon := selection.simpleWeapon
          equippedArmor := selection.equippedArmor
          shieldEquipped := selection.shieldEquipped
          capacityPolicyId := startingLoadoutPolicyId } = .ok inventory ∧
      inventory.validate = .ok () ∧ inventory.bodyArmor = selection.equippedArmor.toList ∧
      inventory.wearsShield = selection.shieldEquipped := by
  obtain ⟨weapon, hweapon, hheld⟩ := startingWeapon_ok
    { carried := selection.carried
      simpleWeapon := selection.simpleWeapon
      equippedArmor := selection.equippedArmor
      shieldEquipped := selection.shieldEquipped
      capacityPolicyId := startingLoadoutPolicyId } hfits.simple hfits.armed
  let inventory : InventoryState :=
    { schemaVersion := rulesMatrixSchemaVersion
      capacityPolicyId := startingLoadoutPolicyId
      entries := selection.carried.map (startingEntry selection)
      simpleWeapon := selection.simpleWeapon
      heldWeapon := weapon
      currency := ⟨0, 0, 0⟩ }
  have hcarries (item : EquipmentId) : inventory.carries item = true ↔ item ∈ selection.carried :=
    startingEntry_carries item
  have hsome : selection.carried ≠ [] := by
    intro hnil
    rcases hfits.armed with hsimple | hcrossbow
    · have hmem := hfits.simple.mpr hsimple
      rw [hnil] at hmem
      cases hmem
    · rw [hnil] at hcrossbow
      cases hcrossbow
  have hpurse : Currency.validate ⟨0, 0, 0⟩ = .ok () := by decide
  have hentries : InventoryState.validateEntries none inventory.entries = .ok () := by
    refine validateEntries_eq_ok.mpr ⟨fun entry hentry => ?_, ?_⟩
    · obtain ⟨item, -, rfl⟩ := mem_map.mp hentry
      exact ⟨rfl, startingEntry_equippable hfits⟩
    · show StrictlySorted EquipmentId.ctorIdx ((selection.carried.map _).map _)
      rw [List.map_map]
      exact (List.map_id selection.carried).symm ▸ hfits.sorted
  have hvalid : inventory.validate = .ok () := by
    refine seq_eq_ok.mpr ⟨rejectIf_of_not ?_, seq_eq_ok.mpr ⟨hpurse, seq_eq_ok.mpr ⟨hentries,
      seq_eq_ok.mpr ⟨rejectIf_of_not (not_not.mpr ?_), rejectIf_of_not ?_⟩⟩⟩⟩
    · rintro (hschema | hpolicy | hempty | hlong)
      · exact hschema rfl
      · exact hpolicy rfl
      · exact hsome (List.map_eq_nil_iff.mp hempty)
      · refine absurd hlong (Nat.not_lt.mpr ?_)
        show (selection.carried.map _).length ≤ _
        rw [List.length_map]
        exact hfits.short
    · rw [Bool.eq_iff_iff, hcarries]
      exact hfits.simple
    · rw [hheld inventory rfl hcarries]
      decide
  refine ⟨inventory, ?_, hvalid, startingEntry_bodyArmor hfits, startingEntry_wearsShield hfits⟩
  refine seq_eq_ok.mpr ⟨rejectIf_of_not (not_not.mpr rfl), bind_eq_ok.mpr ⟨weapon, hweapon, ?_⟩⟩
  exact seq_eq_ok.mpr ⟨hvalid, rfl⟩

/-- The sheet lists the defensive style for those who chose it. -/
theorem defends_iff (level : SupportedLevel) {sheet : DerivedHeroSheet}
    (hfeatures : sheet.features = deriveFeatures heroClass level) :
    defends sheet = true ↔ heroClass = .fighter .defense := by
  unfold defends
  rw [hfeatures]
  rcases heroClass with style | _
  · cases style <;> cases level <;> decide
  · cases level <;> decide

/-- **Both derivations agree.** The armor class of a valid hero's starting inventory is the one its sheet derives. -/
theorem runtimeArmorClass_starting {hero : HeroCharacter} (hvalid : hero.validate = .ok ()) :
    ∃ derived inventory, deriveSheet hero.choices hero.level hero.advancementChoices = .ok derived ∧
      InventoryState.fromEquipment hero.sheet.equipment = .ok inventory ∧
      runtimeArmorClass hero.sheet inventory = .ok derived.armorClass := by
  obtain ⟨derived, hv⟩ := HeroCharacter.validate_eq_ok.mp hvalid
  obtain ⟨-, scores, hderives⟩ := derives_of_deriveSheet hv.derived
  have hfits := EquipmentSelection.fits_of_validateFor hderives.valid.equipment
  obtain ⟨inventory, hfrom, hinventory, harmor, hshield⟩ := fromEquipment_ok hfits
  -- the hero's sheet is the derived one in everything that is read here
  have hequipment : hero.sheet.equipment = derived.equipment := by rw [hv.sheet]
  have hscores : hero.sheet.abilityScores = scores := by
    rw [hv.sheet]
    exact hderives.abilityScores
  have hdefends : defends hero.sheet = true ↔ hero.choices.heroClass = .fighter .defense := by
    refine defends_iff hero.level ?_
    rw [hv.sheet]
    exact hderives.features
  have hone : inventory.bodyArmor.length ≤ 1 := by
    rw [harmor]
    cases hero.choices.equipment.equippedArmor with
    | none => exact Nat.zero_le 1
    | some armor => exact Nat.le_refl 1
  refine ⟨derived, inventory, hv.derived, ?_, ?_⟩
  · rw [hequipment, hderives.equipment]
    exact hfrom
  · have hstyle : (inventory.bodyArmor ≠ [] ∧ defends hero.sheet = true) ↔ hero.choices.heroClass = .fighter .defense := by
      rw [hdefends, harmor]
      refine ⟨And.right, fun hclass => ⟨fun hbare => ?_, hclass⟩⟩
      -- a fighter goes in armor
      have hworn := hfits.armored.mpr (by rw [hclass]; rfl)
      rw [Option.toList_eq_nil_iff.mp hbare] at hworn
      cases hworn
    rw [InventoryState.runtimeArmorClass_ok hinventory hone, decide_eq_decide.mpr hstyle, hderives.armorClass, hscores,
      hshield, harmor]
    cases hero.choices.equipment.equippedArmor <;> rfl

/-! ## Runs of operations -/

section Counting

variable {α : Type} {p : α → Bool} {f : α → α} {as : List α} {i : Nat}

/-- Changing one element brings in one at most. -/
theorem countP_modify_le (as : List α) (i : Nat) : (as.modify i f).countP p ≤ as.countP p + 1 := by
  induction as generalizing i with
  | nil => simp
  | cons a as ih =>
    cases i with
    | zero =>
      rw [List.modify_zero_cons, countP_cons, countP_cons]
      split <;> split <;> omega
    | succ i =>
      have := ih i
      rw [List.modify_succ_cons, countP_cons, countP_cons]
      omega

/-- Changing an element that does not come to count brings in none. -/
theorem countP_modify_le_of (h : ∀ a, as[i]? = some a → p (f a) = true → p a = true) :
    (as.modify i f).countP p ≤ as.countP p := by
  induction as generalizing i with
  | nil => simp
  | cons a as ih =>
    cases i with
    | zero =>
      have ha := h a rfl
      rw [List.modify_zero_cons, countP_cons, countP_cons]
      by_cases hfa : p (f a) = true
      · rw [if_pos hfa, if_pos (ha hfa)]
      · rw [if_neg hfa]
        exact Nat.le_add_right _ _
    | succ i =>
      have := ih (i := i) fun b hb => h b hb
      rw [List.modify_succ_cons, countP_cons, countP_cons]
      omega

end Counting

namespace InventoryState

theorem bodyArmor_length (inventory : InventoryState) : inventory.bodyArmor.length = inventory.entries.countP wornArmor := by
  rw [bodyArmor, List.length_map, List.countP_eq_length_filter]

theorem takeOffArmor_countP (entries : List InventoryEntry) : (takeOffArmor entries).countP wornArmor = 0 := by
  rw [List.countP_eq_zero]
  intro entry hentry
  obtain ⟨entry, -, rfl⟩ := mem_map.mp hentry
  unfold wornArmor
  split <;> simp [*]

variable {inventory inventory' : InventoryState}

/-- **Step.** Armor is put on in place of the armor before. -/
theorem setEquippedBetweenScenes_returns {item : EquipmentId} {equipped : Bool}
    (h : inventory.setEquippedBetweenScenes item equipped = .ok ((), inventory')) :
    inventory'.validate = .ok () ∧ (inventory.bodyArmor.length ≤ 1 → inventory'.bodyArmor.length ≤ 1) := by
  simp only [setEquippedBetweenScenes, bind_eq_ok, exists_unit, leaving_eq_ok, okOr_eq_ok, pure_eq, Except.ok.injEq,
    Prod.mk.injEq, true_and] at h
  obtain ⟨-, -, index, hindex, hvalid, rfl⟩ := h
  refine ⟨hvalid, ?_⟩
  rw [bodyArmor_length, bodyArmor_length]
  intro hone
  dsimp only
  by_cases hdon : equipped = true ∧ IsBodyArmor item
  · rw [if_pos hdon]
    have hle := countP_modify_le (p := wornArmor) (f := fun entry => { entry with equipped })
      (takeOffArmor inventory.entries) index
    rw [takeOffArmor_countP] at hle
    exact hle
  · rw [if_neg hdon]
    refine Nat.le_trans (countP_modify_le_of fun entry hentry hworn => ?_) hone
    -- the entry that changes is the item's: it is taken off, or no body armor
    have hitem := List.of_findIdx?_eq_some hindex
    rw [hentry] at hitem
    have hitem : entry.item = item := of_decide_eq_true hitem
    rw [wornArmor, Bool.and_eq_true, decide_eq_true_eq] at hworn
    exact absurd ⟨hworn.1, hitem ▸ hworn.2⟩ hdon

/-- The operations on an inventory, with the economy of the turn where there is one. -/
inductive Operation where
  | readyWeapon (weapon : WeaponChoice) (economy : ActionEconomy)
  | setEquipped (item : EquipmentId) (equipped : Bool)
  | changeShield (equipped : Bool) (economy : ActionEconomy)
  | useConsumable (requestedId : String)
  deriving DecidableEq

/-- An operation succeeds. -/
def Operates (inventory : InventoryState) (operation : Operation) (inventory' : InventoryState) : Prop :=
  match operation with
  | .readyWeapon weapon economy =>
    ∃ economy', inventory.useObjectInteractionToReadyWeapon weapon economy = .ok ((), inventory', economy')
  | .setEquipped item equipped => inventory.setEquippedBetweenScenes item equipped = .ok ((), inventory')
  | .changeShield equipped economy =>
    ∃ economy', inventory.useActionToChangeShield equipped economy = .ok ((), inventory', economy')
  | .useConsumable requestedId => inventory.useConsumable requestedId = .ok ((), inventory')

/-- A valid inventory in which at most one suit of armor is worn. -/
structure Wearable (inventory : InventoryState) : Prop where
  valid : inventory.validate = .ok ()
  one : inventory.bodyArmor.length ≤ 1

/-- **Step.** No operation puts on a second suit of armor. -/
theorem Operates.wearable {operation : Operation} (hw : inventory.Wearable)
    (h : inventory.Operates operation inventory') : inventory'.Wearable := by
  cases operation with
  | readyWeapon weapon economy =>
    obtain ⟨economy', h⟩ := h
    simp only [useObjectInteractionToReadyWeapon, bind_eq_ok, exists_unit, leaving_eq_ok, pure_eq, Except.ok.injEq,
      Prod.mk.injEq, true_and] at h
    obtain ⟨-, -, nextEconomy, -, hvalid, rfl, rfl⟩ := h
    exact ⟨hvalid, hw.one⟩
  | setEquipped item equipped =>
    obtain ⟨hvalid, hone⟩ := setEquippedBetweenScenes_returns h
    exact ⟨hvalid, hone hw.one⟩
  | changeShield equipped economy =>
    obtain ⟨economy', h⟩ := h
    simp only [useActionToChangeShield, bind_eq_ok, exists_unit, leaving_eq_ok, mapError_eq_ok, Prod.exists, pure_eq,
      Except.ok.injEq, Prod.mk.injEq, true_and] at h
    obtain ⟨-, -, nextEconomy, -, next, hset, rfl, rfl⟩ := h
    obtain ⟨hvalid, hone⟩ := setEquippedBetweenScenes_returns hset
    exact ⟨hvalid, hone hw.one⟩
  | useConsumable requestedId => cases h

/-- **Run.** -/
theorem Wearable.of_run {operations : List Operation} (hw : inventory.Wearable)
    (h : Run Operates inventory operations inventory') : inventory'.Wearable :=
  h.invariant (fun _ _ _ hw hstep => hstep.wearable hw) hw

end InventoryState

open InventoryState

/-- **The armor class law.** A valid hero's starting inventory has the armor class of its sheet. Over every run of
    operations from a valid inventory there is an armor class and at most one suit of armor and one shield are worn,
    exactly if at most one suit of armor is worn at the start. -/
theorem armorClass_law (sheet : DerivedHeroSheet) (inventory : InventoryState) (hvalid : inventory.validate = .ok ()) :
    (∀ hero : HeroCharacter, hero.validate = .ok () →
      ∃ derived starting, deriveSheet hero.choices hero.level hero.advancementChoices = .ok derived ∧
        fromEquipment hero.sheet.equipment = .ok starting ∧
        runtimeArmorClass hero.sheet starting = .ok derived.armorClass) ∧
    ((∀ operations inventory', Run Operates inventory operations inventory' →
        (∃ armorClass, runtimeArmorClass sheet inventory' = .ok armorClass) ∧
        inventory'.bodyArmor.length ≤ 1 ∧ inventory'.shields.length ≤ 1) ↔
      inventory.bodyArmor.length ≤ 1) := by
  refine ⟨fun hero hhero => runtimeArmorClass_starting hhero, fun h => ?_, fun hone => ?_⟩
  · exact (h [] inventory (.nil inventory)).2.1
  · intro operations inventory' hrun
    have hw : inventory'.Wearable := Wearable.of_run ⟨hvalid, hone⟩ hrun
    exact ⟨⟨_, runtimeArmorClass_ok hw.valid hw.one⟩, hw.one, shields_length hw.valid⟩

/-- Chain mail over leather armor. -/
def twiceArmored : InventoryState where
  schemaVersion := rulesMatrixSchemaVersion
  capacityPolicyId := authoredCapacityPolicyId
  entries := [⟨.longsword, 1, false⟩, ⟨.chainMail, 1, true⟩, ⟨.leatherArmor, 1, true⟩]
  simpleWeapon := none
  heldWeapon := .longsword
  currency := ⟨0, 0, 0⟩

/-- **A valid inventory without an armor class**, whatever the sheet. -/
theorem twiceArmored_valid :
    twiceArmored.validate = .ok () ∧ twiceArmored.bodyArmor.length = 2 ∧
      ∀ sheet, runtimeArmorClass sheet twiceArmored =
        .error (.invalidState "only one supported armor can be equipped") := by
  have hvalid : twiceArmored.validate = .ok () := by decide
  exact ⟨hvalid, by decide, fun sheet => runtimeArmorClass_error hvalid (by decide)⟩

/-- The chain mail on, and the leather armor in the pack. -/
def mailClad : InventoryState :=
  { twiceArmored with entries := [⟨.longsword, 1, false⟩, ⟨.chainMail, 1, true⟩, ⟨.leatherArmor, 1, false⟩] }

/-- The canal guardian starts with the armor class of the sheet; given a second suit of armor, the guardian has an
    armor class whatever is put on and taken off. -/
theorem canalGuardian_armored :
    ∃ hero, HeroCharacter.create "hero:mara" "campaign:rain" "owner:one" canalGuardian = .ok hero ∧
      (∃ derived starting, deriveSheet hero.choices hero.level hero.advancementChoices = .ok derived ∧
        fromEquipment hero.sheet.equipment = .ok starting ∧
        runtimeArmorClass hero.sheet starting = .ok derived.armorClass) ∧
      ∀ operations inventory', Run Operates mailClad operations inventory' →
        (∃ armorClass, runtimeArmorClass hero.sheet inventory' = .ok armorClass) ∧
        inventory'.bodyArmor.length ≤ 1 ∧ inventory'.shields.length ≤ 1 := by
  obtain ⟨hero, hcreate, hvalid, -⟩ := canalGuardian_created
  have hclad : mailClad.validate = .ok () := by decide
  obtain ⟨hstarts, hworn⟩ := armorClass_law hero.sheet mailClad hclad
  exact ⟨hero, hcreate, hstarts hero hvalid, hworn.mpr (by decide)⟩

end ManchesterArcana.Rules
