import ManchesterArcana.Core.Identifier

/-!
# `Hero.Vocabulary` — the closed vocabulary of hero mechanics

The enumerations every rules module speaks about. Where the source derives an order, it is the order of the
constructors, read off with `ctorIdx`.
-/

namespace ManchesterArcana

inductive Ability where
  | strength
  | dexterity
  | constitution
  | intelligence
  | wisdom
  | charisma
  deriving DecidableEq

inductive HeroClass where
  | fighter
  | wizard
  deriving DecidableEq

/-- Sides of the class's hit die. -/
def HeroClass.hitDieSides : HeroClass → Nat
  | .fighter => 10
  | .wizard => 6

inductive SupportedLevel where
  | one
  | two
  deriving DecidableEq

def SupportedLevel.value : SupportedLevel → Nat
  | .one => 1
  | .two => 2

inductive SpellId where
  | fireBolt
  | light
  | mageHand
  | magicMissile
  | shield
  | sleep
  deriving DecidableEq

namespace SpellId

def cantrips : List SpellId := [.fireBolt, .light, .mageHand]
def levelOne : List SpellId := [.magicMissile, .shield, .sleep]

def mechanicId : SpellId → String
  | fireBolt => "srd-5.1-cc:spell:fire-bolt"
  | light => "srd-5.1-cc:spell:light"
  | mageHand => "srd-5.1-cc:spell:mage-hand"
  | magicMissile => "srd-5.1-cc:spell:magic-missile"
  | shield => "srd-5.1-cc:spell:shield"
  | sleep => "srd-5.1-cc:spell:sleep"

def level : SpellId → Nat
  | fireBolt | light | mageHand => 0
  | magicMissile | shield | sleep => 1

/-- The name the debug formatter prints. -/
def debugName : SpellId → String
  | fireBolt => "FireBolt"
  | light => "Light"
  | mageHand => "MageHand"
  | magicMissile => "MagicMissile"
  | shield => "Shield"
  | sleep => "Sleep"

end SpellId

inductive ConditionId where
  | prone
  | restrained
  | grappled
  | incapacitated
  | unconscious
  | poisoned
  deriving DecidableEq

/-- Damage types a hero's weapons and spells deal. -/
inductive DamageType where
  | bludgeoning
  | piercing
  | slashing
  | fire
  | force
  deriving DecidableEq

inductive DamageInteraction where
  | normal
  | resistance
  | vulnerability
  | immunity
  deriving DecidableEq

inductive RestKind where
  | short
  | long
  deriving DecidableEq

inductive ResourceKind where
  | hitDiceD6
  | hitDiceD10
  | secondWind
  | actionSurge
  | levelOneSpellSlots
  | arcaneRecovery
  deriving DecidableEq

inductive FeatureId where
  | fightingStyleDefense
  | fightingStyleDueling
  | secondWind
  | actionSurge
  | wizardSpellcasting
  | arcaneRecovery
  | evocationTradition
  | sculptSpells
  deriving DecidableEq

inductive EquipmentId where
  | simpleWeapons
  | longsword
  | lightCrossbow
  | shield
  | chainMail
  | leatherArmor
  | explorersPack
  | scholarsPack
  | spellbook
  | arcaneFocus
  deriving DecidableEq

inductive ActionCapability where
  | attack
  | castSupportedSpell
  | dash
  | disengage
  | dodge
  | help
  | hide
  | ready
  | search
  | useObject
  | secondWind
  | actionSurge
  deriving DecidableEq

/-! ## Refusals -/

inductive UnsupportedMechanicCode where
  | outsideMvpMatrix
  | notAvailableForHero
  | dormantFeature
  deriving DecidableEq

structure AuthoredAlternative where
  action : ActionCapability
  label : String
  deriving DecidableEq

/-- A structured refusal of a mechanic outside the supported matrix, with what the caller may do instead. -/
structure UnsupportedMechanic where
  schemaVersion : Nat
  code : UnsupportedMechanicCode
  requestedId : String
  alternatives : List AuthoredAlternative
  deriving DecidableEq

def heroUnsupportedSchemaVersion : Nat := 1

end ManchesterArcana
