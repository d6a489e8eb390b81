import ManchesterArcana.Core.Notation
import ManchesterArcana.Core.Records
import ManchesterArcana.Repository.Readback
import ManchesterArcana.Repository.Erasure
import ManchesterArcana.Repository.ActionPoints
import ManchesterArcana.Repository.Pins
import ManchesterArcana.Persistence.SlidingExpiry
import ManchesterArcana.Persistence.Throttle
import ManchesterArcana.Persistence.EmailCrypto
import ManchesterArcana.Campaign.MembershipLaws
import ManchesterArcana.Inspiration.History
import ManchesterArcana.Inspiration.Deletion
import ManchesterArcana.Generation.Atomicity
import ManchesterArcana.TypedGm.Budget
import ManchesterArcana.Rules.ConditionChanges
import ManchesterArcana.Rules.Movement
import ManchesterArcana.Rules.Expiry
import ManchesterArcana.Rules.SleepTargets
import ManchesterArcana.Rules.Exploration
import ManchesterArcana.Rules.Inventory
import ManchesterArcana.Hero.Creation
import ManchesterArcana.Hero.Synchronization
import ManchesterArcana.Hero.AuditTrail
import ManchesterArcana.Encounter.Ledger
import ManchesterArcana.Encounter.Policy
import ManchesterArcana.Encounter.Handling
import ManchesterArcana.Encounter.Rounds
import ManchesterArcana.Encounter.Wounds
import ManchesterArcana.Application.ExactlyOnce
import ManchesterArcana.Application.Evidence
import ManchesterArcana.Generation.Charging
import ManchesterArcana.Generation.Scan
import ManchesterArcana.Events.Selection
import ManchesterArcana.Events.Stability
import ManchesterArcana.Events.Partition
