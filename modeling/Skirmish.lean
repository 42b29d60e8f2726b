import Skirmish.Codec.Combat
import Skirmish.Codec.Report
import Skirmish.Codec.Setup
import Skirmish.Combat.Ability
import Skirmish.Json.Writer
import Skirmish.Proofs.Aborts
import Skirmish.Proofs.Allowances
import Skirmish.Proofs.Chronicle
import Skirmish.Proofs.Crowding
import Skirmish.Proofs.Depletion
import Skirmish.Proofs.Durations
import Skirmish.Proofs.Echoes
import Skirmish.Proofs.Faces
import Skirmish.Proofs.Faults
import Skirmish.Proofs.Invocations
import Skirmish.Proofs.Landings
import Skirmish.Proofs.Lines
import Skirmish.Proofs.Losses
import Skirmish.Proofs.Prices
import Skirmish.Proofs.Reach
import Skirmish.Proofs.Refusals
import Skirmish.Proofs.Revivals
import Skirmish.Proofs.RoundTrips
import Skirmish.Proofs.Rounds
import Skirmish.Proofs.Shoves
import Skirmish.Proofs.Shuffles
import Skirmish.Proofs.Sparing
import Skirmish.Proofs.Standing
import Skirmish.Proofs.Tiers
import Skirmish.Proofs.Ties
import Skirmish.Proofs.Totals
import Skirmish.Rule.Standard
