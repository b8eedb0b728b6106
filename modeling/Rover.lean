import Rover.CommandLine.Run
import Rover.Fleet
import Rover.Main
import Rover.Pattern.Written
import Rover.Proofs.BuiltInTokens
import Rover.Proofs.Change
import Rover.Proofs.Checking
import Rover.Proofs.Crashes
import Rover.Proofs.Cutting
import Rover.Proofs.Driving
import Rover.Proofs.Ending
import Rover.Proofs.Footprint
import Rover.Proofs.Grammar
import Rover.Proofs.IgnoringCase
import Rover.Proofs.Interleaving
import Rover.Proofs.Isolation
import Rover.Proofs.Joining
import Rover.Proofs.Judging
import Rover.Proofs.Lookups
import Rover.Proofs.Normalising
import Rover.Proofs.Pausing
import Rover.Proofs.PitBlocks
import Rover.Proofs.PitHistory
import Rover.Proofs.Portions
import Rover.Proofs.Programs
import Rover.Proofs.ReadFailure
import Rover.Proofs.Reading
import Rover.Proofs.Redeployment
import Rover.Proofs.Renderings
import Rover.Proofs.Repeating
import Rover.Proofs.Report
import Rover.Proofs.Robustness
import Rover.Proofs.Segments
import Rover.Proofs.SharedColours
import Rover.Proofs.Sightings
import Rover.Proofs.Skipping
import Rover.Proofs.Splitting
import Rover.Proofs.Symmetry
import Rover.Proofs.Tracing
import Rover.Proofs.Turning
import Rover.Proofs.Unreadable
import Rover.Proofs.Utf8
import Rover.Proofs.Walking
import Rover.Proofs.WiderZone
