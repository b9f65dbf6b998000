import Launchpad.Main
import Launchpad.Proofs.Arguments.Placement
import Launchpad.Proofs.Arguments.Sizing
import Launchpad.Proofs.Launch.Shell
import Launchpad.Proofs.Path.Names
import Launchpad.Proofs.Arguments.Classpath
import Launchpad.Proofs.Launch.Jars
import Launchpad.Proofs.Actions
import Launchpad.Proofs.Copy.Coherence
import Launchpad.Proofs.Copy.Current
import Launchpad.Proofs.Gate.Runs
import Launchpad.Proofs.Launch.Boundary
import Launchpad.Proofs.Copy.Unresolved
import Launchpad.Proofs.Children
import Launchpad.Proofs.CommandLine.Status
import Launchpad.Proofs.Launch.Once
import Launchpad.Proofs.Launch.Deployment
import Launchpad.Proofs.Copy.Remains
import Launchpad.Proofs.Gate.Fetches
import Launchpad.Proofs.Arguments.Refusal
import Launchpad.Proofs.Arguments.Repartition
import Launchpad.Proofs.Arguments.DoubleDash
import Launchpad.Proofs.Launch.Deployable
import Launchpad.Proofs.FileSystem.Inside
import Launchpad.Proofs.Copy.Extraction
import Launchpad.Proofs.FileSystem.Along
import Launchpad.Proofs.Tar.Files
import Launchpad.Proofs.Tar.Unpacking
import Launchpad.Proofs.Copy.LastWritten
import Launchpad.Proofs.Arguments.LastTaken
import Launchpad.Proofs.Launch.Opaque
import Launchpad.Proofs.Launch.Display
import Launchpad.Proofs.FileSystem.Listing
import Launchpad.Proofs.Launch.SmokeTests
import Launchpad.Proofs.Config.Candidates
import Launchpad.Proofs.Copy.Freshness
import Launchpad.Proofs.Config.Overlay
import Launchpad.Proofs.Config.Location
import Launchpad.Proofs.Arguments.Entries
import Launchpad.Proofs.CommandLine.Forwarding
