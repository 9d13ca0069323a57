import TowerOfHanoi.Listing
import TowerOfHanoi.Main
import TowerOfHanoi.Proofs.Legality
import TowerOfHanoi.Proofs.Arrangement
import TowerOfHanoi.Proofs.Log.Page
import TowerOfHanoi.Proofs.Optimality
import TowerOfHanoi.Proofs.Stream.Archive
import TowerOfHanoi.Proofs.Log.Session
import TowerOfHanoi.Proofs.Log.Reader
import TowerOfHanoi.Proofs.Stream.Transcript
import TowerOfHanoi.Proofs.Log.Faults
import TowerOfHanoi.Proofs.Stream.Room
import TowerOfHanoi.Proofs.Log.Truncation
import TowerOfHanoi.Proofs.Text.Words
import TowerOfHanoi.Proofs.Input.Reading
import TowerOfHanoi.Proofs.Json.Reading
import TowerOfHanoi.Proofs.Json.RoundTrip
import TowerOfHanoi.Proofs.Input.Labels
import TowerOfHanoi.Proofs.Report
import TowerOfHanoi.Proofs.Observation
import TowerOfHanoi.Proofs.Log.Success
import TowerOfHanoi.Proofs.CommandLine.Ending
import TowerOfHanoi.Proofs.Position
import TowerOfHanoi.Proofs.Lifts
import TowerOfHanoi.Proofs.Input.DiskCount
import TowerOfHanoi.Proofs.Input.Delivery
import TowerOfHanoi.Proofs.CommandLine.Routes
import TowerOfHanoi.Proofs.CommandLine.Outcome
import TowerOfHanoi.Proofs.Listing
import TowerOfHanoi.Proofs.Counting
import TowerOfHanoi.Proofs.Notices
import TowerOfHanoi.Proofs.Reversal
import TowerOfHanoi.Proofs.Log.Layout
import TowerOfHanoi.Proofs.Relabelling
