import SprayWatch.Main
import SprayWatch.Proofs.ConfigTimes
import SprayWatch.Proofs.FileWaits
import SprayWatch.Proofs.InterleavingOutcomes
import SprayWatch.Proofs.JobCommands
import SprayWatch.Proofs.Passwords
import SprayWatch.Proofs.PoolSettling
import SprayWatch.Proofs.Removals
import SprayWatch.Proofs.SupervisionDelays
import SprayWatch.Rehearsal
import SprayWatch.StopSignals
import SprayWatch.Proofs.Thresholds
import SprayWatch.Proofs.DeletionLines
import SprayWatch.Proofs.ExitCodes
import SprayWatch.Proofs.LetterCase
import SprayWatch.Proofs.StatusKeys
import SprayWatch.Proofs.ArgumentKeys
import SprayWatch.Proofs.CommandArguments
import SprayWatch.Proofs.JobSeparation
import SprayWatch.Proofs.ListingAgreement
import SprayWatch.Proofs.FileMasks
import SprayWatch.Proofs.ListingResults
import SprayWatch.Proofs.CharacterReading
import SprayWatch.Proofs.GrowingWaits
import SprayWatch.Proofs.PrintedRecords
import SprayWatch.Proofs.SubmittedJobs
import SprayWatch.Proofs.OutputLines
import SprayWatch.Proofs.SignalFamilies
import SprayWatch.Proofs.ProgressOutlines
