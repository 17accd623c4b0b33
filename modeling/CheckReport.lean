import CheckReport.Main
import CheckReport.Proofs.CommandLine.Sequence
import CheckReport.Proofs.CommandLine.Unstarted
import CheckReport.Proofs.Diagnosis.Offence
import CheckReport.Proofs.Diagnosis.Written
import CheckReport.Proofs.Path.Uri
import CheckReport.Proofs.Report.Clean
import CheckReport.Proofs.Report.Columns
import CheckReport.Proofs.Report.Links
import CheckReport.Proofs.Report.Place
import CheckReport.Proofs.Report.Printable
import CheckReport.Proofs.Server.Series
import CheckReport.Proofs.Session.Log
import CheckReport.Proofs.Session.Message
import CheckReport.Proofs.Settings.Reading
