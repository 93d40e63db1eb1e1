import ReportPlan.Main
import ReportPlan.Proofs.Lexicon.Merging
import ReportPlan.Proofs.Matching.Finding
import ReportPlan.Proofs.Period.Tiling
import ReportPlan.Proofs.Report.Decoding
import ReportPlan.Proofs.Report.Refinement
import ReportPlan.Proofs.Report.Configured
import ReportPlan.Proofs.Shape.Limit
import ReportPlan.Proofs.Threshold.Wording
import ReportPlan.Proofs.Report.Triggers
import ReportPlan.Proofs.Report.Dependence
import ReportPlan.Proofs.Report.Reordering
import ReportPlan.Proofs.Report.SharedNumerals
import ReportPlan.Proofs.CommandLine.Acceptance
import ReportPlan.Proofs.CommandLine.Precedence
import ReportPlan.Proofs.Lexicon.Faults
import ReportPlan.Proofs.Threshold.Magnitude
import ReportPlan.Proofs.Matching.Hiding
import ReportPlan.Proofs.Period.Current
import ReportPlan.Proofs.Report.WindowLabels
import ReportPlan.Proofs.Threshold.Cut
import ReportPlan.Proofs.Period.DayCount
import ReportPlan.Proofs.Shape.Counts
import ReportPlan.Proofs.Shape.Columns
import ReportPlan.Proofs.Text.Canonical
import ReportPlan.Proofs.Matching.Spans
import ReportPlan.Proofs.Saved.Cleaning
import ReportPlan.Proofs.Report.SummaryLine
