import ChartData.Proofs.RowIndex
import ChartData.Query.BuildStep
import ChartData.Query.Check
import ChartData.Query.Data
import ChartData.Query.Statement
import ChartData.Series.Dense
import ChartData.Settings.File
import ChartData.Proofs.ConditionData
import ChartData.Proofs.QueryData
import ChartData.Proofs.WhereMeaning
import ChartData.Proofs.BoundParameters
import ChartData.Proofs.CheckedTexts
import ChartData.Proofs.WovenText
import ChartData.Proofs.TextShape
import ChartData.Proofs.DatasetRestriction
import ChartData.Proofs.MalformedRows
import ChartData.Proofs.QueryText
import ChartData.Proofs.SettingsText
import ChartData.Proofs.RowForms
import ChartData.Proofs.OpenRanges
import ChartData.Proofs.BoundLimits
import ChartData.Proofs.BuildRuns
import ChartData.Proofs.ProperQueries
import ChartData.Proofs.BuiltQueries
import ChartData.Proofs.ZeroSigns
import ChartData.Proofs.EqualQueries
import ChartData.Proofs.BareDates
import ChartData.Proofs.TimestampText
import ChartData.Proofs.DenseRows
import ChartData.Proofs.WrittenConditions
import ChartData.Proofs.GroupedFilters
import ChartData.Proofs.WholeWords
import ChartData.Proofs.DottedNames
import ChartData.Proofs.TextOrder
import ChartData.Proofs.UnitLabels
import ChartData.Proofs.ChartGaps
import ChartData.Proofs.SettledSettings
import ChartData.Proofs.UnitPhases
import ChartData.Proofs.LiteralKinds
