import RowQuery.Main
import RowQuery.Filter.Number
import RowQuery.Proofs.Command.Format
import RowQuery.Proofs.Command.Document
import RowQuery.Proofs.Order.Obstacle
import RowQuery.Proofs.Order.Canonical
import RowQuery.Proofs.Parse.Consumption
import RowQuery.Proofs.Filter.Limit
import RowQuery.Proofs.Filter.ViablePrefix
import RowQuery.Proofs.Filter.Composition
import RowQuery.Proofs.Filter.Groups
import RowQuery.Proofs.Token.Partition
import RowQuery.Proofs.Filter.Relabel
import RowQuery.Proofs.Order.Relabel
import RowQuery.Proofs.Parse.CaseFold
import RowQuery.Proofs.Filter.Conditions
import RowQuery.Proofs.Filter.NullMarker
import RowQuery.Proofs.Vocabulary.History
import RowQuery.Proofs.Vocabulary.Inert
import RowQuery.Proofs.Vocabulary.Choice
import RowQuery.Proofs.Vocabulary.Document
import RowQuery.Proofs.Vocabulary.Extension
import RowQuery.Proofs.Print.Requirement
import RowQuery.Proofs.Print.Value
import RowQuery.Proofs.Token.Closing
