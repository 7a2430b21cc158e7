import DocumentStore.Main
import DocumentStore.Rule.Stock
import DocumentStore.Proofs.Entry
import DocumentStore.Proofs.Gate
import DocumentStore.Proofs.Writes
import DocumentStore.Proofs.WritePolicy
import DocumentStore.Proofs.Document
import DocumentStore.Proofs.Override
import DocumentStore.Proofs.Join
import DocumentStore.Proofs.ReadPolicy
import DocumentStore.Proofs.FailedWrites
import DocumentStore.Proofs.SystemFields
import DocumentStore.Proofs.OwnersOnly
import DocumentStore.Proofs.ErrorResponses
import DocumentStore.Proofs.PlainRules
import DocumentStore.Proofs.Without
import DocumentStore.Proofs.TwoReads
import DocumentStore.Proofs.PasswordHash
import DocumentStore.Proofs.HiddenField
import DocumentStore.Proofs.Effect
import DocumentStore.Proofs.QueryFaults
import DocumentStore.Proofs.Refusals
import DocumentStore.Proofs.ListReads
import DocumentStore.Proofs.SessionLife
import DocumentStore.Proofs.Identities
import DocumentStore.Proofs.Login
import DocumentStore.Proofs.Listing
import DocumentStore.Proofs.OrderedMap
import DocumentStore.Proofs.TreePaths
import DocumentStore.Proofs.Literals
import DocumentStore.Proofs.SortOrder
import DocumentStore.Proofs.Pages
import DocumentStore.Proofs.Distinct
import DocumentStore.Proofs.Membership
import DocumentStore.Proofs.FilterTexts
import DocumentStore.Proofs.PageBounds
import DocumentStore.Proofs.Counts
import DocumentStore.Proofs.HashChecks
import DocumentStore.Proofs.Updates
import DocumentStore.Proofs.Negation
import DocumentStore.Proofs.LogLines
import DocumentStore.Proofs.ComponentNames
import DocumentStore.Proofs.FreshIds
import DocumentStore.Proofs.Drafts
