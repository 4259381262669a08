import OnnxCorpus.Main
import OnnxCorpus.Proofs.Batch.Accounts
import OnnxCorpus.Proofs.Batch.Cancellation
import OnnxCorpus.Proofs.Batch.Ownership
import OnnxCorpus.Proofs.Batch.Parallel
import OnnxCorpus.Proofs.Batch.Parts
import OnnxCorpus.Proofs.Batch.Progress
import OnnxCorpus.Proofs.Batch.Saves
import OnnxCorpus.Proofs.Batch.Serial
import OnnxCorpus.Proofs.Batch.Sessions
import OnnxCorpus.Proofs.Batch.Steps
import OnnxCorpus.Proofs.Catalogue
import OnnxCorpus.Proofs.Catalogue.Indexed
import OnnxCorpus.Proofs.Catalogue.Registrations
import OnnxCorpus.Proofs.CommandLine.Inspect
import OnnxCorpus.Proofs.Fallible
import OnnxCorpus.Proofs.Files.AllOrNothing
import OnnxCorpus.Proofs.Files.Read
import OnnxCorpus.Proofs.Files.Save
import OnnxCorpus.Proofs.Files.Written
import OnnxCorpus.Proofs.Format.Contents
import OnnxCorpus.Proofs.Format.Crash
import OnnxCorpus.Proofs.Format.Cut
import OnnxCorpus.Proofs.Format.Described
import OnnxCorpus.Proofs.Format.FirstFlaw
import OnnxCorpus.Proofs.Format.Gaps
import OnnxCorpus.Proofs.Format.Injective
import OnnxCorpus.Proofs.Format.Layout
import OnnxCorpus.Proofs.Format.Loaded
import OnnxCorpus.Proofs.Format.ReadBack
import OnnxCorpus.Proofs.Format.Recursion
import OnnxCorpus.Proofs.Format.RoundTrip
import OnnxCorpus.Proofs.Graph.Bodies
import OnnxCorpus.Proofs.Scope.FirstDefect
import OnnxCorpus.Proofs.Scope.Shadowing
import OnnxCorpus.Proofs.Scope.WellScoped
import OnnxCorpus.Proofs.Table
import OnnxCorpus.Proofs.Tensor.Construction
import OnnxCorpus.Proofs.Tensor.Product
import OnnxCorpus.Proofs.Text.Utf8
import OnnxCorpus.Proofs.Wire.Cut
import OnnxCorpus.Proofs.Wire.ReadBack
import OnnxCorpus.Proofs.Wire.Unambiguous
import OnnxCorpus.Proofs.Scope.Exchange
import OnnxCorpus.Proofs.Format.Attributes
import OnnxCorpus.Proofs.Catalogue.PathNames
import OnnxCorpus.Proofs.Catalogue.Bulk
import OnnxCorpus.Proofs.Files.Directories
import OnnxCorpus.Proofs.Corpus
import OnnxCorpus.Proofs.CommandLine.Arguments
import OnnxCorpus.Proofs.CommandLine.OutputDirectory
import OnnxCorpus.Proofs.CommandLine.Generation
import OnnxCorpus.Proofs.CommandLine.WholeCorpus
