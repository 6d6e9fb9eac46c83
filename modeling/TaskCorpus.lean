import TaskCorpus.Main
import TaskCorpus.Proofs.Action.NormalForm
import TaskCorpus.Proofs.CommandLine.Agreement
import TaskCorpus.Proofs.CommandLine.Launched
import TaskCorpus.Proofs.Corpus.AllOrNothing
import TaskCorpus.Proofs.Corpus.Footprint
import TaskCorpus.Proofs.Corpus.Fresh
import TaskCorpus.Proofs.Corpus.MirroredRun
import TaskCorpus.Proofs.Corpus.Rejected
import TaskCorpus.Proofs.Corpus.Rerun
import TaskCorpus.Proofs.Launch.Keys
import TaskCorpus.Proofs.Launch.Layers
import TaskCorpus.Proofs.Launch.Literal
import TaskCorpus.Proofs.Launch.Rendered
import TaskCorpus.Proofs.Launch.Shown
import TaskCorpus.Proofs.List.Split
import TaskCorpus.Proofs.Path.Home
import TaskCorpus.Proofs.Record.GroundTruth
import TaskCorpus.Proofs.Record.Outcome
import TaskCorpus.Proofs.Record.Strict
import TaskCorpus.Proofs.Rollout.ClassNames
import TaskCorpus.Proofs.Selection.Composed
import TaskCorpus.Proofs.Selection.Listed
import TaskCorpus.Proofs.Selection.Repeated
import TaskCorpus.Proofs.Selection.Selected
import TaskCorpus.Proofs.Table.Correspondence
import TaskCorpus.Proofs.Table.Outcome
import TaskCorpus.Proofs.Table.Rearranged
import TaskCorpus.Proofs.Task.Usable
import TaskCorpus.Proofs.TaskFile.RoundTrip
import TaskCorpus.Proofs.Tool.Accepted
import TaskCorpus.Proofs.Tool.Conformance
import TaskCorpus.Proofs.Tool.FirstFlaw
import TaskCorpus.Proofs.Tool.Registered
import TaskCorpus.Proofs.Tool.RoundTrip
