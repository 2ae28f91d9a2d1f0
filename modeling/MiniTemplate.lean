import MiniTemplate.Json.Writer
import MiniTemplate.Main
import MiniTemplate.Proofs.Descent
import MiniTemplate.Proofs.Expansion
import MiniTemplate.Proofs.Nesting
import MiniTemplate.Proofs.Stateless
import MiniTemplate.Proofs.TreeGraph
import MiniTemplate.Proofs.Refinement
import MiniTemplate.Proofs.Loaded
import MiniTemplate.Proofs.Forest
import MiniTemplate.Proofs.TagReader
import MiniTemplate.Proofs.Rendered
import MiniTemplate.Proofs.Writable
import MiniTemplate.Proofs.Escaped
import MiniTemplate.Proofs.ReadBack
import MiniTemplate.Proofs.DiskTree
import MiniTemplate.Proofs.DocumentPaths
import MiniTemplate.Proofs.CodePoints
import MiniTemplate.Proofs.Batch
import MiniTemplate.Proofs.CleanBuild
import MiniTemplate.Proofs.BuildAgain
import MiniTemplate.Proofs.SourcesKept
import MiniTemplate.Proofs.EndAlike
import MiniTemplate.Proofs.RenderedAgain
import MiniTemplate.Proofs.LabelFaults
import MiniTemplate.Proofs.FailingDocuments
import MiniTemplate.Proofs.BracketNesting
import MiniTemplate.Proofs.DocumentGrammar
import MiniTemplate.Proofs.Correspondence
import MiniTemplate.Proofs.Footprint
import MiniTemplate.Proofs.Identity
import MiniTemplate.Proofs.Visible
import MiniTemplate.Proofs.RenderedPass
import MiniTemplate.Proofs.GuardChains
import MiniTemplate.Proofs.HandleReader
import MiniTemplate.Proofs.Unbracketed
import MiniTemplate.Proofs.Lookups
import MiniTemplate.Proofs.Handles
import MiniTemplate.Proofs.RenderedAlike
import MiniTemplate.Proofs.StyleObjects
import MiniTemplate.Proofs.DocumentPositions
import MiniTemplate.Proofs.LoadedAlone
import MiniTemplate.Proofs.WithinLimits
import MiniTemplate.Proofs.RenderedFiles
import MiniTemplate.Proofs.LoadingStep
import MiniTemplate.Proofs.FirstFault
import MiniTemplate.Proofs.StandingNodes
import MiniTemplate.Proofs.TreeReferences
import MiniTemplate.Proofs.Conservation
import MiniTemplate.Proofs.PrunedDocuments
import MiniTemplate.Proofs.TextParts
import MiniTemplate.Proofs.ListenerNames
import MiniTemplate.Proofs.Diagnostics
