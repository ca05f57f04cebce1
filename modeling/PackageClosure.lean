import PackageClosure.Main
import PackageClosure.Proofs.Resolution.Completion
import PackageClosure.Storage.Memory
import PackageClosure.Proofs.Resolution.Dependence
import PackageClosure.Proofs.Resolution.Frame
import PackageClosure.Proofs.Resolution.Closure
import PackageClosure.Proofs.Address.Absorption
import PackageClosure.Proofs.Graph.Arcs
import PackageClosure.Proofs.Resolution.Addresses
import PackageClosure.Proofs.Resolution.Faithful
import PackageClosure.Proofs.Resolution.Repetition
import PackageClosure.Proofs.Resolution.Failure
import PackageClosure.Proofs.Fetch.Substitution
import PackageClosure.Proofs.Build.Overlap
import PackageClosure.Proofs.GitCache.Service
import PackageClosure.Proofs.Build.Arguments
import PackageClosure.Proofs.Resolution.Inlining
import PackageClosure.Proofs.Resolution.Composition
import PackageClosure.Proofs.GitCache.Safety
import PackageClosure.Proofs.GitCache.Parallel
import PackageClosure.Proofs.Resolution.Descent
import PackageClosure.Proofs.Manifest.RoundTrip
import PackageClosure.Proofs.Manifest.Respelling
import PackageClosure.Proofs.Resolution.Locality
import PackageClosure.Proofs.Resolution.Spelling
import PackageClosure.Proofs.Resolution.Whereabouts
import PackageClosure.Proofs.Resolution.Continuation
import PackageClosure.Proofs.Storage.Additions
import PackageClosure.Proofs.Compiler.Leftovers
import PackageClosure.Proofs.Build.Accessible
import PackageClosure.Proofs.Path.Canonical
import PackageClosure.Proofs.Text.ByteOrder
import PackageClosure.Proofs.Storage.Views
import PackageClosure.Proofs.Sources.Listing
import PackageClosure.Proofs.Fetch.Calls
import PackageClosure.Proofs.Text.Pairs
import PackageClosure.Proofs.Resolution.Turns
import PackageClosure.Proofs.Sources.Linked
