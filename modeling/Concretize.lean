import Concretize.Console
import Concretize.Expansion
import Concretize.Generation
import Concretize.Proofs.Pass
import Concretize.Proofs.QualifiedName
import Concretize.Proofs.Realization
import Concretize.Proofs.KeepRules
import Concretize.Proofs.Decoding
import Concretize.Proofs.Manifest
import Concretize.Proofs.Path
import Concretize.Proofs.Storage
import Concretize.Proofs.Output
import Concretize.Proofs.Dependencies
import Concretize.Proofs.Report
import Concretize.Proofs.Naming
import Concretize.Proofs.Sibling
import Concretize.Proofs.Generation
import Concretize.Proofs.Retention
import Concretize.Proofs.Accounts
import Concretize.Proofs.Simulation
import Concretize.Proofs.Isolation
import Concretize.Proofs.Parent
import Concretize.Proofs.Growth
import Concretize.Proofs.Climb
import Concretize.Proofs.Rewriting
import Concretize.Proofs.Repetition
import Concretize.Proofs.Schedule
import Concretize.Proofs.Expansion
import Concretize.Proofs.Rereading
import Concretize.Proofs.Acceptance
import Concretize.Proofs.Paving
import Concretize.Proofs.Laying
import Concretize.Proofs.Permutation
import Concretize.Proofs.Capital
import Concretize.Proofs.Placement
import Concretize.Proofs.Confinement
import Concretize.Proofs.Requests
import Concretize.Proofs.Grouping
import Concretize.Proofs.Reordering
import Concretize.Proofs.Payload
import Concretize.Proofs.Lexing
import Concretize.Proofs.Identifiers
import Concretize.Proofs.Leaf
import Concretize.Proofs.Spelling
import Concretize.Proofs.Literals
import Concretize.Proofs.Strings
import Concretize.Proofs.Soundness
import Concretize.Proofs.AttributeText
import Concretize.Proofs.Attributes
import Concretize.Proofs.ParameterNames
import Concretize.Proofs.Editing
import Concretize.Proofs.EditedManifest
import Concretize.Proofs.Arguments
import Concretize.Proofs.SettingsFile
import Concretize.Proofs.TypeText
import Concretize.Proofs.Console
