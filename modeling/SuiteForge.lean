import SuiteForge.Contract.Same
import SuiteForge.Log.Message
import SuiteForge.Main
import SuiteForge.Proofs.Archive.Confinement
import SuiteForge.Proofs.Archive.RoundTrip
import SuiteForge.Proofs.Contract.Dump
import SuiteForge.Proofs.Document.Pointers
import SuiteForge.Proofs.Inline.Again
import SuiteForge.Proofs.Inline.Cycles
import SuiteForge.Proofs.Inline.Size
import SuiteForge.Proofs.Java.Captures
import SuiteForge.Proofs.Java.TestClasses
import SuiteForge.Proofs.Pipeline
import SuiteForge.Proofs.Suite.Containment
import SuiteForge.Proofs.Suite.Layout
import SuiteForge.Proofs.Suite.Packages
import SuiteForge.Proofs.Suite.Validation
import SuiteForge.Proofs.Template.Callers
import SuiteForge.Proofs.Translate.Containment
import SuiteForge.Proofs.Translate.NullTypes
import SuiteForge.Proofs.Translate.Order
import SuiteForge.Proofs.Translate.Parameters
import SuiteForge.Proofs.Translate.SchemaTypes
import SuiteForge.Template.Source
