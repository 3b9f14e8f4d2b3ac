import DirectoryClient.Control.Registry
import DirectoryClient.Health.Builtin
import DirectoryClient.Health.Recording
import DirectoryClient.Options.File
import DirectoryClient.Session.Step
import DirectoryClient.Tlv.Tree
import DirectoryClient.Proofs.Control.List
import DirectoryClient.Proofs.Control.PasswordPolicy
import DirectoryClient.Proofs.Control.Typed
import DirectoryClient.Proofs.Engine.Aftermath
import DirectoryClient.Proofs.Engine.Cleanup
import DirectoryClient.Proofs.Engine.Deadline
import DirectoryClient.Proofs.Engine.Firing
import DirectoryClient.Proofs.Engine.History
import DirectoryClient.Proofs.Engine.Visit
import DirectoryClient.Proofs.Health.Chain
import DirectoryClient.Proofs.Health.Leaves
import DirectoryClient.Proofs.Session.Agenda
import DirectoryClient.Proofs.Session.Cleanup
import DirectoryClient.Proofs.Session.Correlation
import DirectoryClient.Proofs.Session.Deadline
import DirectoryClient.Proofs.Session.Lifetime
import DirectoryClient.Proofs.Session.Pending
import DirectoryClient.Proofs.Session.Resolution
import DirectoryClient.Proofs.Session.Waiting
import DirectoryClient.Proofs.Tlv.Element
import DirectoryClient.Proofs.Tlv.RoundTrip
import DirectoryClient.Proofs.Tlv.Tree
import DirectoryClient.Proofs.Engine.Probing
import DirectoryClient.Proofs.Engine.Transmission
import DirectoryClient.Proofs.Session.Submission
import DirectoryClient.Proofs.Session.Probing
import DirectoryClient.Proofs.Engine.Refusal
import DirectoryClient.Proofs.Session.Refusal
import DirectoryClient.Proofs.Engine.Telling
import DirectoryClient.Proofs.Session.Late
import DirectoryClient.Proofs.Engine.Counting
import DirectoryClient.Proofs.Engine.Early
import DirectoryClient.Proofs.Session.Early
import DirectoryClient.Proofs.Session.Nesting
import DirectoryClient.Proofs.Session.Failure
import DirectoryClient.Proofs.Session.Commuting
import DirectoryClient.Proofs.Session.Counting
import DirectoryClient.Proofs.Tlv.Spelling
import DirectoryClient.Proofs.Tlv.Extension
import DirectoryClient.Proofs.Tlv.Siblings
import DirectoryClient.Proofs.Tlv.Canonical
import DirectoryClient.Proofs.Control.Envelope
import DirectoryClient.Proofs.Control.Canonical
import DirectoryClient.Proofs.Tlv.Payload
import DirectoryClient.Proofs.Control.Language
import DirectoryClient.Proofs.Tlv.Shortest
import DirectoryClient.Proofs.Control.Upgrade
import DirectoryClient.Proofs.Control.Fault
import DirectoryClient.Proofs.Options.Setting
import DirectoryClient.Proofs.Health.Verdict
import DirectoryClient.Proofs.Control.Warning
import DirectoryClient.Proofs.Control.Registration
import DirectoryClient.Tlv.InPlace
import DirectoryClient.Proofs.Tlv.SignExtension
import DirectoryClient.Proofs.Tlv.Word
import DirectoryClient.Proofs.Tlv.Bounds
