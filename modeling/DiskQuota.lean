import DiskQuota.Benches
import DiskQuota.Proofs.Fsrm.Identifiers
import DiskQuota.Proofs.Fsrm.Reuse
import DiskQuota.Proofs.Fsrm.Values
import DiskQuota.Proofs.Recording.Volumes
import DiskQuota.Proofs.Scripted.Diagnosis
import DiskQuota.Proofs.Scripted.Independence
import DiskQuota.Proofs.Scripted.Log
import DiskQuota.Proofs.Scripted.Reads
import DiskQuota.Proofs.Settings.Partial
import DiskQuota.Proofs.Settings.RoundTrip
import DiskQuota.Proofs.Usage.RoundTrip
import DiskQuota.Proofs.Messages
import DiskQuota.Proofs.Json.Unsigned
import DiskQuota.Proofs.Usage.Strict
import DiskQuota.Proofs.Json.Lists
import DiskQuota.Proofs.Positions
